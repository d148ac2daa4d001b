import Dialogue.Proofs.Condition.Tree

/-! Whatever the reader takes off the front of the tokens writes a tree, and the value it found
on the way is the value of that tree. -/
namespace Dialogue.Condition
variable {scope : Scope}

/-- What the reading takes writes a tree of the rank. Unless the tree is passed over, its value
is the one that was read. -/
def Sound (scope : Scope) (rank : Rank) (read : Reading) : Prop :=
  ∀ skipping ts v rest, read skipping ts = .ok (v, rest) →
    ∃ us t, ts = us ++ rest ∧ Writes scope.root rank us t ∧
      (skipping = false → t.value scope.data = .ok v)

private theorem bind_ok {ε α β : Type} {x : Except ε α} {f : α → Except ε β} {b : β}
    (h : x >>= f = .ok b) : ∃ a, x = .ok a ∧ f a = .ok b := by
  cases x with
  | error e => cases h
  | ok a => exact ⟨a, rfl, h⟩

private theorem expect_ok {s : Sign} {ts rest : List Token} (h : expect s ts = .ok rest) :
    ts = .sign s :: rest := by
  unfold expect at h
  split at h
  · split at h
    · next hs => cases h; rw [hs]
    · cases h
  · cases h

private theorem steps_sound (skipping : Bool) (ts : List Token) (current v : Value)
    (rest : List Token) (h : steps skipping current ts = .ok (v, rest)) :
    ∃ us keys, ts = us ++ rest ∧ WritesSteps us keys ∧
      (skipping = false → keys.foldlM part current = .ok v) := by
  fun_induction steps skipping current ts with
  | case1 current s ts ih =>
    obtain ⟨next, hn, h⟩ := bind_ok h
    obtain ⟨us, keys, rfl, hw, hv⟩ := ih next h
    refine ⟨.sign .dot :: .name s :: us, .text s :: keys, rfl, .field s hw, ?_⟩
    rintro rfl
    have hp : part current (.text s) = .ok next := hn
    simp only [List.foldlM_cons, hp]
    exact hv rfl
  | case6 current w hnull hbool ts ih =>
    obtain ⟨next, hn, h⟩ := bind_ok h
    obtain ⟨us, keys, rfl, hw, hv⟩ := ih next h
    have hi : IsIndex w := by
      cases w with
      | null => exact hnull rfl
      | bool b => exact hbool b rfl
      | _ => trivial
    refine ⟨.sign .openIndex :: .literal w :: .sign .closeIndex :: us, w :: keys, rfl,
      .index hi hw, ?_⟩
    rintro rfl
    have hp : part current w = .ok next := hn
    simp only [List.foldlM_cons, hp]
    exact hv rfl
  | case10 => cases h; exact ⟨[], [], rfl, .nil, fun _ => rfl⟩
  | _ => cases h

private theorem operand_sound {group : Reading} (hg : Sound scope (.joined .either) group) :
    Sound scope .operand (operand scope group) := by
  intro skipping ts v rest h
  unfold operand at h
  split at h
  · cases h
  · next ts =>
    obtain ⟨⟨w, after⟩, hw, h⟩ := bind_ok h
    obtain ⟨after', he, h⟩ := bind_ok h
    cases h
    obtain ⟨us, t, rfl, ht, hv⟩ := hg _ _ _ _ hw
    rw [expect_ok he]
    exact ⟨.sign .openGroup :: us ++ [.sign .closeGroup], .group t, by simp, .group ht, hv⟩
  · cases h; exact ⟨[.literal _], .literal _, rfl, .literal _, fun _ => rfl⟩
  · next s ts =>
    split at h
    · next hs =>
      obtain ⟨us, keys, rfl, hw, hv⟩ := steps_sound _ _ _ _ _ h
      subst hs
      exact ⟨.name scope.root :: us, .path keys, rfl, .path hw, hv⟩
    · cases h
  · cases h

private theorem comparison_sound {operand : Reading} (ho : Sound scope .operand operand) :
    Sound scope .comparison (comparison operand) := by
  intro skipping ts v rest h
  obtain ⟨⟨x, after⟩, hx, hk⟩ := bind_ok h
  obtain ⟨us, a, rfl, ha, hav⟩ := ho _ _ _ _ hx
  dsimp only at hk
  split at hk
  · next c after =>
    obtain ⟨⟨y, after'⟩, hy, hl⟩ := bind_ok hk
    obtain ⟨ws, b, rfl, hb, hbv⟩ := ho _ _ _ _ hy
    cases skipping with
    | true =>
      cases hl
      exact ⟨us ++ .sign (.compare c) :: ws, .compare c a b, by simp, .compare c ha hb, nofun⟩
    | false =>
      obtain ⟨z, hz, hm⟩ := bind_ok hl
      cases hm
      refine ⟨us ++ .sign (.compare c) :: ws, .compare c a b, by simp, .compare c ha hb, ?_⟩
      intro _
      simp only [Tree.value, hav rfl, hbv rfl, bind, Except.bind, hz]
      rfl
  · cases hk; exact ⟨us, a, rfl, .alone ha, hav⟩

theorem joined_more (s : Sign) (decisive : Bool) (operand : Reading) (skipping : Bool) (fuel : Nat)
    (x : Value) (ts : List Token) :
    joined s decisive operand skipping (fuel + 1) x (.sign s :: ts) =
      if holds x = decisive then
        operand true ts >>= fun r => joined s decisive operand skipping fuel x r.2
      else
        operand skipping ts >>= fun r => joined s decisive operand skipping fuel r.1 r.2 := by
  rw [joined, if_pos rfl]

theorem joined_stop (s : Sign) (decisive : Bool) (operand : Reading) (skipping : Bool) (fuel : Nat)
    (x : Value) {ts : List Token} (h : ∀ us, ts ≠ .sign s :: us) :
    joined s decisive operand skipping fuel x ts = .ok (x, ts) := by
  unfold joined
  split
  · next t us => exact if_neg fun ht => h us (by rw [ht])
  · rfl

/-- The loop adds operands to a tree that was read already. -/
private theorem joined_sound (j : Joint) {operand : Reading} (ho : Sound scope j.below operand)
    (skipping : Bool) (fuel : Nat) {before ts rest : List Token} {a : Tree} {x v : Value}
    (ha : Writes scope.root (.joined j) before a)
    (hx : skipping = false → a.value scope.data = .ok x)
    (h : joined j.sign j.decisive operand skipping fuel x ts = .ok (v, rest)) :
    ∃ us t, ts = us ++ rest ∧ Writes scope.root (.joined j) (before ++ us) t ∧
      (skipping = false → t.value scope.data = .ok v) := by
  induction fuel generalizing before a x ts with
  | zero => cases h; exact ⟨[], a, rfl, by simpa using ha, hx⟩
  | succ fuel ih =>
    by_cases hs : ∃ us, ts = .sign j.sign :: us
    · obtain ⟨us, rfl⟩ := hs
      rw [joined_more] at h
      split at h
      · next hd =>
        obtain ⟨⟨y, after⟩, hy, hk⟩ := bind_ok h
        obtain ⟨us, b, rfl, hb, -⟩ := ho _ _ _ _ hy
        have hab : skipping = false → (Tree.join j a b).value scope.data = .ok x := by
          intro hsk
          simp only [Tree.value, hx hsk, bind, Except.bind, hd, if_true]
          rfl
        obtain ⟨ws, t, rfl, ht, hv⟩ := ih (.join j ha hb) hab hk
        exact ⟨.sign j.sign :: us ++ ws, t, by simp, by simpa using ht, hv⟩
      · next hd =>
        obtain ⟨⟨y, after⟩, hy, hk⟩ := bind_ok h
        obtain ⟨us, b, rfl, hb, hbv⟩ := ho _ _ _ _ hy
        have hab : skipping = false → (Tree.join j a b).value scope.data = .ok y := by
          intro hsk
          simp only [Tree.value, hx hsk, bind, Except.bind, if_neg hd]
          exact hbv hsk
        obtain ⟨ws, t, rfl, ht, hv⟩ := ih (.join j ha hb) hab hk
        exact ⟨.sign j.sign :: us ++ ws, t, by simp, by simpa using ht, hv⟩
    · rw [joined_stop _ _ _ _ _ _ fun us hus => hs ⟨us, hus⟩] at h
      cases h
      exact ⟨[], a, rfl, by simpa using ha, hx⟩

/-- An operand, then the loop over the operands that are joined to it. -/
def joining (j : Joint) (operand : Reading) : Reading := fun skipping ts => do
  let (a, ts) ← operand skipping ts
  joined j.sign j.decisive operand skipping ts.length a ts

theorem conjunction_eq (operand : Reading) : conjunction operand = joining .both operand := rfl

theorem disjunction_eq (operand : Reading) : disjunction operand = joining .either operand := rfl

private theorem joining_sound (j : Joint) {operand : Reading} (ho : Sound scope j.below operand) :
    Sound scope (.joined j) (joining j operand) := by
  intro skipping ts v rest h
  obtain ⟨⟨x, after⟩, hx, hk⟩ := bind_ok h
  obtain ⟨us, a, rfl, ha, hav⟩ := ho _ _ _ _ hx
  obtain ⟨ws, t, rfl, ht, hv⟩ := joined_sound j ho skipping _ (.single j ha) hav hk
  exact ⟨us ++ ws, t, by simp, ht, hv⟩

private theorem disjunction_sound {operand : Reading} (ho : Sound scope .negation operand) :
    Sound scope (.joined .either) (disjunction (conjunction operand)) := by
  rw [disjunction_eq, conjunction_eq]
  exact joining_sound .either (joining_sound .both ho)

private theorem negation_sound (depth : Nat) : Sound scope .negation (negation scope depth) := by
  induction depth with
  | zero => intro skipping ts v rest h; cases h
  | succ depth ih =>
    intro skipping ts v rest h
    unfold negation at h
    split at h
    · next ts =>
      obtain ⟨⟨x, after⟩, hx, h⟩ := bind_ok h
      cases h
      obtain ⟨us, t, rfl, ht, hv⟩ := ih _ _ _ _ hx
      refine ⟨.sign .opposite :: us, .opposite t, rfl, .opposite ht, ?_⟩
      intro hk
      simp only [Tree.value, hv hk, bind, Except.bind]
      rfl
    · obtain ⟨us, t, rfl, ht, hv⟩ :=
        comparison_sound (operand_sound (disjunction_sound ih)) _ _ _ _ h
      exact ⟨us, t, rfl, .plain ht, hv⟩

/-- Tokens that have a value write a tree that has this value. -/
theorem exists_tree_of_valueOf {ts : List Token} {v : Value} (h : valueOf scope ts = .ok v) :
    ∃ t, Expresses scope.root ts t ∧ t.value scope.data = .ok v := by
  obtain ⟨⟨x, rest⟩, hx, hk⟩ := bind_ok h
  obtain ⟨us, t, rfl, ht, hv⟩ := disjunction_sound (negation_sound depthLimit) _ _ _ _ hx
  cases rest with
  | nil => cases hk; exact ⟨t, by simpa using ht, hv rfl⟩
  | cons s rest => cases hk

end Dialogue.Condition
