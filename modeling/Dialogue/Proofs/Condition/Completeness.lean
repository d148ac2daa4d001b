import Dialogue.Proofs.Condition.Soundness

/-! Tokens that write a tree are read to their end, and reading them finds the value of the tree
or the problem that its value has. Nothing can go wrong inside an operand that is passed over. -/
namespace Dialogue.Condition
variable {scope : Scope}

/-- Whether a sign goes on with a path. -/
def Sign.steps (s : Sign) : Bool := s = .dot || s = .openIndex

def Sign.compares : Sign → Bool
  | compare _ => true
  | _ => false

/-- Whether a sign after a part of the rank belongs to the part. -/
def Rank.takesUp (r : Rank) (s : Sign) : Bool :=
  match r with
  | operand => s.steps
  | comparison => s.steps || s.compares
  | negation => s.steps || s.compares
  | joined .both => s.steps || s.compares || s = .both
  | joined .either => s.steps || s.compares || s = .both || s = .either

/-- The tokens that follow do not belong to a part of the rank. -/
def Stops (r : Rank) (rest : List Token) : Prop :=
  ∀ s ts, rest = .sign s :: ts → r.takesUp s = false

private theorem Stops.mono {r q : Rank} (hq : ∀ s, r.takesUp s = false → q.takesUp s = false)
    {rest : List Token} (h : Stops r rest) : Stops q rest :=
  fun s ts hs => hq s (h s ts hs)

private theorem stops_sign {r : Rank} {s : Sign} (h : r.takesUp s = false) (ts : List Token) :
    Stops r (.sign s :: ts) := by
  intro t us he
  cases he
  exact h

/-- What the reading of a part gives, with and without passing it over. -/
structure Agrees (scope : Scope) (read : Reading) (us : List Token) (t : Tree)
    (rest : List Token) : Prop where
  skipped : ∃ v, read true (us ++ rest) = .ok (v, rest)
  valued : read false (us ++ rest) = (t.value scope.data).map (·, rest)

/-- The reading of a part of any rank, with the given depth left for the groups in it. -/
def reading (scope : Scope) (depth : Nat) : Rank → Reading
  | .operand => operand scope (disjunction (conjunction (negation scope depth)))
  | .comparison => comparison (operand scope (disjunction (conjunction (negation scope depth))))
  | .negation => negation scope (depth + 1)
  | .joined .both => conjunction (negation scope (depth + 1))
  | .joined .either => disjunction (conjunction (negation scope (depth + 1)))

private theorem reading_joined (depth : Nat) (j : Joint) :
    reading scope depth (.joined j) = joining j (reading scope depth j.below) := by
  cases j <;> rfl

private theorem steps_agree {us : List Token} {keys : List Value} (h : WritesSteps us keys)
    {rest : List Token} (hr : Stops .operand rest) (current : Value) :
    (∃ v, steps true current (us ++ rest) = .ok (v, rest)) ∧
      steps false current (us ++ rest) = (keys.foldlM part current).map (·, rest) := by
  induction h generalizing current with
  | nil =>
    have hs (skipping : Bool) : steps skipping current rest = .ok (current, rest) := by
      unfold steps
      split
      case h_7 => rfl
      all_goals exact absurd (hr _ _ rfl) (by decide)
    exact ⟨⟨current, hs true⟩, hs false⟩
  | field s h ih =>
    refine ⟨?_, ?_⟩
    · obtain ⟨v, hv⟩ := (ih .null).1
      exact ⟨v, hv⟩
    · simp only [List.cons_append, steps, partUnless, List.foldlM_cons]
      cases part current (.text s) with
      | error p => rfl
      | ok next => exact (ih next).2
  | @index v hv ts keys h ih =>
    refine ⟨?_, ?_⟩
    · obtain ⟨w, hw⟩ := (ih .null).1
      refine ⟨w, ?_⟩
      cases v with
      | null => exact hv.elim
      | bool b => exact hv.elim
      | _ => exact hw
    · have hstep : steps false current
          (.sign .openIndex :: .literal v :: .sign .closeIndex :: ts ++ rest) =
            part current v >>= fun next => steps false next (ts ++ rest) := by
        cases v with
        | null => exact hv.elim
        | bool b => exact hv.elim
        | _ => rfl
      rw [hstep, List.foldlM_cons]
      cases part current v with
      | error p => rfl
      | ok next => exact (ih next).2

/-- The state of the loop over joined operands, when a tree was read and more may follow. -/
structure Reached (scope : Scope) (j : Joint) (operand : Reading) (us : List Token) (t : Tree)
    (rest : List Token) (fuel : Nat) : Prop where
  enough : rest.length ≤ fuel
  skipped : ∃ v, joining j operand true (us ++ rest) =
    joined j.sign j.decisive operand true fuel v rest
  valued : joining j operand false (us ++ rest) = t.value scope.data >>= fun v =>
    joined j.sign j.decisive operand false fuel v rest

private theorem reached_single (j : Joint) {operand : Reading} {us rest : List Token} {t : Tree}
    (h : Agrees scope operand us t rest) : Reached scope j operand us t rest rest.length := by
  refine ⟨Nat.le_refl _, ?_, ?_⟩
  · obtain ⟨v, hv⟩ := h.skipped
    refine ⟨v, ?_⟩
    rw [joining, hv]
    rfl
  · rw [joining, h.valued]
    cases t.value scope.data <;> rfl

private theorem reached_join (j : Joint) {operand : Reading} {us ws rest : List Token} {a b : Tree}
    {fuel : Nat} (ha : Reached scope j operand us a (.sign j.sign :: ws ++ rest) fuel)
    (hb : Agrees scope operand ws b rest) :
    ∃ fuel, Reached scope j operand (us ++ .sign j.sign :: ws) (.join j a b) rest fuel := by
  have hlen := ha.enough
  obtain ⟨fuel, rfl⟩ : ∃ n, fuel = n + 1 :=
    ⟨fuel - 1, by simp only [List.cons_append, List.length_cons] at hlen; omega⟩
  obtain ⟨w, hw⟩ := hb.skipped
  have happ : us ++ .sign j.sign :: ws ++ rest = us ++ (.sign j.sign :: ws ++ rest) := by simp
  refine ⟨fuel, ?_, ?_, ?_⟩
  · simp only [List.cons_append, List.length_cons, List.length_append] at hlen
    omega
  · obtain ⟨v, hv⟩ := ha.skipped
    rw [happ, hv, List.cons_append, joined_more, hw]
    split
    · exact ⟨v, rfl⟩
    · exact ⟨w, rfl⟩
  · rw [happ, ha.valued, Tree.value]
    cases a.value scope.data with
    | error p => rfl
    | ok x =>
      change joined j.sign j.decisive operand false (fuel + 1) x (.sign j.sign :: (ws ++ rest)) = _
      rw [joined_more, hw, hb.valued]
      by_cases hd : holds x = j.decisive
      · simp only [hd, if_true, bind, Except.bind]
        rfl
      · simp only [hd, if_false, bind, Except.bind]
        cases b.value scope.data <;> rfl

private theorem Reached.agrees {j : Joint} {operand : Reading} {us rest : List Token} {t : Tree}
    {fuel : Nat} (h : Reached scope j operand us t rest fuel)
    (hr : ∀ ts, rest ≠ .sign j.sign :: ts) : Agrees scope (joining j operand) us t rest := by
  refine ⟨?_, ?_⟩
  · obtain ⟨v, hv⟩ := h.skipped
    exact ⟨v, by rw [hv, joined_stop _ _ _ _ _ _ hr]⟩
  · rw [h.valued]
    cases t.value scope.data with
    | error p => rfl
    | ok v => exact joined_stop _ _ _ _ _ _ hr

/-- What is shown of a part by induction on the tokens that write it. A joined part may still be
followed by the sign that joins it to more. -/
private def Settled (scope : Scope) (depth : Nat) (us : List Token) (t : Tree) : Rank → Prop
  | .joined j => ∀ rest, Stops j.below rest →
      ∃ fuel, Reached scope j (reading scope depth j.below) us t rest fuel
  | r => ∀ rest, Stops r rest → Agrees scope (reading scope depth r) us t rest

private theorem joined_agrees {j : Joint} {depth : Nat} {us : List Token} {t : Tree}
    (h : Settled scope depth us t (.joined j)) {rest : List Token}
    (hr : Stops (.joined j) rest) :
    Agrees scope (reading scope depth (.joined j)) us t rest := by
  have hb : Stops j.below rest := hr.mono fun s hs => by
    cases j <;> simp_all [Rank.takesUp, Joint.below]
  obtain ⟨fuel, hf⟩ := h rest hb
  rw [reading_joined]
  apply hf.agrees
  intro ts he
  have := hr _ _ he
  cases j <;> simp [Rank.takesUp, Joint.sign] at this

private theorem below_agrees {j : Joint} {depth : Nat} {us : List Token} {t : Tree}
    (h : Settled scope depth us t j.below) {rest : List Token} (hr : Stops j.below rest) :
    Agrees scope (reading scope depth j.below) us t rest := by
  cases j with
  | both => exact h rest hr
  | either => exact joined_agrees h hr

private theorem group_agrees {group : Reading} {us : List Token} {t : Tree} {rest : List Token}
    (h : Agrees scope group us t (.sign .closeGroup :: rest)) :
    Agrees scope (operand scope group) (.sign .openGroup :: us ++ [.sign .closeGroup]) (.group t)
      rest := by
  have happ : .sign .openGroup :: us ++ [.sign .closeGroup] ++ rest =
      .sign .openGroup :: (us ++ .sign .closeGroup :: rest) := by simp
  refine ⟨?_, ?_⟩
  · obtain ⟨v, hv⟩ := h.skipped
    refine ⟨v, ?_⟩
    rw [happ, operand, hv]
    rfl
  · rw [happ, operand, h.valued, Tree.value]
    cases t.value scope.data <;> rfl

private theorem compare_agrees {operand : Reading} {us ws rest : List Token} {a b : Tree}
    (c : Comparator) (ha : Agrees scope operand us a (.sign (.compare c) :: ws ++ rest))
    (hb : Agrees scope operand ws b rest) :
    Agrees scope (comparison operand) (us ++ .sign (.compare c) :: ws) (.compare c a b) rest := by
  have happ : us ++ .sign (.compare c) :: ws ++ rest =
      us ++ (.sign (.compare c) :: ws ++ rest) := by simp
  refine ⟨⟨.null, ?_⟩, ?_⟩
  · obtain ⟨v, hv⟩ := ha.skipped
    obtain ⟨w, hw⟩ := hb.skipped
    rw [happ, comparison, hv]
    simp only [bind, Except.bind, List.cons_append, hw]
    rfl
  · rw [happ, comparison, ha.valued, Tree.value]
    cases a.value scope.data with
    | error p => rfl
    | ok x =>
      simp only [Except.map, bind, Except.bind, List.cons_append, hb.valued, Bool.false_eq_true,
        if_false]
      cases b.value scope.data with
      | error p => rfl
      | ok y =>
        cases hz : c.apply x y with
        | error p => simp only [hz]
        | ok z =>
          simp only [hz]
          rfl

private theorem comparison_alone {operand : Reading} {skipping : Bool} {ts rest : List Token}
    {x : Value} (h : operand skipping ts = .ok (x, rest)) (hr : Stops .comparison rest) :
    comparison operand skipping ts = .ok (x, rest) := by
  rw [comparison, h]
  simp only [bind, Except.bind]
  split
  · next c us => exact absurd (hr _ _ rfl) (by simp [Rank.takesUp, Sign.compares])
  · rfl

private theorem alone_agrees {operand : Reading} {us rest : List Token} {t : Tree}
    (h : Agrees scope operand us t rest) (hr : Stops .comparison rest) :
    Agrees scope (comparison operand) us t rest := by
  refine ⟨?_, ?_⟩
  · obtain ⟨v, hv⟩ := h.skipped
    exact ⟨v, comparison_alone hv hr⟩
  · cases ht : t.value scope.data with
    | error p => rw [comparison, h.valued, ht]; rfl
    | ok x => exact comparison_alone (h.valued.trans (by rw [ht]; rfl)) hr

private theorem negation_opposite (depth : Nat) (skipping : Bool) (ts : List Token) :
    negation scope (depth + 1) skipping (.sign .opposite :: ts) =
      negation scope depth skipping ts >>= fun r => pure (.bool (!holds r.1), r.2) := rfl

private theorem negation_plain (depth : Nat) (skipping : Bool) {ts : List Token}
    (h : ∀ us, ts ≠ .sign .opposite :: us) :
    negation scope (depth + 1) skipping ts = reading scope depth .comparison skipping ts := by
  rw [negation]
  dsimp only
  split
  · next us => exact absurd rfl (h us)
  · rfl

private theorem opposite_agrees {depth : Nat} {us rest : List Token} {t : Tree}
    (h : Agrees scope (negation scope depth) us t rest) :
    Agrees scope (negation scope (depth + 1)) (.sign .opposite :: us) (.opposite t) rest := by
  refine ⟨?_, ?_⟩
  · obtain ⟨v, hv⟩ := h.skipped
    exact ⟨.bool (!holds v), by rw [List.cons_append, negation_opposite, hv]; rfl⟩
  · rw [List.cons_append, negation_opposite, h.valued, Tree.value]
    cases t.value scope.data <;> rfl

/-- The tokens of a comparison are there, and do not begin with a negation. -/
private theorem comparison_head {root : String} {r : Rank} {us : List Token} {t : Tree}
    (h : Writes root r us t) (hr : r = .operand ∨ r = .comparison) :
    ∃ x ts, us = x :: ts ∧ x ≠ .sign .opposite := by
  induction h with
  | literal v => exact ⟨_, _, rfl, by simp⟩
  | path h => exact ⟨_, _, rfl, by simp⟩
  | group h ih => exact ⟨_, _, rfl, by simp⟩
  | alone h ih => exact ih (.inl rfl)
  | compare c ha hb iha ihb =>
    obtain ⟨x, ts, rfl, hx⟩ := iha (.inl rfl)
    exact ⟨x, _, rfl, hx⟩
  | plain h ih => simp at hr
  | opposite h ih => simp at hr
  | single j h ih => simp at hr
  | join j ha hb iha ihb => simp at hr

private theorem plain_agrees {depth : Nat} {us rest : List Token} {t : Tree}
    (hw : Writes scope.root .comparison us t)
    (h : Agrees scope (reading scope depth .comparison) us t rest) :
    Agrees scope (negation scope (depth + 1)) us t rest := by
  obtain ⟨x, ts, rfl, hx⟩ := comparison_head hw (.inr rfl)
  have hne : ∀ us, x :: ts ++ rest ≠ .sign .opposite :: us := by
    intro us he
    exact hx (List.cons.inj he).1
  refine ⟨?_, ?_⟩
  · rw [negation_plain depth true hne]
    exact h.skipped
  · rw [negation_plain depth false hne]
    exact h.valued

/-- Induction on the tokens that write a tree. Groups and negations leave one level less to what
is inside them. -/
private theorem settled {r : Rank} {us : List Token} {t : Tree} (h : Writes scope.root r us t)
    (depth : Nat) (hd : t.nesting ≤ depth) : Settled scope depth us t r := by
  induction h generalizing depth with
  | literal v => exact fun rest _ => ⟨⟨v, rfl⟩, rfl⟩
  | @path ts keys h =>
    intro rest hr
    have hroot (skipping : Bool) : reading scope depth .operand skipping
        (.name scope.root :: ts ++ rest) = steps skipping scope.data (ts ++ rest) := by
      rw [List.cons_append, reading, operand, if_pos rfl]
    obtain ⟨hs, hv⟩ := steps_agree h hr scope.data
    exact ⟨by rw [hroot]; exact hs, by rw [hroot]; exact hv⟩
  | @group ts t h ih =>
    intro rest _
    obtain ⟨depth, rfl⟩ : ∃ n, depth = n + 1 := by
      simp only [Tree.nesting] at hd
      exact ⟨depth - 1, by omega⟩
    have hin := ih depth (by simp only [Tree.nesting] at hd; omega)
    exact group_agrees (joined_agrees hin (stops_sign (by decide) rest))
  | alone h ih =>
    intro rest hr
    exact alone_agrees (ih depth hd rest (hr.mono fun s hs => by simp_all [Rank.takesUp])) hr
  | compare c ha hb iha ihb =>
    intro rest hr
    simp only [Tree.nesting] at hd
    have hright := ihb depth (by omega) rest (hr.mono fun s hs => by simp_all [Rank.takesUp])
    exact compare_agrees c (iha depth (by omega) _ (stops_sign rfl _)) hright
  | plain h ih => exact fun rest hr => plain_agrees h (ih depth hd rest hr)
  | opposite h ih =>
    intro rest hr
    obtain ⟨depth, rfl⟩ : ∃ n, depth = n + 1 := by
      simp only [Tree.nesting] at hd
      exact ⟨depth - 1, by omega⟩
    exact opposite_agrees (ih depth (by simp only [Tree.nesting] at hd; omega) rest hr)
  | single j h ih => exact fun rest hr => ⟨_, reached_single j (below_agrees (ih depth hd) hr)⟩
  | join j ha hb iha ihb =>
    intro rest hr
    simp only [Tree.nesting] at hd
    obtain ⟨fuel, hf⟩ := iha depth (by omega) (.sign j.sign :: _ ++ rest)
      (stops_sign (by cases j <;> decide) _)
    exact reached_join j hf (below_agrees (ihb depth (by omega)) hr)

/-- Tokens that write a tree have the value of the tree, or the problem that the value has. -/
theorem valueOf_of_expresses {ts : List Token} {t : Tree} (h : Expresses scope.root ts t)
    (hd : t.nesting < depthLimit) : valueOf scope ts = t.value scope.data := by
  have hn : t.nesting ≤ depthLimit - 1 := by omega
  have hstop : Stops (.joined .either) [] := by intro s us he; cases he
  have hv : expression scope false (ts ++ []) = (t.value scope.data).map (·, []) :=
    (joined_agrees (settled h (depthLimit - 1) hn) hstop).valued
  rw [List.append_nil] at hv
  rw [valueOf, hv]
  cases t.value scope.data <;> rfl

end Dialogue.Condition
