import Dialogue.Proofs.Condition.Spelling

/-! Tokens one after the other. Whatever tokens stand next to each other, a text that spells them
with blanks in between is read as exactly these tokens. -/
namespace Dialogue.Condition.Token

/-- Tokens in their spellings, with `gap i` between the one at `i` and the next. -/
def spaced (gap : Nat → List Char) : List Token → List Char
  | [] => []
  | [t] => t.spelling
  | t :: u :: ts => t.spelling ++ (gap 0 ++ spaced (fun i => gap (i + 1)) (u :: ts))

/-- At least one blank, and nothing else. -/
def Parting (gap : List Char) : Prop := gap ≠ [] ∧ ∀ c ∈ gap, Text.isBlank c = true

private theorem Parting.apart {gap : List Char} (h : Parting gap) (cs : List Char) :
    Apart (gap ++ cs) := by
  obtain ⟨c, gap, rfl⟩ := List.exists_cons_of_ne_nil h.1
  intro d hd
  rw [← Option.some.inj hd]
  exact h.2 c (List.mem_cons_self ..)

private theorem exists_last_spaced (gap : Nat → List Char) {ts : List Token}
    (hts : ∀ t ∈ ts, t.Spellable) (hne : ts ≠ []) :
    ∃ cs c, spaced gap ts = cs ++ [c] ∧ Text.isBlank c = false := by
  induction ts generalizing gap with
  | nil => exact absurd rfl hne
  | cons t ts ih =>
    cases ts with
    | nil => exact exists_last_spelling (hts t (List.mem_cons_self ..))
    | cons u ts =>
      obtain ⟨cs, c, hlast, hc⟩ := ih (fun i => gap (i + 1))
        (fun v hv => hts v (List.mem_cons_of_mem _ hv)) (List.cons_ne_nil _ _)
      refine ⟨t.spelling ++ (gap 0 ++ cs), c, ?_, hc⟩
      rw [spaced, hlast]
      simp only [List.append_assoc]

/-- One token is read, after the blanks in front of it. -/
private theorem scan_spelling {t : Token} (ht : t.Spellable) {lead rest : List Char}
    (hlead : ∀ c ∈ lead, Text.isBlank c = true) (hrest : Apart rest) (fuel position : Nat) :
    ∃ position', scan (fuel + 1) position (lead ++ (t.spelling ++ rest)) =
      (scan fuel position' rest).map (t :: ·) := by
  obtain ⟨c, cs, hspelling, hc⟩ := exists_head_spelling ht
  have hdrop : (lead ++ (t.spelling ++ rest)).dropWhile Text.isBlank = t.spelling ++ rest := by
    refine Text.dropWhile_append_stop hlead ?_
    intro d hd
    rw [hspelling] at hd
    rw [← Option.some.inj hd]
    exact hc
  have hne : lead ++ (t.spelling ++ rest) ≠ [] := by
    simp [hspelling]
  refine ⟨position + ((lead ++ (t.spelling ++ rest)).length - rest.length), ?_⟩
  rw [scan]
  · simp only [hdrop, first?_spelling hrest ht]
    cases scan fuel _ rest with
    | error p => rfl
    | ok ts => rfl
  · exact hne

/-- The fuel lasts for a token more than there are. -/
private theorem scan_spaced {gap : Nat → List Char} (hgap : ∀ i, Parting (gap i))
    {ts : List Token} (hts : ∀ t ∈ ts, t.Spellable) {lead : List Char}
    (hlead : ∀ c ∈ lead, Text.isBlank c = true) (hne : ts ≠ []) {fuel : Nat}
    (hfuel : ts.length ≤ fuel) (position : Nat) :
    scan fuel position (lead ++ spaced gap ts) = .ok ts := by
  induction ts generalizing gap lead fuel position with
  | nil => exact absurd rfl hne
  | cons t ts ih =>
    have ht := hts t (List.mem_cons_self ..)
    obtain ⟨fuel, rfl⟩ : ∃ n, fuel = n + 1 := ⟨fuel - 1, by simp at hfuel; omega⟩
    cases ts with
    | nil =>
      have hend : Apart [] := nofun
      obtain ⟨position', hscan⟩ := scan_spelling ht hlead hend fuel position
      rw [List.append_nil] at hscan
      rw [spaced, hscan]
      cases fuel <;> rfl
    | cons u ts =>
      obtain ⟨position', hscan⟩ := scan_spelling ht hlead
        ((hgap 0).apart (spaced (fun i => gap (i + 1)) (u :: ts))) fuel position
      have hrest := ih (fun i => hgap (i + 1)) (fun v hv => hts v (List.mem_cons_of_mem _ hv))
        (hgap 0).2 (List.cons_ne_nil _ _) (by simpa using hfuel) position'
      rw [spaced, hscan, hrest, Except.map]

private theorem length_le_spaced (gap : Nat → List Char) {ts : List Token}
    (hts : ∀ t ∈ ts, t.Spellable) : ts.length ≤ (spaced gap ts).length := by
  induction ts generalizing gap with
  | nil => exact Nat.le_refl 0
  | cons t ts ih =>
    obtain ⟨c, cs, hspelling, -⟩ := exists_head_spelling (hts t (List.mem_cons_self ..))
    cases ts with
    | nil => simp [spaced, hspelling]
    | cons u ts =>
      have hrest := ih (fun i => gap (i + 1)) fun v hv => hts v (List.mem_cons_of_mem _ hv)
      simp only [spaced, hspelling, List.length_append, List.length_cons] at hrest ⊢
      omega

/-- Whatever tokens are spelled one after the other, with any blanks in between, are read from their
text as they were: no spelling runs into its neighbour. -/
theorem ofString_spaced {ts : List Token} (hts : ∀ t ∈ ts, t.Spellable)
    {gap : Nat → List Char} (hgap : ∀ i, Parting (gap i)) :
    Token.ofString (String.ofList (spaced gap ts)) = .ok ts := by
  rw [Token.ofString, String.toList_ofList]
  by_cases hne : ts = []
  · subst hne
    rfl
  · obtain ⟨cs, c, hlast, hc⟩ := exists_last_spaced gap hts hne
    have htrimmed : Text.dropEndWhile Text.isBlank (spaced gap ts) = spaced gap ts := by
      rw [hlast]
      simp [Text.dropEndWhile, hc]
    simp only [htrimmed]
    have hlead : ∀ c ∈ ([] : List Char), Text.isBlank c = true := by
      intro c hc
      exact absurd hc List.not_mem_nil
    exact scan_spaced hgap hts hlead hne (length_le_spaced gap hts) 0

/-- A condition on a path with an index, a number below zero and a text full of marks. -/
def demanding : List Token :=
  [.sign .opposite, .sign (.compare .equal), .name "data", .sign .dot, .name "None_1",
    .sign .openIndex, .literal (.int (-40)), .sign .closeIndex, .sign (.compare .less),
    .literal (.text "it's \\ &&\n"), .sign .either, .literal .null, .literal (.bool true)]

theorem ofString_spaced_demanding :
    (∀ t ∈ demanding, t.Spellable) ∧ Parting [' ', '\u3000', '\n'] ∧
    Token.ofString (String.ofList (spaced (fun _ => [' ', '\u3000', '\n']) demanding)) =
      .ok demanding := by
  have hdata : IsName "data" :=
    ⟨⟨'d', ['a', 't', 'a'], rfl, rfl, List.all_eq_true.mp rfl⟩, by decide⟩
  have hnone : IsName "None_1" :=
    ⟨⟨'N', ['o', 'n', 'e', '_', '1'], rfl, rfl, List.all_eq_true.mp rfl⟩, by decide⟩
  have hindex : Decimal.isReadable (-40) = true := by decide
  have hts : ∀ t ∈ demanding, t.Spellable := by
    simp only [demanding, List.forall_mem_cons]
    exact ⟨trivial, trivial, hdata, trivial, hnone, trivial, hindex, trivial, trivial, trivial,
      trivial, trivial, trivial, nofun⟩
  have hgap : Parting [' ', '\u3000', '\n'] :=
    ⟨nofun, List.all_eq_true.mp rfl⟩
  exact ⟨hts, hgap, ofString_spaced hts fun _ => hgap⟩

end Dialogue.Condition.Token
