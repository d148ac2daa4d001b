import Dialogue.Proofs.Json.Rereading

/-! A whole number is read back from its numeral as free text. -/
namespace Dialogue.Decimal

/-- What the numeral of a whole number is made of. -/
def IsFigure (c : Char) : Prop := c = '-' ∨ c.isDigit = true

private theorem range_of_isDigit {c : Char} (h : c.isDigit = true) :
    0x30 ≤ c.toNat ∧ c.toNat ≤ 0x39 := by
  simpa [Char.isDigit, UInt32.le_iff_toNat_le] using h

/-- A figure is no margin, stands for itself, and does not part groups. -/
private theorem plain_of_figure {c : Char} (h : IsFigure c) :
    isMargin c = false ∧ latinDigit c = c ∧ (c == '_') = false := by
  obtain rfl | h := h
  · decide
  · have hdigits : ∀ n < 10, isMargin (Char.ofNat (0x30 + n)) = false ∧
        latinDigit (Char.ofNat (0x30 + n)) = Char.ofNat (0x30 + n) ∧
        (Char.ofNat (0x30 + n) == '_') = false := by decide
    have hrange := range_of_isDigit h
    obtain ⟨n, hn⟩ := Nat.exists_eq_add_of_le hrange.1
    have hc : c = Char.ofNat (0x30 + n) := by rw [← hn, Char.ofNat_toNat]
    rw [hc]
    exact hdigits n (by omega)

private theorem joinGroups_figures {cs : List Char} (h : ∀ c ∈ cs, IsFigure c) {before : Char}
    (hbefore : (before == '_') = false) : joinGroups before cs = some cs := by
  induction cs generalizing before with
  | nil => simp only [joinGroups, hbefore, Bool.false_eq_true, if_false]
  | cons c cs ih =>
    obtain ⟨hc, hcs⟩ := List.forall_mem_cons.mp h
    have hmark := (plain_of_figure hc).2.2
    simp only [joinGroups, hmark, hbefore, Bool.false_eq_true, if_false, Bool.false_and,
      ih hcs hmark, Option.map_some]

private theorem dropWhile_figures {cs : List Char} (h : ∀ c ∈ cs, IsFigure c) :
    cs.dropWhile isMargin = cs := by
  cases cs with
  | nil => rfl
  | cons c cs =>
    exact List.dropWhile_cons_of_neg (by simp [(plain_of_figure (h c (List.mem_cons_self ..))).1])

theorem plain?_figures {s : String} (h : ∀ c ∈ s.toList, IsFigure c) :
    plain? s = some s.toList := by
  have hreverse : ∀ c ∈ s.toList.reverse, IsFigure c := fun c hc => h c (List.mem_reverse.mp hc)
  have htrim : Text.trimWhile isMargin s.toList = s.toList := by
    rw [Text.trimWhile, Text.dropEndWhile, dropWhile_figures h, dropWhile_figures hreverse,
      List.reverse_reverse]
  have hlatin : s.toList.map latinDigit = s.toList := by
    refine (List.map_congr_left fun c hc => ?_).trans (List.map_id _)
    exact (plain_of_figure (h c hc)).2.1
  rw [plain?, htrim, hlatin, joinGroups_figures h (by decide)]

private theorem sign_numeral (negative : Bool) {ds : List Char} (h : Json.Digits ds) :
    sign ((if negative then ['-'] else []) ++ ds) = (negative, ds) := by
  cases negative with
  | true => rfl
  | false =>
    obtain ⟨c, ds, rfl⟩ := List.exists_cons_of_ne_nil h.ne_nil
    have hc := h.all c (List.mem_cons_self ..)
    change sign (c :: ds) = (false, c :: ds)
    unfold sign
    split
    · rename_i e
      rw [(List.cons.inj e).1] at hc
      cases hc
    · rename_i e
      rw [(List.cons.inj e).1] at hc
      cases hc
    · rfl

private theorem plain?_toString (n : Int) : plain? (toString n) =
    some ((if decide (n < 0) then ['-'] else []) ++ Nat.toDigits 10 n.natAbs) := by
  have hfigures : ∀ c ∈ (toString n).toList, IsFigure c := by
    rw [Json.toList_toString]
    intro c hc
    obtain hc | hc := List.mem_append.mp hc
    · split at hc
      · exact .inl (List.mem_singleton.mp hc)
      · cases hc
    · exact .inr ((Json.digits_toDigits n.natAbs).all c hc)
  rw [plain?_figures hfigures, Json.toList_toString]

/-- A whole number without too many digits is read back from its numeral. -/
theorem readInt?_toString {n : Int} (h : isReadable n = true) : readInt? (toString n) = some n := by
  have hds := Json.digits_toDigits n.natAbs
  have hempty : (Nat.toDigits 10 n.natAbs).isEmpty = false :=
    List.isEmpty_eq_false_iff.mpr hds.ne_nil
  have hall : (Nat.toDigits 10 n.natAbs).all Char.isDigit = true := List.all_eq_true.mpr hds.all
  have hshort : ¬ (Nat.toDigits 10 n.natAbs).length > digitLimit := by
    rw [isReadable, decide_eq_true_eq] at h
    omega
  have hvalue : (if n < 0 then -(n.natAbs : Int) else n.natAbs) = n := by split <;> omega
  rw [readInt?, plain?_toString]
  simp only [bind, Option.bind, sign_numeral _ hds]
  simp only [hempty, hall, hshort, Text.numeral_toDigits, decide_eq_true_eq, hvalue]
  rfl

private theorem toLower_of_isDigit {c : Char} (h : c.isDigit = true) : c.toLower = c := by
  have hrange : c.val ≤ 0x39 := UInt32.le_iff_toNat_le.mpr (range_of_isDigit h).2
  refine dif_neg fun hupper => ?_
  exact absurd (UInt32.le_trans hupper.1 hrange) (by decide)

/-- No numeral is the name of a number. -/
private theorem ofList_digits_ne {ds : List Char} (h : Json.Digits ds) {c : Char} {cs : List Char}
    (hc : c.isDigit = false) : String.ofList ds ≠ String.ofList (c :: cs) := by
  intro heq
  have hmem : c ∈ ds := by
    rw [String.ofList_injective heq]
    exact List.mem_cons_self ..
  rw [h.all c hmem] at hc
  cases hc

private theorem unsigned?_digits (negative : Bool) {ds : List Char} (h : Json.Digits ds) :
    unsigned? negative ds = some (nearest negative (Text.numeral ds) 0) := by
  have hend : Json.NoDigit [] := fun _ hc => nomatch hc
  have htake := h.takeWhile hend
  have hdrop := h.dropWhile hend
  rw [List.append_nil] at htake hdrop
  have hempty : ds.isEmpty = false := List.isEmpty_eq_false_iff.mpr h.ne_nil
  simp only [unsigned?, htake, hdrop, hempty]
  simp [exponent?]

/-- The numeral of a whole number is read as the floating-point number nearest to it. -/
theorem readFloat?_toString (n : Int) :
    readFloat? (toString n) = some (nearest (decide (n < 0)) n.natAbs 0) := by
  have hds := Json.digits_toDigits n.natAbs
  have hlower : (Nat.toDigits 10 n.natAbs).map Char.toLower = Nat.toDigits 10 n.natAbs :=
    (List.map_congr_left fun c hc => toLower_of_isDigit (hds.all c hc)).trans (List.map_id _)
  rw [readFloat?, plain?_toString]
  simp only [Option.bind_eq_bind, Option.bind_some, sign_numeral _ hds, hlower]
  split
  · rename_i h
    exact absurd h (ofList_digits_ne hds (by decide))
  · rename_i h
    exact absurd h (ofList_digits_ne hds (by decide))
  · rename_i h
    exact absurd h (ofList_digits_ne hds (by decide))
  · rw [unsigned?_digits _ hds, Text.numeral_toDigits]

end Dialogue.Decimal
