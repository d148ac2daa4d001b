import Dialogue.Proofs.Json.Numbers

/-! The form in which floating-point numbers are written as JSON text is one that is read back as
a floating-point number: there is always a point or an exponent, and no zero too many in front. -/
namespace Dialogue.Decimal

theorem fraction_one_pos (e : Int) : 0 < (fraction 1 e).1 := by
  unfold fraction
  split
  · exact Nat.mul_pos (by decide) (Nat.pow_pos (by decide))
  · exact Nat.one_pos

namespace Interval

private theorem low_pos {m : Nat} (hm : 0 < m) (e : Int) : 0 < (Interval.of m e).low := by
  have hscale := fraction_one_pos (e - 2)
  simp only [Interval.of]
  refine Nat.mul_pos ?_ hscale
  split <;> omega

theorem value_pos {m : Nat} (hm : 0 < m) (e : Int) : 0 < (Interval.of m e).value :=
  Nat.mul_pos (Nat.mul_pos (by decide) hm) (fraction_one_pos (e - 2))

private theorem pos_of_holds {i : Interval} (hi : 0 < i.low) {d : Nat} {k : Int}
    (h : i.holds d k = true) : 0 < d := by
  refine Nat.pos_of_ne_zero fun hd => ?_
  subst hd
  rcases hscale : (if 0 ≤ k then (Nat.pow 10 k.toNat, 1)
    else (1, Nat.pow 10 (-k).toNat) : Nat × Nat) with ⟨up, down⟩
  have hdown : 0 < down := by
    split at hscale
    all_goals
      obtain ⟨-, rfl⟩ := Prod.mk.inj hscale
      first | exact Nat.one_pos | exact Nat.pow_pos (by decide)
  have hlow : 0 < i.low * down := Nat.mul_pos hi hdown
  simp only [holds, hscale, Nat.zero_mul] at h
  split at h
  all_goals
    simp only [Bool.and_eq_true, decide_eq_true_eq] at h
    omega

theorem holds_of_onGrid {i : Interval} {d : Nat} {k : Int} (h : i.onGrid k = some d) :
    i.holds d k = true := by
  rcases hscale : (if 0 ≤ k then (Nat.pow 10 k.toNat, 1)
    else (1, Nat.pow 10 (-k).toNat) : Nat × Nat) with ⟨up, down⟩
  simp only [onGrid, hscale] at h
  generalize i.value * down / (up * i.den) = below at h
  split at h
  · rename_i both
    obtain ⟨hbelow, habove⟩ := (Bool.and_eq_true ..).mp both
    split at h
    · exact Option.some.inj h ▸ hbelow
    split at h
    · exact Option.some.inj h ▸ habove
    · rw [← Option.some.inj h]
      split <;> assumption
  · split at h
    · rename_i hbelow
      exact Option.some.inj h ▸ hbelow
    split at h
    · rename_i habove
      exact Option.some.inj h ▸ habove
    · cases h

end Interval

theorem shortest_pos {m : Nat} (hm : 0 < m) (e : Int) : 0 < (shortest m e).1 := by
  rw [shortest]
  generalize (List.range 17).map _ = grids
  cases h : grids.findSome? fun k => ((Interval.of m e).onGrid k).map (·, k) with
  | none => exact Interval.value_pos hm e
  | some r =>
    obtain ⟨k, -, hk⟩ := List.exists_of_findSome?_eq_some h
    obtain ⟨d, hd, rfl⟩ := Option.map_eq_some_iff.mp hk
    exact Interval.pos_of_holds (Interval.low_pos hm e) (Interval.holds_of_onGrid hd)

theorem stripZeros_pos {d : Nat} (hd : 0 < d) (fuel : Nat) (k : Int) :
    0 < (stripZeros fuel d k).1 := by
  induction fuel generalizing d k with
  | zero => exact hd
  | succ fuel ih =>
    rw [stripZeros]
    split
    · rename_i h
      simp only [Bool.and_eq_true, bne_iff_ne, beq_iff_eq] at h
      exact ih (by omega) (k + 1)
    · exact hd

theorem positional_of_nonpos (ds : List Char) {p : Int} (h : p ≤ 0) :
    positional ds p = '0' :: '.' :: (List.replicate (-p).toNat '0' ++ ds) := by
  rw [positional, if_pos h]
  rfl

theorem positional_of_pos (ds : List Char) {p : Int} (h : 0 < p) :
    positional ds p = (ds.take p.toNat ++ List.replicate (p.toNat - ds.length) '0')
      ++ '.' :: (if (ds.drop p.toNat).isEmpty then ['0'] else ds.drop p.toNat) := by
  rw [positional, if_neg (Int.not_le.mpr h)]
  rfl

end Dialogue.Decimal

namespace Dialogue.Json
open Decimal

/-- A number without a sign that has a point or an exponent. -/
def Fractional (cs : List Char) : Prop :=
  ∃ whole ds part n scaled, cs = whole ++ (part ++ scaled) ∧ Whole whole ∧ Part ds part ∧
    Scale n scaled ∧ (ds.isEmpty && n.isNone) = false

private theorem isDigit_of_mem_replicate {c : Char} {n : Nat} (h : c ∈ List.replicate n '0') :
    c.isDigit = true := by
  rw [(List.mem_replicate.mp h).2]
  rfl

private theorem digits_replicate_append {ds : List Char} (n : Nat) (h : Digits ds) :
    Digits (List.replicate n '0' ++ ds) := by
  refine ⟨by simp [h.ne_nil], fun c hc => ?_⟩
  obtain hc | hc := List.mem_append.mp hc
  · exact isDigit_of_mem_replicate hc
  · exact h.all c hc

private theorem whole_zero : Whole ['0'] :=
  ⟨⟨List.cons_ne_nil _ _, fun c hc => by rw [List.mem_singleton.mp hc]; rfl⟩, .inl rfl⟩

/-- Some of the digits of a number from the front, and zeros after them. -/
private theorem whole_take_append {ds : List Char} (h : Digits ds) (hzero : ds.head? ≠ some '0')
    {p : Nat} (hp : 0 < p) (n : Nat) : Whole (ds.take p ++ List.replicate n '0') := by
  obtain ⟨d, ds, rfl⟩ := List.exists_cons_of_ne_nil h.ne_nil
  obtain ⟨p, rfl⟩ : ∃ q, p = q + 1 := ⟨p - 1, by omega⟩
  refine ⟨⟨by simp, fun c hc => ?_⟩, .inr (by simpa using hzero)⟩
  obtain hc | hc := List.mem_append.mp hc
  · exact h.all c (List.mem_of_mem_take hc)
  · exact isDigit_of_mem_replicate hc

private theorem digits_drop {ds : List Char} (h : Digits ds) {p : Nat}
    (hp : (ds.drop p).isEmpty = false) : Digits (ds.drop p) :=
  ⟨List.isEmpty_eq_false_iff.mp hp, fun c hc => h.all c (List.mem_of_mem_drop hc)⟩

/-- A number without a sign that has a point or an exponent and stands for `d * 10 ^ k`, with
some zeros at the end or without. -/
def Writes (cs : List Char) (d : Nat) (k : Int) : Prop :=
  ∃ whole ds part n scaled, cs = whole ++ (part ++ scaled) ∧ Whole whole ∧ Part ds part ∧
    Scale n scaled ∧ (ds.isEmpty && n.isNone) = false ∧
    ∃ z : Nat, Text.numeral (whole ++ ds) = d * Nat.pow 10 z ∧ n.getD 0 - ds.length = k - z

theorem Writes.fractional {cs : List Char} {d : Nat} {k : Int} (h : Writes cs d k) :
    Fractional cs := by
  obtain ⟨whole, ds, part, n, scaled, hcs, hw, hp, hs, hform, -⟩ := h
  exact ⟨whole, ds, part, n, scaled, hcs, hw, hp, hs, hform⟩

private theorem writes_positional {ds : List Char} (h : Digits ds) (hzero : ds.head? ≠ some '0')
    (p : Int) : Writes (positional ds p) (Text.numeral ds) (p - ds.length) := by
  by_cases hp : p ≤ 0
  · rw [positional_of_nonpos ds hp]
    refine ⟨['0'], _, _, none, [], by simp, whole_zero,
      .point (digits_replicate_append (-p).toNat h), .none, by simp [h.ne_nil], 0, ?_, ?_⟩
    · rw [Nat.pow_eq, Nat.pow_zero, Nat.mul_one]
      exact Text.numeral_replicate_append ((-p).toNat + 1) ds
    · simp only [Option.getD_none, List.length_append, List.length_replicate]
      omega
  · rw [positional_of_pos ds (Int.not_le.mp hp)]
    have hw := whole_take_append h hzero (p := p.toNat) (by omega) (p.toNat - ds.length)
    cases hdrop : (ds.drop p.toNat).isEmpty with
    | true =>
      have hlen := List.drop_eq_nil_iff.mp (List.isEmpty_iff.mp hdrop)
      refine ⟨_, ['0'], _, none, [], by simp, hw, .point whole_zero.toDigits, .none, rfl,
        p.toNat - ds.length + 1, ?_, ?_⟩
      · rw [List.take_of_length_le hlen, List.append_assoc, ← Text.numeral_append_replicate,
          List.replicate_succ']
      · simp only [Option.getD_none, List.length_singleton]
        omega
    | false =>
      have hd := digits_drop h hdrop
      have hlen : p.toNat < ds.length :=
        Nat.lt_of_not_le fun hle => hd.ne_nil (List.drop_eq_nil_iff.mpr hle)
      refine ⟨_, _, _, none, [], by simp, hw, .point hd, .none,
        by rw [List.isEmpty_eq_false_iff.mpr hd.ne_nil]; rfl, 0, ?_, ?_⟩
      · rw [Nat.sub_eq_zero_of_le (Nat.le_of_lt hlen)]
        simp
      · simp only [Option.getD_none, List.length_drop]
        omega

private theorem digits_padded (width n : Nat) : Digits (padded width n) :=
  digits_replicate_append (width - (Nat.toDigits 10 n).length) (digits_toDigits n)

private theorem numeral_padded (width n : Nat) : Text.numeral (padded width n) = n :=
  (Text.numeral_replicate_append ..).trans (Text.numeral_toDigits n)

private theorem scale_padded (width : Nat) (x : Int) :
    Scale (some x) ('e' :: (if x < 0 then '-' else '+') :: padded width x.natAbs) := by
  have hnumeral := numeral_padded width x.natAbs
  split
  · have hs := Scale.down (digits_padded width x.natAbs)
    rwa [hnumeral, show -(x.natAbs : Int) = x by omega] at hs
  · have hs := Scale.up (digits_padded width x.natAbs)
    rwa [hnumeral, show (x.natAbs : Int) = x by omega] at hs

private theorem writes_scientific (style : Style) {ds : List Char} (h : Digits ds)
    (hzero : ds.head? ≠ some '0') (x : Int) :
    Writes (scientific style ds x) (Text.numeral ds) (x + 1 - ds.length) := by
  have hw : Whole (ds.take 1) := by simpa using whole_take_append h hzero Nat.one_pos 0
  have hpos := List.length_pos_iff.mpr h.ne_nil
  have hp : Part (ds.drop 1) (if ds.length ≤ 1 then [] else '.' :: ds.drop 1) := by
    split
    · rename_i hlen
      rw [List.drop_eq_nil_iff.mpr hlen]
      exact .none
    · rename_i hlen
      exact .point (digits_drop h (List.isEmpty_eq_false_iff.mpr fun e => hlen
        (List.drop_eq_nil_iff.mp e)))
  refine ⟨_, _, _, some x, _, by simp only [scientific, List.append_assoc], hw, hp,
    scale_padded style.exponentWidth x, by simp, 0, ?_, ?_⟩
  · rw [List.take_append_drop, Nat.pow_eq, Nat.pow_zero, Nat.mul_one]
  · simp only [Option.getD_some, List.length_drop]
    omega

/-- What is written for a positive number stands for its shortest decimal. -/
theorem writes_writeFinite (style : Style) {m : Nat} (hm : 0 < m) (e : Int) :
    Writes (style.writeFinite m e) (stripZeros 800 (shortest m e).1 (shortest m e).2).1
      (stripZeros 800 (shortest m e).1 (shortest m e).2).2 := by
  rw [Style.writeFinite, if_neg (Nat.ne_of_gt hm)]
  simp only
  have hd := stripZeros_pos (shortest_pos hm e) 800 (shortest m e).2
  generalize stripZeros 800 (shortest m e).1 (shortest m e).2 = r at hd ⊢
  have hds := digits_toDigits r.1
  split
  · have h := writes_positional hds (head?_toDigits hd)
      (r.2 + (Nat.toDigits 10 r.1).length - 1 + 1)
    rwa [Text.numeral_toDigits, show r.2 + (Nat.toDigits 10 r.1).length - 1 + 1 -
      ((Nat.toDigits 10 r.1).length : Int) = r.2 by omega] at h
  · have h := writes_scientific style hds (head?_toDigits hd)
      (r.2 + (Nat.toDigits 10 r.1).length - 1)
    rwa [Text.numeral_toDigits, show r.2 + (Nat.toDigits 10 r.1).length - 1 + 1 -
      ((Nat.toDigits 10 r.1).length : Int) = r.2 by omega] at h

theorem fractional_writeFinite (style : Style) (m : Nat) (e : Int) :
    Fractional (style.writeFinite m e) := by
  cases m with
  | zero =>
    exact ⟨['0'], ['0'], _, none, [], rfl, whole_zero, .point whole_zero.toDigits, .none, rfl⟩
  | succ m => exact (writes_writeFinite style (Nat.succ_pos m) e).fractional

end Dialogue.Json
