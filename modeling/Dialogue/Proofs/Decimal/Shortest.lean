import Dialogue.Proofs.Decimal.Nearest
import Dialogue.Proofs.Json.Floats

/-! The shortest decimal for a floating-point number is near to it: the grid with seventeen digits
is never too coarse. -/
namespace Dialogue.Decimal
open Binary64 (Canonical Near reach amount)

private theorem fraction_pos (e : Int) : 0 < (fraction 1 e).2 := by
  unfold fraction
  split
  · exact Nat.one_pos
  · exact Nat.pow_pos (by decide)

private theorem fraction_one (e : Int) :
    ((fraction 1 e).1 : ℚ) / (fraction 1 e).2 = 2 ^ e := by
  unfold fraction
  split
  · rename_i he
    obtain ⟨n, rfl⟩ : ∃ n : Nat, e = n := ⟨e.toNat, by omega⟩
    simp
  · rename_i he
    obtain ⟨n, rfl⟩ : ∃ n : Nat, e = -n := ⟨(-e).toNat, by omega⟩
    simp

namespace Interval

/-- A point of the interval as a rational number. -/
def point (i : Interval) (n : Nat) : ℚ := n / i.den

/-- Numerator and denominator of a power of ten. -/
private theorem power_eq (k : Int) : ∃ up down : Nat, 0 < up ∧ 0 < down ∧
    (if 0 ≤ k then (Nat.pow 10 k.toNat, 1) else (1, Nat.pow 10 (-k).toNat) : Nat × Nat) =
      (up, down) ∧ (10 : ℚ) ^ k = up / down := by
  split
  · obtain ⟨n, rfl⟩ : ∃ n : Nat, k = n := ⟨k.toNat, by omega⟩
    exact ⟨10 ^ n, 1, Nat.pow_pos (by decide), Nat.one_pos, rfl, by simp⟩
  · obtain ⟨n, rfl⟩ : ∃ n : Nat, k = -n := ⟨(-k).toNat, by omega⟩
    exact ⟨1, 10 ^ n, Nat.one_pos, Nat.pow_pos (by decide), by simp, by simp⟩

private theorem holds_iff {i : Interval} (hi : 0 < i.den) (d : Nat) (k : Int) :
    i.holds d k = true ↔ i.point i.low ≤ d * 10 ^ k ∧ d * 10 ^ k ≤ i.point i.high ∧
      (i.closed = true ∨ i.point i.low < d * 10 ^ k ∧ d * 10 ^ k < i.point i.high) := by
  obtain ⟨up, down, -, hdown, hpair, hpower⟩ := power_eq k
  have hden : (0 : ℚ) < i.den := by exact_mod_cast hi
  have hscale : (0 : ℚ) < down := by exact_mod_cast hdown
  have hle (n : Nat) : i.point n ≤ d * 10 ^ k ↔ n * down ≤ d * up * i.den := by
    rw [point, hpower, ← mul_div_assoc, div_le_div_iff₀ hden hscale]
    exact_mod_cast Iff.rfl
  have hge (n : Nat) : d * 10 ^ k ≤ i.point n ↔ d * up * i.den ≤ n * down := by
    rw [point, hpower, ← mul_div_assoc, div_le_div_iff₀ hscale hden]
    exact_mod_cast Iff.rfl
  have hlt (n : Nat) : i.point n < d * 10 ^ k ↔ n * down < d * up * i.den := by
    rw [← not_le, hge, not_le]
  have hgt (n : Nat) : d * 10 ^ k < i.point n ↔ d * up * i.den < n * down := by
    rw [← not_le, hle, not_le]
  rw [hle, hge, hlt, hgt]
  simp only [holds, hpair]
  split
  · rename_i hclosed
    simp only [Bool.and_eq_true, decide_eq_true_eq, hclosed, true_or, and_true]
  · rename_i hopen
    simp only [Bool.and_eq_true, decide_eq_true_eq, hopen, Bool.false_eq_true, false_or]
    omega

private theorem holds_of_inside {i : Interval} (hi : 0 < i.den) {d : Nat} {k : Int}
    (hlow : i.point i.low < d * 10 ^ k) (hhigh : d * 10 ^ k < i.point i.high) :
    i.holds d k = true :=
  (holds_iff hi d k).mpr ⟨hlow.le, hhigh.le, .inr ⟨hlow, hhigh⟩⟩

/-- On a grid that is finer than the interval one of the two neighbours of the value stands
for it. -/
private theorem exists_onGrid {i : Interval} (hi : 0 < i.den) {k : Int}
    (hvalue : i.low < i.value ∧ i.value < i.high)
    (hk : 10 ^ k < i.point i.high - i.point i.low) : ∃ d, i.onGrid k = some d := by
  obtain ⟨up, down, hup, hdown, hpair, hpower⟩ := power_eq k
  have hden : (0 : ℚ) < i.den := by exact_mod_cast hi
  have hscale : (0 : ℚ) < down := by exact_mod_cast hdown
  have hunit : 0 < up * i.den := Nat.mul_pos hup hi
  have hlow : i.point i.low < i.point i.value :=
    div_lt_div_of_pos_right (by exact_mod_cast hvalue.1) hden
  have hhigh : i.point i.value < i.point i.high :=
    div_lt_div_of_pos_right (by exact_mod_cast hvalue.2) hden
  simp only [onGrid, hpair]
  generalize hd : i.value * down / (up * i.den) = d
  have hbelow : d * 10 ^ k ≤ i.point i.value := by
    have hle : d * (up * i.den) ≤ i.value * down := hd ▸ Nat.div_mul_le_self _ _
    rw [point, hpower, ← mul_div_assoc, div_le_div_iff₀ hscale hden, mul_assoc]
    exact_mod_cast hle
  have habove : i.point i.value < (d + 1 : Nat) * 10 ^ k := by
    have hlt : i.value * down < (d + 1) * (up * i.den) :=
      (Nat.div_lt_iff_lt_mul hunit).mp (by omega)
    rw [point, hpower, ← mul_div_assoc, div_lt_div_iff₀ hden hscale, mul_assoc]
    exact_mod_cast hlt
  cases hfirst : i.holds d k with
  | true =>
    simp only [Bool.true_and, if_true]
    repeat' split
    all_goals exact ⟨_, rfl⟩
  | false =>
    cases hsecond : i.holds (d + 1) k with
    | true => exact ⟨d + 1, by simp⟩
    | false =>
      have hout : (d : ℚ) * 10 ^ k ≤ i.point i.low := by
        by_contra hin
        rw [holds_of_inside hi (not_le.mp hin) (lt_of_le_of_lt hbelow hhigh)] at hfirst
        cases hfirst
      have hpast : i.point i.high ≤ (d + 1 : Nat) * 10 ^ k := by
        by_contra hin
        rw [holds_of_inside hi (lt_trans hlow habove) (not_le.mp hin)] at hsecond
        cases hsecond
      push_cast at hpast
      linarith

private theorem den_pos (m : Nat) (e : Int) : 0 < (Interval.of m e).den := fraction_pos (e - 2)

private theorem point_of (m : Nat) (e : Int) (n : Nat) :
    (Interval.of m e).point (n * (fraction 1 (e - 2)).1) = n / 4 * 2 ^ e := by
  have hscale : (2 : ℚ) ^ (e - 2) = 2 ^ e / 4 := by
    rw [zpow_sub₀ (by norm_num)]
    norm_num
  change ((n * (fraction 1 (e - 2)).1 : Nat) : ℚ) / (fraction 1 (e - 2)).2 = _
  push_cast
  rw [mul_div_assoc, fraction_one, hscale]
  ring

/-- The ends of the interval are those up to which numbers are rounded to the value. -/
private theorem ends_eq {m : Nat} (hm : 0 < m) (e : Int) :
    (Interval.of m e).point (Interval.of m e).low = (m - reach m e) * 2 ^ e ∧
      (Interval.of m e).point (Interval.of m e).value = m * 2 ^ e ∧
      (Interval.of m e).point (Interval.of m e).high = (m + 1 / 2) * 2 ^ e := by
  refine ⟨?_, ?_, ?_⟩
  · change (Interval.of m e).point
      ((4 * m - if m == Nat.pow 2 52 && e != -1074 then 1 else 2) * _) = _
    rw [point_of, reach]
    simp only [Bool.and_eq_true, beq_iff_eq, bne_iff_ne, Nat.pow_eq]
    split
    · rw [Nat.cast_sub (by omega)]
      push_cast
      ring
    · rw [Nat.cast_sub (by omega)]
      push_cast
      ring
  · change (Interval.of m e).point (4 * m * _) = _
    rw [point_of]
    push_cast
    ring
  · change (Interval.of m e).point ((4 * m + 2) * _) = _
    rw [point_of]
    push_cast
    ring

private theorem of_ordered {m : Nat} (hm : 0 < m) (e : Int) :
    (Interval.of m e).low < (Interval.of m e).value ∧
      (Interval.of m e).value < (Interval.of m e).high ∧ 0 < (Interval.of m e).value := by
  have hscale : 0 < (fraction 1 (e - 2)).1 := fraction_one_pos (e - 2)
  refine ⟨?_, ?_, ?_⟩
  · exact Nat.mul_lt_mul_of_pos_right (by split <;> omega) hscale
  · exact Nat.mul_lt_mul_of_pos_right (by omega) hscale
  · exact value_pos hm e

/-- What stands for a number is near to it. -/
theorem near_of_holds {m : Nat} {e : Int} (hm : 0 < m) {d : Nat} {k : Int}
    (h : (Interval.of m e).holds d k = true) : Near m e (d * 10 ^ k) := by
  obtain ⟨hlow, hhigh, htie⟩ := (holds_iff (den_pos m e) d k).mp h
  obtain ⟨hfirst, -, hlast⟩ := ends_eq hm e
  rw [hfirst] at hlow htie
  rw [hlast] at hhigh htie
  exact ⟨hlow, hhigh, htie.imp_left fun hclosed => eq_of_beq hclosed⟩

end Interval

private theorem lt_pow_digitCount (n : Nat) : n < 10 ^ digitCount n := by
  rw [digitCount]
  split
  · rename_i hzero
    rw [hzero]
    decide
  · exact (Nat.length_toDigits_le_iff (by decide) Nat.length_toDigits_pos).mp (Nat.le_refl _)

private theorem pow_digitCount_le {n : Nat} (hn : 0 < n) :
    0 < digitCount n ∧ 10 ^ (digitCount n - 1) ≤ n := by
  rw [digitCount, if_neg hn.ne']
  have hpos : 0 < (Nat.toDigits 10 n).length := Nat.length_toDigits_pos
  refine ⟨hpos, ?_⟩
  by_cases hone : (Nat.toDigits 10 n).length = 1
  · rw [hone]
    exact hn
  · by_contra hlt
    have := (Nat.length_toDigits_le_iff (by decide) (by omega)).mpr (Nat.lt_of_not_le hlt)
    omega

/-- The point does not stand too far to the right. -/
private theorem pow_pointPlace_le {num den : Nat} (hnum : 0 < num) (hden : 0 < den) :
    (10 : ℚ) ^ (pointPlace num den - 1) ≤ num / den := by
  have hpos : (0 : ℚ) < den := by exact_mod_cast hden
  rw [pointPlace]
  split
  · rename_i hle
    obtain ⟨hdigits, hpow⟩ := pow_digitCount_le (Nat.div_pos hle hden)
    have hexponent : (digitCount (num / den) : Int) - 1 = (digitCount (num / den) - 1 : Nat) := by
      omega
    rw [hexponent, zpow_natCast, le_div_iff₀ hpos]
    exact_mod_cast (Nat.le_div_iff_mul_le hden).mp hpow
  · have hlt := (Nat.div_lt_iff_lt_mul hnum).mp (lt_pow_digitCount ((den - 1) / num))
    have hle : den ≤ num * 10 ^ digitCount ((den - 1) / num) := by
      rw [Nat.mul_comm]
      omega
    have hexponent : 1 - (digitCount ((den - 1) / num) : Int) - 1 =
        -(digitCount ((den - 1) / num) : Int) := by omega
    rw [hexponent, zpow_neg, zpow_natCast, inv_eq_one_div, div_le_div_iff₀ (by positivity) hpos,
      one_mul]
    exact_mod_cast hle

/-- Seventeen digits always do. -/
private theorem seventeen_digits {m : Nat} {e : Int} (hc : Canonical m e) {p : Int}
    (hp : (10 : ℚ) ^ (p - 1) ≤ m * 2 ^ e) :
    (10 : ℚ) ^ (p - 17) < (m + 1 / 2) * 2 ^ e - (m - reach m e) * 2 ^ e := by
  have hscale : (0 : ℚ) < 2 ^ e := by positivity
  have hlt : (m : ℚ) < 2 ^ 53 := by exact_mod_cast hc.lt
  have hgrid : (10 : ℚ) ^ (p - 17) ≤ m / 10 ^ 16 * 2 ^ e := by
    rw [show p - 17 = p - 1 - 16 by omega, zpow_sub₀ (by norm_num), div_mul_eq_mul_div]
    exact div_le_div_of_nonneg_right hp (by norm_num)
  have hgap : (m : ℚ) / 10 ^ 16 < 1 / 2 + reach m e := by
    rw [reach]
    split
    · rename_i hpower
      rw [hpower.1]
      norm_num
    · rw [div_lt_iff₀ (by norm_num)]
      linarith
  calc (10 : ℚ) ^ (p - 17) ≤ m / 10 ^ 16 * 2 ^ e := hgrid
    _ < (1 / 2 + reach m e) * 2 ^ e := mul_lt_mul_of_pos_right hgap hscale
    _ = (m + 1 / 2) * 2 ^ e - (m - reach m e) * 2 ^ e := by ring

theorem shortest_near {m : Nat} {e : Int} (hc : Canonical m e) :
    Near m e ((shortest m e).1 * 10 ^ (shortest m e).2) := by
  rw [shortest]
  generalize hp : pointPlace (Interval.of m e).value (Interval.of m e).den = p
  cases hfound : ((List.range 17).map fun n : Nat => p - (n + 1)).findSome?
      fun k => ((Interval.of m e).onGrid k).map (·, k) with
  | some r =>
    obtain ⟨k, -, hk⟩ := List.exists_of_findSome?_eq_some hfound
    obtain ⟨d, hd, rfl⟩ := Option.map_eq_some_iff.mp hk
    exact Interval.near_of_holds hc.pos (Interval.holds_of_onGrid hd)
  | none =>
    obtain ⟨hfirst, hmiddle, hlast⟩ := Interval.ends_eq hc.pos e
    obtain ⟨hlow, hhigh, hvalue⟩ := Interval.of_ordered hc.pos e
    have hplace := pow_pointPlace_le hvalue (Interval.den_pos m e)
    rw [hp, ← Interval.point, hmiddle] at hplace
    have hfine := seventeen_digits hc hplace
    rw [← hfirst, ← hlast] at hfine
    obtain ⟨d, hd⟩ := Interval.exists_onGrid (Interval.den_pos m e) ⟨hlow, hhigh⟩ hfine
    have hnone := List.findSome?_eq_none_iff.mp hfound (p - 17)
      (List.mem_map.mpr ⟨16, by simp, by omega⟩)
    rw [hd] at hnone
    cases hnone

end Dialogue.Decimal
