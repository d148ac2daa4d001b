import Dialogue.Decimal.Reading
import Dialogue.Proofs.Decimal.Packing

/-! The floating-point number that is read for a decimal is the one that the decimal is near to. -/
namespace Dialogue.Binary64
open Float.Model Float.Model.UnpackedFloat

private theorem tells_exact (m : Nat) : Tells (.ofMantissaAndAccuracy m .exact) m :=
  rfl

/-- A whole quotient and what its remainder tells. -/
private theorem tells_quotient (num : Nat) {den : Nat} (hden : 0 < den) :
    Tells (.ofMantissaAndAccuracy (num / den) (accuracyOfFraction (num % den) den))
      ((num : ℚ) / den) := by
  have hpos : (0 : ℚ) < den := by exact_mod_cast hden
  have hsplit : (num : ℚ) / den = (num / den : Nat) + (num % den : Nat) / den := by
    rw [add_div' _ _ _ hpos.ne', div_left_inj' hpos.ne']
    exact_mod_cast (Nat.div_add_mod' num den).symm
  have hlt : num % den < den := Nat.mod_lt num hden
  rw [hsplit]
  generalize num / den = q
  generalize num % den = rest at hlt ⊢
  have hbelow : ((rest : ℚ) / den < 1 / 2) ↔ 2 * rest < den := by
    rw [div_lt_div_iff₀ hpos two_pos, one_mul, mul_comm]
    exact_mod_cast Iff.rfl
  have habove : (1 / 2 < (rest : ℚ) / den) ↔ den < 2 * rest := by
    rw [div_lt_div_iff₀ two_pos hpos, one_mul, mul_comm]
    exact_mod_cast Iff.rfl
  have hone : (rest : ℚ) / den < 1 := (div_lt_one hpos).mpr (by exact_mod_cast hlt)
  rw [accuracyOfFraction]
  split
  · rename_i hzero
    simp [Tells, ExtendedMantissa.ofMantissaAndAccuracy, hzero]
  · rename_i hzero
    have hrest : 0 < (rest : ℚ) / den := div_pos (by exact_mod_cast Nat.pos_of_ne_zero hzero) hpos
    cases hcompare : compare (2 * rest) den with
    | lt =>
      have hbelow := hbelow.mpr (Nat.compare_eq_lt.mp hcompare)
      simp only [Tells, ExtendedMantissa.ofMantissaAndAccuracy]
      constructor <;> linarith
    | eq =>
      have hequal := Nat.compare_eq_eq.mp hcompare
      have hle := not_lt.mp (mt hbelow.mp (by omega))
      have hge := not_lt.mp (mt habove.mp (by omega))
      simp only [Tells, ExtendedMantissa.ofMantissaAndAccuracy]
      linarith
    | gt =>
      have habove := habove.mpr (Nat.compare_eq_gt.mp hcompare)
      simp only [Tells, ExtendedMantissa.ofMantissaAndAccuracy]
      constructor <;> linarith

/-- The rational that a mantissa and an exponent stand for. -/
def amount (m : Nat) (e : Int) : ℚ := m * 2 ^ e

/-- A floating-point number is near to itself. -/
theorem near_amount {m : Nat} {e : Int} : Near m e (amount m e) := by
  have hscale : (0 : ℚ) < 2 ^ e := by positivity
  have hreach := reach_pos m e
  have hlow : (m - reach m e) * 2 ^ e < amount m e :=
    mul_lt_mul_of_pos_right (by linarith) hscale
  have hhigh : amount m e < (m + 1 / 2) * 2 ^ e := mul_lt_mul_of_pos_right (by linarith) hscale
  exact ⟨hlow.le, hhigh.le, .inr ⟨hlow, hhigh⟩⟩

theorem mul_of_near {m : Nat} {e : Int} (hc : Canonical m e) {n k : Nat} {f g : Int} (hn : 0 < n)
    (hk : 0 < k) (hample : Ample (n * k) (f + g)) (h : Near m e (amount n f * amount k g)) :
    UnpackedFloat.mul Format.binary64 (.finite .positive n f hn) (.finite .positive k g hk) =
      .finite .positive m e hc.pos := by
  refine roundWithAccuracy_of_near .positive hc (tells_exact _) hample ?_
  have hvalue : ((n * k : Nat) : ℚ) * 2 ^ (f + g) = amount n f * amount k g := by
    rw [zpow_add₀ (by norm_num), amount, amount]
    push_cast
    ring
  rwa [hvalue]

private theorem two_pow_log2_le {n : Nat} (h : 0 < n) : 2 ^ n.log2 ≤ n := Nat.log2_self_le h.ne'

/-- The quotient is taken with bits enough for the mantissa. -/
private theorem ample_divCore {n k : Nat} (hn : 0 < n) (hk : 0 < k) (f g : Int) :
    Ample (divCore Format.binary64 n f k g).1 (divCore Format.binary64 n f k g).2.1 := by
  have htarget : Format.binary64.targetExponent (totalExponent n f - totalExponent k g) =
      max (n.log2 + f - (k.log2 + g) - 53) (-1074) := by
    simp only [Format.targetExponent, totalExponent, Format.mantissaBits, Format.minExponent]
    norm_num
    omega
  simp only [divCore, htarget]
  generalize ht : min (f - g) (max (n.log2 + f - (k.log2 + g) - 53) (-1074)) = t
  by_cases hleast : t ≤ -1074
  · exact .inr hleast
  · refine .inl ((Nat.le_div_iff_mul_le hk).mpr ?_)
    have hshift : 53 + k.log2 ≤ n.log2 + (f - g - t).toNat := by omega
    calc 2 ^ 52 * k ≤ 2 ^ 52 * 2 ^ (k.log2 + 1) := Nat.mul_le_mul_left _ Nat.lt_log2_self.le
      _ = 2 ^ (53 + k.log2) := by rw [← Nat.pow_add]; congr 1; omega
      _ ≤ 2 ^ (n.log2 + (f - g - t).toNat) := Nat.pow_le_pow_right (by decide) hshift
      _ = 2 ^ n.log2 * 2 ^ (f - g - t).toNat := Nat.pow_add ..
      _ ≤ n <<< (f - g - t).toNat := by
        rw [Nat.shiftLeft_eq]
        exact Nat.mul_le_mul_right _ (two_pow_log2_le hn)

theorem div_of_near {m : Nat} {e : Int} (hc : Canonical m e) {n k : Nat} {f g : Int} (hn : 0 < n)
    (hk : 0 < k) (h : Near m e (amount n f / amount k g)) :
    UnpackedFloat.div Format.binary64 (.finite .positive n f hn) (.finite .positive k g hk) =
      .finite .positive m e hc.pos := by
  have hample := ample_divCore hn hk f g
  simp only [divCore] at hample
  generalize ht : min (f - g) (Format.binary64.targetExponent
    (totalExponent n f - totalExponent k g)) = t at hample
  have htells := tells_quotient (n <<< (f - g - t).toNat) hk
  have hvalue : ((n <<< (f - g - t).toNat : Nat) : ℚ) / k * 2 ^ t = amount n f / amount k g := by
    have hshift : f - g = ((f - g - t).toNat : Int) + t := by omega
    have hscale : (2 : ℚ) ^ f / 2 ^ g = 2 ^ (f - g - t).toNat * 2 ^ t := by
      rw [← zpow_sub₀ (by norm_num), hshift, zpow_add₀ (by norm_num), zpow_natCast]
      congr 2
      omega
    rw [Nat.shiftLeft_eq, amount, amount, mul_div_mul_comm, hscale]
    push_cast
    ring
  have hround := roundWithAccuracy_of_near .positive hc htells hample (hvalue ▸ h)
  simp only [UnpackedFloat.div, divCore, ht]
  exact hround

theorem two_zpow_eq (e : Int) : (2 : ℚ) ^ e = 2 ^ e.toNat / 2 ^ (-e).toNat := by
  rw [← zpow_natCast, ← zpow_natCast, ← zpow_sub₀ (by norm_num)]
  congr 1
  omega

private theorem two_zpow_le_ten {k : Nat} : (2 : ℚ) ^ k ≤ 10 ^ k :=
  pow_le_pow_left₀ (by norm_num) (by norm_num) k

/-- No exponent of a decimal near to a finite number is so large that it would not be looked at. -/
private theorem exponent_bounds {m : Nat} {e : Int} (hc : Canonical m e) (he : e ≤ 971) {n : Nat}
    {k : Int} (hn : 0 < n) (h : Near m e (n * 10 ^ k)) :
    k ≤ 2 ^ 11 ∧ -(2 ^ 11 + (n.log2 : Int)) ≤ k := by
  have hone : (1 : ℚ) ≤ n := by exact_mod_cast hn
  constructor
  · by_contra hlarge
    obtain ⟨j, rfl⟩ : ∃ j : Nat, k = j := ⟨k.toNat, by omega⟩
    have hge : (2 : ℚ) ^ (1024 : Int) ≤ n * 10 ^ (j : Int) := by
      calc (2 : ℚ) ^ (1024 : Int) ≤ 2 ^ (j : Int) := zpow_le_zpow_right₀ (by norm_num) (by omega)
        _ ≤ 10 ^ (j : Int) := by rw [zpow_natCast, zpow_natCast]; exact two_zpow_le_ten
        _ ≤ n * 10 ^ (j : Int) := le_mul_of_one_le_left (by positivity) hone
    have hlt := h.lt_pow hc.lt
    have hle : (2 : ℚ) ^ (53 + e) ≤ 2 ^ (1024 : Int) := zpow_le_zpow_right₀ (by norm_num) (by omega)
    linarith
  · by_contra hsmall
    obtain ⟨j, rfl⟩ : ∃ j : Nat, k = -j := ⟨(-k).toNat, by omega⟩
    have hself : (n : ℚ) < 2 ^ (n.log2 + 1) := by exact_mod_cast Nat.lt_log2_self
    have hle : (n : ℚ) * 10 ^ (-j : Int) < 2 ^ (-1075 : Int) := by
      calc (n : ℚ) * 10 ^ (-j : Int) < 2 ^ (n.log2 + 1) * 10 ^ (-j : Int) :=
            mul_lt_mul_of_pos_right hself (by positivity)
        _ ≤ 2 ^ (n.log2 + 1) * 2 ^ (-j : Int) := by
            refine mul_le_mul_of_nonneg_left ?_ (by positivity)
            rw [zpow_neg, zpow_neg, zpow_natCast, zpow_natCast]
            exact inv_anti₀ (by positivity) two_zpow_le_ten
        _ = 2 ^ ((n.log2 + 1 : Nat) + -j : Int) := by
            rw [zpow_add₀ (by norm_num), zpow_natCast]
        _ ≤ 2 ^ (-1075 : Int) := zpow_le_zpow_right₀ (by norm_num) (by omega)
    have hge := h.least_le hc
    linarith

private theorem ofScientific_of_near {m : Nat} {e : Int} (hc : Canonical m e) {n : Nat} {k : Int}
    (hn : 0 < n) (hk : k ≤ 2 ^ 11 ∧ -(2 ^ 11 + (n.log2 : Int)) ≤ k) (h : Near m e (n * 10 ^ k)) :
    UnpackedFloat.ofScientific Format.binary64 n k = .finite .positive m e hc.pos := by
  obtain ⟨hlarge, hsmall⟩ := hk
  rw [UnpackedFloat.ofScientific, dif_neg hn.ne', if_neg (not_lt.mpr hlarge),
    if_neg (not_lt.mpr hsmall)]
  split
  · obtain ⟨j, rfl⟩ : ∃ j : Nat, k = j := ⟨k.toNat, by omega⟩
    have hbits : (Format.binary64.mantissaBits : Int) = 53 := rfl
    have hample : 2 ^ 52 ≤ n <<< Format.binary64.mantissaBits * 10 ^ (j : Int).toNat := by
      rw [Nat.shiftLeft_eq]
      have hten : 0 < 10 ^ (j : Int).toNat := Nat.pow_pos (by decide)
      calc 2 ^ 52 ≤ 1 * 2 ^ 53 * 1 := by decide
        _ ≤ n * 2 ^ 53 * 10 ^ (j : Int).toNat := Nat.mul_le_mul (Nat.mul_le_mul_right _ hn) hten
    refine mul_of_near hc _ _ (.inl hample) ?_
    rw [amount, amount, Nat.shiftLeft_eq, hbits, Int.toNat_natCast]
    rw [zpow_natCast] at h
    push_cast
    convert h using 1
    change (n : ℚ) * 2 ^ 53 * 2 ^ (-53 : Int) * _ = _
    norm_num
    ring
  · obtain ⟨j, rfl⟩ : ∃ j : Nat, k = -j := ⟨(-k).toNat, by omega⟩
    refine div_of_near hc _ _ ?_
    rw [amount, amount, neg_neg, Int.toNat_natCast]
    rw [zpow_neg, zpow_natCast, ← div_eq_mul_inv] at h
    simpa using h

/-- A mantissa that is shorter than 53 bits is made 53 bits long. -/
theorem widened_bounds {n : Nat} (hn : 0 < n) (hlt : n < 2 ^ 53) :
    2 ^ 52 ≤ n * 2 ^ (52 - n.log2) ∧ n * 2 ^ (52 - n.log2) < 2 ^ 53 := by
  have hlog : n.log2 < 53 := (Nat.log2_lt hn.ne').mpr hlt
  constructor
  · calc 2 ^ 52 = 2 ^ n.log2 * 2 ^ (52 - n.log2) := by rw [← Nat.pow_add]; congr 1; omega
      _ ≤ n * 2 ^ (52 - n.log2) := Nat.mul_le_mul_right _ (two_pow_log2_le hn)
  · calc n * 2 ^ (52 - n.log2) < 2 ^ (n.log2 + 1) * 2 ^ (52 - n.log2) :=
          Nat.mul_lt_mul_of_pos_right Nat.lt_log2_self (Nat.two_pow_pos _)
      _ = 2 ^ 53 := by rw [← Nat.pow_add]; congr 1; omega

/-- A whole number of 53 bits at most is a floating-point number. -/
private theorem exists_unpack_toFloat {n : Nat} (hn : 0 < n) (hlt : n < 2 ^ 53) :
    ∃ m e, ∃ hm : 0 < m, n.toUInt64.toFloat.toModel.unpack = .finite .positive m e hm ∧
      2 ^ 52 ≤ m ∧ amount m e = n := by
  have hlog : n.log2 < 53 := (Nat.log2_lt hn.ne').mpr hlt
  obtain ⟨hfull, hmantissa⟩ := widened_bounds hn hlt
  have hc : Canonical (n * 2 ^ (52 - n.log2)) (n.log2 - 52) :=
    ⟨by omega, hmantissa, by omega, .inl hfull⟩
  have hamount : amount (n * 2 ^ (52 - n.log2)) (n.log2 - 52) = n := by
    have hneg : (n.log2 : Int) - 52 = -((52 - n.log2 : Nat) : Int) := by omega
    rw [amount, hneg, zpow_neg, zpow_natCast]
    push_cast
    exact mul_inv_cancel_right₀ (by positivity) _
  have hround : UnpackedFloat.ofUInt64 Format.binary64 n.toUInt64 =
      .finite .positive (n * 2 ^ (52 - n.log2)) (n.log2 - 52) hc.pos := by
    have htoNat : n.toUInt64.toNat = n := Nat.mod_eq_of_lt (by omega)
    have hcompare : compare (n : Int) 0 = .gt := Int.compare_eq_gt.mpr (by omega)
    have hshift : (0 - max ((n.log2 : Int) + 0 - 52) (-1074)).toNat = 52 - n.log2 := by omega
    have hexponent : (0 : Int) - ((52 - n.log2 : Nat) : Int) = n.log2 - 52 := by omega
    simp only [UnpackedFloat.ofUInt64, UnpackedFloat.ofNat, UnpackedFloat.ofInt,
      UnpackedFloat.normalize, htoNat, hcompare, Int.toNat_natCast, UnpackedFloat.round,
      decreaseExponent, target_eq, hshift, hexponent, Nat.shiftLeft_eq]
    refine roundWithAccuracy_of_near .positive hc (tells_exact _) (.inl hfull) ?_
    exact near_amount
  refine ⟨_, _, hc.pos, ?_, hfull, hamount⟩
  change UnpackedFloat.unpack _ (UnpackedFloat.pack _ (UnpackedFloat.ofUInt64 _ _)) = _
  rw [hround, unpack_pack _ hc (by omega)]

/-- Whether a number is the given power of ten, in all 53 bits. -/
private def isPowerOfTen (x : Float) (n : Nat) : Bool :=
  match x.toModel.unpack with
  | .finite .positive m e _ => 2 ^ 52 ≤ m && m * 2 ^ e.toNat == 10 ^ n * 2 ^ (-e).toNat
  | _ => false

private theorem isPowerOfTen_table :
    ∀ i (_ : i < Float.exactlyRepresentablePowersOfTen.size),
      isPowerOfTen Float.exactlyRepresentablePowersOfTen[i] i = true := by
  decide +kernel

private theorem unpack_of_isPowerOfTen {x : Float} {n : Nat} (h : isPowerOfTen x n = true) :
    ∃ m e, ∃ hm : 0 < m, x.toModel.unpack = .finite .positive m e hm ∧ 2 ^ 52 ≤ m ∧
      amount m e = 10 ^ n := by
  rw [isPowerOfTen] at h
  split at h
  · rename_i m e hm hx
    simp only [Bool.and_eq_true, decide_eq_true_eq, beq_iff_eq] at h
    refine ⟨m, e, hm, hx, h.1, ?_⟩
    have hvalue : (m : ℚ) * 2 ^ e.toNat = 10 ^ n * 2 ^ (-e).toNat := by exact_mod_cast h.2
    rw [amount, two_zpow_eq, ← mul_div_assoc, hvalue, mul_div_cancel_right₀ _ (by positivity)]
  · cases h

/-- What is read for a decimal without a sign. -/
private theorem floatOfScientific_of_near {m : Nat} {e : Int} (hc : Canonical m e) {n : Nat}
    {k : Int} (hn : 0 < n) (hk : k ≤ 2 ^ 11 ∧ -(2 ^ 11 + (n.log2 : Int)) ≤ k)
    (h : Near m e (n * 10 ^ k)) :
    Float.ofScientific n (k < 0) k.natAbs = .ofModel (.pack (.finite .positive m e hc.pos)) := by
  rw [Float.ofScientific]
  split
  · rename_i hsmall
    obtain ⟨p, f, hp, hunpack, hfull, hvalue⟩ := exists_unpack_toFloat hn hsmall.1
    have hindex : k.natAbs < Float.exactlyRepresentablePowersOfTen.size := by
      have hsize : Float.exactlyRepresentablePowersOfTen.size = 23 := rfl
      omega
    obtain ⟨q, g, hq, hpower, -, hten⟩ :=
      unpack_of_isPowerOfTen (isPowerOfTen_table k.natAbs hindex)
    by_cases hneg : k < 0
    · have hnear : Near m e (amount p f / amount q g) := by
        rw [hvalue, hten, div_eq_mul_inv, ← zpow_natCast, ← zpow_neg]
        rwa [show -(k.natAbs : Int) = k by omega]
      simp only [hneg, decide_true, if_true]
      change Float.ofModel (Float.Model.pack (UnpackedFloat.div _ (Float.Model.unpack _)
        Float.exactlyRepresentablePowersOfTen[k.natAbs].toModel.unpack)) = _
      rw [hunpack, hpower, div_of_near hc hp hq hnear]
    · have hnear : Near m e (amount p f * amount q g) := by
        rw [hvalue, hten, ← zpow_natCast]
        rwa [show (k.natAbs : Int) = k by omega]
      have hample : 2 ^ 52 ≤ p * q := le_trans hfull (Nat.le_mul_of_pos_right p hq)
      simp only [hneg, decide_false, Bool.false_eq_true, if_false]
      change Float.ofModel (Float.Model.pack (UnpackedFloat.mul _ (Float.Model.unpack _)
        Float.exactlyRepresentablePowersOfTen[k.natAbs].toModel.unpack)) = _
      rw [hunpack, hpower, mul_of_near hc hp hq (.inl hample) hnear]
  · have hexponent : (if decide (k < 0) = true then Int.negOfNat k.natAbs
        else Int.ofNat k.natAbs) = k := by
      split
      · rename_i hneg
        rw [Int.negOfNat_eq]
        have := of_decide_eq_true hneg
        change -(k.natAbs : Int) = k
        omega
      · rename_i hneg
        have := mt decide_eq_true hneg
        change (k.natAbs : Int) = k
        omega
    change Float.ofModel (Float.Model.pack (UnpackedFloat.ofScientific _ n _)) = _
    rw [hexponent, ofScientific_of_near hc hn hk h]

/-- The number nearest to a decimal is the one that the decimal is near to. -/
theorem nearest_of_near (negative : Bool) {m : Nat} {e : Int} (hc : Canonical m e) (he : e ≤ 971)
    {n : Nat} {k : Int} (hn : 0 < n) (h : Near m e (n * 10 ^ k)) :
    Decimal.nearest negative n k =
      .ofModel (.pack (.finite (signOf negative) m e hc.pos)) := by
  have hread := floatOfScientific_of_near hc hn (exponent_bounds hc he hn h) h
  rw [Decimal.nearest, hread]
  cases negative with
  | false => rfl
  | true =>
    change Float.ofModel
      (Float.Model.pack (UnpackedFloat.unpack _ (UnpackedFloat.pack _ _)).neg) = _
    rw [unpack_pack _ hc he]
    rfl

/-- A whole number near to one that is too large for the greatest exponent is read as infinite. -/
theorem nearest_of_large (negative : Bool) {m : Nat} {e : Int} (hc : Canonical m e) (he : 971 < e)
    {n : Nat} (hn : 0 < n) (h : Near m e n) : Decimal.nearest negative n 0 = infinity negative := by
  have hread := floatOfScientific_of_near (k := 0) hc hn ⟨by decide, by omega⟩ (by simpa using h)
  rw [Decimal.nearest, hread, pack_of_large .positive hc.pos he]
  cases negative <;> decide +kernel

theorem nearest_zero (negative : Bool) :
    Decimal.nearest negative 0 (-1) = .ofModel (.pack (.zero (signOf negative))) := by
  cases negative <;> decide +kernel

end Dialogue.Binary64
