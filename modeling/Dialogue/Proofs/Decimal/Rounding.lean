import Mathlib
import Dialogue.Decimal.Binary64

/-! Rounding to floating-point numbers. A rational number is rounded to the floating-point number
that it is nearest to; at a halfway point the even mantissa counts. -/
namespace Dialogue.Binary64
open Float.Model Float.Model.UnpackedFloat

/-- A mantissa with its two residual bits tells a rational number as far as rounding needs it. -/
def Tells (em : ExtendedMantissa) (r : ℚ) : Prop :=
  match em.roundBit, em.stickyBit with
  | false, false => r = em.mantissa
  | false, true => em.mantissa < r ∧ r < em.mantissa + 1 / 2
  | true, false => r = em.mantissa + 1 / 2
  | true, true => em.mantissa + 1 / 2 < r ∧ r < em.mantissa + 1

private theorem Tells.bounds {em : ExtendedMantissa} {r : ℚ} (h : Tells em r) :
    em.mantissa ≤ r ∧ r < em.mantissa + 1 := by
  obtain ⟨m, a, b⟩ := em
  cases a <;> cases b <;> simp only [Tells] at h ⊢ <;> constructor <;> linarith

private theorem Tells.shiftRightOne {em : ExtendedMantissa} {r : ℚ} (h : Tells em r) :
    Tells em.shiftRightOne (r / 2) := by
  obtain ⟨m, a, b⟩ := em
  obtain ⟨k, rfl | rfl⟩ : ∃ k, m = 2 * k ∨ m = 2 * k + 1 := ⟨m / 2, by omega⟩
  · have hhalf : 2 * k / 2 = k := by omega
    have hbit : (2 * k % 2 != 0) = false := by simp
    cases a <;> cases b <;> simp only [Tells, ExtendedMantissa.shiftRightOne, hhalf, hbit,
      Bool.or_false, Bool.or_true, Nat.cast_mul, Nat.cast_ofNat] at h ⊢ <;>
      first | linarith | constructor <;> linarith
  · have hhalf : (2 * k + 1) / 2 = k := by omega
    have hbit : ((2 * k + 1) % 2 != 0) = true := by simp [Nat.add_mod]
    cases a <;> cases b <;> simp only [Tells, ExtendedMantissa.shiftRightOne, hhalf, hbit,
      Bool.or_false, Bool.or_true, Nat.cast_add, Nat.cast_mul, Nat.cast_ofNat, Nat.cast_one]
      at h ⊢ <;> first | linarith | constructor <;> linarith

private theorem Tells.shiftRight {em : ExtendedMantissa} {r : ℚ} (h : Tells em r) (n : Nat) :
    Tells (em >>> n) (r / 2 ^ n) := by
  change Tells (n.repeat ExtendedMantissa.shiftRightOne em) _
  induction n with
  | zero => simpa [Nat.repeat] using h
  | succ n ih =>
    rw [Nat.repeat, pow_succ, ← div_div]
    exact ih.shiftRightOne

/-- What is rounded to a whole number lies no more than one half away, and at one half only from
an even one. -/
def Around (n : Nat) (r : ℚ) : Prop :=
  n - 1 / 2 ≤ r ∧ r ≤ n + 1 / 2 ∧ (n % 2 = 0 ∨ (n - 1 / 2 < r ∧ r < n + 1 / 2))

private theorem roundedMantissa_of_around {em : ExtendedMantissa} {r : ℚ} (h : Tells em r) {n : Nat}
    (hn : Around n r) : em.roundedMantissa = n := by
  obtain ⟨hlow, hhigh, htie⟩ := hn
  have hle : (em.mantissa : ℚ) < n + 1 := by linarith [h.bounds.1]
  have hge : (n : ℚ) < em.mantissa + 2 := by linarith [h.bounds.2]
  have hle : em.mantissa < n + 1 := by exact_mod_cast hle
  have hge : n < em.mantissa + 2 := by exact_mod_cast hge
  obtain ⟨m, a, b⟩ := em
  simp only at hle hge
  obtain rfl | rfl : n = m ∨ n = m + 1 := by omega
  all_goals
    cases a <;> cases b <;> simp only [Tells, ExtendedMantissa.roundedMantissa,
      ExtendedMantissa.accuracy, Accuracy.roundToNearestEven, Nat.cast_add, Nat.cast_one] at *
  · rcases htie with heven | ⟨-, hstrict⟩
    · omega
    · linarith
  · linarith
  · linarith
  · linarith
  · rcases htie with heven | ⟨hstrict, -⟩
    · omega
    · linarith

/-- The form of a positive mantissa and its exponent: all 53 bits are used, unless the exponent
is the least one. -/
structure Canonical (m : Nat) (e : Int) : Prop where
  pos : 0 < m
  lt : m < 2 ^ 53
  least : -1074 ≤ e
  full : 2 ^ 52 ≤ m ∨ e = -1074

/-- A whole mantissa tells all 53 bits of a number, or all that the least exponent leaves of it. -/
def Ample (m : Nat) (e : Int) : Prop := 2 ^ 52 ≤ m ∨ e ≤ -1074

theorem target_eq (m : Nat) (e : Int) :
    Format.binary64.targetExponent (totalExponent m e) = max (m.log2 + e - 52) (-1074) := by
  simp only [Format.targetExponent, totalExponent, Format.mantissaBits, Format.minExponent]
  norm_num
  omega

private theorem le_target {m : Nat} {e : Int} (h : Ample m e) :
    e ≤ Format.binary64.targetExponent (totalExponent m e) := by
  rw [target_eq]
  rcases h with hm | he
  · have hlog : 52 ≤ m.log2 := (Nat.le_log2 (by omega)).mpr hm
    omega
  · omega

private theorem zpow_lt_iff {a b : Int} : (2 : ℚ) ^ a < 2 ^ b ↔ a < b :=
  zpow_lt_zpow_iff_right₀ (by norm_num)

/-- The exponent to which a number is rounded, told by the size of the number. -/
private theorem target_of_bounds {m : Nat} {e t : Int} {r : ℚ} (hr : m ≤ r ∧ r < m + 1)
    (hm : Ample m e) (ht : -1074 ≤ t) (hlow : 2 ^ (52 + t) ≤ r * 2 ^ e ∨ t = -1074)
    (hhigh : r * 2 ^ e < 2 ^ (53 + t)) :
    Format.binary64.targetExponent (totalExponent m e) = t := by
  have htwo : (2 : ℚ) ≠ 0 := by norm_num
  have hscale : (0 : ℚ) < 2 ^ e := by positivity
  rw [target_eq]
  have hupper : m.log2 + e - 52 ≤ t := by
    by_cases hzero : m = 0
    · subst hzero
      rcases hm with hm | he
      · omega
      · rw [Nat.log2_zero]; omega
    · have hlog : (2 : ℚ) ^ ((m.log2 : Int) + e) < 2 ^ (53 + t) := by
        have hself : ((2 ^ m.log2 : Nat) : ℚ) ≤ r :=
          le_trans (by exact_mod_cast Nat.log2_self_le hzero) hr.1
        rw [zpow_add₀ htwo, zpow_natCast]
        push_cast at hself
        exact lt_of_le_of_lt (mul_le_mul_of_nonneg_right hself hscale.le) hhigh
      have := zpow_lt_iff.mp hlog
      omega
  have hlower : t ≤ m.log2 + e - 52 ∨ t = -1074 := by
    refine hlow.imp_left fun hlow => ?_
    have hlog : (2 : ℚ) ^ (52 + t) < 2 ^ ((m.log2 + 1 : Nat) + e) := by
      have hself : r < ((2 ^ (m.log2 + 1) : Nat) : ℚ) :=
        lt_of_lt_of_le hr.2 (by exact_mod_cast Nat.lt_log2_self)
      rw [zpow_add₀ htwo (_ : Int) e, zpow_natCast]
      push_cast at hself
      exact lt_of_le_of_lt hlow (mul_lt_mul_of_pos_right hself hscale)
    have := zpow_lt_iff.mp hlog
    omega
  omega

private theorem shift_exact {m : Nat} {e : Int} (hm : m < 2 ^ 53) (he : -1074 ≤ e) :
    shiftToTargetExponent Format.binary64 m e .exact = (⟨m, false, false⟩, e) := by
  have hlog : m.log2 ≤ 52 := by
    by_cases h : m = 0
    · simp [h]
    · have := (Nat.log2_lt h).mpr hm
      omega
  have hzero : (Format.binary64.targetExponent (totalExponent m e) - e).toNat = 0 := by
    rw [target_eq]
    omega
  simp [shiftToTargetExponent, shiftToExponent, hzero, HShiftRight.hShiftRight, Nat.repeat,
    ExtendedMantissa.ofMantissaAndAccuracy]

/-- A mantissa that rounding has made one bit too long loses a zero. -/
private theorem shift_carry {e : Int} (he : -1074 ≤ e) :
    shiftToTargetExponent Format.binary64 (2 ^ 53) e .exact = (⟨2 ^ 52, false, false⟩, e + 1) := by
  have hone : (Format.binary64.targetExponent (totalExponent (2 ^ 53) e) - e).toNat = 1 := by
    rw [target_eq, Nat.log2_two_pow]
    omega
  simp only [shiftToTargetExponent, shiftToExponent, hone]
  rfl

/-- The first of the two shifts of rounding, and the rounding of the mantissa after it. -/
private theorem first_shift {m : Nat} {e : Int} {a : Accuracy} {r : ℚ}
    (hr : Tells (.ofMantissaAndAccuracy m a) r) (hm : Ample m e) {t : Int} {n : Nat}
    (ht : Format.binary64.targetExponent (totalExponent m e) = t)
    (hn : Around n (r * 2 ^ (e - t))) :
    (shiftToTargetExponent Format.binary64 m e a).1.roundedMantissa = n ∧
      (shiftToTargetExponent Format.binary64 m e a).2 = t := by
  have hle := le_target hm
  rw [ht] at hle
  obtain ⟨k, hk⟩ : ∃ k : Nat, t - e = k := ⟨(t - e).toNat, by omega⟩
  have hscale : r * (2 : ℚ) ^ (e - t) = r / 2 ^ k := by
    rw [show e - t = -(k : Int) by omega, zpow_neg, zpow_natCast, div_eq_mul_inv]
  simp only [shiftToTargetExponent, ht, shiftToExponent, hk, Int.toNat_natCast]
  refine ⟨roundedMantissa_of_around (hr.shiftRight k) (hscale ▸ hn), by omega⟩

/-- How far below `m * 2 ^ e` the numbers lie that are rounded to it, in units of `2 ^ e`: below a
power of two the numbers lie twice as dense. -/
def reach (m : Nat) (e : Int) : ℚ := if m = 2 ^ 52 ∧ e ≠ -1074 then 1 / 4 else 1 / 2

/-- The numbers that are rounded to `m * 2 ^ e`. -/
structure Near (m : Nat) (e : Int) (x : ℚ) : Prop where
  low : (m - reach m e) * 2 ^ e ≤ x
  high : x ≤ (m + 1 / 2) * 2 ^ e
  tie : m % 2 = 0 ∨ ((m - reach m e) * 2 ^ e < x ∧ x < (m + 1 / 2) * 2 ^ e)

private theorem reach_le (m : Nat) (e : Int) : reach m e ≤ 1 / 2 := by
  rw [reach]
  split <;> norm_num

theorem reach_pos (m : Nat) (e : Int) : 0 < reach m e := by
  rw [reach]
  split <;> norm_num

private theorem Near.around {m : Nat} {e : Int} {x : ℚ} (h : Near m e x) :
    Around m (x * 2 ^ (-e)) := by
  have hscale : (0 : ℚ) < 2 ^ e := by positivity
  have hreach := reach_le m e
  rw [zpow_neg, ← div_eq_mul_inv]
  refine ⟨?_, ?_, h.tie.imp_right fun ⟨hlow, hhigh⟩ => ⟨?_, ?_⟩⟩
  · rw [le_div_iff₀ hscale]
    exact le_trans (mul_le_mul_of_nonneg_right (by linarith) hscale.le) h.low
  · rw [div_le_iff₀ hscale]
    exact h.high
  · rw [lt_div_iff₀ hscale]
    exact lt_of_le_of_lt (mul_le_mul_of_nonneg_right (by linarith) hscale.le) hlow
  · rw [div_lt_iff₀ hscale]
    exact hhigh

/-- Numbers below a power of two, but not by much, are rounded up to it. -/
private theorem Near.around_carry {m : Nat} {e : Int} {x : ℚ} (h : Near m e x) (hm : m = 2 ^ 52)
    (he : e ≠ -1074) (hx : x < 2 ^ (52 + e)) : Around (2 ^ 53) (x * 2 ^ (-(e - 1))) := by
  have htwo : (2 : ℚ) ≠ 0 := by norm_num
  have hscale : (0 : ℚ) < 2 ^ (e - 1) := by positivity
  have hdouble : (2 : ℚ) ^ e = 2 * 2 ^ (e - 1) := by
    rw [← zpow_one_add₀ htwo]
    congr 1
    omega
  have hlow := h.low
  rw [reach, if_pos ⟨hm, he⟩, hm, hdouble] at hlow
  rw [zpow_add₀ htwo, hdouble] at hx
  push_cast at hlow
  norm_num at hlow hx
  rw [zpow_neg, ← div_eq_mul_inv]
  refine ⟨?_, ?_, .inl (by norm_num)⟩
  · rw [le_div_iff₀ hscale]
    norm_num
    linarith
  · rw [div_le_iff₀ hscale]
    norm_num
    linarith

theorem Near.lt_pow {m : Nat} {e : Int} {x : ℚ} (h : Near m e x) (hm : m < 2 ^ 53) :
    x < 2 ^ (53 + e) := by
  have hscale : (0 : ℚ) < 2 ^ e := by positivity
  have hm : (m : ℚ) + 1 ≤ 2 ^ 53 := by exact_mod_cast hm
  rw [zpow_add₀ (by norm_num)]
  refine lt_of_le_of_lt h.high (mul_lt_mul_of_pos_right ?_ hscale)
  norm_num at hm ⊢
  linarith

theorem Near.least_le {m : Nat} {e : Int} {x : ℚ} (h : Near m e x) (hc : Canonical m e) :
    2 ^ (-1075 : Int) ≤ x := by
  have hm : (1 : ℚ) ≤ m := by exact_mod_cast hc.pos
  have hreach := reach_le m e
  calc (2 : ℚ) ^ (-1075 : Int) = 1 / 2 * 2 ^ (-1074 : Int) := by
        rw [show (-1075 : Int) = -1 + -1074 by rfl, zpow_add₀ (by norm_num)]
        norm_num
    _ ≤ 1 / 2 * 2 ^ e := by
        exact mul_le_mul_of_nonneg_left (zpow_le_zpow_right₀ (by norm_num) hc.least) (by norm_num)
    _ ≤ (m - reach m e) * 2 ^ e := mul_le_mul_of_nonneg_right (by linarith) (by positivity)
    _ ≤ x := h.low

/-- Only a power of two has numbers near to it that have a smaller exponent of their own. -/
private theorem Near.eq_pow {m : Nat} {e : Int} {x : ℚ} (h : Near m e x) (hm : 2 ^ 52 ≤ m)
    (hx : x < 2 ^ (52 + e)) : m = 2 ^ 52 := by
  have hscale : (0 : ℚ) < 2 ^ e := by positivity
  have hreach := reach_le m e
  rw [zpow_add₀ (by norm_num)] at hx
  have hlt : (m : ℚ) - reach m e < 2 ^ 52 :=
    lt_of_mul_lt_mul_right (lt_of_le_of_lt h.low hx) hscale.le
  have hlt : (m : ℚ) < (2 ^ 52 + 1 : Nat) := by
    push_cast
    linarith
  have hlt : m < 2 ^ 52 + 1 := by exact_mod_cast hlt
  omega

private theorem Near.pow_le {m : Nat} {e : Int} {x : ℚ} (h : Near m e x) (hm : m = 2 ^ 52) :
    2 ^ (52 + (e - 1)) ≤ x := by
  have hscale : (0 : ℚ) < 2 ^ e := by positivity
  have hreach := reach_le m e
  have hm : (m : ℚ) = 2 ^ 52 := by exact_mod_cast hm
  rw [show 52 + (e - 1) = 51 + e by omega, zpow_add₀ (by norm_num)]
  refine le_trans (mul_le_mul_of_nonneg_right ?_ hscale.le) h.low
  norm_num at hm ⊢
  linarith

/-- After the first shift there is a second one, by one bit if at all. -/
private theorem roundWithAccuracy_of_first (s : Sign) {n : Nat} {f : Int} {a : Accuracy} {m : Nat}
    {t : Int} (hfirst : (shiftToTargetExponent Format.binary64 n f a).1.roundedMantissa = m ∧
      (shiftToTargetExponent Format.binary64 n f a).2 = t) {k : Nat} {e : Int} (hk : 0 < k)
    (hsecond : shiftToTargetExponent Format.binary64 m t .exact = (⟨k, false, false⟩, e)) :
    roundWithAccuracy Format.binary64 s n f a = .finite s k e hk := by
  rw [roundWithAccuracy]
  simp only [hfirst.1, hfirst.2, hsecond, dif_neg hk.ne']

/-- A number is rounded to the floating-point number that it is near to. -/
theorem roundWithAccuracy_of_near (s : Sign) {m : Nat} {e : Int} (hc : Canonical m e) {n : Nat}
    {f : Int} {a : Accuracy} {r : ℚ} (hr : Tells (.ofMantissaAndAccuracy n a) r) (hn : Ample n f)
    (hx : Near m e (r * 2 ^ f)) :
    roundWithAccuracy Format.binary64 s n f a = .finite s m e hc.pos := by
  have hbounds : (n : ℚ) ≤ r ∧ r < n + 1 := by
    have hmantissa : (ExtendedMantissa.ofMantissaAndAccuracy n a).mantissa = n := by
      rcases a with _ | (_ | _ | _) <;> rfl
    exact hmantissa ▸ hr.bounds
  have hscale (t : Int) : r * 2 ^ (f - t) = r * 2 ^ f * 2 ^ (-t) := by
    rw [mul_assoc, ← zpow_add₀ (by norm_num), sub_eq_add_neg]
  by_cases hlow : 2 ^ (52 + e) ≤ r * 2 ^ f ∨ e = -1074
  · have htarget := target_of_bounds hbounds hn hc.least hlow (hx.lt_pow hc.lt)
    have hfirst := first_shift hr hn htarget (hscale e ▸ hx.around)
    exact roundWithAccuracy_of_first s hfirst hc.pos (shift_exact hc.lt hc.least)
  · obtain ⟨hlow, he⟩ := not_or.mp hlow
    have hleast := hc.least
    have hm := hx.eq_pow (hc.full.resolve_right he) (not_le.mp hlow)
    have hhigh : r * 2 ^ f < 2 ^ (53 + (e - 1)) := by
      rw [show 53 + (e - 1) = 52 + e by omega]
      exact not_le.mp hlow
    have htarget := target_of_bounds hbounds hn (by omega) (.inl (hx.pow_le hm)) hhigh
    have hfirst := first_shift hr hn htarget
      (hscale (e - 1) ▸ hx.around_carry hm he (not_le.mp hlow))
    have hsecond := shift_carry (e := e - 1) (by omega)
    rw [sub_add_cancel] at hsecond
    subst hm
    exact roundWithAccuracy_of_first s hfirst hc.pos hsecond

end Dialogue.Binary64
