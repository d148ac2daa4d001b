import Dialogue.Proofs.Decimal.Nearest
import Dialogue.Proofs.Decimal.Numerals
import Dialogue.Value.Magnitude

/-! What becomes of a whole number that is read as a floating-point number from its numeral: it is
rounded, and kept only if 53 bits are enough for it. -/
namespace Dialogue

namespace Binary64

/-- Whatever has 53 bits in front is a floating-point number, if its exponent may be that large. -/
theorem exists_canonical {c : Nat} (hc : 0 < c) (hlt : c < 2 ^ 53) (k : Nat) :
    ∃ m e, Canonical m e ∧ 2 ^ 52 ≤ m ∧ amount m e = c * 2 ^ k := by
  obtain ⟨hfull, hshort⟩ := widened_bounds hc hlt
  refine ⟨_, k - (52 - c.log2 : Nat), ⟨by omega, hshort, by omega, .inl hfull⟩, hfull, ?_⟩
  rw [amount, zpow_sub₀ (by norm_num), zpow_natCast, zpow_natCast]
  push_cast
  field_simp

section
variable {q rest k : Nat}

/-- The bits after the first 53 are left out if they make up less than one half, or one half after
an even mantissa. -/
private theorem near_below (h : 2 * rest < 2 ^ k ∨ 2 * rest = 2 ^ k ∧ q % 2 = 0) :
    Near q k ((q * 2 ^ k + rest : Nat) : ℚ) := by
  have hreach := mul_pos (reach_pos q k) (by positivity : (0 : ℚ) < 2 ^ k)
  have hnonneg : (0 : ℚ) ≤ rest := by positivity
  have hle : 2 * (rest : ℚ) ≤ 2 ^ k := by
    have : 2 * rest ≤ 2 ^ k := by omega
    exact_mod_cast this
  refine ⟨?_, ?_, ?_⟩ <;> rw [zpow_natCast] <;> push_cast
  · linarith
  · linarith
  · refine h.symm.imp And.right fun h => ⟨by linarith, ?_⟩
    have : 2 * (rest : ℚ) < 2 ^ k := by exact_mod_cast h
    linarith

/-- Else the mantissa is one larger. A power of two is not what it becomes here, so as many numbers
lie near to it below as above. -/
private theorem near_above (hrest : rest < 2 ^ k) (hfull : 2 ^ 52 ≤ q)
    (h : 2 ^ k < 2 * rest ∨ 2 * rest = 2 ^ k ∧ q % 2 = 1) :
    Near (q + 1) k ((q * 2 ^ k + rest : Nat) : ℚ) := by
  have hhalf : reach (q + 1) k = 1 / 2 := if_neg (by omega)
  have hrest : (rest : ℚ) < 2 ^ k := by exact_mod_cast hrest
  have hle : (2 : ℚ) ^ k ≤ 2 * rest := by
    have : 2 ^ k ≤ 2 * rest := by omega
    exact_mod_cast this
  refine ⟨?_, ?_, ?_⟩ <;> rw [zpow_natCast] <;> push_cast
  · rw [hhalf]
    linarith
  · linarith
  · refine h.symm.imp (fun h => by omega) fun h => ⟨?_, by linarith⟩
    have : (2 : ℚ) ^ k < 2 * rest := by exact_mod_cast h
    rw [hhalf]
    linarith

/-- A mantissa of ones only that becomes one larger takes a larger exponent. -/
private theorem near_carried (hrest : rest < 2 ^ k) (hq : q + 1 = 2 ^ 53) (h : 2 ^ k ≤ 2 * rest) :
    Near (2 ^ 52) (k + 1) ((q * 2 ^ k + rest : Nat) : ℚ) := by
  have hrest : (rest : ℚ) < 2 ^ k := by exact_mod_cast hrest
  have hle : (2 : ℚ) ^ k ≤ 2 * rest := by exact_mod_cast h
  have hq : (q : ℚ) = 2 ^ 53 - 1 := by
    rw [eq_sub_iff_add_eq]
    exact_mod_cast hq
  refine ⟨?_, ?_, .inl (by decide)⟩
  all_goals
    rw [zpow_add₀ (by norm_num), zpow_natCast]
    push_cast
    rw [hq]
  · rw [reach, if_pos ⟨rfl, by omega⟩]
    norm_num
    linarith
  · norm_num
    linarith

/-- A whole number that takes more than 53 bits is near to one that has 53 bits in front. -/
private theorem exists_near_of_long (hrest : rest < 2 ^ k) (hfull : 2 ^ 52 ≤ q) (hq : q < 2 ^ 53) :
    ∃ m e, Canonical m e ∧ Near m e ((q * 2 ^ k + rest : Nat) : ℚ) := by
  by_cases hbelow : 2 * rest < 2 ^ k ∨ 2 * rest = 2 ^ k ∧ q % 2 = 0
  · exact ⟨q, k, ⟨by omega, hq, by omega, .inl hfull⟩, near_below hbelow⟩
  · by_cases hcarry : q + 1 = 2 ^ 53
    · exact ⟨2 ^ 52, k + 1, ⟨by decide, by decide, by omega, .inl le_rfl⟩,
        near_carried hrest hcarry (by omega)⟩
    · exact ⟨q + 1, k, ⟨by omega, by omega, by omega, .inl (by omega)⟩,
        near_above hrest hfull (by omega)⟩

end

/-- Every positive whole number is near to some number of 53 bits. -/
theorem exists_near {a : Nat} (ha : 0 < a) : ∃ m e, Canonical m e ∧ Near m e a := by
  by_cases hlong : a < 2 ^ 53
  · obtain ⟨m, e, hc, -, hvalue⟩ := exists_canonical ha hlong 0
    refine ⟨m, e, hc, ?_⟩
    rw [pow_zero, mul_one] at hvalue
    exact hvalue ▸ near_amount
  · have hlog : 53 ≤ a.log2 := (Nat.le_log2 ha.ne').mpr (Nat.le_of_not_lt hlong)
    have hsplit : a = a / 2 ^ (a.log2 - 52) * 2 ^ (a.log2 - 52) + a % 2 ^ (a.log2 - 52) :=
      (Nat.div_add_mod' ..).symm
    have hfull : 2 ^ 52 ≤ a / 2 ^ (a.log2 - 52) := by
      rw [Nat.le_div_iff_mul_le (Nat.two_pow_pos _), ← Nat.pow_add]
      exact le_trans (Nat.pow_le_pow_right (by decide) (by omega)) (Nat.log2_self_le ha.ne')
    have hshort : a / 2 ^ (a.log2 - 52) < 2 ^ 53 := by
      rw [Nat.div_lt_iff_lt_mul (Nat.two_pow_pos _), ← Nat.pow_add]
      exact lt_of_lt_of_le Nat.lt_log2_self (Nat.pow_le_pow_right (by decide) (by omega))
    rw [hsplit]
    exact exists_near_of_long (Nat.mod_lt _ (Nat.two_pow_pos _)) hfull hshort

/-- 53 bits are enough for a whole number, and it is not too large. -/
def Exact (n : Int) : Prop := ∃ c k, c < 2 ^ 53 ∧ n.natAbs = c * 2 ^ k ∧ n.natAbs < 2 ^ 1024

theorem exact_of_le {n : Int} (h : n.natAbs ≤ 2 ^ 53) : Exact n := by
  have hlarge : n.natAbs < 2 ^ 1024 :=
    lt_of_le_of_lt h (pow_lt_pow_right₀ one_lt_two (by decide : 53 < 1024))
  rcases Nat.lt_or_eq_of_le h with hlt | heq
  · exact ⟨n.natAbs, 0, hlt, by rw [pow_zero, mul_one], hlarge⟩
  · exact ⟨1, 53, by decide, by rw [one_mul, heq], hlarge⟩

/-- An exact number has a canonical form of its own, and not only one that it is near to. -/
private theorem Exact.exists_canonical {n : Int} (h : Exact n) (hn : n ≠ 0) :
    ∃ m e, Canonical m e ∧ e ≤ 971 ∧ amount m e = n.natAbs := by
  obtain ⟨c, k, hc, hvalue, hlarge⟩ := h
  have hpos : 0 < c := by
    refine Nat.pos_of_ne_zero fun hzero => ?_
    rw [hzero, Nat.zero_mul] at hvalue
    omega
  obtain ⟨m, e, hcanonical, hfull, hamount⟩ := Binary64.exists_canonical hpos hc k
  have hsame : amount m e = n.natAbs := by
    rw [hamount, hvalue]
    push_cast
    rfl
  refine ⟨m, e, hcanonical, ?_, hsame⟩
  have hfull : (2 : ℚ) ^ 52 ≤ m := by exact_mod_cast hfull
  have hlarge : (n.natAbs : ℚ) < 2 ^ 1024 := by exact_mod_cast hlarge
  have hlt : (2 : ℚ) ^ ((52 : Nat) + e) < 2 ^ ((1024 : Nat) : Int) := by
    rw [zpow_add₀ (by norm_num), zpow_natCast, zpow_natCast]
    refine lt_of_le_of_lt (mul_le_mul_of_nonneg_right hfull (by positivity)) ?_
    rw [← hsame] at hlarge
    exact hlarge
  have := (zpow_lt_zpow_iff_right₀ (by norm_num : (1 : ℚ) < 2)).mp hlt
  omega

end Binary64

namespace Magnitude
open Binary64 (Canonical Near Exact amount)

/-- The place at which a whole number is put as a floating-point number. -/
inductive Rounds (n : Int) : Magnitude → Prop
  | zero (hn : n = 0) : Rounds n (.finite 0 (-1074))
  | within {m : Nat} {e : Int} (hc : Canonical m e) (he : e ≤ 971) (h : Near m e n.natAbs) :
    Rounds n (.finite (n.sign * m) e)
  | beyond {m : Nat} {e : Int} (hc : Canonical m e) (he : 971 < e) (h : Near m e n.natAbs) :
    Rounds n (if n < 0 then .below else .above)

private theorem ofFloat_of_zero {x : Float}
    (hx : Decimal.readFloat? (toString (0 : Int)) = some x) : ofFloat x = .finite 0 (-1074) := by
  rw [Decimal.readFloat?_toString] at hx
  obtain rfl := Option.some.inj hx
  have hzero : Binary64.ofFloat (Decimal.nearest false 0 0) = .finite false 0 (-1074) := by
    decide +kernel
  change ofFloat (Decimal.nearest false 0 0) = _
  rw [ofFloat, hzero]
  rfl

/-- What is read of a numeral, told by what the number is near to. -/
private theorem ofFloat_of_near {n : Int} {x : Float} (hn : n ≠ 0)
    (hx : Decimal.readFloat? (toString n) = some x) {m : Nat} {e : Int} (hc : Canonical m e)
    (h : Near m e n.natAbs) :
    ofFloat x = if e ≤ 971 then .finite (n.sign * m) e else if n < 0 then .below else .above := by
  have hpos : 0 < n.natAbs := Int.natAbs_pos.mpr hn
  rw [Decimal.readFloat?_toString] at hx
  obtain rfl := Option.some.inj hx
  by_cases he : e ≤ 971
  · rw [Binary64.nearest_of_near _ hc he hpos (by simpa using h), ofFloat,
      Binary64.ofFloat_pack _ hc he, if_pos he]
    rcases lt_or_gt_of_ne hn with hneg | hneg
    · simp [hneg, Int.sign_eq_neg_one_of_neg hneg]
    · simp [hneg.not_gt, Int.sign_eq_one_of_pos hneg]
  · rw [Binary64.nearest_of_large _ hc (lt_of_not_ge he) hpos h, ofFloat, Binary64.ofFloat_infinity,
      if_neg he]
    simp

/-- A whole number is read from its numeral, and rounded. -/
theorem exists_rounds (n : Int) :
    ∃ x, Decimal.readFloat? (toString n) = some x ∧ Rounds n (ofFloat x) := by
  refine ⟨_, Decimal.readFloat?_toString n, ?_⟩
  by_cases hn : n = 0
  · subst hn
    rw [ofFloat_of_zero (Decimal.readFloat?_toString 0)]
    exact .zero rfl
  · obtain ⟨m, e, hc, h⟩ := Binary64.exists_near (Int.natAbs_pos.mpr hn)
    rw [ofFloat_of_near hn (Decimal.readFloat?_toString n) hc h]
    by_cases he : e ≤ 971
    · rw [if_pos he]
      exact .within hc he h
    · rw [if_neg he]
      exact .beyond hc (lt_of_not_ge he) h

theorem compare_finite_whole (a e n : Int) : compare (.finite a e) (.finite n 0) =
    some (Ord.compare (a * 2 ^ e.toNat) (n * 2 ^ (-e).toNat)) := by
  have hleft : (e - min e 0).toNat = e.toNat := by omega
  have hright : (0 - min e 0).toNat = (-e).toNat := by omega
  simp only [compare, hleft, hright, Nat.pow_eq]
  push_cast
  rfl

theorem compare_finite_eq_iff {a e n : Int} :
    compare (.finite a e) (.finite n 0) = some .eq ↔ a * 2 ^ e.toNat = n * 2 ^ (-e).toNat := by
  rw [compare_finite_whole, Option.some.injEq, Int.compare_eq_eq]

/-- What stands at the place of a whole number compares as it does. -/
theorem compare_of_eq {p : Magnitude} {n : Int} (h : p.compare (.finite n 0) = some .eq) (m : Int) :
    p.compare (.finite m 0) = some (Ord.compare n m) := by
  cases p with
  | nan | below | above => cases h
  | finite a e =>
    have hscale : (0 : Int) < 2 ^ (-e).toNat := Int.pow_pos (by decide)
    rw [compare_finite_whole, compare_finite_eq_iff.mp h, ← cmp_eq_compare, ← cmp_eq_compare,
      cmp_mul_pos_right hscale]

private theorem compare_signed_iff {n : Int} (hn : n ≠ 0) (m : Nat) (e : Int) :
    compare (.finite (n.sign * m) e) (.finite n 0) = some .eq ↔
      m * 2 ^ e.toNat = n.natAbs * 2 ^ (-e).toNat := by
  have hsign : n.sign ≠ 0 := mt Int.sign_eq_zero_iff_zero.mp hn
  rw [compare_finite_eq_iff]
  nth_rewrite 2 [← Int.sign_mul_natAbs n]
  rw [Int.mul_assoc, Int.mul_assoc, mul_right_inj' hsign]
  exact_mod_cast Iff.rfl

/-- Only an exact number is found where it is put. -/
private theorem Rounds.exact {n : Int} {p : Magnitude} (h : Rounds n p)
    (hsame : p.compare (.finite n 0) = some .eq) : Exact n := by
  by_cases hn : n = 0
  · exact Binary64.exact_of_le (by simp [hn])
  cases h with
  | zero h => exact absurd h hn
  | @within m e hc he hnear =>
    have hvalue := (compare_signed_iff hn m e).mp hsame
    have hm := hc.lt
    by_cases hwhole : 0 ≤ e
    · have hexponent : 53 + e.toNat ≤ 1024 := by omega
      rw [show (-e).toNat = 0 by omega, pow_zero, mul_one] at hvalue
      refine ⟨m, e.toNat, hm, hvalue.symm, ?_⟩
      calc n.natAbs = m * 2 ^ e.toNat := hvalue.symm
        _ < 2 ^ 53 * 2 ^ e.toNat := Nat.mul_lt_mul_of_pos_right hm (Nat.two_pow_pos _)
        _ = 2 ^ (53 + e.toNat) := (pow_add ..).symm
        _ ≤ 2 ^ 1024 := pow_le_pow_right₀ one_le_two hexponent
    · rw [show e.toNat = 0 by omega, pow_zero, mul_one] at hvalue
      have hle : n.natAbs ≤ m := hvalue ▸ Nat.le_mul_of_pos_right _ (Nat.two_pow_pos _)
      exact Binary64.exact_of_le (by omega)
  | beyond =>
    split at hsame <;> cases hsame

/-- A number is found where its numeral is read exactly if it is exact. -/
theorem ofFloat_eq_iff {n : Int} {x : Float} (hx : Decimal.readFloat? (toString n) = some x) :
    (ofFloat x).compare (.finite n 0) = some .eq ↔ Exact n := by
  obtain ⟨y, hy, hrounds⟩ := exists_rounds n
  obtain rfl := Option.some.inj (hx.symm.trans hy)
  refine ⟨hrounds.exact, fun h => ?_⟩
  by_cases hn : n = 0
  · subst hn
    rw [ofFloat_of_zero hx, compare_finite_eq_iff, zero_mul, zero_mul]
  · obtain ⟨m, e, hc, he, hvalue⟩ := h.exists_canonical hn
    rw [ofFloat_of_near hn hx hc (hvalue ▸ Binary64.near_amount), if_pos he,
      compare_signed_iff hn m e]
    have hscale : (0 : ℚ) < 2 ^ (-e).toNat := by positivity
    rw [amount, Binary64.two_zpow_eq, ← mul_div_assoc, div_eq_iff hscale.ne'] at hvalue
    exact_mod_cast hvalue

end Magnitude

end Dialogue
