import Dialogue.Proofs.Json.Rereading
import Dialogue.Proofs.Decimal.Shortest

/-! Every floating-point number is read back from its text as it was, and with it every value. What
is kept of a value without infinite numbers is the value itself. -/
namespace Dialogue

namespace Decimal
open Binary64 (Canonical Near signOf)

private theorem stripZeros_value (fuel d : Nat) (k : Int) :
    ((stripZeros fuel d k).1 : ℚ) * 10 ^ (stripZeros fuel d k).2 = d * 10 ^ k := by
  induction fuel generalizing d k with
  | zero => rfl
  | succ fuel ih =>
    rw [stripZeros]
    split
    · rename_i h
      simp only [Bool.and_eq_true, bne_iff_ne, beq_iff_eq] at h
      obtain ⟨c, rfl⟩ : ∃ c, d = 10 * c := ⟨d / 10, by omega⟩
      rw [ih, Nat.mul_div_cancel_left c (by decide), zpow_add_one₀ (by norm_num)]
      push_cast
      ring
    · rfl

/-- What is read for the text of a positive number without its sign. -/
private theorem nearest_of_writes (negative : Bool) {m : Nat} {e : Int} (hc : Canonical m e)
    (he : e ≤ 971) {d : Nat} {k : Int} (hd : 0 < d) (h : Near m e (d * 10 ^ k)) (z : Nat) :
    nearest negative (d * Nat.pow 10 z) (k - z) =
      .ofModel (.pack (.finite (signOf negative) m e hc.pos)) := by
  refine Binary64.nearest_of_near negative hc he (Nat.mul_pos hd (Nat.pow_pos (by decide))) ?_
  have hvalue : ((d * Nat.pow 10 z : Nat) : ℚ) * 10 ^ (k - z) = d * 10 ^ k := by
    rw [Nat.pow_eq, zpow_sub₀ (by norm_num), zpow_natCast]
    push_cast
    field_simp
  rwa [hvalue]

end Decimal

namespace Value
open Binary64 (Canonical signOf)

private theorem write_of_finite {x : Float} {negative : Bool} {m : Nat} {e : Int}
    (h : Binary64.ofFloat x = .finite negative m e) :
    (Decimal.jsonStyle.write x).toList =
      (if negative then ['-'] else []) ++ Decimal.jsonStyle.writeFinite m e := by
  rw [Decimal.Style.write, h]
  exact String.toList_ofList

/-- Reading the text of a floating-point number. -/
theorem rereadFloat_eq (x : Float) : rereadFloat x = .float x := by
  cases hx : Binary64.ofFloat x with
  | nan =>
    rw [Binary64.eq_quietNaN hx, rereadFloat, Decimal.Style.write]
    rfl
  | infinite negative =>
    rw [Binary64.eq_infinity hx]
    cases negative <;> rfl
  | finite negative m e =>
    rw [rereadFloat, write_of_finite hx]
    by_cases hm : m = 0
    · subst hm
      have hzero := Binary64.eq_pack_of_zero hx
      rw [← Binary64.nearest_zero] at hzero
      rw [hzero]
      cases negative <;> rfl
    · obtain ⟨hc, he⟩ := Binary64.canonical_of_finite hx hm
      have hd := Decimal.stripZeros_pos (Decimal.shortest_pos hc.pos e) 800 (Decimal.shortest m e).2
      have hnear := Decimal.shortest_near hc
      rw [← Decimal.stripZeros_value 800] at hnear
      obtain ⟨whole, ds, part, n, scaled, hcs, hw, hp, hs, hform, z, hnumeral, hexponent⟩ :=
        Json.writes_writeFinite Decimal.jsonStyle hc.pos e
      have hends : Json.Ends [] := trivial
      have hread := Json.scalar?_fractional negative hw hp hs hform hends
      rw [List.append_nil, hnumeral, hexponent, Decimal.nearest_of_writes negative hc he hd hnear z,
        ← Binary64.eq_pack_of_finite hx hc] at hread
      rw [hcs, hread]
      rfl

end Value

end Dialogue
