import Dialogue.Proofs.Condition.Tree
import Dialogue.Proofs.Decimal.Integers
import Dialogue.Proofs.Values

/-! Conditions on whole numbers that are kept as texts, as an answer to a question is. Beside a
number such a text stands for the floating-point number that it is read as. -/
namespace Dialogue

namespace Magnitude

/-- A rounded number has an order to every number. -/
theorem Rounds.exists_compare {n : Int} {p : Magnitude} (h : Rounds n p) (m : Int) :
    ∃ o, p.compare (.finite m 0) = some o := by
  cases h with
  | zero | within => exact ⟨_, rfl⟩
  | beyond => split <;> exact ⟨_, rfl⟩

end Magnitude

namespace Condition
open Magnitude (Rounds)
open Binary64 (Exact)

/-- The order that a comparator asks for. The strict ones ask for the kinds of the values too. -/
def Comparator.asks? : Comparator → Option (Ordering → Bool)
  | equal => some (· == .eq)
  | differ => some (· != .eq)
  | less => some (· == .lt)
  | atMost => some (· != .gt)
  | greater => some (· == .gt)
  | atLeast => some (· != .lt)
  | strictEqual | strictDiffer => none

/-- Wherever a part with the one value is compared to a part with the other value, it comes out as
by this order. -/
def Compares (x y : Value) (o : Ordering) : Prop :=
  ∀ c r, Comparator.asks? c = some r → ∀ (data : Value) (a b : Tree), a.value data = .ok x →
    b.value data = .ok y → (Tree.compare c a b).value data = .ok (.bool (r o))

section
variable {x y u v : Value} {o : Ordering}

/-- Two numbers are compared by their places. -/
private theorem apply_of_numbers {c : Comparator} {r : Ordering → Bool} {p q : Magnitude}
    (hc : c.asks? = some r) (hcoerce : coerce x y = (u, v)) (hp : u.magnitude? = some p)
    (hq : v.magnitude? = some q) (ho : p.compare q = some o) : c.apply x y = .ok (r o) := by
  have hordered (r : Ordering → Bool) : ordered r x y = .ok (r o) := by
    simp only [ordered, hcoerce, Value.isNull_of_magnitude? hp, Value.isNull_of_magnitude? hq,
      Value.relate_of_magnitude? hp, Value.relateMagnitude, hp, hq, ho, Bool.or_self]
    rfl
  have hsame : u.same v = (o == .eq) := by
    simp only [Value.same_of_magnitude? hp, Value.sameMagnitude, hp, hq, Magnitude.equal, ho]
    cases o <;> rfl
  cases c with
  | equal =>
    obtain rfl := Option.some.inj hc
    simp only [Comparator.apply, hcoerce, hsame]
  | differ =>
    obtain rfl := Option.some.inj hc
    simp only [Comparator.apply, hcoerce, hsame]
    rfl
  | less | atMost | greater | atLeast =>
    obtain rfl := Option.some.inj hc
    exact hordered _
  | strictEqual | strictDiffer => cases hc

private theorem compares_of_apply
    (h : ∀ c r, Comparator.asks? c = some r → c.apply x y = .ok (r o)) : Compares x y o := by
  intro c r hc data a b ha hb
  simp only [Tree.value, ha, hb, bind, Except.bind, h c r hc]
  rfl

/-- Two values have no more than one order. -/
theorem Compares.unique {s : Ordering} (h : Compares x y o) (hs : Compares x y s) : o = s := by
  have hsame (c : Comparator) (r : Ordering → Bool) (hc : c.asks? = some r) : r o = r s := by
    have heq := (h c r hc .null (.literal x) (.literal y) rfl rfl).symm.trans
      (hs c r hc .null (.literal x) (.literal y) rfl rfl)
    exact Value.bool.inj (Except.ok.inj heq)
  have hequal := hsame .equal _ rfl
  have hless := hsame .less _ rfl
  cases o <;> cases s <;> first
    | rfl
    | exact absurd hequal (by decide)
    | exact absurd hless (by decide)

end

/-- The numeral of a whole number beside a number. -/
private theorem compares_of_read {n m : Int} {x : Float} {o : Ordering}
    (hx : Decimal.readFloat? (toString n) = some x)
    (ho : (Magnitude.ofFloat x).compare (.finite m 0) = some o) :
    Compares (.text (toString n)) (.int m) o ∧ Compares (.int m) (.text (toString n)) o.swap := by
  have hleft : coerce (.text (toString n)) (.int m) = (.float x, .int m) := by
    simp only [coerce, hx]
    rfl
  have hright : coerce (.int m) (.text (toString n)) = (.int m, .float x) := by
    simp only [coerce, hx]
    rfl
  have hswap : (Magnitude.finite m 0).compare (.ofFloat x) = some o.swap := by
    rw [Magnitude.compare_swap (.ofFloat x), ho]
    rfl
  constructor
  · refine compares_of_apply fun c r hc => ?_
    exact apply_of_numbers hc hleft rfl rfl ho
  · refine compares_of_apply fun c r hc => ?_
    exact apply_of_numbers hc hright rfl rfl hswap

/-- The numeral of a whole number compares with every number as what it is rounded to does, and as
the number itself does exactly if the number is a floating-point number. -/
theorem compares_numeral (n : Int) :
    (∃ p, Rounds n p ∧ ∀ m, ∃ o, p.compare (.finite m 0) = some o ∧
      Compares (.text (toString n)) (.int m) o ∧
      Compares (.int m) (.text (toString n)) o.swap) ∧
    ((∀ m, Compares (.text (toString n)) (.int m) (compare n m) ∧
      Compares (.int m) (.text (toString n)) (compare m n)) ↔ Exact n) := by
  obtain ⟨x, hx, hrounds⟩ := Magnitude.exists_rounds n
  have hread (m : Int) : ∃ o, (Magnitude.ofFloat x).compare (.finite m 0) = some o ∧
      Compares (.text (toString n)) (.int m) o ∧ Compares (.int m) (.text (toString n)) o.swap := by
    obtain ⟨o, ho⟩ := hrounds.exists_compare m
    exact ⟨o, ho, compares_of_read hx ho⟩
  refine ⟨⟨_, hrounds, hread⟩, fun h => ?_, fun h m => ?_⟩
  · obtain ⟨o, ho, hcompares, -⟩ := hread n
    have hequal := hcompares.unique (h n).1
    rw [hequal, Int.compare_eq_eq.mpr rfl] at ho
    exact (Magnitude.ofFloat_eq_iff hx).mp ho
  · have hplace := Magnitude.compare_of_eq ((Magnitude.ofFloat_eq_iff hx).mpr h) m
    obtain ⟨hleft, hright⟩ := compares_of_read hx hplace
    rw [Int.compare_swap] at hright
    exact ⟨hleft, hright⟩

/-- The least positive number for which 53 bits are not enough is not equal to its own numeral. -/
theorem differs_from_numeral :
    ¬ ∀ n m : Int, Compares (.text (toString n)) (.int m) (compare n m) := by
  intro h
  have hread : Binary64.ofFloat (Decimal.nearest false 9007199254740993 0) =
      .finite false (2 ^ 52) 1 := by decide +kernel
  have hplace : (Magnitude.ofFloat (Decimal.nearest false 9007199254740993 0)).compare
      (.finite 9007199254740993 0) = some .lt := by
    rw [Magnitude.ofFloat, hread]
    decide
  have hless := (compares_of_read (Decimal.readFloat?_toString 9007199254740993) hplace).1
  have hequal := h 9007199254740993 9007199254740993
  cases hless.unique hequal

end Condition

end Dialogue
