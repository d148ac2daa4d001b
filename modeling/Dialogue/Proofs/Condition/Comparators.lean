import Dialogue.Condition.Comparison
import Dialogue.Proofs.Values

/-! Laws of the comparators. Each comparator reads the texts of its pair for itself, but they read
alike from either side, and what they read has one order for all of them. -/
namespace Dialogue.Condition
variable {a b : Value}

theorem coerce_swap (a b : Value) : coerce b a = (coerce a b).swap := by
  cases a <;> cases b <;> rfl

/-- A pair stays as it is, or the text in it is read as a number beside a number. -/
inductive Coerces (a b : Value) : Value × Value → Prop
  | alone : Coerces a b (a, b)
  | right {s : String} (ha : a.isNumber = true) (hb : b = .text s) (x : Float) :
      Coerces a b (a, .float x)
  | left {s : String} (ha : a = .text s) (hb : b.isNumber = true) (x : Float) :
      Coerces a b (.float x, b)

namespace Coerces
variable {p : Value × Value}

theorem swap (h : Coerces a b p) : Coerces b a p.swap := by
  cases h with
  | alone => exact .alone
  | right ha hb x => exact .left hb ha x
  | left ha hb x => exact .right hb ha x

theorem isNull_eq (h : Coerces a b p) : p.1.isNull = a.isNull ∧ p.2.isNull = b.isNull := by
  cases h with
  | alone => exact ⟨rfl, rfl⟩
  | right ha hb x =>
    subst hb
    exact ⟨rfl, rfl⟩
  | left ha hb x =>
    subst ha
    exact ⟨rfl, rfl⟩

theorem wellFormed (h : Coerces a b p) (ha : a.WellFormed) (hb : b.WellFormed) :
    p.1.WellFormed ∧ p.2.WellFormed := by
  cases h with
  | alone => exact ⟨ha, hb⟩
  | right => exact ⟨ha, trivial⟩
  | left => exact ⟨trivial, hb⟩

end Coerces

private theorem coerces_text (ha : a.isNumber = true) (s : String) :
    Coerces a (.text s) (coerce a (.text s)) := by
  cases hx : Decimal.readFloat? s with
  | none =>
    have hread : coerce a (.text s) = (a, .text s) := by simp only [coerce, ha, hx, if_true]
    rw [hread]
    exact .alone
  | some x =>
    have hread : coerce a (.text s) = (a, .float x) := by simp only [coerce, ha, hx, if_true]
    rw [hread]
    exact .right ha rfl x

theorem coerces_coerce (a b : Value) : Coerces a b (coerce a b) := by
  cases a with
  | int | float =>
    cases b with
    | text s => exact coerces_text rfl s
    | null | bool | int | float | list | dict => exact .alone
  | text s =>
    cases b with
    | int | float =>
      rw [coerce_swap]
      exact (coerces_text rfl s).swap
    | null | bool | text | list | dict => exact .alone
  | null | bool | list | dict => cases b <;> exact .alone

theorem same_coerce_comm (ha : a.WellFormed) (hb : b.WellFormed) :
    (coerce b a).1.same (coerce b a).2 = (coerce a b).1.same (coerce a b).2 := by
  obtain ⟨hleft, hright⟩ := (coerces_coerce a b).wellFormed ha hb
  rw [coerce_swap a b, Prod.fst_swap, Prod.snd_swap, Value.same_comm hright hleft]

theorem strictlySame_comm (ha : a.WellFormed) (hb : b.WellFormed) :
    strictlySame b a = strictlySame a b := by
  rw [strictlySame, strictlySame, Value.same_comm hb ha, Bool.and_comm,
    Bool.beq_comm (a := b.kind)]

/-- What is strictly the same has no text beside a number, so nothing of it is read. -/
theorem same_coerce_of_strictlySame (h : strictlySame a b = true) :
    (coerce a b).1.same (coerce a b).2 = true := by
  have hcoerces := coerces_coerce a b
  generalize coerce a b = p at hcoerces
  cases hcoerces with
  | alone =>
    rw [strictlySame] at h
    split at h
    · exact h
    · exact (Bool.and_eq_true_iff.mp h).2
  | right ha hb x =>
    subst hb
    cases a with
    | int | float => cases h
    | null | bool | text | list | dict => cases ha
  | left ha hb x =>
    subst ha
    cases b with
    | int | float => cases h
    | null | bool | text | list | dict => cases hb

/-- What is asked about an order beside null is answered with no. -/
theorem ordered_of_null (h : a.isNull = true ∨ b.isNull = true) (r : Ordering → Bool) :
    ordered r a b = .ok false := by
  obtain ⟨hleft, hright⟩ := (coerces_coerce a b).isNull_eq
  have hnull : ((coerce a b).1.isNull || (coerce a b).2.isNull) = true := by
    rwa [hleft, hright, Bool.or_eq_true]
  simp only [ordered, hnull, if_true]

/-- Elsewhere it is never answered, or always by one order. -/
theorem ordered_cases (ha : a.isNull = false) (hb : b.isNull = false) :
    (∃ p, ∀ r, ordered r a b = .error p) ∨
    ∃ o : Option Ordering, (coerce a b).1.same (coerce a b).2 = (o == some .eq) ∧
      ∀ r, ordered r a b = .ok (o.any r) := by
  obtain ⟨hleft, hright⟩ := (coerces_coerce a b).isNull_eq
  have hnull : ((coerce a b).1.isNull || (coerce a b).2.isNull) = false := by
    rw [hleft, hright, ha, hb]
    rfl
  simp only [ordered, hnull]
  cases Value.decided (coerce a b).1 (coerce a b).2 with
  | apart h =>
    refine .inl ⟨.incomparable (coerce a b).1 (coerce a b).2, fun r => ?_⟩
    simp only [h]
    rfl
  | placed o hsame h =>
    refine .inr ⟨o, hsame, fun r => ?_⟩
    simp only [h]
    rfl

/-- Only the report of a failure tells the sides apart. -/
theorem ordered_swap (ha : a.WellFormed) (hb : b.WellFormed) {r s : Ordering → Bool}
    (hs : ∀ o : Ordering, r o.swap = s o) (x : Bool) :
    ordered r b a = .ok x ↔ ordered s a b = .ok x := by
  obtain ⟨hleft, hright⟩ := (coerces_coerce a b).wellFormed ha hb
  obtain rfl : (fun o => r o.swap) = s := funext hs
  simp only [ordered, coerce_swap a b, Prod.fst_swap, Prod.snd_swap,
    Value.relate_swap r hleft hright, Bool.or_comm (coerce a b).2.isNull]
  split
  · rfl
  · cases Value.relate (fun o => r o.swap) (coerce a b).1 (coerce a b).2 <;> simp

namespace Comparator

/-- The laws of the comparators on two values. A comparator that gives no answer fails. -/
structure Lawful (a b : Value) : Prop where
  differ_eq : ∃ x, equal.apply a b = .ok x ∧ differ.apply a b = .ok (!x)
  strictDiffer_eq : ∃ x, strictEqual.apply a b = .ok x ∧ strictDiffer.apply a b = .ok (!x)
  equal_comm : equal.apply b a = equal.apply a b
  strictEqual_comm : strictEqual.apply b a = strictEqual.apply a b
  equal_of_strictEqual : strictEqual.apply a b = .ok true → equal.apply a b = .ok true
  greater_iff : ∀ x, greater.apply b a = .ok x ↔ less.apply a b = .ok x
  atLeast_iff : ∀ x, atLeast.apply b a = .ok x ↔ atMost.apply a b = .ok x
  exists_atMost_iff : (∃ x, atMost.apply a b = .ok x) ↔ ∃ x, less.apply a b = .ok x
  atMost_iff : a.isNull = false → b.isNull = false →
    ∀ x y, atMost.apply a b = .ok x → less.apply a b = .ok y →
      (x = true ↔ y = true ∨ equal.apply a b = .ok true)

private theorem exists_atMost_iff_exists_less (a b : Value) :
    (∃ x, atMost.apply a b = .ok x) ↔ ∃ x, less.apply a b = .ok x := by
  by_cases hnull : a.isNull = true ∨ b.isNull = true
  · exact ⟨fun _ => ⟨_, ordered_of_null hnull _⟩, fun _ => ⟨_, ordered_of_null hnull _⟩⟩
  · simp only [not_or, Bool.not_eq_true] at hnull
    rcases ordered_cases hnull.1 hnull.2 with ⟨p, h⟩ | ⟨o, -, h⟩
    · simp only [apply, h, reduceCtorEq]
    · exact ⟨fun _ => ⟨_, h _⟩, fun _ => ⟨_, h _⟩⟩

private theorem atMost_iff_less_or_equal (ha : a.isNull = false) (hb : b.isNull = false)
    {x y : Bool} (hx : atMost.apply a b = .ok x) (hy : less.apply a b = .ok y) :
    x = true ↔ y = true ∨ equal.apply a b = .ok true := by
  rcases ordered_cases ha hb with ⟨p, h⟩ | ⟨o, hsame, h⟩
  · simp only [apply, h, reduceCtorEq] at hx
  · simp only [apply, h, hsame, Except.ok.injEq] at hx hy ⊢
    subst hx hy
    rcases o with - | - | - | - <;> decide

/-- All laws hold of any two values in which no key stands twice. -/
theorem lawful_of_wellFormed (ha : a.WellFormed) (hb : b.WellFormed) : Lawful a b where
  differ_eq := ⟨_, rfl, rfl⟩
  strictDiffer_eq := ⟨_, rfl, rfl⟩
  equal_comm := by rw [apply, apply, same_coerce_comm ha hb]
  strictEqual_comm := by rw [apply, apply, strictlySame_comm ha hb]
  equal_of_strictEqual h :=
    congrArg Except.ok (same_coerce_of_strictlySame (Except.ok.inj h))
  greater_iff := ordered_swap ha hb (by decide)
  atLeast_iff := ordered_swap ha hb (by decide)
  exists_atMost_iff := exists_atMost_iff_exists_less a b
  atMost_iff hna hnb _ _ hx hy := atMost_iff_less_or_equal hna hnb hx hy

/-- Null is equal to itself and at most nothing. -/
example : equal.apply .null .null = .ok true ∧ atMost.apply .null .null = .ok false := ⟨rfl, rfl⟩

/-- A stock and what is asked of it: two dictionaries that are equal, and then a text that is no
number beside a number. -/
def stock : Value := .list [.dict [("size", .int 1), ("note", .null)], .text "few"]

def demand : Value := .list [.dict [("note", .null), ("size", .bool true)], .int 2]

theorem lawful_stock_demand : stock.WellFormed ∧ demand.WellFormed ∧ Lawful stock demand := by
  have hstock : stock.WellFormed := ⟨⟨by decide, trivial, trivial, trivial⟩, trivial, trivial⟩
  have hdemand : demand.WellFormed := ⟨⟨by decide, trivial, trivial, trivial⟩, trivial, trivial⟩
  exact ⟨hstock, hdemand, lawful_of_wellFormed hstock hdemand⟩

end Comparator

end Dialogue.Condition
