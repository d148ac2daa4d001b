import Dialogue.Condition.Token
import Dialogue.Value.Ordering

/-! Comparison in conditions. A text that reads as a number is that number beside a number. -/
namespace Dialogue.Condition

/-- Reads the text of a pair whose other side is a number. -/
def coerce (a b : Value) : Value × Value :=
  let read (v : Value) : Value := match v with
    | .text s => match Decimal.readFloat? s with
      | some x => .float x
      | none => v
    | _ => v
  if a.isNumber then (a, read b) else if b.isNumber then (read a, b) else (a, b)

/-- Equal without reading texts, and of one kind unless both are numbers. -/
def strictlySame (a b : Value) : Bool :=
  if a.isNumber && b.isNumber then a.same b else a.kind == b.kind && a.same b

/-- No value stands in any order to null. -/
def ordered (r : Ordering → Bool) (a b : Value) : Except Problem Bool :=
  let (a, b) := coerce a b
  if a.isNull || b.isNull then .ok false
  else match a.relate r b with
    | some x => .ok x
    | none => .error (.incomparable a b)

namespace Comparator

def apply : Comparator → Value → Value → Except Problem Bool
  | equal, a, b => .ok ((coerce a b).1.same (coerce a b).2)
  | differ, a, b => .ok (!(coerce a b).1.same (coerce a b).2)
  | strictEqual, a, b => .ok (strictlySame a b)
  | strictDiffer, a, b => .ok (!strictlySame a b)
  | less, a, b => ordered (· == .lt) a b
  | atMost, a, b => ordered (· != .gt) a b
  | greater, a, b => ordered (· == .gt) a b
  | atLeast, a, b => ordered (· != .lt) a b

end Comparator

/-- Whether a value counts as true in a condition; not-a-number does not. -/
def holds : Value → Bool
  | .float x => !x.isNaN && x != 0
  | v => v.truthy

end Dialogue.Condition
