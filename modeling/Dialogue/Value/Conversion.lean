import Dialogue.Fault
import Dialogue.Value.Magnitude
import Dialogue.Decimal.Reading

/-! Numbers made of other values. -/
namespace Dialogue.Value

/-- A number is cut toward zero, a text is read as a whole number, and nothing else is a number. -/
def toInt : Value → Except Fault Int
  | int n => .ok n
  | bool b => .ok (if b then 1 else 0)
  | float x => match wholePart? x with
    | some n => .ok n
    | none => .error (if (Binary64.ofFloat x) = .nan then .unreadable else .tooLarge)
  | text s => match Decimal.readInt? s with
    | some n => .ok n
    | none => .error .unreadable
  | _ => .error .wrongKind

/-- A whole number has to be within the range of floating-point numbers. -/
def toFloat : Value → Except Fault Float
  | int n =>
    let x := Decimal.nearest (n < 0) n.natAbs 0
    if (Binary64.ofFloat x).isFinite then .ok x else .error .tooLarge
  | bool b => .ok (if b then 1 else 0)
  | float x => .ok x
  | text s => match Decimal.readFloat? s with
    | some x => .ok x
    | none => .error .unreadable
  | _ => .error .wrongKind

end Dialogue.Value
