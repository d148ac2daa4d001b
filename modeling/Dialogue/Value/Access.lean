import Dialogue.Fault
import Dialogue.Text.Words

/-! Parts of values whose kind is not known beforehand. -/
namespace Dialogue.Value

/-- The part of a dictionary under a key, or a default. -/
def part (v : Value) (k : String) (default : Value := .null) : Except Fault Value :=
  match v with
  | .dict fs => .ok ((Table.value? fs k).getD default)
  | _ => .error .noParts

/-- The part of a dictionary under a key that has to be there. -/
def need (v : Value) (k : String) : Except Fault Value :=
  match v with
  | .dict fs => match Table.value? fs k with
    | some w => .ok w
    | none => .error .noKey
  | _ => .error .wrongKind

/-- Whether a word is a key of a dictionary, an item of a list or a part of a text. -/
def holds (v : Value) (k : String) : Except Fault Bool :=
  match v with
  | .dict fs => .ok (Table.has fs k)
  | .list xs => .ok (xs.any fun x => x.text? == some k)
  | .text s => .ok (Text.occurs k s)
  | _ => .error .wrongKind

end Dialogue.Value
