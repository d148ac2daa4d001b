import Dialogue.Value.Magnitude

/-! Equality of values. Numbers are equal at the same place on the line, whatever their kind;
dictionaries are equal whatever the order of their keys; all else is equal part by part. -/
namespace Dialogue.Value

mutual

def same (a b : Value) : Bool :=
  match a with
  | null => b.isNull
  | text s => match b with
    | text t => s == t
    | _ => false
  | list xs => match b with
    | list ys => sameItems xs ys
    | _ => false
  | dict fs => match b with
    | dict gs => fs.length == gs.length && sameFields fs gs
    | _ => false
  | bool p => sameMagnitude (.bool p) b
  | int n => sameMagnitude (.int n) b
  | float x => sameMagnitude (.float x) b

def sameItems (xs ys : List Value) : Bool :=
  match xs with
  | [] => ys.isEmpty
  | x :: xs => match ys with
    | [] => false
    | y :: ys => same x y && sameItems xs ys

/-- Every entry on the left has an equal one under its key on the right. -/
def sameFields (fs gs : List (String × Value)) : Bool :=
  match fs with
  | [] => true
  | (k, x) :: fs => (match Table.value? gs k with
      | some y => same x y
      | none => false) && sameFields fs gs

end

end Dialogue.Value
