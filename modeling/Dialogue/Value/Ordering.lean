import Dialogue.Value.Equality

/-! Order of values. Numbers are ordered by place and texts by code point; lists are ordered
by the first pair of items that differ, and else by length. No other values are ordered. -/
namespace Dialogue.Value

mutual

/-- Whether the order of two values is as `r` asks; `none` when they have no order.
With not-a-number on either side no order is as asked. -/
def relate (r : Ordering → Bool) (a b : Value) : Option Bool :=
  match a with
  | null => none
  | dict _ => none
  | text s => match b with
    | text t => some (r (compare s t))
    | _ => none
  | list xs => match b with
    | list ys => relateItems r xs ys
    | _ => none
  | bool p => relateMagnitude r (.bool p) b
  | int n => relateMagnitude r (.int n) b
  | float x => relateMagnitude r (.float x) b

def relateItems (r : Ordering → Bool) (xs ys : List Value) : Option Bool :=
  match xs with
  | [] => some (r (if ys.isEmpty then .eq else .lt))
  | x :: xs => match ys with
    | [] => some (r .gt)
    | y :: ys => if same x y then relateItems r xs ys else relate r x y

end

end Dialogue.Value
