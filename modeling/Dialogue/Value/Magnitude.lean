import Dialogue.Value
import Dialogue.Decimal.Binary64

/-! The exact place of a number on the line. Whole numbers and floating-point numbers are
compared by place, never by converting one into the other. -/
namespace Dialogue

/-- `finite m e` is `m * 2 ^ e`. -/
inductive Magnitude where
  | nan
  | below
  | finite (m : Int) (e : Int)
  | above

namespace Magnitude

def ofFloat (x : Float) : Magnitude :=
  match Binary64.ofFloat x with
  | .nan => nan
  | .infinite negative => if negative then below else above
  | .finite negative m e => finite (if negative then -m else m) e

/-- Nothing compares with `nan`. -/
def compare : Magnitude → Magnitude → Option Ordering
  | nan, _ => none
  | _, nan => none
  | below, below => some .eq
  | below, _ => some .lt
  | _, below => some .gt
  | above, above => some .eq
  | above, _ => some .gt
  | _, above => some .lt
  | finite m e, finite n f =>
    let base := min e f
    some (Ord.compare (m * Nat.pow 2 (e - base).toNat) (n * Nat.pow 2 (f - base).toNat))

def equal (a b : Magnitude) : Bool := a.compare b == some .eq

end Magnitude

namespace Value

/-- The place of a number; `true` and `false` are placed at one and zero. -/
def magnitude? : Value → Option Magnitude
  | bool b => some (.finite (if b then 1 else 0) 0)
  | int n => some (.finite n 0)
  | float x => some (.ofFloat x)
  | _ => none

/-- Both are numbers at the same place. -/
def sameMagnitude (a b : Value) : Bool :=
  match a.magnitude?, b.magnitude? with
  | some p, some q => p.equal q
  | _, _ => false

/-- Whether two numbers lie as `r` asks; `none` when either is no number. -/
def relateMagnitude (r : Ordering → Bool) (a b : Value) : Option Bool :=
  match a.magnitude?, b.magnitude? with
  | some p, some q => some ((p.compare q).any r)
  | _, _ => none

/-- A number proper; truth values are not. -/
def isNumber : Value → Bool
  | int _ => true
  | float _ => true
  | _ => false

/-- The whole part of a finite floating-point number, cut toward zero. -/
def wholePart? (x : Float) : Option Int :=
  match Binary64.ofFloat x with
  | .finite negative m e =>
    let n : Int := if 0 ≤ e then m * Nat.pow 2 e.toNat else m / Nat.pow 2 (-e).toNat
    some (if negative then -n else n)
  | _ => none

/-- No digits after the point. -/
def isWhole (x : Float) : Bool :=
  match Binary64.ofFloat x with
  | .finite _ m e => 0 ≤ e || m % Nat.pow 2 (-e).toNat == 0
  | _ => false

end Value

end Dialogue
