/-! The value of a floating-point number, read off its 64 bits. -/
namespace Dialogue

/-- A finite number is `m * 2 ^ e`, negated when `negative`; both zeros have `m = 0`. -/
inductive Binary64 where
  | nan
  | infinite (negative : Bool)
  | finite (negative : Bool) (m : Nat) (e : Int)
  deriving Repr, DecidableEq

namespace Binary64

def ofBits (bits : Nat) : Binary64 :=
  let negative := bits / Nat.pow 2 63 % 2 == 1
  let exponent : Nat := bits / Nat.pow 2 52 % 2048
  let fraction := bits % Nat.pow 2 52
  if exponent == 2047 then if fraction == 0 then infinite negative else nan
  else if exponent == 0 then finite negative fraction (-1074)
  else finite negative (fraction + Nat.pow 2 52) ((exponent : Int) - 1075)

def ofFloat (x : Float) : Binary64 := ofBits x.toBits.toNat

def isFinite : Binary64 → Bool
  | finite .. => true
  | _ => false

end Binary64

/-- Not a number. -/
def Binary64.quietNaN : Float := Float.ofBits 0x7FF8000000000000

def Binary64.infinity (negative : Bool) : Float :=
  Float.ofBits (if negative then 0xFFF0000000000000 else 0x7FF0000000000000)

end Dialogue
