import Dialogue.Decimal.Shortest

/-! Written forms of floating-point numbers: shortest digits, and a fixed number of places. -/
namespace Dialogue.Decimal

/-- Decisions of a format on the shortest digits of a number. A number `d.ddd * 10 ^ x` is
written without an exponent when `least ≤ x < bound`. -/
structure Style where
  least : Int
  bound : Int
  exponentWidth : Nat
  nan : String
  infinity : String

private def zeros (n : Nat) : List Char := List.replicate n '0'

/-- A number in digits, with zeros in front up to the width. -/
def padded (width n : Nat) : List Char :=
  let ds := Nat.toDigits 10 n
  zeros (width - ds.length) ++ ds

/-- The digits with the point after the first `p` of them; a point always has a digit on
both sides. -/
def positional (ds : List Char) (p : Int) : List Char :=
  if p ≤ 0 then '0' :: '.' :: zeros (-p).toNat ++ ds
  else
    let whole := ds.take p.toNat ++ zeros (p.toNat - ds.length)
    let part := ds.drop p.toNat
    whole ++ '.' :: (if part.isEmpty then ['0'] else part)

/-- One digit, the other digits after a point, and a signed exponent. -/
def scientific (style : Style) (ds : List Char) (x : Int) : List Char :=
  ds.take 1 ++ (if ds.length ≤ 1 then [] else '.' :: ds.drop 1)
    ++ 'e' :: (if x < 0 then '-' else '+') :: padded style.exponentWidth x.natAbs

namespace Style

def writeFinite (style : Style) (m : Nat) (e : Int) : List Char :=
  if m = 0 then ['0', '.', '0']
  else
    let (d, k) := shortest m e
    let (d, k) := stripZeros 800 d k
    let ds := Nat.toDigits 10 d
    let x := k + ds.length - 1
    if style.least ≤ x ∧ x < style.bound then positional ds (x + 1) else scientific style ds x

def write (style : Style) (x : Float) : String :=
  match Binary64.ofFloat x with
  | .nan => style.nan
  | .infinite negative => (if negative then "-" else "") ++ style.infinity
  | .finite negative m e =>
    String.ofList ((if negative then ['-'] else []) ++ style.writeFinite m e)

end Style

/-- The quotient rounded to a whole number, a half to the even one. -/
def roundHalfEven (num den : Nat) : Nat :=
  let q := num / den
  let r := num % den
  if 2 * r < den then q else if den < 2 * r then q + 1 else q + q % 2

/-- Commas between groups of three digits, counted from the end. -/
def grouped (ds : List Char) : List Char :=
  let rec go : List Char → Nat → List Char
    | [], _ => []
    | c :: cs, n => if n == 3 then ',' :: c :: go cs 1 else c :: go cs (n + 1)
  (go ds.reverse 0).reverse

/-- Two places after the point, of the exact value, and commas between thousands. -/
def writeAmount (x : Float) : String :=
  match Binary64.ofFloat x with
  | .nan => "nan"
  | .infinite negative => if negative then "-inf" else "inf"
  | .finite negative m e =>
    let (num, den) := fraction (100 * m) e
    let cents := roundHalfEven num den
    String.ofList ((if negative then ['-'] else []) ++ grouped (Nat.toDigits 10 (cents / 100))
      ++ '.' :: padded 2 (cents % 100))

end Dialogue.Decimal
