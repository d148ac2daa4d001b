import Dialogue.Decimal.Binary64
import Dialogue.Text.Blank
import Dialogue.Text.Digit

/-! Numbers read from free text. Blanks around the number are skipped, digits of every script
count, and a low line may stand between two digits. -/
namespace Dialogue.Decimal

/-- The most digits a whole number may have in a text, be it read or written. -/
def digitLimit : Nat := 4300

/-- A whole number with no more digits than are read. -/
def isReadable (n : Int) : Bool := (Nat.toDigits 10 n.natAbs).length ≤ digitLimit

def isMargin (c : Char) : Bool :=
  if c.toNat < 0x80 then Text.isPlainBlank c else Text.isBlank c

def latinDigit (c : Char) : Char :=
  match Text.digit? c with
  | some d => Char.ofNat (0x30 + d)
  | none => c

/-- The text without low lines, if each of them stands between two digits. -/
def joinGroups (before : Char) : List Char → Option (List Char)
  | [] => if before == '_' then none else some []
  | c :: cs =>
    if c == '_' then
      if before.isDigit then joinGroups c cs else none
    else if before == '_' && !c.isDigit then none
    else (joinGroups c cs).map (c :: ·)

/-- Latin digits, no margins and no low lines. -/
def plain? (s : String) : Option (List Char) :=
  joinGroups ' ' ((Text.trimWhile isMargin s.toList).map latinDigit)

/-- A sign in front, if any: whether it is a minus, and what follows. -/
def sign : List Char → Bool × List Char
  | '-' :: cs => (true, cs)
  | '+' :: cs => (false, cs)
  | cs => (false, cs)

/-- The integer written by the whole text. -/
def readInt? (s : String) : Option Int := do
  let (negative, ds) := sign (← plain? s)
  if ds.isEmpty || !ds.all Char.isDigit || ds.length > digitLimit then none
  else
    let n : Int := Text.numeral ds
    some (if negative then -n else n)

/-- An exponent part, which must be the whole rest. -/
def exponent? : List Char → Option Int
  | [] => some 0
  | c :: cs =>
    if c == 'e' || c == 'E' then
      let (negative, ds) := sign cs
      if ds.isEmpty || !ds.all Char.isDigit then none
      else
        let n : Int := Text.numeral ds
        some (if negative then -n else n)
    else none

/-- The floating-point number nearest to `m * 10 ^ e`. -/
def nearest (negative : Bool) (m : Nat) (e : Int) : Float :=
  let x := Float.ofScientific m (e < 0) e.natAbs
  if negative then -x else x

def unsigned? (negative : Bool) (cs : List Char) : Option Float := do
  let whole := cs.takeWhile Char.isDigit
  let rest := cs.dropWhile Char.isDigit
  let (part, rest) := match rest with
    | '.' :: cs => (cs.takeWhile Char.isDigit, cs.dropWhile Char.isDigit)
    | cs => ([], cs)
  if whole.isEmpty && part.isEmpty then none
  else
    let e ← exponent? rest
    some (nearest negative (Text.numeral (whole ++ part)) (e - part.length))

/-- The number written by the whole text; magnitudes too large are infinite. -/
def readFloat? (s : String) : Option Float := do
  let (negative, cs) := sign (← plain? s)
  match String.ofList (cs.map Char.toLower) with
  | "inf" | "infinity" => some (Binary64.infinity negative)
  | "nan" => some Binary64.quietNaN
  | _ => unsigned? negative cs

end Dialogue.Decimal
