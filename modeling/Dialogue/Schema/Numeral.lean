import Dialogue.Json.Reader

/-! Whole numbers as forms hold them: a text is cleaned of plus, zeros in front, empty fraction
and low lines, in this order, and what remains has to be a whole number as JSON writes it. -/
namespace Dialogue.Schema

/-- What a text says where a whole number is asked for. -/
inductive Numeral where
  | value (n : Int)
  | long
  | unreadable
  deriving Repr, DecidableEq

namespace Numeral

/-- Blank for the purpose of numbers in texts: the four separators do not count. -/
def isMargin (c : Char) : Bool := Text.isBlank c && !(0x1C ≤ c.toNat && c.toNat ≤ 0x1F)

/-- The text without a plus in front, after which no minus may stand. -/
def dropPlus? : List Char → Option (List Char)
  | '+' :: '-' :: _ => none
  | '+' :: cs => some cs
  | cs => some cs

/-- A character that a number without zeros in front begins with. -/
def isLead (c : Char) : Bool := c == '-' || (c.isDigit && c != '0')

/-- Zeros and low lines are passed over up to the number proper. The last one of them, `last`,
stays if a point or nothing follows, so that zero itself keeps a digit. -/
def afterZeros? (last : Char) : List Char → Option (List Char)
  | [] => some [last]
  | c :: cs =>
    if c == '0' || c == '_' then afterZeros? c cs
    else if c == '.' then some (last :: c :: cs)
    else if isLead c then some (c :: cs)
    else none

def dropZeros? : List Char → Option (List Char)
  | [] => none
  | c :: cs => if c == '0' then afterZeros? c cs else if isLead c then some (c :: cs) else none

/-- The text before its first point, if zeros follow the point, at least one, and nothing else. -/
def dropFraction (cs : List Char) : List Char :=
  match cs.dropWhile (· != '.') with
  | '.' :: '0' :: rest => if rest.all (· == '0') then cs.takeWhile (· != '.') else cs
  | _ => cs

/-- Whether every low line stands between two other characters; `before` is the character in
front of the text. -/
def linesApart (before : Char) : List Char → Bool
  | [] => before != '_'
  | c :: cs => (before != '_' || c != '_') && linesApart c cs

/-- The text without low lines, if each of them stands between two other characters. -/
def dropLines (cs : List Char) : List Char :=
  if linesApart '_' cs then cs.filter (· != '_') else cs

/-- The number written by the whole text after its sign. A minus counts as a digit for the
limit, and too many digits are seen before anything that follows them. -/
def ofDigits (negative : Bool) (cs : List Char) : Numeral :=
  match Json.wholeDigits? cs with
  | none => unreadable
  | some (ds, rest) =>
    let n : Int := Text.numeral ds
    if Decimal.digitLimit < negative.toNat + ds.length then long
    else if rest.isEmpty then value (if negative then -n else n)
    else unreadable

def ofPlain : List Char → Numeral
  | '-' :: cs => ofDigits true cs
  | cs => ofDigits false cs

def ofString (s : String) : Numeral :=
  match (dropPlus? (Text.trimWhile isMargin s.toList)).bind dropZeros? with
  | some cs => ofPlain (dropLines (dropFraction cs))
  | none => unreadable

end Numeral

end Dialogue.Schema
