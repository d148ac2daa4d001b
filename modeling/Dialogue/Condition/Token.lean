import Dialogue.Value.Rendering
import Dialogue.Decimal.Reading
import Dialogue.Text.Word

/-! Tokens of condition expressions. -/
namespace Dialogue.Condition

inductive Comparator where
  | equal | differ | strictEqual | strictDiffer
  | less | atMost | greater | atLeast
  deriving Repr, DecidableEq

inductive Sign where
  | compare (c : Comparator)
  | both | either | opposite
  | openGroup | closeGroup | openIndex | closeIndex | dot
  deriving Repr, DecidableEq

inductive Token where
  | literal (v : Value)
  | name (s : String)
  | sign (s : Sign)

/-- Why an expression has no value. -/
inductive Problem where
  | empty
  | unexpectedCharacter (position : Nat) (near : String)
  | endOfExpression
  | expected (s : Sign)
  | unexpectedToken (t : Token)
  | unknownName (name : String)
  | noAttribute (t : Token)
  | noIndex (t : Token)
  | unreadable (key container : Value)
  | incomparable (left right : Value)
  | tooDeep
  | longLiteral

namespace Comparator

def symbol : Comparator → String
  | equal => "==" | differ => "!=" | strictEqual => "===" | strictDiffer => "!=="
  | less => "<" | atMost => "<=" | greater => ">" | atLeast => ">="

end Comparator

namespace Sign

def symbol : Sign → String
  | compare c => c.symbol
  | both => "&&" | either => "||" | opposite => "!"
  | openGroup => "(" | closeGroup => ")" | openIndex => "[" | closeIndex => "]" | dot => "."

/-- All signs; one that begins another comes after it. -/
def all : List Sign :=
  [compare .strictEqual, compare .strictDiffer, compare .equal, compare .differ,
   compare .atMost, compare .atLeast, both, either, compare .less, compare .greater,
   opposite, openGroup, closeGroup, openIndex, closeIndex, dot]

end Sign

namespace Token

/-- A token as messages show it. -/
def shown : Token → String
  | literal v => v.shown
  | name s => Text.quoted s
  | sign s => Text.quoted s.symbol

/-- Words with a meaning of their own; every other word is a name. -/
def ofWord (s : String) : Token :=
  match s with
  | "true" | "True" => literal (.bool true)
  | "false" | "False" => literal (.bool false)
  | "null" | "None" => literal .null
  | "and" => sign .both
  | "or" => sign .either
  | "not" => sign .opposite
  | _ => name s

/-- A number in front of the text, its sign apart: digits, and digits after a point if any. -/
def unsigned? (negative : Bool) (cs : List Char) : Option (Except Problem Token × List Char) :=
  let whole := cs.takeWhile Text.isDigit
  let rest := cs.dropWhile Text.isDigit
  if whole.isEmpty then none
  else
    let part := match rest with
      | '.' :: cs => cs.takeWhile Text.isDigit
      | _ => []
    if part.isEmpty then
      let n : Int := Text.numeral whole
      if whole.length > Decimal.digitLimit then some (.error .longLiteral, rest)
      else some (.ok (literal (.int (if negative then -n else n))), rest)
    else
      let x := Decimal.nearest negative (Text.numeral (whole ++ part)) (-(part.length : Int))
      some (.ok (literal (.float x)), rest.drop (part.length + 1))

/-- A number in front of the text, with a minus if any. -/
def number? : List Char → Option (Except Problem Token × List Char)
  | '-' :: cs => unsigned? true cs
  | cs => unsigned? false cs

/-- The rest of a text after its opening quote. A backslash keeps the character after it,
which may not be a line feed. -/
def text? (quote : Char) : List Char → Option (List Char × List Char)
  | [] => none
  | c :: cs =>
    if c == quote then some ([], cs)
    else if c == '\\' then match cs with
      | d :: cs =>
        if d == '\n' then none else (text? quote cs).map fun (s, rest) => (d :: s, rest)
      | [] => none
    else (text? quote cs).map fun (s, rest) => (c :: s, rest)

/-- What follows a given beginning. -/
def after? : List Char → List Char → Option (List Char)
  | [], cs => some cs
  | _ :: _, [] => none
  | w :: ws, c :: cs => if w == c then after? ws cs else none

def sign? (cs : List Char) : Option (Sign × List Char) :=
  Sign.all.findSome? fun s => (after? s.symbol.toList cs).map (s, ·)

/-- The token in front of the text, which no blank precedes. -/
def first? (cs : List Char) : Option (Except Problem Token × List Char) :=
  match number? cs with
  | some r => some r
  | none => match cs with
    | [] => none
    | c :: rest =>
      if c == '\'' || c == '"' then
        (text? c rest).map fun (s, rest) => (.ok (literal (.text (String.ofList s))), rest)
      else match sign? cs with
        | some (s, rest) => some (.ok (sign s), rest)
        | none =>
          if Text.isNameStart c then
            some (.ok (ofWord (String.ofList (cs.takeWhile Text.isNamePart))),
              cs.dropWhile Text.isNamePart)
          else none

/-- The tokens of a text that starts at `position` and has no blank at its end. -/
def scan : Nat → Nat → List Char → Except Problem (List Token)
  | _, _, [] => .ok []
  | 0, _, _ => .ok []
  | fuel + 1, position, cs =>
    match first? (cs.dropWhile Text.isBlank) with
    | none => .error (.unexpectedCharacter position (String.ofList (cs.take 10)))
    | some (.error p, _) => .error p
    | some (.ok t, rest) =>
      match scan fuel (position + (cs.length - rest.length)) rest with
      | .error p => .error p
      | .ok ts => .ok (t :: ts)

/-- All tokens of an expression. Every token takes a character, so there are no more of them
than characters. -/
def ofString (s : String) : Except Problem (List Token) :=
  let cs := Text.dropEndWhile Text.isBlank s.toList
  scan cs.length 0 cs

end Token

namespace Problem

def message : Problem → String
  | empty => "Empty expression"
  | unexpectedCharacter position near =>
    "Unexpected character at " ++ toString position ++ ": " ++ Text.quoted near
  | endOfExpression => "Unexpected end of expression"
  | expected s => "Expected " ++ Text.quoted s.symbol
  | unexpectedToken t => "Unexpected token " ++ t.shown
  | unknownName s => "Unknown name " ++ Text.quoted s
  | noAttribute t => "Expected attribute name, got " ++ t.shown
  | noIndex t => "Invalid index " ++ t.shown
  | unreadable key container => "Cannot read " ++ key.shown ++ " of " ++ container.kind
  | incomparable left right => "Cannot compare " ++ left.shown ++ " and " ++ right.shown
  | tooDeep => "Expression nested too deeply"
  | longLiteral => "Whole number with too many digits"

end Problem

end Dialogue.Condition
