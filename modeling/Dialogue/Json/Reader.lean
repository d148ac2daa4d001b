import Dialogue.Value
import Dialogue.Decimal.Reading

/-! Values read from JSON text. Besides the standard the reader knows the words `NaN`,
`Infinity` and `-Infinity`; of two entries under one key the later value counts. -/
namespace Dialogue.Json

def isBlank (c : Char) : Bool := c == ' ' || c == '\t' || c == '\n' || c == '\r'

def skip (cs : List Char) : List Char := cs.dropWhile isBlank

/-- What follows a given beginning. -/
def after? : List Char → List Char → Option (List Char)
  | [], cs => some cs
  | _ :: _, [] => none
  | w :: ws, c :: cs => if w == c then after? ws cs else none

def hexValue? (c : Char) : Option Nat :=
  if '0' ≤ c ∧ c ≤ '9' then some (c.toNat - 0x30)
  else if 'a' ≤ c ∧ c ≤ 'f' then some (c.toNat - 0x57)
  else if 'A' ≤ c ∧ c ≤ 'F' then some (c.toNat - 0x37)
  else none

/-- Four hexadecimal digits. -/
def unit? : List Char → Option (Nat × List Char)
  | a :: b :: c :: d :: cs => do
    let high := (← hexValue? a) * 16 + (← hexValue? b)
    let low := (← hexValue? c) * 16 + (← hexValue? d)
    some (high * 256 + low, cs)
  | _ => none

def isHigh (n : Nat) : Bool := 0xD800 ≤ n && n < 0xDC00
def isLow (n : Nat) : Bool := 0xDC00 ≤ n && n < 0xE000

/-- The code point of a 16-bit unit and, for the first half of a pair, of the unit escaped
after it. A half on its own has no code point and is replaced by U+FFFD. -/
def codePoint (n : Nat) (cs : List Char) : Char × List Char :=
  if isHigh n then
    match cs with
    | '\\' :: 'u' :: rest => match unit? rest with
      | some (m, rest) =>
        if isLow m then (Char.ofNat (0x10000 + (n - 0xD800) * 0x400 + (m - 0xDC00)), rest)
        else (Char.ofNat 0xFFFD, cs)
      | none => (Char.ofNat 0xFFFD, cs)
    | _ => (Char.ofNat 0xFFFD, cs)
  else if isLow n then (Char.ofNat 0xFFFD, cs)
  else (Char.ofNat n, cs)

/-- The character of a one-letter escape. -/
def escaped? : Char → Option Char
  | '"' => some '"'
  | '\\' => some '\\'
  | '/' => some '/'
  | 'b' => some (Char.ofNat 8)
  | 'f' => some (Char.ofNat 12)
  | 'n' => some '\n'
  | 'r' => some '\r'
  | 't' => some '\t'
  | _ => none

/-- The rest of a text after its opening quote. Control characters must be escaped. -/
def text? : Nat → List Char → List Char → Option (String × List Char)
  | 0, _, _ => none
  | _, _, [] => none
  | fuel + 1, read, c :: cs =>
    if c == '"' then some (String.ofList read.reverse, cs)
    else if c == '\\' then
      match cs with
      | 'u' :: rest => match unit? rest with
        | some (n, rest) =>
          let (d, rest) := codePoint n rest
          text? fuel (d :: read) rest
        | none => none
      | e :: rest => match escaped? e with
        | some d => text? fuel (d :: read) rest
        | none => none
      | [] => none
    else if c.toNat < 0x20 then none
    else text? fuel (c :: read) cs

/-- Digits without a zero in front, and what follows them. -/
def wholeDigits? (cs : List Char) : Option (List Char × List Char) :=
  match cs with
  | '0' :: rest => some (['0'], rest)
  | c :: _ =>
    if c.isDigit then some (cs.takeWhile Char.isDigit, cs.dropWhile Char.isDigit) else none
  | [] => none

/-- A point and at least one digit; without them nothing is read. -/
def partDigits (cs : List Char) : List Char × List Char :=
  match cs with
  | '.' :: rest =>
    if (rest.takeWhile Char.isDigit).isEmpty then ([], cs)
    else (rest.takeWhile Char.isDigit, rest.dropWhile Char.isDigit)
  | _ => ([], cs)

/-- A mark, a sign if any and at least one digit; without them nothing is read. -/
def scale (cs : List Char) : Option Int × List Char :=
  match cs with
  | e :: rest =>
    if e == 'e' || e == 'E' then
      let (negative, rest) := Decimal.sign rest
      let ds := rest.takeWhile Char.isDigit
      if ds.isEmpty then (none, cs)
      else
        let n : Int := Text.numeral ds
        (some (if negative then -n else n), rest.dropWhile Char.isDigit)
    else (none, cs)
  | [] => (none, cs)

/-- A number without its sign: whole unless it has a point or an exponent. -/
def number? (negative : Bool) (cs : List Char) : Option (Value × List Char) := do
  let (whole, rest) ← wholeDigits? cs
  let (part, rest) := partDigits rest
  let (exponent, rest) := scale rest
  if part.isEmpty && exponent.isNone then
    if whole.length > Decimal.digitLimit then none
    else
      let n : Int := Text.numeral whole
      some (.int (if negative then -n else n), rest)
  else
    let x := Decimal.nearest negative (Text.numeral (whole ++ part)) (exponent.getD 0 - part.length)
    some (.float x, rest)

/-- A word or a number. -/
def scalar? (cs : List Char) : Option (Value × List Char) :=
  match cs with
  | 'n' :: rest => (after? ['u', 'l', 'l'] rest).map (.null, ·)
  | 't' :: rest => (after? ['r', 'u', 'e'] rest).map (.bool true, ·)
  | 'f' :: rest => (after? ['a', 'l', 's', 'e'] rest).map (.bool false, ·)
  | 'N' :: rest => (after? ['a', 'N'] rest).map (.float Binary64.quietNaN, ·)
  | 'I' :: rest =>
    (after? ['n', 'f', 'i', 'n', 'i', 't', 'y'] rest).map (.float (Binary64.infinity false), ·)
  | '-' :: 'I' :: rest =>
    (after? ['n', 'f', 'i', 'n', 'i', 't', 'y'] rest).map (.float (Binary64.infinity true), ·)
  | '-' :: rest => number? true rest
  | _ => number? false cs

mutual

/-- A value at the beginning of the text, which no blank precedes, and what follows it. -/
def value? : Nat → List Char → Option (Value × List Char)
  | 0, _ => none
  | fuel + 1, cs => match cs with
    | '"' :: rest => (text? (rest.length + 1) [] rest).map fun (s, rest) => (.text s, rest)
    | '[' :: rest => match skip rest with
      | ']' :: rest => some (.list [], rest)
      | rest => (items? fuel rest).map fun (xs, rest) => (.list xs, rest)
    | '\x7b' :: rest => match skip rest with
      | '\x7d' :: rest => some (.dict [], rest)
      | rest => (entries? fuel rest).map fun (es, rest) => (.dict (Table.ofEntries es), rest)
    | _ => scalar? cs

/-- Items up to the closing bracket; at least one. -/
def items? : Nat → List Char → Option (List Value × List Char)
  | 0, _ => none
  | fuel + 1, cs => match value? fuel cs with
    | none => none
    | some (x, rest) => match skip rest with
      | ',' :: rest => (items? fuel (skip rest)).map fun (xs, rest) => (x :: xs, rest)
      | ']' :: rest => some ([x], rest)
      | _ => none

/-- Entries up to the closing brace; at least one. -/
def entries? : Nat → List Char → Option (List (String × Value) × List Char)
  | 0, _ => none
  | fuel + 1, cs => match cs with
    | '"' :: rest => match text? (rest.length + 1) [] rest with
      | none => none
      | some (k, rest) => match skip rest with
        | ':' :: rest => match value? fuel (skip rest) with
          | none => none
          | some (x, rest) => match skip rest with
            | ',' :: rest => (entries? fuel (skip rest)).map fun (es, rest) => ((k, x) :: es, rest)
            | '\x7d' :: rest => some ([(k, x)], rest)
            | _ => none
        | _ => none
    | _ => none

end

/-- The value that the whole text holds. No value needs more depth than it has characters. -/
def read? (s : String) : Option Value :=
  let cs := skip s.toList
  match value? (cs.length + 1) cs with
  | some (v, rest) => if (skip rest).isEmpty then some v else none
  | none => none

end Dialogue.Json
