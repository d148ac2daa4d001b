import Dialogue.Value
import Dialogue.Decimal.Style
import Dialogue.Text.Quoted

/-! Values written as JSON text: on one line without blanks, or one entry a line. -/
namespace Dialogue

/-- Floating-point numbers in JSON text; those that are not finite are written as words. -/
def Decimal.jsonStyle : Decimal.Style := ⟨-4, 16, 2, "NaN", "Infinity"⟩

namespace Json

/-- A control character, a quote or a backslash has an escape; all else stands for itself. -/
def escape (c : Char) : List Char :=
  if c == '"' then ['\\', '"']
  else if c == '\\' then ['\\', '\\']
  else if c == '\n' then ['\\', 'n']
  else if c == '\r' then ['\\', 'r']
  else if c == '\t' then ['\\', 't']
  else if c.toNat == 8 then ['\\', 'b']
  else if c.toNat == 12 then ['\\', 'f']
  else if c.toNat < 0x20 then '\\' :: 'u' :: Text.hex 4 c.toNat
  else [c]

/-- Every character past `~` has an escape as well, by one or two 16-bit units. -/
def escapeLatin (c : Char) : List Char :=
  if c.toNat < 0x7F then escape c
  else if c.toNat < 0x10000 then '\\' :: 'u' :: Text.hex 4 c.toNat
  else
    let n := c.toNat - 0x10000
    ('\\' :: 'u' :: Text.hex 4 (0xD800 + n / 0x400))
      ++ ('\\' :: 'u' :: Text.hex 4 (0xDC00 + n % 0x400))

def quote (escape : Char → List Char) (s : String) : List Char :=
  '"' :: s.toList.flatMap escape ++ ['"']

mutual

def compact : Value → List Char
  | .null => ['n', 'u', 'l', 'l']
  | .bool b => if b then ['t', 'r', 'u', 'e'] else ['f', 'a', 'l', 's', 'e']
  | .int n => (toString n).toList
  | .float x => (Decimal.jsonStyle.write x).toList
  | .text s => quote escape s
  | .list xs => '[' :: compactItems xs ++ [']']
  | .dict fs => '\x7b' :: compactEntries fs ++ ['\x7d']

def compactItems : List Value → List Char
  | [] => []
  | [x] => compact x
  | x :: xs => compact x ++ ',' :: compactItems xs

def compactEntries : List (String × Value) → List Char
  | [] => []
  | [(k, x)] => quote escape k ++ ':' :: compact x
  | (k, x) :: fs => quote escape k ++ ':' :: compact x ++ ',' :: compactEntries fs

end

def write (v : Value) : String := String.ofList (compact v)

/-- A whole number or a text in Latin letters. -/
def plainScalar : Value → List Char
  | .text s => quote escapeLatin s
  | v => compact v

/-- A dictionary of scalars with one entry a line, in Latin letters only. -/
def sheet : List (String × Value) → String
  | [] => "\x7b\x7d"
  | fs =>
    let line := fun (e : String × Value) => "  " ++ String.ofList (quote escapeLatin e.1)
      ++ ": " ++ String.ofList (plainScalar e.2)
    "\x7b\n" ++ ",\n".intercalate (fs.map line) ++ "\n\x7d"

end Json

namespace Value

mutual

/-- Floating-point numbers that are not finite are replaced by null. -/
def finiteOnly : Value → Value
  | float x => if (Binary64.ofFloat x).isFinite then float x else null
  | list xs => list (finiteItems xs)
  | dict fs => dict (finiteFields fs)
  | v => v

def finiteItems : List Value → List Value
  | [] => []
  | x :: xs => finiteOnly x :: finiteItems xs

def finiteFields : List (String × Value) → List (String × Value)
  | [] => []
  | (k, x) :: fs => (k, finiteOnly x) :: finiteFields fs

end

end Value

end Dialogue
