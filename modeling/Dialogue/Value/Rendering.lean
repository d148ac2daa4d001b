import Dialogue.Value
import Dialogue.Decimal.Style
import Dialogue.Text.Quoted

/-! Values as people read them in messages: texts in quotes, dictionaries in braces. -/
namespace Dialogue

/-- Floating-point numbers have a point or an exponent of two digits and more. -/
def Decimal.displayStyle : Decimal.Style := ⟨-4, 16, 2, "nan", "inf"⟩

namespace Value

mutual

/-- The form of a value inside another one. -/
def shown : Value → String
  | null => "None"
  | bool b => if b then "True" else "False"
  | int n => toString n
  | float x => Decimal.displayStyle.write x
  | text s => Text.quoted s
  | list xs => "[" ++ ", ".intercalate (shownItems xs) ++ "]"
  | dict fs => "\x7b" ++ ", ".intercalate (shownFields fs) ++ "\x7d"

def shownItems : List Value → List String
  | [] => []
  | x :: xs => shown x :: shownItems xs

def shownFields : List (String × Value) → List String
  | [] => []
  | (k, x) :: fs => (Text.quoted k ++ ": " ++ shown x) :: shownFields fs

end

/-- The form of a value on its own: a text stands for itself. -/
def display : Value → String
  | text s => s
  | v => shown v

end Value

end Dialogue
