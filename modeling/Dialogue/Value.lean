import Dialogue.Table

/-! Data as the bot keeps it: a tree of scalars, lists and dictionaries. A dictionary keeps the
order in which its keys were put. -/
namespace Dialogue

inductive Value where
  | null
  | bool (b : Bool)
  | int (n : Int)
  | float (x : Float)
  | text (s : String)
  | list (items : List Value)
  | dict (fields : List (String × Value))
  deriving Inhabited

namespace Value

/-- Nothing, zero and everything empty count as false; all else counts as true. -/
def truthy : Value → Bool
  | null => false
  | bool b => b
  | int n => n != 0
  | float x => x != 0
  | text s => s != ""
  | list xs => !xs.isEmpty
  | dict fs => !fs.isEmpty

/-- The name of a value's kind. -/
def kind : Value → String
  | null => "NoneType"
  | bool _ => "bool"
  | int _ => "int"
  | float _ => "float"
  | text _ => "str"
  | list _ => "list"
  | dict _ => "dict"

def isNull : Value → Bool
  | null => true
  | _ => false

def text? : Value → Option String
  | text s => some s
  | _ => none

def fields? : Value → Option (Table String Value)
  | dict fs => some fs
  | _ => none

/-- The value under a key of a dictionary. -/
def field? (v : Value) (k : String) : Option Value := v.fields?.bind fun fs => Table.value? fs k

/-- No value, or the value given. -/
def ofOption (f : α → Value) : Option α → Value
  | none => null
  | some a => f a

/-- Missing and null are the same. -/
def orNull (v : Option Value) : Value := v.getD null

mutual

/-- No dictionary anywhere in the tree has a key twice. -/
def WellFormed : Value → Prop
  | list xs => AllWellFormed xs
  | dict fs => (Table.keys fs).Nodup ∧ FieldsWellFormed fs
  | _ => True

def AllWellFormed : List Value → Prop
  | [] => True
  | x :: xs => WellFormed x ∧ AllWellFormed xs

def FieldsWellFormed : List (String × Value) → Prop
  | [] => True
  | (_, x) :: fs => WellFormed x ∧ FieldsWellFormed fs

end

end Value

end Dialogue
