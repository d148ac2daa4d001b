import Dialogue.Value.Magnitude
import Dialogue.Schema.Numeral

/-! Data checked against the shape it should have. All flaws of a record are found, not only
the first, each with the way to its place. -/
namespace Dialogue.Schema

inductive Spot where
  | key (name : String)
  | item (index : Nat)
  deriving Repr, DecidableEq

inductive Flaw where
  | missing
  | notText
  | notWhole
  | unreadableWhole
  | longWhole
  | fractionalWhole
  | notFinite
  | notTruth
  | unreadableTruth
  | notRecord
  | notList
  | notTuple
  | notDict
  | noTag
  | unknownTag
  | notTagged
  | notAmong
  | tooSmall
  deriving Repr, DecidableEq

namespace Flaw

def code : Flaw → String
  | missing => "missing"
  | notText => "string_type"
  | notWhole => "int_type"
  | unreadableWhole => "int_parsing"
  | longWhole => "int_parsing_size"
  | fractionalWhole => "int_from_float"
  | notFinite => "finite_number"
  | notTruth => "bool_type"
  | unreadableTruth => "bool_parsing"
  | notRecord => "model_type"
  | notList => "list_type"
  | notTuple => "tuple_type"
  | notDict => "dict_type"
  | noTag => "union_tag_not_found"
  | unknownTag => "union_tag_invalid"
  | notTagged => "model_attributes_type"
  | notAmong => "literal_error"
  | tooSmall => "greater_than_equal"

end Flaw

structure Complaint where
  flaw : Flaw
  path : List Spot
  deriving Repr, DecidableEq

/-- A checked part, or all complaints about it. -/
def Checked (α : Type) : Type := Except (List Complaint) α

namespace Checked
variable {α β : Type}

def ok (a : α) : Checked α := Except.ok a

def flawed (f : Flaw) : Checked α := Except.error [⟨f, []⟩]

def map (f : α → β) : Checked α → Checked β
  | .ok a => .ok (f a)
  | .error es => .error es

/-- Complaints about the first part come before those about the second. -/
def apply (f : Checked (α → β)) (a : Checked α) : Checked β :=
  match f, a with
  | .ok f, .ok a => .ok (f a)
  | .ok _, .error es => .error es
  | .error es, .ok _ => .error es
  | .error es, .error fs => .error (es ++ fs)

instance : Applicative Checked where
  pure := ok
  map := map
  seq f a := apply f (a ())

/-- Complaints about a part, seen from the whole. -/
def under (s : Spot) : Checked α → Checked α
  | .ok a => .ok a
  | .error es => .error (es.map fun e => { e with path := s :: e.path })

end Checked

abbrev Reader (α : Type) := Value → Checked α

def string : Reader String
  | .text s => .ok s
  | _ => .flawed .notText

def anything : Reader Value := .ok

/-- Where whole numbers stop to fit into one word, on either side. -/
def wordBound : Nat := 9223372036854775808

/-- The whole number that a floating-point number holds; both ends of the range are left out. -/
def wholeFloat (x : Float) : Checked Int :=
  match Value.wholePart? x with
  | none => .flawed .notFinite
  | some n =>
    if !Value.isWhole x then .flawed .fractionalWhole
    else if wordBound ≤ n.natAbs then .flawed .longWhole
    else .ok n

def wholeText (s : String) : Checked Int :=
  match Numeral.ofString s with
  | .value n => .ok n
  | .long => .flawed .longWhole
  | .unreadable => .flawed .unreadableWhole

def whole : Reader Int
  | .int n => .ok n
  | .bool b => .ok (if b then 1 else 0)
  | .float x => wholeFloat x
  | .text s => wholeText s
  | _ => .flawed .notWhole

def truthOfWhole : Int → Checked Bool
  | 0 => .ok false
  | 1 => .ok true
  | _ => .flawed .unreadableTruth

/-- Numbers that do not fit into one word are no truth values at all. -/
def truth : Reader Bool
  | .bool b => .ok b
  | .int n => if -wordBound ≤ n ∧ n < wordBound then truthOfWhole n else .flawed .notTruth
  | .float x => match wholeFloat x with
    | .ok n => truthOfWhole n
    | .error _ => .flawed .notTruth
  | .text s => match s.toLower with
    | "true" | "yes" | "y" | "on" | "t" | "1" => .ok true
    | "false" | "no" | "n" | "off" | "f" | "0" => .ok false
    | _ => .flawed .unreadableTruth
  | _ => .flawed .notTruth

def optional {α : Type} (read : Reader α) : Reader (Option α)
  | .null => .ok none
  | v => (read v).map some

/-- All items, with the complaints about each at its index. -/
def each {α : Type} (read : Reader α) (index : Nat) : List Value → Checked (List α)
  | [] => .ok []
  | x :: xs => (List.cons <$> (read x).under (.item index)).apply (each read (index + 1) xs)

def list {α : Type} (read : Reader α) : Reader (List α)
  | .list xs => each read 0 xs
  | _ => .flawed .notList

def tuple {α : Type} (read : Reader α) : Reader (List α)
  | .list xs => each read 0 xs
  | _ => .flawed .notTuple

def dict : Reader (Table String Value)
  | .dict fs => .ok fs
  | _ => .flawed .notDict

/-- The fields of a record; fields that nothing asks for are ignored. -/
def record {α : Type} (build : Table String Value → Checked α) : Reader α
  | .dict fs => build fs
  | _ => .flawed .notRecord

def required {α : Type} (fs : Table String Value) (name : String) (read : Reader α) : Checked α :=
  Checked.under (.key name) <| match Table.value? fs name with
    | some v => read v
    | none => .flawed .missing

def fieldOr {α : Type} (fs : Table String Value) (name : String) (default : α) (read : Reader α) :
    Checked α :=
  match Table.value? fs name with
  | some v => (read v).under (.key name)
  | none => .ok default

/-- Null and a missing field are the same. -/
def optionalField {α : Type} (fs : Table String Value) (name : String) (read : Reader α) :
    Checked (Option α) :=
  fieldOr fs name none (optional read)

end Dialogue.Schema
