import Dialogue.Value

/-! Places inside nested dictionaries, written as keys joined by points. -/
namespace Dialogue

/-- The keys to follow from the outside in; never empty when read from a text. -/
abbrev Path := List String

namespace Path

/-- The pieces of a text between the separators; one more than there are separators. -/
def pieces (sep : Char) : List Char → List (List Char)
  | [] => [[]]
  | c :: cs =>
    if c == sep then [] :: pieces sep cs
    else match pieces sep cs with
      | [] => [[c]]
      | p :: ps => (c :: p) :: ps

def ofString (s : String) : Path := (pieces '.' s.toList).map String.ofList

/-- The value at a path; null where a key is missing or no dictionary is met. -/
def get (v : Value) : Path → Value
  | [] => v
  | k :: p => match v with
    | .dict fs => get (Value.orNull (Table.value? fs k)) p
    | _ => .null

/-- The entries of a dictionary; anything else is replaced by an empty one. -/
def entries : Option Value → Table String Value
  | some (.dict fs) => fs
  | _ => []

/-- Puts a value at a path, making dictionaries on the way. -/
def set (fs : Table String Value) : Path → Value → Table String Value
  | [], _ => fs
  | [k], w => Table.put fs k w
  | k :: p, w => Table.put fs k (.dict (set (entries (Table.value? fs k)) p w))

/-- Why a value that is no dictionary cannot take a value at a path. -/
inductive Misfit where
  | noKeys
  | noPlaces
  deriving Repr, DecidableEq

/-- Puts a value at a path of any value. -/
def assign (v : Value) (p : Path) (w : Value) : Except Misfit Value :=
  match v with
  | .dict fs => .ok (.dict (set fs p w))
  | _ => .error (if p.length ≤ 1 then .noPlaces else .noKeys)

/-- Neither path leads through the other. -/
def Incomparable (p q : Path) : Prop := ¬ p <+: q ∧ ¬ q <+: p

instance (p q : Path) : Decidable (Incomparable p q) := by unfold Incomparable; infer_instance

@[simp] theorem get_nil (v : Value) : get v [] = v := by cases v <;> rfl

@[simp] theorem get_dict_cons (fs : List (String × Value)) (k : String) (p : Path) :
    get (.dict fs) (k :: p) = get (Value.orNull (Table.value? fs k)) p := rfl

theorem pieces_ne_nil (sep : Char) (cs : List Char) : pieces sep cs ≠ [] := by
  induction cs with
  | nil => simp [pieces]
  | cons c cs ih =>
    rw [pieces]
    split
    · simp
    · split <;> simp_all

theorem ofString_ne_nil (s : String) : ofString s ≠ [] := by
  simp [ofString, pieces_ne_nil]

end Path

end Dialogue
