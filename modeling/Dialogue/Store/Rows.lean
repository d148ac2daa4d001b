import Dialogue.Fault
import Dialogue.Notice
import Dialogue.Store.Records

/-! Records kept in a table of a database: one row for each actor, with the text beside the
ids. External ids have to fit into 64 bits. -/
namespace Dialogue

structure Row where
  id : Int
  externalId : Int
  blob : Option String := none
  deriving Repr, DecidableEq

abbrev Rows := List Row

namespace Rows

/-- The range of a column of 64 bits. -/
def fits (n : Int) : Bool := -9223372036854775808 ≤ n && n < 9223372036854775808

def find (t : Rows) (externalId : Int) : Except Fault (Option Row) :=
  if fits externalId then .ok (t.find? (·.externalId == externalId)) else .error .tooLarge

def resolve (t : Rows) (externalId : Int) : Except Fault (Option Int) := do
  return (← t.find externalId).map (·.id)

def externalIds (t : Rows) : List Int := t.map (·.externalId)

def load (t : Rows) (externalId : Int) : Except Fault (Option String) := do
  return (← t.find externalId).bind (·.blob)

/-- The row of an actor, made if there is none; a new row gets the next id. -/
def add (t : Rows) (externalId : Int) : Except Fault (Rows × Int) := do
  match ← t.find externalId with
  | some row => return (t, row.id)
  | none =>
    let id := nextId (t.map (·.id))
    return (t ++ [{ id := id, externalId := externalId }], id)

/-- A text for someone without a row is dropped with a notice. -/
def save (t : Rows) (externalId : Int) (blob : String) : Except Fault (Rows × List Notice) := do
  match ← t.find externalId with
  | some _ =>
    let put := fun (row : Row) =>
      if row.externalId == externalId then { row with blob := some blob } else row
    return (t.map put, [])
  | none => return (t, [.saveForUnknownHuman])

end Rows

end Dialogue
