import Dialogue.Fault
import Dialogue.Notice
import Dialogue.Text.Quoted

/-! The choice of a store. The first store made serves everyone until it is dropped. -/
namespace Dialogue

inductive Backend where
  | memory
  | file
  | sql
  deriving Repr, DecidableEq

namespace Backend

def name : Backend → String
  | memory => "memory"
  | file => "file"
  | sql => "sql"

def all : List Backend := [memory, file, sql]

def ofName? (s : String) : Option Backend := all.find? (·.name == s)

/-- The backend of a name; any other name is reported and refused. -/
def choose (s : String) : Except (Fault × Notice) Backend :=
  match ofName? s with
  | some b => .ok b
  | none => .error (.refused ("Unknown store_backend " ++ Text.quoted s ++ "; expected one of "
      ++ ", ".intercalate (all.map name)), .backendUnknown)

end Backend

/-- The store in use, by its backend and its number, and how many were made. -/
structure Depot where
  current : Option (Backend × Nat) := none
  made : Nat := 0
  deriving Repr, DecidableEq

namespace Depot

/-- The store in use, or a new one of the backend named. -/
def obtain (d : Depot) (name : String) : Except (Fault × Notice) (Depot × Backend × Nat) :=
  match d.current with
  | some (b, n) => .ok (d, b, n)
  | none => do
    let b ← Backend.choose name
    return ({ current := some (b, d.made), made := d.made + 1 }, b, d.made)

def drop (d : Depot) : Depot := { d with current := none }

end Depot

end Dialogue
