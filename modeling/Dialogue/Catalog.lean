import Dialogue.Command
import Dialogue.Keyboard
import Dialogue.Payload
import Dialogue.Fault

/-! Everything that is set up before the first event: flows, keyboards, actions and commands.
Once frozen, a catalog does not change any more. -/
namespace Dialogue

/-- What stands under a payload. Data that no one has made an action of are kept as given. -/
inductive Registered where
  | action (a : Action)
  | other (v : Value)

structure Catalog where
  flows : Table String Flow := []
  keyboards : Table String Keyboard := []
  actions : Table String Registered := []
  commands : Table String Command := []
  frozen : Bool := false

/-- Why something is not registered, and what is reported besides. -/
structure Refusal where
  fault : Fault
  notices : List Notice := []

namespace Catalog

def flow? (c : Catalog) (name : String) : Option Flow := Table.value? c.flows name

def keyboard? (c : Catalog) (key : String) : Option Keyboard := Table.value? c.keyboards key

def command? (c : Catalog) (name : String) : Option Command := Table.value? c.commands name

/-- The action registered for a payload; null counts as none. -/
def registered? (c : Catalog) (payload : String) : Option Registered :=
  match Table.value? c.actions payload with
  | some (.other .null) => none
  | r => r

/-- The meaning of a payload. -/
def press (c : Catalog) (payload : String) : Except Fault (Press × List Notice) :=
  match c.registered? payload with
  | some (.action a) => .ok (.registered a, [])
  | some (.other _) => .error .noParts
  | none => .ok (Press.byForm payload)

def freeze (c : Catalog) : Catalog := { c with frozen := true }

def frozenText : String := "FlowRegistry is frozen; register everything before startup completes"

/-- A change that is refused once the catalog is frozen. -/
def change (c : Catalog) (k : Except Refusal Catalog) : Except Refusal Catalog :=
  if c.frozen then .error { fault := .broken frozenText } else k

/-- The ids that an earlier step of the list has already, in order. -/
def repeatedIds : List String → List Step → List String
  | _, [] => []
  | seen, s :: steps => match s.id with
    | none => repeatedIds seen steps
    | some id =>
      if id ∈ seen then id :: repeatedIds seen steps else repeatedIds (id :: seen) steps

/-- What keeps a flow out of the catalog. -/
def flowErrors (c : Catalog) (f : Flow) : List String :=
  (if f.name.isEmpty then ["flow name is required"] else [])
    ++ (repeatedIds [] f.steps).map (fun id => "duplicate step id '" ++ id ++ "'")
    ++ (if !f.name.isEmpty && Table.has c.flows f.name then
      ["duplicate flow name '" ++ f.name ++ "'"] else [])

def register (c : Catalog) (f : Flow) : Except Refusal Catalog :=
  c.change <| match c.flowErrors f with
    | [] => .ok { c with flows := Table.put c.flows f.name f }
    | es => .error {
        fault := .refused ("Invalid flow '" ++ f.name ++ "': " ++ "; ".intercalate es)
        notices := [.flowInvalid] }

def registerKeyboard (c : Catalog) (key : String) (k : Keyboard) : Except Refusal Catalog :=
  c.change (.ok { c with keyboards := Table.put c.keyboards key k })

def registerAction (c : Catalog) (payload : String) (r : Registered) : Except Refusal Catalog :=
  c.change (.ok { c with actions := Table.put c.actions payload r })

/-- The name of a command always begins with a slash. -/
def slashed (name : String) : String := if Command.isCommand name then name else "/" ++ name

def registerCommand (c : Catalog) (command : Command) : Except Refusal Catalog :=
  c.change <|
    let name := slashed command.name
    if (filled? command.flowName).isNone && (filled? command.handler).isNone then
      .error { fault := .refused ("Command '" ++ name ++ "' needs a flow_name or a handler_name") }
    else .ok { c with commands := Table.put c.commands name { command with name } }

end Catalog

end Dialogue
