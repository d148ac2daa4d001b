import Dialogue.Flow.Schema
import Dialogue.Json.Reader
import Dialogue.Notice

/-! What the payload of a pressed button asks for. -/
namespace Dialogue
open Schema

/-- A transition: registered for a payload, or carried by one. `given` are the fields that
were present when it was read. -/
structure Action where
  action : Option String := none
  flowName : Option String := none
  next : Option Target := none
  nextFlow : Option String := none
  target : Option String := none
  value : Value := .null
  handler : Option String := none
  saveTo : Option String := none
  stepId : Option String := none
  given : List String := []

namespace Action

def fieldNames : List String :=
  ["action", "flow_name", "next_step_id", "next_flow", "variable", "value", "handler_name",
   "save_to_variable", "step_id"]

def read : Reader Action := record fun fs =>
  Action.mk <$> optionalField fs "action" string <*> optionalField fs "flow_name" string
    <*> optionalField fs "next_step_id" Target.read <*> optionalField fs "next_flow" string
    <*> optionalField fs "variable" string <*> fieldOr fs "value" .null anything
    <*> optionalField fs "handler_name" string <*> optionalField fs "save_to_variable" string
    <*> optionalField fs "step_id" string <*> pure (fieldNames.filter (Table.has fs))

def toValue (a : Action) : Value :=
  .dict [("action", optionalText a.action), ("flow_name", optionalText a.flowName),
    ("next_step_id", Value.ofOption Target.toValue a.next), ("next_flow", optionalText a.nextFlow),
    ("variable", optionalText a.target), ("value", a.value),
    ("handler_name", optionalText a.handler), ("save_to_variable", optionalText a.saveTo),
    ("step_id", optionalText a.stepId)]

end Action

/-- A payload by its meaning. -/
inductive Press where
  | registered (a : Action)
  | dynamic
  | json (a : Action)
  | keyboard

namespace Press

def kind : Press → String
  | registered _ => "registered"
  | dynamic => "dynamic"
  | json _ => "json"
  | keyboard => "keyboard"

/-- What the payloads of menu buttons begin with, unless the step says otherwise. -/
def menuMark : String := "dc_"

/-- The meaning of a payload by its form: the menu mark, a JSON object that reads as an action,
or neither. -/
def byForm (payload : String) : Press × List Notice :=
  if menuMark.toList.isPrefixOf payload.toList then (dynamic, [])
  else match Json.read? payload with
    | some (.dict fs) => match Action.read (.dict fs) with
      | .ok a => (json a, [])
      | .error _ => (keyboard, [.payloadInvalid])
    | _ => (keyboard, [])

/-- A registered payload means its action, whatever its form. -/
def ofPayload (actions : Table String Action) (payload : String) : Press × List Notice :=
  match Table.value? actions payload with
  | some a => (registered a, [])
  | none => byForm payload

end Press

/-- The first menu step of a flow whose lead the payload begins with, its position, and the
rest of the payload after the lead and a low line. -/
def Flow.matchMenu (f : Flow) (payload : String) : Option (Nat × Step.Menu × String) :=
  f.steps.zipIdx.findSome? fun (step, i) => match step.work with
    | .menu m =>
      let head := (m.lead step.id ++ "_").toList
      if head.isPrefixOf payload.toList then
        some (i, m, String.ofList (payload.toList.drop head.length))
      else none
    | _ => none

end Dialogue
