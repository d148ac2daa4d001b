import Dialogue.Flow
import Dialogue.Schema

/-! Flows read from data and written back as data. -/
namespace Dialogue
open Schema

/-- A number or a text stands as it is; anything else has to read as a whole number. -/
def Target.read : Reader Target
  | .int n => .ok (.index n)
  | .text s => .ok (.label s)
  | v => match (whole v).under (.key "int") with
    | .ok n => .ok (.index n)
    | .error es => Except.error (es ++ [⟨.notText, [.key "str"]⟩])

def Target.toValue : Target → Value
  | .index n => .int n
  | .label s => .text s

def Validation.read : Reader Validation := record fun fs =>
  Validation.mk <$> fieldOr fs "type" "text" string <*> fieldOr fs "pattern" "" string
    <*> fieldOr fs "error_message" "" string

def Validation.toValue (v : Validation) : Value :=
  .dict [("type", .text v.kind), ("pattern", .text v.pattern), ("error_message", .text v.message)]

def optionalText (s : Option String) : Value := Value.ofOption .text s

def ChoiceButton.read : Reader ChoiceButton := record fun fs =>
  ChoiceButton.mk <$> required fs "text" string <*> required fs "value" anything
    <*> optionalField fs "save_to_variable" string <*> optionalField fs "next_step_id" Target.read
    <*> optionalField fs "next_flow" string

def ChoiceButton.toValue (b : ChoiceButton) : Value :=
  .dict [("text", .text b.text), ("value", b.value), ("save_to_variable", optionalText b.saveTo),
    ("next_step_id", Value.ofOption Target.toValue b.next), ("next_flow", optionalText b.nextFlow)]

namespace Step

/-- Whole milliseconds, none of them owed. -/
def duration : Reader Nat := fun v =>
  match whole v with
  | .ok n => if 0 ≤ n then .ok n.toNat else .flawed .tooSmall
  | .error es => Except.error es

def switch : Reader Bool
  | .text "enable" => .ok true
  | .text "disable" => .ok false
  | _ => .flawed .notAmong

private def next (fs : Table String Value) : Checked (Option Target) :=
  optionalField fs "next_step_id" Target.read

/-- The reader of a step of the given type, if there is such a type. -/
def reader? (type : String) : Option (Table String Value → Checked Work) :=
  match type with
  | "message" => some fun fs => Checked.map .message <|
    Message.mk <$> required fs "text" string <*> optionalField fs "keyboard_key" string <*> next fs
  | "wait_input" => some fun fs => Checked.map .question <|
    Question.mk <$> required fs "text" string <*> required fs "save_to_variable" string
      <*> optionalField fs "validation" Validation.read <*> next fs
  | "callback" => some fun fs => Checked.map .choice <|
    Choice.mk <$> optionalField fs "text" string <*> required fs "buttons" (tuple ChoiceButton.read)
  | "condition" => some fun fs => Checked.map .branch <|
    Branch.mk <$> required fs "condition" string <*> optionalField fs "true_step" Target.read
      <*> optionalField fs "false_step" Target.read <*> optionalField fs "true_flow" string
      <*> optionalField fs "false_flow" string
  | "handler" => some fun fs => Work.call <$> required fs "handler_name" string <*> next fs
  | "flow" => some fun fs => Work.flow <$> required fs "flow_name" string
  | "delay" => some fun fs => Work.pause <$> required fs "duration" duration <*> next fs
  | "forwarding_control" => some fun fs => Work.relaying <$> required fs "action" switch <*> next fs
  | "dynamic" => some fun fs => Checked.map .report <|
    Report.mk <$> required fs "handler" string <*> optionalField fs "keyboard_key" string
      <*> next fs
  | "dynamic_callback" => some fun fs => Checked.map .menu <|
    Menu.mk <$> required fs "handler" string <*> required fs "save_to_variable" string <*> next fs
      <*> optionalField fs "next_flow" string <*> optionalField fs "callback_prefix" string
  | _ => none

/-- The field `type` tells which fields a step has. -/
def read : Reader Step
  | .dict fs => match Table.value? fs "type" with
    | none => .flawed .noTag
    | some (.text type) => match reader? type with
      | some work =>
        Checked.under (.key type) (Step.mk <$> optionalField fs "id" string <*> work fs)
      | none => .flawed .unknownTag
    | some _ => .flawed .unknownTag
  | _ => .flawed .notTagged

def Work.type : Work → String
  | .message _ => "message"
  | .question _ => "wait_input"
  | .choice _ => "callback"
  | .branch _ => "condition"
  | .call .. => "handler"
  | .flow _ => "flow"
  | .pause .. => "delay"
  | .relaying .. => "forwarding_control"
  | .report _ => "dynamic"
  | .menu _ => "dynamic_callback"
  | .unsupported => "unsupported"

private def target (t : Option Target) : Value := Value.ofOption Target.toValue t

def Work.fields : Work → List (String × Value)
  | .message m => [("text", .text m.text), ("keyboard_key", optionalText m.keyboard),
    ("next_step_id", target m.next)]
  | .question q => [("text", .text q.text), ("save_to_variable", .text q.saveTo),
    ("validation", Value.ofOption Validation.toValue q.validation), ("next_step_id", target q.next)]
  | .choice c => [("text", optionalText c.text), ("buttons", .list (c.buttons.map (·.toValue)))]
  | .branch b => [("condition", .text b.condition), ("true_step", target b.ifTrue),
    ("false_step", target b.ifFalse), ("true_flow", optionalText b.flowIfTrue),
    ("false_flow", optionalText b.flowIfFalse)]
  | .call handler next => [("handler_name", .text handler), ("next_step_id", target next)]
  | .flow name => [("flow_name", .text name)]
  | .pause ms next => [("duration", .int ms), ("next_step_id", target next)]
  | .relaying enable next =>
    [("action", .text (if enable then "enable" else "disable")), ("next_step_id", target next)]
  | .report r => [("handler", .text r.handler), ("keyboard_key", optionalText r.keyboard),
    ("next_step_id", target r.next)]
  | .menu m => [("handler", .text m.handler), ("save_to_variable", .text m.saveTo),
    ("next_step_id", target m.next), ("next_flow", optionalText m.nextFlow),
    ("callback_prefix", optionalText m.callbackPrefix)]
  | .unsupported => []

def toValue (s : Step) : Value :=
  .dict (("id", optionalText s.id) :: ("type", .text s.work.type) :: s.work.fields)

end Step

namespace Flow

def read : Reader Flow := record fun fs =>
  Flow.mk <$> required fs "name" string <*> fieldOr fs "description" "" string
    <*> fieldOr fs "steps" [] (tuple Step.read)

def toValue (f : Flow) : Value :=
  .dict [("name", .text f.name), ("description", .text f.description),
    ("steps", .list (f.steps.map (·.toValue)))]

end Flow

end Dialogue
