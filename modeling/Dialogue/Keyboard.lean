import Dialogue.Flow
import Dialogue.Json.Writer
import Dialogue.Notice
import Dialogue.Schema
import Dialogue.Text.Utf8
import Dialogue.Value.Rendering

/-! Rows of buttons under a message. Pressing a button sends back its payload. -/
namespace Dialogue
open Schema

structure Button where
  text : String
  payload : String
  deriving Repr, DecidableEq

abbrev Keyboard := List (List Button)

def Button.fieldNames : List String := ["text", "payload"]

def Button.read : Reader Button := record fun fs =>
  Button.mk <$> required fs "text" string <*> required fs "payload" string

def Button.toValue (b : Button) : Value :=
  .dict [("text", .text b.text), ("payload", .text b.payload)]

/-- What a handler offers to choose from. -/
structure Menu where
  message : String
  items : List (String × Value)

namespace Menu

def fieldNames : List String := ["message", "buttons"]

private def item : Reader (String × Value) := record fun fs =>
  Prod.mk <$> required fs "text" string <*> required fs "value" anything

def read : Reader Menu := record fun fs =>
  Menu.mk <$> required fs "message" string <*> required fs "buttons" (list item)

def toValue (m : Menu) : Value :=
  .dict [("message", .text m.message),
    ("buttons", .list (m.items.map fun (t, v) => .dict [("text", .text t), ("value", v)]))]

/-- A menu is of use only with a message. -/
def usable (m : Menu) : Option Menu := if m.message.isEmpty then none else some m

/-- The usable menu that a value describes. -/
def ofValue? (v : Value) : Option Menu :=
  match read v with
  | .ok m => m.usable
  | .error _ => none

end Menu

namespace Keyboard

/-- The form in which the messenger takes a keyboard. -/
def markup (k : Keyboard) : Value :=
  .dict [("inline_keyboard", .list (k.map fun row => .list (row.map fun b =>
    .dict [("text", .text b.text), ("callback_data", .text b.payload)])))]

/-- The most bytes of UTF-8 that a channel takes for a payload. -/
def payloadLimit : Nat := 64

/-- A transition as data; what is missing is left out. -/
def transition (id : Option String) (b : ChoiceButton) : Table String Value :=
  [("step_id", optionalText id), ("value", b.value), ("save_to_variable", optionalText b.saveTo),
    ("next_step_id", Value.ofOption targetValue b.next), ("next_flow", optionalText b.nextFlow)]
    |>.filter fun e => !e.2.isNull
where
  optionalText (s : Option String) : Value := Value.ofOption .text s
  targetValue : Target → Value
    | .index n => .int n
    | .label s => .text s

def choicePayload (id : Option String) (b : ChoiceButton) : String :=
  Json.write (.dict (transition id b))

/-- One row of buttons that carry their transitions. A payload that is too long is reported
and stays as it is. -/
def ofChoice (id : Option String) (c : Step.Choice) : Keyboard × List Notice :=
  let row := c.buttons.map fun b => Button.mk b.text (choicePayload id b)
  let long := row.filter fun b => payloadLimit < Text.byteSize b.payload.toList
  ([row], long.map fun _ => .payloadTooLong)

/-- The payload of a value in a menu: the lead, a low line, and as much of the value as fits. -/
def menuPayload (lead : String) (v : Value) : String × List Notice :=
  let whole := lead ++ "_" ++ v.display
  if payloadLimit < Text.byteSize whole.toList then
    let room := payloadLimit - Text.byteSize lead.toList - 1
    let cut := lead ++ "_" ++ Text.truncate v.display room
    (cut, [.payloadTruncated whole cut])
  else (whole, [])

/-- One row of buttons with the values of a menu. -/
def ofMenu (lead : String) (m : Menu) : Keyboard × List Notice :=
  let made := m.items.map fun (text, v) =>
    let (payload, notices) := menuPayload lead v
    (Button.mk text payload, notices)
  ([made.map (·.1)], made.flatMap (·.2))

end Keyboard

end Dialogue
