import Dialogue.Channel
import Dialogue.Contexts

/-! Custom work under a name. A handler is called for an actor, and for the payload of a press
or the text of a command if it takes one. -/
namespace Dialogue

/-- What a handler answers: any datum, or a menu to choose from. -/
inductive Reply where
  | value (v : Value)
  | menu (m : Menu)

namespace Reply

def text? : Reply → Option String
  | value v => v.text?
  | menu _ => none

def menu? : Reply → Option Menu
  | value v => Menu.ofValue? v
  | menu m => m.usable

end Reply

/-- What a handler takes besides the actor. -/
inductive Intake where
  /-- It does not even take what every handler is given. -/
  | unfit
  | nothing
  /-- A payload has to be there. -/
  | payload
  /-- A default stands in for a missing payload. -/
  | payloadOr (default : Value)
  /-- The default is always taken. -/
  | always (default : Value)
  /-- A payload may be there. -/
  | anything

namespace Intake

/-- What is taken of a payload, if the handler can be called with it. -/
def supply : Intake → Option Value → Except Fault (Option Value)
  | unfit, _ => .error .wrongKind
  | nothing, _ => .ok none
  | payload, some v => .ok (some v)
  | payload, none => .error .wrongKind
  | payloadOr default, p => .ok (some (p.getD default))
  | always default, _ => .ok (some default)
  | anything, p => .ok p

end Intake

structure Handler where
  intake : Intake
  run : (actor : Int) → (payload : Option Value) → Turn Reply

abbrev Handlers := Table String Handler

namespace Handlers
open Turn

def names (hs : Handlers) : List String := Table.keys hs

/-- Calls a handler; the call is recorded when the handler takes it. -/
def invoke (hs : Handlers) (name : String) (actor : Int) (payload : Option Value := none) :
    Turn Reply := do
  match Table.value? hs name with
  | none => throw .handlerUnknown
  | some h =>
    let taken ← ofResult (h.intake.supply payload)
    modify fun w => { w with calls := w.calls ++ [{ handler := name, actor, payload := taken }] }
    h.run actor taken

/-- Calls a handler whose failure must not stop the flow. -/
def attempt (hs : Handlers) (name : String) (actor : Int) (payload : Option Value := none) :
    Turn Unit :=
  rescue (do let _ ← invoke hs name actor payload) fun
    | .handlerUnknown => note .handlerNotFound
    | _ => note .handlerFailed

end Handlers

end Dialogue
