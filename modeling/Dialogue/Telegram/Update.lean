import Dialogue.Value.Access
import Dialogue.Value.Rendering

/-! Raw updates of the messenger, brought into the form of the bot's own events. Fields are
passed on as they came. -/
namespace Dialogue.Telegram
open Value (part need holds)

/-- A message or a press, with the fields as they came. -/
inductive Update where
  | message (senderId chatId text topicId : Value) (fullName : String) (messageId : Value)
  | press (senderId chatId payload : Value) (callbackId : String) (topicId : Value)

namespace Update

/-- The value itself, or an empty dictionary for one that counts as false. -/
def orEmpty (v : Value) : Value := if v.truthy then v else .dict []

/-- The topic of a message that says it belongs to one. -/
def topicOf (message : Value) : Except Fault Value := do
  if (← part message "is_topic_message").truthy then part message "message_thread_id"
  else return .null

/-- A part of a name; what counts as false is left out. -/
def namePart (v : Value) : Except Fault (List String) :=
  if !v.truthy then .ok []
  else match v with
    | .text s => .ok [s]
    | _ => .error .wrongKind

def ofPress (query : Value) : Except Fault Update := do
  let message := orEmpty (← part query "message")
  let sender ← need (← need query "from") "id"
  let chat ← part (orEmpty (← part message "chat")) "id" sender
  let payload ← part query "data" (.text "")
  let callbackId ← part query "id" (.text "")
  return .press sender chat payload callbackId.display (← topicOf message)

def ofMessage (message : Value) : Except Fault Update := do
  let sender ← need message "from"
  let names := (← namePart (← part sender "first_name")) ++ (← namePart (← part sender "last_name"))
  let senderId ← need sender "id"
  let chatId ← need (← need message "chat") "id"
  let text ← need message "text"
  return .message senderId chatId text (← topicOf message) (" ".intercalate names)
    (← part message "message_id")

/-- Presses win over messages; anything else is nothing to the bot. -/
def read (raw : Value) : Except Fault (Option Update) := do
  if ← holds raw "callback_query" then
    return some (← ofPress (← need raw "callback_query"))
  let message ← part raw "message"
  if message.truthy then
    if ← holds message "text" then
      if ← holds message "from" then return some (← ofMessage message)
  return none

end Update

end Dialogue.Telegram
