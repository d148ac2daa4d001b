import Dialogue.Command
import Dialogue.Telegram.Update
import Dialogue.Value.Conversion

/-! What comes in from a channel: messages, and presses of buttons. -/
namespace Dialogue

structure InboundMessage where
  senderId : Int
  chatId : Int
  text : String
  topicId : Option Int := none
  fullName : String := ""
  messageId : Option Int := none
  deriving Repr, DecidableEq

structure InboundPress where
  senderId : Int
  chatId : Int
  payload : String
  pressId : String := ""
  topicId : Option Int := none
  deriving Repr, DecidableEq

inductive Inbound where
  | message (m : InboundMessage)
  | press (p : InboundPress)
  deriving Repr, DecidableEq

namespace Inbound

def senderId : Inbound → Int
  | message m => m.senderId
  | press p => p.senderId

def chatId : Inbound → Int
  | message m => m.chatId
  | press p => p.chatId

def topicId : Inbound → Option Int
  | message m => m.topicId
  | press p => p.topicId

/-- The command that a message gives. -/
def command? : Inbound → Option InboundMessage
  | message m => if Command.isCommand m.text then some m else none
  | press _ => none

/-- An id that may be missing. -/
def optionalId : Value → Except Fault (Option Int)
  | .null => .ok none
  | v => some <$> v.toInt

def textOf : Value → Except Fault String
  | .text s => .ok s
  | _ => .error .noParts

/-- An update of the messenger as an event of the bot. -/
def ofUpdate : Telegram.Update → Except Fault Inbound
  | .message senderId chatId text topicId fullName messageId => do
    let text ← textOf text
    return message {
      senderId := ← senderId.toInt, chatId := ← chatId.toInt, text
      topicId := ← optionalId topicId, fullName, messageId := ← optionalId messageId }
  | .press senderId chatId payload callbackId topicId => do
    return press {
      senderId := ← senderId.toInt, chatId := ← chatId.toInt, payload := ← textOf payload
      pressId := callbackId, topicId := ← optionalId topicId }

end Inbound

end Dialogue
