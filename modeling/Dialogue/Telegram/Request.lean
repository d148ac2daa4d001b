import Dialogue.Destination
import Dialogue.Keyboard
import Dialogue.Settings

/-! Requests to the messenger: a method and its fields. -/
namespace Dialogue.Telegram

structure Request where
  method : String
  fields : Table String Value

/-- The address at which the messenger takes a method. -/
def endpoint (s : MessengerSettings) (method : String) : String :=
  String.ofList (Text.dropEndWhile (· == '/') s.address.toList)
    ++ "/bot" ++ s.token ++ "/" ++ method

namespace Request

private def topic (topicId : Option Int) : List (String × Value) :=
  match topicId with
  | some t => [("message_thread_id", .int t)]
  | none => []

/-- A message; an empty keyboard is left out. -/
def message (s : MessengerSettings) (d : Destination) (text : String) (keyboard : Keyboard) :
    Request where
  method := "sendMessage"
  fields := [("chat_id", .int d.chatId), ("text", .text text)]
    ++ (if s.parseMode.isEmpty then [] else [("parse_mode", .text s.parseMode)]) ++ topic d.topicId
    ++ (if keyboard.isEmpty then [] else [("reply_markup", keyboard.markup)])

/-- Tells the messenger that a press was taken in. -/
def answer (callbackId text : String) : Request where
  method := "answerCallbackQuery"
  fields := ("callback_query_id", .text callbackId)
    :: (if text.isEmpty then [] else [("text", .text text)])

def copy (fromChatId messageId : Int) (d : Destination) : Request where
  method := "copyMessage"
  fields := [("chat_id", .int d.chatId), ("from_chat_id", .int fromChatId),
    ("message_id", .int messageId)] ++ topic d.topicId

/-- The longest name that the messenger takes for a topic, in characters. -/
def topicNameLimit : Nat := 128

def openTopic (chatId : Int) (name : String) : Request where
  method := "createForumTopic"
  fields :=
    [("chat_id", .int chatId), ("name", .text (String.ofList (name.toList.take topicNameLimit)))]

end Request

end Dialogue.Telegram
