import Dialogue.Turn

/-! The channel to the actors. Messages and keyboards can always be asked for; copying into
topics, answering a press and closing are up to the channel. -/
namespace Dialogue

structure Channel where
  name : String := ""
  /-- The name of the kind of channel, for complaints. -/
  title : String := ""
  /-- Whether messages can be copied and topics opened. -/
  relays : Bool := true
  /-- Whether presses are answered. -/
  answers : Bool := false
  /-- Whether the channel says so when it is closed. -/
  closes : Bool := false
  deriving Repr, DecidableEq

namespace Channel
open Turn

/-- Sends a message; without buttons there is no keyboard. -/
def deliver (dest : Destination) (text : String) (keyboard : Keyboard := []) : Turn Unit := do
  channelTask (.send dest.topicId.isSome (!keyboard.isEmpty))
  modify fun w => { w with sent := w.sent ++ [{ destination := dest, text, keyboard }] }

/-- The complaint of a channel that cannot do something. -/
def unable (c : Channel) (task : String) : Fault :=
  .undelivered (c.title ++ " cannot " ++ task) c.name false

def copy (c : Channel) (m : Copy) : Turn Unit := do
  if !c.relays then throw (c.unable "copy messages")
  channelTask .copy
  modify fun w => { w with copies := w.copies ++ [m] }

/-- Opens a topic under the next id. -/
def openTopic (c : Channel) (chat : Int) (name : String) : Turn Int := do
  if !c.relays then throw (c.unable "create topics")
  channelTask .openTopic
  let w ← get
  set { w with topics := w.topics ++ [(chat, name)] }
  return w.topicIds w.topics.length

def answer (pressId : String) : Turn Unit := do
  channelTask .answer
  modify fun w => { w with answered := w.answered ++ [pressId] }

/-- What a channel leaves behind when it is closed. -/
def farewell : String := "closed"

def close (c : Channel) : Turn Unit :=
  if c.closes then modify fun w => { w with answered := w.answered ++ [farewell] } else return

end Channel

end Dialogue
