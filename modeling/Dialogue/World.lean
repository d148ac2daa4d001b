import Dialogue.Destination
import Dialogue.Keyboard
import Dialogue.Store

/-! Everything that an event can change: the store, what went out through the channel, and what
was reported. -/
namespace Dialogue

/-- A message that was sent. -/
structure Delivery where
  destination : Destination
  text : String
  keyboard : Keyboard := []
  deriving Repr, DecidableEq

/-- A message of one chat that was sent again in another, or in a topic of it. -/
structure Copy where
  source : Int
  messageId : Int
  chatId : Int
  topic : Value := .null

/-- A handler that was called for an actor, and the payload that it took. -/
structure Call where
  handler : String
  actor : Int
  payload : Option Value := none

/-- What is asked of a store. -/
inductive StoreTask where
  | resolve
  | list
  | load
  | save
  deriving Repr, DecidableEq

/-- What is asked of a channel. -/
inductive ChannelTask where
  | send (inTopic withKeyboard : Bool)
  | copy
  | openTopic
  | answer
  deriving Repr, DecidableEq

/-- Which tasks fail, and how. The number counts the tasks of the same side that came before. -/
structure Outages where
  store : StoreTask → Nat → Option Fault := fun _ _ => none
  channel : ChannelTask → Nat → Option Fault := fun _ _ => none

/-- Lists grow at their ends, so that what an event adds stands last. -/
structure World where
  store : Store := .memory {}
  outages : Outages := {}
  storeTasks : Nat := 0
  channelTasks : Nat := 0
  /-- The time that visits are recorded with. -/
  now : String := ""
  notices : List Notice := []
  sent : List Delivery := []
  copies : List Copy := []
  /-- The topics that were opened, by chat and name. -/
  topics : List (Int × String) := []
  /-- The ids under which the channel opens topics, one after the other. -/
  topicIds : Nat → Int := fun n => 1001 + n
  answered : List String := []
  /-- The pauses that were made, in milliseconds. -/
  pauses : List Nat := []
  calls : List Call := []
  /-- What each relay remembers of the owners of topics. -/
  owners : Table Nat (Table Int Int) := []

end Dialogue
