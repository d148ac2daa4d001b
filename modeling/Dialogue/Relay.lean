import Dialogue.Channel
import Dialogue.Contexts
import Dialogue.Inbound

/-! Free messages between actors and the admins. Each actor owns one topic of the admin chat,
kept in the data of the actor: messages of the actor are copied into the topic, and messages of
admins in the topic are copied to its owner. -/
namespace Dialogue

/-- A relay knows what it found out about owners by its slot in the world. -/
structure Relay where
  slot : Nat := 0
  channel : Channel
  adminChat : Int
  deriving Repr, DecidableEq

namespace Relay
open Turn

/-- Where the data of an actor keep the topic. -/
def topicPath : Path := ["support", "topic_id"]

/-- Remembers the owner of a topic. -/
def remember (r : Relay) (topic owner : Int) : Turn Unit := modify fun w =>
  let known := (Table.value? w.owners r.slot).getD []
  { w with owners := Table.put w.owners r.slot (Table.put known topic owner) }

def remembered (r : Relay) (topic : Int) : Turn (Option Int) := do
  return (Table.value? (← get).owners r.slot).bind fun t => Table.value? t topic

/-- Gives a topic to an actor. -/
def bindTopic (r : Relay) (actor topic : Int) : Turn Unit := do
  Contexts.setVariable actor topicPath (.int topic)
  r.remember topic actor

/-- The owner of a topic: the one remembered, or the first whose data hold the topic. -/
def ownerOf (r : Relay) (topic : Int) : Turn (Option Int) := do
  match ← r.remembered topic with
  | some owner => return some owner
  | none =>
    let owner ← Contexts.findActor topicPath (.int topic)
    match owner with
    | some a => r.remember topic a
    | none => pure ()
    return owner

def topicName (m : InboundMessage) : String :=
  if m.fullName.isEmpty then toString m.senderId else m.fullName

/-- The topic of the sender, opened if there is none. -/
def topicFor (r : Relay) (m : InboundMessage) : Turn Value := do
  let topic ← Contexts.variableAt m.senderId topicPath
  if !topic.isNull then return topic
  let opened ← r.channel.openTopic r.adminChat (topicName m)
  r.bindTopic m.senderId opened
  return .int opened

/-- Copies a message of an actor into the actor's topic. -/
def toTopic (r : Relay) (m : InboundMessage) (messageId : Int) : Turn Bool := do
  let topic ← r.topicFor m
  r.channel.copy { source := m.chatId, messageId, chatId := r.adminChat, topic }
  return true

/-- Copies a message in a topic to the owner of the topic, if it has one. -/
def toOwner (r : Relay) (m : InboundMessage) (messageId topic : Int) : Turn Bool := do
  match ← r.ownerOf topic with
  | none => return false
  | some owner =>
    r.channel.copy { source := m.chatId, messageId, chatId := owner }
    return true

/-- Passes a message on. Presses, and messages that cannot be copied, are declined. -/
def pass (r : Relay) : Inbound → Turn Bool
  | .press _ => return false
  | .message m => match m.messageId with
    | none => return false
    | some messageId => match m.topicId with
      | some topic =>
        if m.chatId = r.adminChat then r.toOwner m messageId topic else r.toTopic m messageId
      | none => r.toTopic m messageId

end Relay

end Dialogue
