import Dialogue.Bot.Events
import Dialogue.Inbound

/-! What becomes of an inbound event. Commands come first, then flows that are run in topics of
the admin chat; then the sender has to be known, and the event goes to the sender's flow or, as
a free message, to the relay. -/
namespace Dialogue

inductive Route where
  | command
  | unknownCommand
  | unknownActor
  | topicPress
  | topicMessage
  | flowPress
  | flowMessage
  | forwarded
  | forwardFailed
  | dropped
  | skipped
  deriving Repr, DecidableEq

namespace Route

def name : Route → String
  | command => "command"
  | unknownCommand => "unknown_command"
  | unknownActor => "unknown_actor"
  | topicPress => "topic_callback"
  | topicMessage => "topic_message"
  | flowPress => "flow_callback"
  | flowMessage => "flow_message"
  | forwarded => "forwarded"
  | forwardFailed => "forward_failed"
  | dropped => "dropped"
  | skipped => "skipped"

end Route

/-- The route that an event took, and the outcome if it reached a flow or a handler. -/
structure Routed where
  route : Route
  outcome : Option Outcome := none
  deriving Repr, DecidableEq

def Routed.shown (r : Routed) : String := Outcome.shownVia r.route.name r.outcome

/-- The bot, who passes free messages on, and who takes in someone new. -/
structure Desk where
  bot : Bot
  /-- False when a message was declined. -/
  relay : Option (Inbound → Turn Bool) := none
  registrar : Option (Inbound → Turn Int) := none

/-- What is to be done with an event. -/
inductive Errand where
  | drop (route : Route)
  | refuse (dest : Destination)
  | engage (route : Route) (actor : Int) (e : Event)
  | serve (handler : String) (actor : Int) (text : String)
  | relay

namespace Desk
open Turn

def unknownCommandText : String := "Unknown command. Use /help for list of commands."

/-- Where a message came from. -/
def origin (m : InboundMessage) : Destination := { chatId := m.chatId, topicId := m.topicId }

/-- The internal id of the sender of a command; someone new is taken in if that can be done. -/
def identify (d : Desk) (m : InboundMessage) : Turn (Option Int) := do
  match ← resolve m.senderId, d.registrar with
  | some id, _ => return some id
  | none, some register => some <$> register (.message m)
  | none, none => return none

def chooseForCommand (d : Desk) (m : InboundMessage) : Turn Errand := do
  match d.bot.catalog.command? (Command.nameIn m.text) with
  | none => return .refuse (origin m)
  | some command => match ← d.identify m with
    | none => return .drop .unknownActor
    | some id =>
      let _ ← Contexts.getOrCreate m.senderId id
      match filled? command.flowName with
      | some flow => return .engage .command m.senderId (.startFlow flow)
      | none => return .serve (command.handler.getD "") m.senderId m.text

/-- The topic of the admin chat that an event came from. -/
def adminTopic? (d : Desk) (e : Inbound) : Option Int :=
  if d.bot.adminChat == some e.chatId then e.topicId else none

/-- What is to be done with an event in a topic of the admin chat. Presses outside the topic of
the sender's flow are like any others. -/
def chooseInTopic (e : Inbound) (topic : Int) : Turn (Option Errand) := do
  let here := (← Contexts.get e.senderId).any fun c => c.inTopic && c.topicId == some topic
  match e with
  | .press p =>
    return if here then some (.engage .topicPress p.senderId (.topicPress p.payload)) else none
  | .message m =>
    return some (if here then .engage .topicMessage m.senderId (.topicMessage m.text) else .relay)

/-- What is to be done with an event of a sender who is known by an internal id. -/
def chooseForActor (e : Inbound) (id : Int) : Turn Errand := do
  match ← Contexts.getOrCreate e.senderId id with
  | none => return .drop .dropped
  | some c => match e with
    | .press p => return .engage .flowPress p.senderId (.press p.payload)
    | .message m =>
      if c.flowMode then return .engage .flowMessage m.senderId (.message m.text)
      else if c.forwarding then return .relay
      else return .drop .dropped

def chooseOutside (e : Inbound) : Turn Errand := do
  match ← resolve e.senderId with
  | none => return .drop .unknownActor
  | some id => chooseForActor e id

def choose (d : Desk) (e : Inbound) : Turn Errand := do
  match e.command?, d.adminTopic? e with
  | some m, _ => d.chooseForCommand m
  | none, some topic => match ← chooseInTopic e topic with
    | some errand => return errand
    | none => chooseOutside e
  | none, none => chooseOutside e

/-- Calls the handler of a command. -/
def serve (d : Desk) (handler : String) (actor : Int) (text : String) : Turn Outcome :=
  rescue (do
    let _ ← d.bot.handlers.invoke handler actor (some (.text text))
    return .ok) fun
    | .handlerUnknown => do
      note .handlerNotFound
      return .failed .handlerNotFound
    | f => do
      note .commandHandlerFailed
      return .failed (.fault f)

/-- Passes an event on, if there is someone to pass it to. -/
def passOn (d : Desk) (e : Inbound) : Turn Routed := do
  match d.relay with
  | none => return { route := .dropped }
  | some relay =>
    rescue (do return { route := if ← relay e then .forwarded else .dropped }) fun _ => do
      note .relayFailed
      return { route := .forwardFailed }

/-- Does what was chosen for an event. -/
def carryOut (d : Desk) (e : Inbound) : Errand → Turn Routed
  | .drop route => return { route }
  | .refuse dest => do
    Channel.deliver dest unknownCommandText
    return { route := .unknownCommand }
  | .engage route actor event => do return { route, outcome := some (← d.bot.handle actor event) }
  | .serve handler actor text => do
    return { route := .command, outcome := some (← d.serve handler actor text) }
  | .relay => d.passOn e

/-- Routes an event. -/
def route (d : Desk) (e : Inbound) : Turn Routed := do d.carryOut e (← d.choose e)

end Desk

end Dialogue
