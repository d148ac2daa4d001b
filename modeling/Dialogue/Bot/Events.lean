import Dialogue.Bot.Answers
import Dialogue.Bot.Presses

/-! The events that drive the flow of an actor. No event ends in a fault: whatever goes wrong
is reported and becomes a failed outcome. -/
namespace Dialogue

inductive Event where
  | startFlow (flow : String)
  /-- An admin runs a flow in a topic. Topic, target and chat come as data; null is none. -/
  | startTopicFlow (topic : Value) (flow : String) (target chat : Value)
  | goToStep (place : Value)
  | completeFlow
  | executeStep (s : Step)
  | message (text : String)
  | topicMessage (text : String)
  | press (payload : String)
  | topicPress (payload : String)

namespace Bot
open Turn

/-- Something that only counts while the actor runs a flow in a topic. -/
def inTopicFlow (actor : Int) (act : Context → Turn Outcome) : Turn Outcome := do
  match ← Contexts.get actor with
  | none => return .ignored .notInTopicFlow
  | some c => if c.inTopic then act c else return .ignored .notInTopicFlow

/-- What an event does, with its faults. -/
def react (b : Bot) (actor : Int) : Event → Turn Outcome
  | .startFlow flow => b.start (b.runner actor) actor flow
  | .startTopicFlow topic flow target chat =>
    b.startInTopic (b.runner actor) actor topic flow target chat
  | .goToStep place => b.goTo (b.runner actor) actor (·.locate place)
  | .completeFlow => complete actor
  | .executeStep s => b.runner actor s
  | .message text => do
    match ← Contexts.get actor with
    | none => return .ignored .noContext
    | some c => b.takeAnswer c text
  | .topicMessage text => inTopicFlow actor fun c => b.takeAnswer c text
  | .press payload => b.press actor payload
  | .topicPress payload => inTopicFlow actor fun _ => b.press actor payload

/-- Handles an event of an actor. -/
def handle (b : Bot) (actor : Int) (e : Event) : Turn Outcome :=
  rescue (b.react actor e) fun f => do
    note .entryPointFailed
    return .failed (.fault f)

end Bot

end Dialogue
