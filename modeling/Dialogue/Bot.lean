import Dialogue.Catalog
import Dialogue.Context.Progress
import Dialogue.Handler
import Dialogue.Outcome

/-! The bot and its transitions. A transition that enters a step leaves the running of the step
to its caller, who knows how many more steps may be run. -/
namespace Dialogue

structure Bot where
  catalog : Catalog
  handlers : Handlers := []
  channel : Channel := {}
  /-- The chat with the topics in which flows are run, unless told otherwise. -/
  adminChat : Option Int := none
  /-- How many steps one event may run. -/
  chainLimit : Int := 50

namespace Bot
open Turn

/-- Runs a step that was entered. -/
abbrev Runner := Step → Turn Outcome

/-- Reports a failure and ends with it. -/
def fail (n : Notice) (r : Reason) : Turn Outcome := do
  note n
  return .failed r

/-- Disarms what is left of a question, be it a sound marker or not. -/
def clearMarker (actor : Int) (c : Context) : Turn Unit :=
  if c.rawMarker.isNull then return else Contexts.setVariable actor WaitMarker.path .null

def enterFirst (run : Runner) (actor : Int) (f : Flow) : Turn Outcome := do
  match f.steps with
  | [] =>
    note .flowEmpty
    return .ignored .emptyFlow
  | s :: _ =>
    let _ ← Contexts.recordStep actor f.name 0
    run s

/-- Starts a flow in the actor's own chat. -/
def start (b : Bot) (run : Runner) (actor : Int) (name : String) : Turn Outcome := do
  match b.catalog.flow? name with
  | none => fail .flowNotFound .flowNotFound
  | some f => match ← Contexts.get actor with
    | none => fail .startContextMissing .noContext
    | some c =>
      Contexts.revise actor (·.began name)
      clearMarker actor c
      enterFirst run actor f

/-- The first value that is not null. -/
def firstGiven : List Value → Value
  | [] => .null
  | v :: vs => if v.isNull then firstGiven vs else v

/-- A flow begins in a topic. Topic, chat and target come as data; nothing changes when one of
them is no whole number. -/
def beginInTopic (actor : Int) (name : String) (topic chat target : Value) : Turn Unit := do
  let id := Schema.optional Schema.whole
  let _ ← Contexts.amend actor fun c =>
    (fun t a u => (c.beganInTopic name t a u).repair) <$> id topic <*> id chat <*> id target

/-- Starts a flow that an admin runs in a topic on behalf of a target. The chat named wins over
the bot's own, and that over the one that the context remembers. -/
def startInTopic (b : Bot) (run : Runner) (actor : Int) (topic : Value) (name : String)
    (target chat : Value) : Turn Outcome := do
  match b.catalog.flow? name with
  | none => fail .flowNotFound .flowNotFound
  | some f => match ← Contexts.get actor with
    | none => fail .adminContextMissing .adminContextMissing
    | some c =>
      let chat := firstGiven
        [chat, Value.ofOption .int b.adminChat, Value.ofOption .int c.adminChatId]
      if chat.isNull then fail .adminChatMissing .adminChatMissing
      else
        beginInTopic actor name topic chat target
        if !target.isNull then Contexts.setVariable actor ["target_user_id"] target
        clearMarker actor c
        enterFirst run actor f

/-- Goes to a place in the current flow. -/
def goTo (b : Bot) (run : Runner) (actor : Int) (place : Flow → Option Nat) : Turn Outcome := do
  match ← Contexts.get actor with
  | none => fail .noActiveFlow .noActiveFlow
  | some c =>
    if c.isIdle then fail .noActiveFlow .noActiveFlow
    else match b.catalog.flow? c.currentFlow with
      | none => fail .flowNotFound .flowNotFound
      | some f => match (place f).bind fun i => f.steps[i]?.map fun s => (i, s) with
        | none => fail .stepNotFound .stepNotFound
        | some (i, s) =>
          let _ ← Contexts.recordStep actor f.name i
          run s

def goToTarget (b : Bot) (run : Runner) (actor : Int) (t : Target) : Turn Outcome :=
  b.goTo run actor (·.resolve t)

/-- Ends the current flow. -/
def complete (actor : Int) : Turn Outcome := do
  match ← Contexts.get actor with
  | none => return .ignored .noContext
  | some c =>
    if c.isIdle && !c.flowMode then return .ignored .noActiveFlow
    else
      Contexts.revise actor (·.ended)
      clearMarker actor c
      return .completed c.currentFlow

/-- A target that is there; an empty id counts as none. -/
def given? : Option Target → Option Target
  | some (.label "") => none
  | t => t

/-- Without a target the flow is over. -/
def advance (b : Bot) (run : Runner) (actor : Int) (t : Option Target) : Turn Outcome :=
  match given? t with
  | some t => b.goToTarget run actor t
  | none => complete actor

/-- A flow wins over a target; without either the actor stays. -/
def follow (b : Bot) (run : Runner) (actor : Int) (flow : Option String) (t : Option Target) :
    Turn Outcome :=
  match filled? flow, given? t with
  | some name, _ => b.start run actor name
  | none, some t => b.goToTarget run actor t
  | none, none => return .ok

/-- Without a target the actor stays; an empty id is a target that leads nowhere. -/
def proceed (b : Bot) (run : Runner) (actor : Int) : Option Target → Turn Outcome
  | some t => b.goToTarget run actor t
  | none => return .ok

end Bot

end Dialogue
