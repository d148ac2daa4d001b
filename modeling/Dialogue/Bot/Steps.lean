import Dialogue.Bot
import Dialogue.Condition.Evaluation

/-! The work of steps. -/
namespace Dialogue.Bot
open Turn

/-- The keyboard under a key; a key that leads nowhere is reported and stands for none. -/
def keyboardOf (b : Bot) (key : Option String) : Turn Keyboard := do
  match filled? key with
  | none => return []
  | some k => match b.catalog.keyboard? k with
    | some keyboard => return keyboard
    | none =>
      note .keyboardNotFound
      return []

/-- Sends a text. Under a keyboard the next press decides what follows. -/
def sendMessage (b : Bot) (run : Runner) (actor : Int) (dest : Destination) (m : Step.Message) :
    Turn Outcome := do
  let keyboard ← b.keyboardOf m.keyboard
  Channel.deliver dest m.text keyboard
  if keyboard.isEmpty then b.advance run actor m.next else return .ok

/-- What is remembered of a question until it is answered. -/
def markerOf (id : Option String) (q : Step.Question) : WaitMarker :=
  { stepId := id, saveTo := q.saveTo, validation := q.validation, next := q.next }

/-- Asks, and waits for the answer. -/
def ask (actor : Int) (dest : Destination) (id : Option String) (q : Step.Question) :
    Turn Outcome := do
  Contexts.setVariable actor WaitMarker.path (markerOf id q).stored
  Channel.deliver dest q.text
  return .ok

/-- Offers the buttons of a choice, and waits for a press. -/
def offer (dest : Destination) (id : Option String) (c : Step.Choice) : Turn Outcome := do
  Channel.deliver dest c.prompt (← noted (Keyboard.ofChoice id c))
  return .ok

/-- The name by which conditions call the data of an actor. -/
def dataRoot : String := "data"

/-- Branches on the data of the actor. -/
def decide (b : Bot) (run : Runner) (actor : Int) (data : Table String Value) (s : Step.Branch) :
    Turn Outcome := do
  let yes ← noted (Condition.decided ⟨dataRoot, .dict data⟩ s.condition)
  match filled? (if yes then s.flowIfTrue else s.flowIfFalse) with
  | some flow => b.start run actor flow
  | none => match if yes then s.ifTrue else s.ifFalse with
    | some t => b.goToTarget run actor t
    | none =>
      note .conditionWithoutTarget
      return .ok

/-- Sends the text that a handler answers with. -/
def sendReport (b : Bot) (run : Runner) (actor : Int) (dest : Destination) (r : Step.Report) :
    Turn Outcome := do
  if Table.has b.handlers r.handler then
    rescue (do
      match (← b.handlers.invoke r.handler actor).text? with
      | some s =>
        if Text.allBlank s then note .dynamicTextEmpty
        else Channel.deliver dest s (← b.keyboardOf r.keyboard)
      | none => note .dynamicTextEmpty) fun _ => note .dynamicTextFailed
    b.advance run actor r.next
  else
    note .handlerNotFound
    complete actor

/-- Sends the menu that a handler answers with; false when there is none to send. -/
def sendMenu (b : Bot) (actor : Int) (dest : Destination) (id : Option String) (m : Step.Menu) :
    Turn Bool :=
  rescue (do
    match (← b.handlers.invoke m.handler actor).menu? with
    | some menu =>
      Channel.deliver dest menu.message (← noted (Keyboard.ofMenu (m.lead id) menu))
      return true
    | none =>
      note .menuInvalid
      return false) fun _ => do
    note .menuFailed
    return false

/-- Offers a menu and waits for a press; without a menu the flow is over. -/
def offerMenu (b : Bot) (actor : Int) (dest : Destination) (id : Option String) (m : Step.Menu) :
    Turn Outcome := do
  if Table.has b.handlers m.handler then
    if ← b.sendMenu actor dest id m then return .ok else complete actor
  else
    note .handlerNotFound
    complete actor

/-- Does the work of a step, for an actor in a context. -/
def work (b : Bot) (run : Runner) (actor : Int) (c : Context) (s : Step) : Turn Outcome :=
  let dest := Destination.ofContext c
  match s.work with
  | .message m => b.sendMessage run actor dest m
  | .question q => ask actor dest s.id q
  | .choice k => offer dest s.id k
  | .branch k => b.decide run actor c.data k
  | .call handler next => do
    b.handlers.attempt handler actor
    b.proceed run actor next
  | .flow name => b.start run actor name
  | .pause milliseconds next => do
    pause milliseconds
    b.proceed run actor next
  | .relaying on next => do
    Contexts.setForwarding actor on
    b.proceed run actor next
  | .report r => b.sendReport run actor dest r
  | .menu m => b.offerMenu actor dest s.id m
  | .unsupported => fail .stepUnsupported .unsupportedStep

/-- Runs a step, and the steps that follow from it, with as many steps left as the number says. -/
def execute (b : Bot) (actor : Int) : Nat → Runner
  | 0, _ => fail .chainLimitReached .chainLimit
  | left + 1, s => do
    match ← Contexts.get actor with
    | none => return .failed .noContext
    | some c => b.work (b.execute actor left) actor c s

/-- Runs steps within the limit for one event. -/
def runner (b : Bot) (actor : Int) : Runner := b.execute actor b.chainLimit.toNat

end Dialogue.Bot
