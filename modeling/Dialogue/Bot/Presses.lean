import Dialogue.Bot.Steps

/-! What the press of a button does. Registered actions are trusted; what a payload carries
by itself must not touch what belongs to the bot. -/
namespace Dialogue.Bot
open Turn

/-- What an action does, by the name that it gives. -/
inductive Deed where
  | startFlow
  | goToStep
  | setVariable
  | callHandler
  | unnamed
  deriving Repr, DecidableEq

def Deed.ofAction (a : Action) : Deed :=
  match a.action with
  | some "start_flow" => startFlow
  | some "go_to_step" => goToStep
  | some "set_variable" => setVariable
  | some "handler" => callHandler
  | _ => unnamed

def setAt (actor : Int) (path : String) (v : Value) : Turn Unit :=
  Contexts.setVariable actor (Path.ofString path) v

/-- Carries out a registered action; nothing comes of one that names no known deed. -/
def carryOut (b : Bot) (run : Runner) (actor : Int) (a : Action) (payload : String) :
    Turn (Option Outcome) := do
  match Deed.ofAction a with
  | .startFlow => match filled? a.flowName with
    | some name => some <$> b.start run actor name
    | none => some <$> fail .actionIncomplete .actionIncomplete
  | .goToStep => match a.next with
    | some t => some <$> b.goToTarget run actor t
    | none => some <$> fail .actionIncomplete .actionIncomplete
  | .setVariable =>
    match filled? a.target with
    | some path => if !a.value.isNull then setAt actor path a.value
    | none => pure ()
    some <$> b.follow run actor a.nextFlow a.next
  | .callHandler =>
    match filled? a.handler with
    | some name => b.handlers.attempt name actor (some (.text payload))
    | none => note .actionIncomplete
    some <$> b.follow run actor a.nextFlow a.next
  | .unnamed =>
    note .actionUnknown
    return none

/-- Whether a path leads to what belongs to the bot. -/
def isSystemPath (path : String) : Bool := (Path.ofString path).head? == some WaitMarker.systemKey

/-- The path that an action from a payload writes to. -/
def writtenPath (a : Action) : Option String :=
  filled? (if Deed.ofAction a = .setVariable then a.target else a.saveTo)

/-- Carries out an action that came in a payload. Such an action can call no handler. -/
def carryOutGiven (b : Bot) (run : Runner) (actor : Int) (a : Action) : Turn Outcome := do
  if (writtenPath a).any isSystemPath then
    note .variableRejected
    return .ignored .variableNotWritable
  match Deed.ofAction a with
  | .setVariable =>
    match filled? a.target with
    | some path => if "value" ∈ a.given then setAt actor path a.value
    | none => pure ()
    b.follow run actor a.nextFlow a.next
  | .startFlow => match filled? a.flowName with
    | some name => b.start run actor name
    | none => return .ignored .pressWithoutFlow
  | .goToStep => match a.next with
    | some t => b.goToTarget run actor t
    | none => return .ignored .pressWithoutStep
  | .callHandler | .unnamed =>
    match filled? a.saveTo with
    | some path => setAt actor path a.value
    | none => pure ()
    b.follow run actor a.nextFlow a.next

/-- Keeps what was picked from a menu of the current flow. -/
def pickFromMenu (b : Bot) (run : Runner) (actor : Int) (payload : String) : Turn Outcome := do
  match ← Contexts.get actor with
  | none => fail .noActiveFlow .noActiveFlow
  | some c =>
    if c.isIdle then fail .noActiveFlow .noActiveFlow
    else match b.catalog.flow? c.currentFlow with
      | none => fail .flowNotFound .flowNotFound
      | some f => match f.matchMenu payload with
        | none => fail .dynamicUnmatched .dynamicUnmatched
        | some (_, m, value) =>
          setAt actor m.saveTo (.text value)
          match filled? m.nextFlow with
          | some name => b.start run actor name
          | none => b.advance run actor m.next

/-- The message under whose keyboard an actor stands. -/
def keyboardStep? (b : Bot) (c : Context) : Option Step.Message :=
  match (b.catalog.flow? c.currentFlow).bind (·.stepAt? c.currentStep) with
  | some ⟨_, .message m⟩ => if (filled? m.keyboard).isSome then some m else none
  | _ => none

/-- Where the presses of keyboards are kept. -/
def pressPath (payload : String) : String := "keyboard." ++ payload

/-- Keeps a press of the keyboard of the current step. -/
def pressKeyboard (b : Bot) (run : Runner) (actor : Int) (payload : String) : Turn Outcome := do
  match ← Contexts.get actor with
  | none => return .ignored .noActiveFlow
  | some c =>
    if c.isIdle then return .ignored .noActiveFlow
    else match b.keyboardStep? c with
      | none => return .ignored .noKeyboardStep
      | some m =>
        setAt actor (pressPath payload) (.text payload)
        b.proceed run actor m.next

/-- Does what a payload means by its form. -/
def pressByForm (b : Bot) (run : Runner) (actor : Int) (payload : String) : Press → Turn Outcome
  | .dynamic => b.pickFromMenu run actor payload
  | .json a => b.carryOutGiven run actor a
  | .keyboard | .registered _ => b.pressKeyboard run actor payload

/-- Does what a payload means. A registered action that names no known deed leaves the payload
to its form. -/
def press (b : Bot) (actor : Int) (payload : String) : Turn Outcome := do
  let run := b.runner actor
  match ← noted (← ofResult (b.catalog.press payload)) with
  | .registered a => match ← b.carryOut run actor a payload with
    | some o => return o
    | none => b.pressByForm run actor payload (← noted (Press.byForm payload))
  | p => b.pressByForm run actor payload p

end Dialogue.Bot
