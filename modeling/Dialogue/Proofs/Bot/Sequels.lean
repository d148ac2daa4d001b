import Dialogue.Bot.Events
import Dialogue.Proofs.Contexts.Reading

/-! Events and the work of steps in two parts: what they do alone, and the sequel that it leads to,
which ends the event or brings up the next step. Only the sequel depends on the runner of steps. -/
namespace Dialogue.Bot
open Turn

/-- How it goes on after an event, or a step, has done its own part. -/
inductive Sequel where
  | rest (o : Outcome)
  | start (flow : String)
  | startInTopic (topic : Value) (flow : String) (target chat : Value)
  | goTo (place : Flow → Option Nat)
  | complete
  /-- A step is run by hand. -/
  | run (s : Step)

namespace Sequel

def toTarget (t : Target) : Sequel := .goTo (·.resolve t)

def advance (t : Option Target) : Sequel :=
  match given? t with
  | some t => toTarget t
  | none => .complete

def follow (flow : Option String) (t : Option Target) : Sequel :=
  match filled? flow, given? t with
  | some name, _ => .start name
  | none, some t => toTarget t
  | none, none => .rest .ok

def proceed : Option Target → Sequel
  | some t => toTarget t
  | none => .rest .ok

end Sequel

/-- A step that is to be run, and where it stands in its flow if it was entered. -/
structure Arrival where
  place : Option (String × Int) := none
  step : Step

section Alone
variable (b : Bot) (actor : Int)

/-- Sends the text of a handler, if it answers with one. -/
def reportAlone (dest : Destination) (r : Step.Report) : Turn Unit :=
  rescue (do
    match (← b.handlers.invoke r.handler actor).text? with
    | some s =>
      if Text.allBlank s then note .dynamicTextEmpty
      else Channel.deliver dest s (← b.keyboardOf r.keyboard)
    | none => note .dynamicTextEmpty) fun _ => note .dynamicTextFailed

/-- The work of a step for an actor in a context, up to its sequel. -/
def workAlone (c : Context) (s : Step) : Turn Sequel :=
  let dest := Destination.ofContext c
  match s.work with
  | .message m => do
    let keyboard ← b.keyboardOf m.keyboard
    Channel.deliver dest m.text keyboard
    return if keyboard.isEmpty then .advance m.next else .rest .ok
  | .question q => .rest <$> ask actor dest s.id q
  | .choice k => .rest <$> offer dest s.id k
  | .branch k => do
    let yes ← noted (Condition.decided ⟨dataRoot, .dict c.data⟩ k.condition)
    match filled? (if yes then k.flowIfTrue else k.flowIfFalse) with
    | some flow => return .start flow
    | none => match if yes then k.ifTrue else k.ifFalse with
      | some t => return .toTarget t
      | none =>
        note .conditionWithoutTarget
        return .rest .ok
  | .call handler next => do
    b.handlers.attempt handler actor
    return .proceed next
  | .flow name => return .start name
  | .pause milliseconds next => do
    pause milliseconds
    return .proceed next
  | .relaying on next => do
    Contexts.setForwarding actor on
    return .proceed next
  | .report r => do
    if Table.has b.handlers r.handler then
      b.reportAlone actor dest r
      return .advance r.next
    else
      note .handlerNotFound
      return .complete
  | .menu m => do
    if Table.has b.handlers m.handler then
      if ← b.sendMenu actor dest s.id m then return .rest .ok else return .complete
    else
      note .handlerNotFound
      return .complete
  | .unsupported => .rest <$> fail .stepUnsupported .unsupportedStep

/-- The work of a step that an actor has come to. -/
def stepAlone (s : Step) : Turn Sequel := do
  match ← Contexts.get actor with
  | none => return .rest (.failed .noContext)
  | some c => b.workAlone actor c s

def carryOutAlone (a : Action) (payload : String) : Turn (Option Sequel) := do
  match Deed.ofAction a with
  | .startFlow => match filled? a.flowName with
    | some name => return some (.start name)
    | none => (some ∘ .rest) <$> fail .actionIncomplete .actionIncomplete
  | .goToStep => match a.next with
    | some t => return some (.toTarget t)
    | none => (some ∘ .rest) <$> fail .actionIncomplete .actionIncomplete
  | .setVariable =>
    match filled? a.target with
    | some path => if !a.value.isNull then setAt actor path a.value
    | none => pure ()
    return some (.follow a.nextFlow a.next)
  | .callHandler =>
    match filled? a.handler with
    | some name => b.handlers.attempt name actor (some (.text payload))
    | none => note .actionIncomplete
    return some (.follow a.nextFlow a.next)
  | .unnamed =>
    note .actionUnknown
    return none

def carryOutGivenAlone (a : Action) : Turn Sequel := do
  if (writtenPath a).any isSystemPath then
    note .variableRejected
    return .rest (.ignored .variableNotWritable)
  match Deed.ofAction a with
  | .setVariable =>
    match filled? a.target with
    | some path => if "value" ∈ a.given then setAt actor path a.value
    | none => pure ()
    return .follow a.nextFlow a.next
  | .startFlow => match filled? a.flowName with
    | some name => return .start name
    | none => return .rest (.ignored .pressWithoutFlow)
  | .goToStep => match a.next with
    | some t => return .toTarget t
    | none => return .rest (.ignored .pressWithoutStep)
  | .callHandler | .unnamed =>
    match filled? a.saveTo with
    | some path => setAt actor path a.value
    | none => pure ()
    return .follow a.nextFlow a.next

def pickAlone (payload : String) : Turn Sequel := do
  match ← Contexts.get actor with
  | none => .rest <$> fail .noActiveFlow .noActiveFlow
  | some c =>
    if c.isIdle then .rest <$> fail .noActiveFlow .noActiveFlow
    else match b.catalog.flow? c.currentFlow with
      | none => .rest <$> fail .flowNotFound .flowNotFound
      | some f => match f.matchMenu payload with
        | none => .rest <$> fail .dynamicUnmatched .dynamicUnmatched
        | some (_, m, value) =>
          setAt actor m.saveTo (.text value)
          match filled? m.nextFlow with
          | some name => return .start name
          | none => return .advance m.next

def pressKeyboardAlone (payload : String) : Turn Sequel := do
  match ← Contexts.get actor with
  | none => return .rest (.ignored .noActiveFlow)
  | some c =>
    if c.isIdle then return .rest (.ignored .noActiveFlow)
    else match b.keyboardStep? c with
      | none => return .rest (.ignored .noKeyboardStep)
      | some m =>
        setAt actor (pressPath payload) (.text payload)
        return .proceed m.next

def pressByFormAlone (payload : String) : Press → Turn Sequel
  | .dynamic => b.pickAlone actor payload
  | .json a => carryOutGivenAlone actor a
  | .keyboard | .registered _ => b.pressKeyboardAlone actor payload

def pressAlone (payload : String) : Turn Sequel := do
  match ← noted (← ofResult (b.catalog.press payload)) with
  | .registered a => match ← b.carryOutAlone actor a payload with
    | some q => return q
    | none => b.pressByFormAlone actor payload (← noted (Press.byForm payload))
  | p => b.pressByFormAlone actor payload p

def keepAnswerAlone (w : WaitMarker) (text : String) : Turn Sequel := do
  Contexts.setVariable actor (Path.ofString w.saveTo) (.text text)
  Contexts.setVariable actor WaitMarker.path .null
  return .proceed w.next

def takeAnswerAlone (c : Context) (text : String) : Turn Sequel := do
  match ← noted c.waitMarker with
  | none => return .rest (.ignored .notWaiting)
  | some w => match w.validation with
    | none => keepAnswerAlone actor w text
    | some v =>
      if ← noted (v.accepts text) then keepAnswerAlone actor w text
      else
        Channel.deliver (Destination.ofContext c) (refusal v)
        return .rest (.ignored .validationFailed)

def inTopicFlowAlone (act : Context → Turn Sequel) : Turn Sequel := do
  match ← Contexts.get actor with
  | none => return .rest (.ignored .notInTopicFlow)
  | some c => if c.inTopic then act c else return .rest (.ignored .notInTopicFlow)

/-- What an event does up to its sequel. -/
def eventAlone : Event → Turn Sequel
  | .startFlow flow => return .start flow
  | .startTopicFlow topic flow target chat => return .startInTopic topic flow target chat
  | .goToStep place => return .goTo (·.locate place)
  | .completeFlow => return .complete
  | .executeStep s => return .run s
  | .message text => do
    match ← Contexts.get actor with
    | none => return .rest (.ignored .noContext)
    | some c => takeAnswerAlone actor c text
  | .topicMessage text => inTopicFlowAlone actor fun c => takeAnswerAlone actor c text
  | .press payload => b.pressAlone actor payload
  | .topicPress payload => inTopicFlowAlone actor fun _ => b.pressAlone actor payload

end Alone

section Reach
variable (actor : Int)

def reachFirst (f : Flow) : Turn (Outcome ⊕ Arrival) := do
  match f.steps with
  | [] =>
    note .flowEmpty
    return .inl (.ignored .emptyFlow)
  | s :: _ =>
    let _ ← Contexts.recordStep actor f.name 0
    return .inr ⟨some (f.name, 0), s⟩

/-- Where a sequel leads: to the end of the event, or to a step that is to be run. -/
def reach (b : Bot) : Sequel → Turn (Outcome ⊕ Arrival)
  | .rest o => return .inl o
  | .start name => do
    match b.catalog.flow? name with
    | none => .inl <$> fail .flowNotFound .flowNotFound
    | some f => match ← Contexts.get actor with
      | none => .inl <$> fail .startContextMissing .noContext
      | some c =>
        Contexts.revise actor (·.began name)
        clearMarker actor c
        reachFirst actor f
  | .startInTopic topic name target chat => do
    match b.catalog.flow? name with
    | none => .inl <$> fail .flowNotFound .flowNotFound
    | some f => match ← Contexts.get actor with
      | none => .inl <$> fail .adminContextMissing .adminContextMissing
      | some c =>
        let chat := firstGiven
          [chat, Value.ofOption .int b.adminChat, Value.ofOption .int c.adminChatId]
        if chat.isNull then .inl <$> fail .adminChatMissing .adminChatMissing
        else
          beginInTopic actor name topic chat target
          if !target.isNull then Contexts.setVariable actor ["target_user_id"] target
          clearMarker actor c
          reachFirst actor f
  | .goTo place => do
    match ← Contexts.get actor with
    | none => .inl <$> fail .noActiveFlow .noActiveFlow
    | some c =>
      if c.isIdle then .inl <$> fail .noActiveFlow .noActiveFlow
      else match b.catalog.flow? c.currentFlow with
        | none => .inl <$> fail .flowNotFound .flowNotFound
        | some f => match (place f).bind fun i => f.steps[i]?.map fun s => (i, s) with
          | none => .inl <$> fail .stepNotFound .stepNotFound
          | some (i, s) =>
            let _ ← Contexts.recordStep actor f.name i
            return .inr ⟨some (f.name, i), s⟩
  | .complete => .inl <$> complete actor
  | .run s => return .inr { step := s }

end Reach

/-- Leaves a step to a runner. -/
def onward (run : Runner) : Outcome ⊕ Arrival → Turn Outcome
  | .inl o => pure o
  | .inr a => run a.step

/-- Takes up a sequel. -/
def pursue (b : Bot) (run : Runner) (actor : Int) (q : Sequel) : Turn Outcome :=
  b.reach actor q >>= onward run

section
variable {b : Bot} {run : Runner} {actor : Int}

@[simp] theorem pursue_rest (o : Outcome) : b.pursue run actor (.rest o) = pure o := rfl

@[simp] theorem pursue_run (s : Step) : b.pursue run actor (.run s) = run s := rfl

@[simp] theorem pursue_complete : b.pursue run actor .complete = complete actor := by
  rw [pursue, reach, map_eq_pure_bind, bind_assoc]
  simp only [pure_bind, onward, bind_pure]

private theorem enterFirst_eq (f : Flow) :
    enterFirst run actor f = reachFirst actor f >>= onward run := by
  rw [enterFirst, reachFirst]
  cases f.steps with
  | nil => rfl
  | cons s _ => simp only [bind_assoc, pure_bind, onward]

private theorem fail_onward (n : Notice) (r : Reason) :
    (Sum.inl <$> fail n r) >>= onward run = fail n r := by
  rw [map_eq_pure_bind, bind_assoc]
  simp only [pure_bind, onward, bind_pure]

@[simp] theorem pursue_start (name : String) :
    b.pursue run actor (.start name) = b.start run actor name := by
  rw [pursue, reach, start]
  cases b.catalog.flow? name with
  | none => exact fail_onward _ _
  | some f =>
    rw [bind_assoc]
    apply bind_congr
    intro o
    cases o with
    | none => exact fail_onward _ _
    | some c => simp only [bind_assoc, enterFirst_eq]

@[simp] theorem pursue_startInTopic (topic : Value) (name : String) (target chat : Value) :
    b.pursue run actor (.startInTopic topic name target chat) =
      b.startInTopic run actor topic name target chat := by
  rw [pursue, reach, startInTopic]
  cases b.catalog.flow? name with
  | none => exact fail_onward _ _
  | some f =>
    rw [bind_assoc]
    apply bind_congr
    intro o
    cases o with
    | none => exact fail_onward _ _
    | some c =>
      simp only
      split
      · exact fail_onward _ _
      split <;> simp only [bind_assoc, enterFirst_eq]

@[simp] theorem pursue_goTo (place : Flow → Option Nat) :
    b.pursue run actor (.goTo place) = b.goTo run actor place := by
  rw [pursue, reach, goTo, bind_assoc]
  apply bind_congr
  intro o
  cases o with
  | none => exact fail_onward _ _
  | some c =>
    cases hidle : c.isIdle with
    | true =>
      simp only [hidle, if_true]
      exact fail_onward _ _
    | false =>
      simp only [hidle, Bool.false_eq_true, if_false]
      cases b.catalog.flow? c.currentFlow with
      | none => exact fail_onward _ _
      | some f =>
        simp only
        cases (place f).bind fun i => f.steps[i]?.map fun s => (i, s) with
        | none => exact fail_onward _ _
        | some e => simp only [bind_assoc, pure_bind, onward]

@[simp] theorem pursue_toTarget (t : Target) :
    b.pursue run actor (.toTarget t) = b.goToTarget run actor t := pursue_goTo _

@[simp] theorem pursue_advance (t : Option Target) :
    b.pursue run actor (.advance t) = b.advance run actor t := by
  rw [Sequel.advance, advance]
  cases given? t with
  | none => exact pursue_complete
  | some t => exact pursue_toTarget t

@[simp] theorem pursue_follow (flow : Option String) (t : Option Target) :
    b.pursue run actor (.follow flow t) = b.follow run actor flow t := by
  rw [Sequel.follow, follow]
  cases filled? flow with
  | some name => exact pursue_start name
  | none => cases given? t with
    | some t => exact pursue_toTarget t
    | none => exact pursue_rest _

@[simp] theorem pursue_proceed (t : Option Target) :
    b.pursue run actor (.proceed t) = b.proceed run actor t := by
  cases t with
  | some t => exact pursue_toTarget t
  | none => exact pursue_rest _

end

/-! The parts put together. -/
section
variable {b : Bot} {run : Runner} {actor : Int}

private theorem quietly (x : Turn Outcome) :
    (Sequel.rest <$> x) >>= b.pursue run actor = x := by
  rw [map_eq_pure_bind, bind_assoc]
  simp only [pure_bind, pursue_rest, bind_pure]

theorem work_eq (c : Context) (s : Step) :
    b.work run actor c s = b.workAlone actor c s >>= b.pursue run actor := by
  rw [work, workAlone]
  cases s.work with
  | message m =>
    simp only [sendMessage, bind_assoc, pure_bind]
    apply bind_congr
    intro keyboard
    apply bind_congr
    intro _
    split <;> simp only [pursue_advance, pursue_rest]
  | question q => exact (quietly _).symm
  | choice k => exact (quietly _).symm
  | branch k =>
    simp only [decide, bind_assoc]
    apply bind_congr
    intro yes
    cases filled? (if yes = true then k.flowIfTrue else k.flowIfFalse) with
    | some flow => simp only [pure_bind, pursue_start]
    | none => cases if yes = true then k.ifTrue else k.ifFalse with
      | some t => simp only [pure_bind, pursue_toTarget]
      | none => simp only [bind_assoc, pure_bind, pursue_rest]
  | call handler next => simp only [bind_assoc, pure_bind, pursue_proceed]
  | flow name => simp only [pure_bind, pursue_start]
  | pause milliseconds next => simp only [bind_assoc, pure_bind, pursue_proceed]
  | relaying on next => simp only [bind_assoc, pure_bind, pursue_proceed]
  | report r =>
    simp only [sendReport]
    split
    · simp only [bind_assoc, pure_bind, pursue_advance]
      rfl
    · simp only [bind_assoc, pure_bind, pursue_complete]
  | menu m =>
    simp only [offerMenu]
    split
    · simp only [bind_assoc]
      apply bind_congr
      intro sent
      cases sent <;> simp
    · simp only [bind_assoc, pure_bind, pursue_complete]
  | unsupported => exact (quietly _).symm

theorem carryOut_eq (a : Action) (payload : String) :
    b.carryOut run actor a payload = b.carryOutAlone actor a payload >>= fun
      | some q => some <$> b.pursue run actor q
      | none => return none := by
  rw [carryOut, carryOutAlone]
  cases Deed.ofAction a with
  | startFlow => cases filled? a.flowName with
    | some name => simp only [pure_bind, pursue_start]
    | none => simp only [map_eq_pure_bind, bind_assoc, pure_bind, Function.comp_apply, pursue_rest]
  | goToStep => cases a.next with
    | some t => simp only [pure_bind, pursue_toTarget]
    | none => simp only [map_eq_pure_bind, bind_assoc, pure_bind, Function.comp_apply, pursue_rest]
  | setVariable => cases filled? a.target with
    | some path =>
      simp only
      split <;> simp only [bind_assoc, pure_bind, pursue_follow]
    | none => simp only [pure_bind, pursue_follow]
  | callHandler => cases filled? a.handler with
    | some name => simp only [bind_assoc, pure_bind, pursue_follow]
    | none => simp only [bind_assoc, pure_bind, pursue_follow]
  | unnamed => simp only [bind_assoc, pure_bind]

theorem carryOutGiven_eq (a : Action) :
    b.carryOutGiven run actor a = carryOutGivenAlone actor a >>= b.pursue run actor := by
  rw [carryOutGiven, carryOutGivenAlone]
  split
  · simp only [bind_assoc, pure_bind, pursue_rest]
  cases Deed.ofAction a with
  | startFlow => cases filled? a.flowName with
    | some name => simp only [pure_bind, pursue_start]
    | none => simp only [pure_bind, pursue_rest]
  | goToStep => cases a.next with
    | some t => simp only [pure_bind, pursue_toTarget]
    | none => simp only [pure_bind, pursue_rest]
  | setVariable => cases filled? a.target with
    | some path =>
      simp only
      split <;> simp only [bind_assoc, pure_bind, pursue_follow]
    | none => simp only [pure_bind, pursue_follow]
  | callHandler | unnamed => cases filled? a.saveTo with
    | some path => simp only [bind_assoc, pure_bind, pursue_follow]
    | none => simp only [pure_bind, pursue_follow]

theorem pickFromMenu_eq (payload : String) :
    b.pickFromMenu run actor payload = b.pickAlone actor payload >>= b.pursue run actor := by
  rw [pickFromMenu, pickAlone, bind_assoc]
  apply bind_congr
  intro o
  cases o with
  | none => exact (quietly _).symm
  | some c =>
    simp only
    split
    · exact (quietly _).symm
    cases b.catalog.flow? c.currentFlow with
    | none => exact (quietly _).symm
    | some f =>
      simp only
      cases f.matchMenu payload with
      | none => exact (quietly _).symm
      | some e =>
        obtain ⟨i, m, value⟩ := e
        simp only [bind_assoc]
        apply bind_congr
        intro _
        cases filled? m.nextFlow with
        | some name => simp only [pure_bind, pursue_start]
        | none => simp only [pure_bind, pursue_advance]

theorem pressKeyboard_eq (payload : String) :
    b.pressKeyboard run actor payload =
      b.pressKeyboardAlone actor payload >>= b.pursue run actor := by
  rw [pressKeyboard, pressKeyboardAlone, bind_assoc]
  apply bind_congr
  intro o
  cases o with
  | none => simp only [pure_bind, pursue_rest]
  | some c =>
    simp only
    split
    · simp only [pure_bind, pursue_rest]
    cases b.keyboardStep? c with
    | none => simp only [pure_bind, pursue_rest]
    | some m => simp only [bind_assoc, pure_bind, pursue_proceed]

theorem pressByForm_eq (payload : String) (p : Press) :
    b.pressByForm run actor payload p =
      b.pressByFormAlone actor payload p >>= b.pursue run actor := by
  cases p with
  | dynamic => exact pickFromMenu_eq payload
  | json a => exact carryOutGiven_eq a
  | keyboard | registered => exact pressKeyboard_eq payload

theorem press_eq (payload : String) :
    b.press actor payload = b.pressAlone actor payload >>= b.pursue (b.runner actor) actor := by
  rw [press, pressAlone]
  simp only [bind_assoc]
  apply bind_congr
  intro r
  apply bind_congr
  intro p
  cases p with
  | registered a =>
    simp only [carryOut_eq, bind_assoc]
    apply bind_congr
    intro o
    cases o with
    | some q => simp only [map_eq_pure_bind, bind_assoc, pure_bind, bind_pure]
    | none => simp only [pure_bind, bind_assoc, pressByForm_eq]
  | dynamic | json | keyboard => exact pressByForm_eq payload _

theorem keepAnswer_eq (w : WaitMarker) (text : String) :
    b.keepAnswer actor w text =
      keepAnswerAlone actor w text >>= b.pursue (b.runner actor) actor := by
  rw [keepAnswer, keepAnswerAlone]
  simp only [bind_assoc, pure_bind, pursue_proceed]

theorem takeAnswer_eq {c : Context} (hc : c.externalId = actor) (text : String) :
    b.takeAnswer c text =
      takeAnswerAlone actor c text >>= b.pursue (b.runner actor) actor := by
  subst hc
  rw [takeAnswer, takeAnswerAlone]
  simp only [bind_assoc]
  apply bind_congr
  intro o
  cases o with
  | none => simp only [pure_bind, pursue_rest]
  | some w =>
    have hkeep := @keepAnswer_eq b c.externalId w text
    cases hv : w.validation with
    | none =>
      simp only [hv]
      exact hkeep
    | some v =>
      simp only [hv, bind_assoc]
      apply bind_congr
      intro accepted
      cases accepted with
      | true => exact hkeep
      | false => simp only [Bool.false_eq_true, if_false, bind_assoc, pure_bind, pursue_rest]

/-- The context that is read is that of the actor. -/
private theorem get_bind_congr {α : Type} {f g : Option Context → Turn α}
    (hnone : f none = g none) (hsome : ∀ c, c.externalId = actor → f (some c) = g (some c)) :
    Contexts.get actor >>= f = Contexts.get actor >>= g := by
  apply Turn.ext_on
  intro w
  rw [on_bind, on_bind]
  rcases hget : on (Contexts.get actor) w with ⟨e | o, w'⟩
  · rfl
  · cases o with
    | none => simp only [hnone]
    | some c => simp only [hsome c (Contexts.externalId_of_get hget)]

theorem react_eq (e : Event) :
    b.react actor e = b.eventAlone actor e >>= b.pursue (b.runner actor) actor := by
  have htopic {act : Context → Turn Outcome} {alone : Context → Turn Sequel}
      (h : ∀ c, c.externalId = actor → act c = alone c >>= b.pursue (b.runner actor) actor) :
      inTopicFlow actor act =
        inTopicFlowAlone actor alone >>= b.pursue (b.runner actor) actor := by
    rw [inTopicFlow, inTopicFlowAlone, bind_assoc]
    apply get_bind_congr
    · simp only [pure_bind, pursue_rest]
    · intro c hc
      simp only
      split
      · exact h c hc
      · simp only [pure_bind, pursue_rest]
  cases e with
  | startFlow flow => exact (pursue_start flow).symm
  | startTopicFlow topic flow target chat => exact (pursue_startInTopic ..).symm
  | goToStep place => exact (pursue_goTo _).symm
  | completeFlow => exact (@pursue_complete b (b.runner actor) actor).symm
  | executeStep s => exact (@pursue_run b (b.runner actor) actor s).symm
  | message text =>
    rw [react, eventAlone, bind_assoc]
    apply get_bind_congr
    · simp only [pure_bind, pursue_rest]
    · exact fun c hc => takeAnswer_eq hc text
  | topicMessage text => exact htopic fun c hc => takeAnswer_eq hc text
  | press payload => exact press_eq payload
  | topicPress payload => exact htopic fun _ _ => press_eq payload

end

end Dialogue.Bot
