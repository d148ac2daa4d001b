import Dialogue.Proofs.Bot.Alone
import Dialogue.Proofs.Handler.Bookkeeping

/-! The work of steps and of events in two worlds, when the actor runs a flow in the own chat in the
one and in a topic in the other. Nothing that they do alone depends on where the flow is run, but
for the place that messages are sent to. -/
namespace Dialogue

namespace Context
variable {topic chat : Int} {c d : Context}

theorem AtHome.destination (h : c.AtHome) :
    Destination.ofContext c = .direct c.externalId := by
  rw [Destination.ofContext, h.inTopic]
  rfl

theorem Running.destination (h : Running topic chat c d) :
    Destination.ofContext d = { chatId := chat, topicId := some topic } := by
  have hin : d.inTopic = true := (congrArg Context.inTopic h.same :)
  have htopic : d.topicId = some topic := (congrArg Context.topicId h.same :)
  have hchat : d.adminChatId = some chat := (congrArg Context.adminChatId h.same :)
  rw [Destination.ofContext, hin, htopic, hchat]
  rfl

end Context

namespace Bot
open Turn Context

/-- Both pieces of work lead to the same ordinary sequel. -/
abbrev LeadAlike (g : Stage) (R : World → World → Prop) (x y : Turn Sequel) : Prop :=
  InStep R x y (fun q w w' => g.Near w w' ∧ q.IsOrdinary) g.Near

variable {b : Bot} {g : Stage}
variable (ht : Decimal.isReadable g.topic = true) (hchat : Decimal.isReadable g.chat = true)
  (hh : ∀ name h, Table.value? b.handlers name = some h → h.ByData)

section Steps

omit ht hchat hh in
theorem inStep_keyboardOf (key : Option String) :
    InStep g.Near (b.keyboardOf key) (b.keyboardOf key) (fun _ => g.Near) g.Near := by
  unfold keyboardOf
  split
  · exact .pure fun _ _ hw => hw
  split
  · exact .pure fun _ _ hw => hw
  · exact (InStep.still (still_note _)).bind fun _ => .pure fun _ _ hw => hw

omit ht hchat hh in
/-- A sequel that both pieces of work lead to. -/
private theorem inStep_sequel {q : Sequel} (hq : q.IsOrdinary) :
    LeadAlike g g.Near (pure q : Turn Sequel) (pure q) :=
  .pure fun _ _ hw => ⟨hw, hq⟩

omit ht hchat hh in
private theorem inStep_rest {x y : Turn Outcome} (h : InStep g.Near x y (fun _ => g.Near) g.Near) :
    LeadAlike g g.Near (Sequel.rest <$> x) (Sequel.rest <$> y) :=
  .map (h.post fun _ _ _ hw => ⟨hw, trivial⟩)

omit ht hchat hh in
theorem inStep_fail (n : Notice) (r : Reason) :
    InStep g.Near (fail n r) (fail n r) (fun _ => g.Near) g.Near :=
  (InStep.still (still_note n)).bind fun _ => .pure fun _ _ hw => hw

include ht hchat in
theorem inStep_ask (id : Option String) (q : Step.Question) :
    InStep g.Near (ask g.actor g.home id q) (ask g.actor g.away id q) (fun _ => g.Near) g.Near :=
  (InStep.setVariable ht hchat g.actor _ _).bind fun _ =>
    (InStep.deliver _ _).bind fun _ => .pure fun _ _ hw => hw

omit ht hchat hh in
theorem inStep_offer (id : Option String) (k : Step.Choice) :
    InStep g.Near (offer g.home id k) (offer g.away id k) (fun _ => g.Near) g.Near :=
  (InStep.still (still_noted _)).bind fun _ =>
    (InStep.deliver _ _).bind fun _ => .pure fun _ _ hw => hw

include ht hchat in
theorem inStep_setForwarding (on : Bool) :
    InStep g.Near (Contexts.setForwarding g.actor on) (Contexts.setForwarding g.actor on)
      (fun _ => g.Near) g.Near := by
  have hmute := Contexts.mute_revise g.actor fun c => { c with forwarding := on }
  have hdone : InStep g.Near (pure ()) (pure ()) (fun _ => g.Near) g.Near := .pure fun _ _ hw => hw
  have hall := InStep.rewrite_bind (R := g.Near) (fun w w' hw => by
    obtain ⟨c, c', hc, hc', hcc⟩ := hw.own w.now w'.now
    exact ⟨hw, _, _, hcc.relayed ht hchat on, Contexts.leads_revise hw.reliable.1 hc _ rfl rfl,
      Contexts.leads_revise hw.reliable.2 hc' _ rfl rfl⟩) hmute hmute hdone
  rwa [bind_pure_unit] at hall

include ht hchat hh

theorem inStep_reportAlone (r : Step.Report) :
    InStep g.Near (b.reportAlone g.actor g.home r) (b.reportAlone g.actor g.away r)
      (fun _ => g.Near) g.Near := by
  refine .rescue ((InStep.invoke ht hchat hh r.handler g.actor none).bind fun reply => ?_)
    fun _ => .still (still_note _)
  split
  · split
    · exact .still (still_note _)
    · exact (inStep_keyboardOf _).bind fun _ => .deliver _ _
  · exact .still (still_note _)

theorem inStep_sendMenu (id : Option String) (m : Step.Menu) :
    InStep g.Near (b.sendMenu g.actor g.home id m) (b.sendMenu g.actor g.away id m)
      (fun _ => g.Near) g.Near := by
  refine .rescue ((InStep.invoke ht hchat hh m.handler g.actor none).bind fun reply => ?_)
    fun _ => (InStep.still (still_note _)).bind fun _ => .pure fun _ _ hw => hw
  split
  · exact (InStep.still (still_noted _)).bind fun _ => (InStep.deliver _ _).bind fun _ =>
      .pure fun _ _ hw => hw
  · exact (InStep.still (still_note _)).bind fun _ => .pure fun _ _ hw => hw

/-- The work of a step for contexts of the same flow. -/
theorem inStep_workAlone {c c' : Context} (h : Twins g.topic g.chat c c')
    (hc : c.externalId = g.actor) (st : Step) :
    LeadAlike g g.Near (b.workAlone g.actor c st) (b.workAlone g.actor c' st) := by
  have hhome : Destination.ofContext c = g.home := by rw [h.home.destination, hc]; rfl
  have haway : Destination.ofContext c' = g.away := h.destination
  unfold workAlone
  rw [hhome, haway, h.agree.data]
  split
  · refine (inStep_keyboardOf _).bind fun keyboard => (InStep.deliver _ _).bind fun _ =>
      inStep_sequel ?_
    split
    · exact Sequel.isOrdinary_advance _
    · trivial
  · exact inStep_rest (inStep_ask ht hchat _ _)
  · exact inStep_rest (inStep_offer _ _)
  · refine (InStep.still (still_noted _)).bind fun yes => ?_
    split
    · exact inStep_sequel trivial
    split
    · exact inStep_sequel trivial
    · exact (InStep.still (still_note _)).bind fun _ => inStep_sequel trivial
  · exact (InStep.attempt ht hchat hh _ _ _).bind fun _ =>
      inStep_sequel (Sequel.isOrdinary_proceed _)
  · exact inStep_sequel trivial
  · obtain ⟨r, hr⟩ := still_pause _
    exact (InStep.still hr).bind fun _ => inStep_sequel (Sequel.isOrdinary_proceed _)
  · exact (inStep_setForwarding ht hchat _).bind fun _ =>
      inStep_sequel (Sequel.isOrdinary_proceed _)
  · split
    · exact (inStep_reportAlone ht hchat hh _).bind fun _ =>
        inStep_sequel (Sequel.isOrdinary_advance _)
    · exact (InStep.still (still_note _)).bind fun _ => inStep_sequel trivial
  · split
    · refine (inStep_sendMenu ht hchat hh _ _).bind fun sent => ?_
      split <;> exact inStep_sequel trivial
    · exact (InStep.still (still_note _)).bind fun _ => inStep_sequel trivial
  · exact inStep_rest (inStep_fail _ _)

/-- The work of a step that was entered in both worlds. -/
theorem inStep_stepAlone (st : Step) :
    LeadAlike g g.Together (b.stepAlone g.actor st) (b.stepAlone g.actor st) :=
  InStep.get_bind fun _ _ h hc _ =>
    (inStep_workAlone ht hchat hh h hc st).pre fun _ _ hw => hw.1.mono fun _ _ => .twins

end Steps

section Answers
include ht hchat

theorem inStep_setAt (path : String) (v : Value) {q : Sequel} (hq : q.IsOrdinary) :
    LeadAlike g g.Near (setAt g.actor path v >>= fun _ => pure q)
      (setAt g.actor path v >>= fun _ => pure q) :=
  (InStep.setVariable ht hchat g.actor _ v).bind fun _ => inStep_sequel hq

theorem inStep_carryOutGivenAlone (a : Action) :
    LeadAlike g g.Near (carryOutGivenAlone g.actor a) (carryOutGivenAlone g.actor a) := by
  have hfollow := Sequel.isOrdinary_follow a.nextFlow a.next
  unfold carryOutGivenAlone
  split
  · exact (InStep.still (still_note _)).bind fun _ => inStep_sequel trivial
  split
  · split
    · split
      · exact inStep_setAt ht hchat _ _ hfollow
      · exact inStep_sequel hfollow
    · exact inStep_sequel hfollow
  · split <;> exact inStep_sequel trivial
  · split <;> exact inStep_sequel trivial
  all_goals
    split
    · exact inStep_setAt ht hchat _ _ hfollow
    · exact inStep_sequel hfollow

theorem inStep_pickAlone (payload : String) :
    LeadAlike g g.Near (b.pickAlone g.actor payload) (b.pickAlone g.actor payload) := by
  refine InStep.get_bind fun c c' h _ _ => InStep.pre ?_ fun _ _ hw => hw.1
  simp only [h.agree.isIdle, h.agree.currentFlow]
  split
  · exact inStep_rest (inStep_fail _ _)
  split
  · exact inStep_rest (inStep_fail _ _)
  split
  · exact inStep_rest (inStep_fail _ _)
  · refine (InStep.setVariable ht hchat g.actor _ _).bind fun _ => ?_
    split
    · exact inStep_sequel trivial
    · exact inStep_sequel (Sequel.isOrdinary_advance _)

theorem inStep_pressKeyboardAlone (payload : String) :
    LeadAlike g g.Near (b.pressKeyboardAlone g.actor payload)
      (b.pressKeyboardAlone g.actor payload) := by
  refine InStep.get_bind fun c c' h _ _ => InStep.pre ?_ fun _ _ hw => hw.1
  have hkeyboard : b.keyboardStep? c' = b.keyboardStep? c := by
    rw [keyboardStep?, keyboardStep?, h.agree.currentFlow, h.agree.currentStep]
  simp only [h.agree.isIdle, hkeyboard]
  split
  · exact inStep_sequel trivial
  split
  · exact inStep_sequel trivial
  · exact inStep_setAt ht hchat _ _ (Sequel.isOrdinary_proceed _)

theorem inStep_pressByFormAlone (payload : String) (p : Press) :
    LeadAlike g g.Near (b.pressByFormAlone g.actor payload p)
      (b.pressByFormAlone g.actor payload p) := by
  cases p with
  | dynamic => exact inStep_pickAlone ht hchat payload
  | json a => exact inStep_carryOutGivenAlone ht hchat a
  | keyboard | registered => exact inStep_pressKeyboardAlone ht hchat payload

/-- The answer is kept where the question said; a refusal goes to where the flow is run. -/
theorem inStep_takeAnswerAlone {c c' : Context} (h : Twins g.topic g.chat c c')
    (hc : c.externalId = g.actor) (text : String) :
    LeadAlike g g.Near (takeAnswerAlone g.actor c text) (takeAnswerAlone g.actor c' text) := by
  have hhome : Destination.ofContext c = g.home := by rw [h.home.destination, hc]; rfl
  have haway : Destination.ofContext c' = g.away := h.destination
  unfold takeAnswerAlone
  rw [hhome, haway, h.agree.waitMarker]
  refine (InStep.still (still_noted _)).bind fun o => ?_
  split
  · exact inStep_sequel trivial
  · rename_i w
    have hkeep : LeadAlike g g.Near (keepAnswerAlone g.actor w text)
        (keepAnswerAlone g.actor w text) :=
      (InStep.setVariable ht hchat g.actor _ _).bind fun _ =>
        (InStep.setVariable ht hchat g.actor _ _).bind fun _ =>
          inStep_sequel (Sequel.isOrdinary_proceed _)
    split
    · exact hkeep
    · refine (InStep.still (still_noted _)).bind fun accepted => ?_
      split
      · exact hkeep
      · exact (InStep.deliver _ _).bind fun _ => inStep_sequel trivial

include hh

theorem inStep_carryOutAlone (a : Action) (payload : String) :
    InStep g.Near (b.carryOutAlone g.actor a payload) (b.carryOutAlone g.actor a payload)
      (fun o w w' => g.Near w w' ∧ ∀ q ∈ o, q.IsOrdinary) g.Near := by
  have hsome {q : Sequel} (hq : q.IsOrdinary) :
      InStep g.Near (pure (some q) : Turn (Option Sequel)) (pure (some q))
        (fun o w w' => g.Near w w' ∧ ∀ q ∈ o, q.IsOrdinary) g.Near :=
    .pure fun _ _ hw => ⟨hw, fun p hp => Option.some.inj hp ▸ hq⟩
  have hfail {n : Notice} {r : Reason} :
      InStep g.Near ((some ∘ Sequel.rest) <$> fail n r : Turn (Option Sequel))
        ((some ∘ Sequel.rest) <$> fail n r)
        (fun o w w' => g.Near w w' ∧ ∀ q ∈ o, q.IsOrdinary) g.Near := by
    refine .map ((inStep_fail n r).post fun o _ _ hw => ⟨hw, fun p hp => ?_⟩)
    rw [← Option.some.inj hp]
    trivial
  have hfollow := hsome (Sequel.isOrdinary_follow a.nextFlow a.next)
  unfold carryOutAlone
  split
  · split
    · exact hsome trivial
    · exact hfail
  · split
    · exact hsome trivial
    · exact hfail
  · split
    · split
      · exact (InStep.setVariable ht hchat g.actor _ _).bind fun _ => hfollow
      · exact hfollow
    · exact hfollow
  · split
    · exact (InStep.attempt ht hchat hh _ _ _).bind fun _ => hfollow
    · exact (InStep.still (still_note _)).bind fun _ => hfollow
  · exact (InStep.still (still_note _)).bind fun _ => .pure fun _ _ hw =>
      ⟨hw, fun p hp => by cases hp⟩

theorem inStep_pressAlone (payload : String) :
    LeadAlike g g.Near (b.pressAlone g.actor payload) (b.pressAlone g.actor payload) := by
  refine (InStep.still (still_ofResult _)).bind fun r => ?_
  refine (InStep.still (still_noted _)).bind fun p => ?_
  split
  · refine (inStep_carryOutAlone ht hchat hh _ payload).bind fun o => ?_
    split
    · exact .pure fun _ _ hw => ⟨hw.1, hw.2 _ rfl⟩
    · exact ((InStep.still (still_noted _)).bind fun q =>
        inStep_pressByFormAlone ht hchat payload q).pre fun _ _ hw => hw.1
  · exact inStep_pressByFormAlone ht hchat payload _

end Answers

end Bot

end Dialogue
