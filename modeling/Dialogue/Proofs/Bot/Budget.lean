import Dialogue.Proofs.Bot.Laps
import Dialogue.Proofs.Turn.Sending

/-! The limit on the steps of one event. It only cuts an event short: the laps before the cut are
those of an event without the limit, and every one of them sends one message at most. -/
namespace Dialogue

/-- The event was cut short by the limit. -/
def Outcome.isCut (o : Outcome) : Bool := o.agrees (.failed .chainLimit)

namespace Outcome

theorem isCut_fault (f : Fault) : (failed (.fault f)).isCut = false := by
  have hne : (f.summary == Reason.chainLimit.text) = false :=
    beq_false_of_ne (f.summary_ne (by decide) (by decide))
  exact hne

end Outcome

namespace Bot
open Turn

/-- A sequel that does not end the event as the limit does. -/
def Sequel.Uncut : Sequel → Prop
  | .rest o => o.isCut = false
  | _ => True

namespace Sequel

theorem uncut_advance (t : Option Target) : (advance t).Uncut := by
  rw [advance]
  split <;> trivial

theorem uncut_follow (flow : Option String) (t : Option Target) : (follow flow t).Uncut := by
  rw [follow]
  split
  · trivial
  · trivial
  · rfl

theorem uncut_proceed (t : Option Target) : (proceed t).Uncut := by
  cases t with
  | some t => trivial
  | none => rfl

end Sequel

/-- Where a lap leads does not end the event as the limit does. -/
def Lap.Uncut (l : Lap) : Prop := ∀ o, l.landing = .ok (.inl o) → o.isCut = false

section Costs
variable {b : Bot} {actor : Int} {hs : Handlers}

theorem spends_fail {n : Notice} {r : Reason} {Q : Outcome → Prop} (h : Q (.failed r)) :
    Spends hs 0 (fail n r) Q :=
  .after (Mute.note n) fun _ => .pure h

theorem mute_keyboardOf (b : Bot) (key : Option String) : Mute (b.keyboardOf key) := by
  unfold keyboardOf
  split
  · exact Mute.pure _
  split
  · exact Mute.pure _
  · exact (Mute.note _).bind fun _ => Mute.pure _

theorem mute_clearMarker (c : Context) : Mute (clearMarker actor c) := by
  unfold clearMarker
  split
  · exact Mute.pure _
  · exact Contexts.mute_setVariable _ _ _

theorem spends_reportAlone (dest : Destination) (r : Step.Report) :
    Spends b.handlers 1 (b.reportAlone actor dest r) fun _ => True := by
  refine .rescue ?_ fun _ => .note _
  refine Spends.bind (m := 0) (n := 1) (.invoke _ _ _) fun reply _ => ?_
  split
  · split
    · exact .of_mute (Mute.note _)
    · exact .after (mute_keyboardOf _ _) fun keyboard => .deliver _ _ _
  · exact .of_mute (Mute.note _)

theorem spends_sendMenu (dest : Destination) (id : Option String) (m : Step.Menu) :
    Spends b.handlers 1 (b.sendMenu actor dest id m) fun _ => True := by
  refine .rescue ?_ fun _ => .after (Mute.note _) fun _ => .pure trivial
  refine Spends.bind (m := 0) (n := 1) (.invoke _ _ _) fun reply _ => ?_
  split
  · refine .after (Mute.noted _) fun keyboard => ?_
    exact Spends.bind (m := 1) (n := 0) (.deliver _ _ _) fun _ _ => .pure trivial
  · exact .after (Mute.note _) fun _ => .pure trivial

/-- The work of a step sends one message at most. -/
theorem spends_workAlone (c : Context) (s : Step) :
    Spends b.handlers 1 (b.workAlone actor c s) Sequel.Uncut := by
  have hdeliver {dest : Destination} {text : String} {keyboard : Keyboard} {q : Sequel}
      (hq : q.Uncut) : Spends b.handlers 1
        (Channel.deliver dest text keyboard >>= fun _ => pure q) Sequel.Uncut :=
    Spends.bind (n := 0) (.deliver _ _ _) fun _ _ => .pure hq
  unfold workAlone
  split
  · refine .after (mute_keyboardOf _ _) fun keyboard => hdeliver ?_
    split
    · exact Sequel.uncut_advance _
    · rfl
  · refine .map (.after (Contexts.mute_setVariable _ _ _) fun _ => ?_)
    exact Spends.bind (n := 0) (.deliver _ _ _) fun _ _ => .pure rfl
  · refine .map (.after (Mute.noted _) fun keyboard => ?_)
    exact Spends.bind (n := 0) (.deliver _ _ _) fun _ _ => .pure rfl
  · refine .after (Mute.noted _) fun yes => ?_
    split
    · exact .pure trivial
    split
    · exact .pure trivial
    · exact .after (Mute.note _) fun _ => .pure rfl
  · exact Spends.bind (m := 0) (n := 1) (.attempt _ _ _) fun _ _ =>
      .pure (Sequel.uncut_proceed _)
  · exact .pure trivial
  · exact .after (Mute.pause _) fun _ => .pure (Sequel.uncut_proceed _)
  · exact .after (Contexts.mute_revise _ _) fun _ => .pure (Sequel.uncut_proceed _)
  · split
    · exact Spends.bind (n := 0) (spends_reportAlone _ _) fun _ _ =>
        .pure (Sequel.uncut_advance _)
    · exact .after (Mute.note _) fun _ => .pure trivial
  · split
    · refine Spends.bind (n := 0) (spends_sendMenu _ _ _) fun sent _ => ?_
      split
      · exact .pure rfl
      · exact .pure trivial
    · exact .after (Mute.note _) fun _ => .pure trivial
  · exact .map (Spends.weaken (spends_fail rfl) (Nat.zero_le 1))

theorem spends_stepAlone (actor : Int) (s : Step) :
    Spends b.handlers 1 (b.stepAlone actor s) Sequel.Uncut := by
  refine .after (Contexts.mute_get actor) fun o => ?_
  cases o with
  | none => exact .pure rfl
  | some c => exact spends_workAlone c s

theorem spends_setAt (path : String) (v : Value) {q : Sequel} (hq : q.Uncut) :
    Spends hs 0 (setAt actor path v >>= fun _ => pure q) Sequel.Uncut :=
  .after (Contexts.mute_setVariable _ _ _) fun _ => .pure hq

theorem spends_carryOutAlone (a : Action) (payload : String) :
    Spends b.handlers 0 (b.carryOutAlone actor a payload) fun q? => ∀ q ∈ q?, q.Uncut := by
  have hsome {q : Sequel} (hq : q.Uncut) : ∀ p ∈ some q, p.Uncut :=
    fun p hp => Option.some.inj hp ▸ hq
  have hfollow := hsome (Sequel.uncut_follow a.nextFlow a.next)
  unfold carryOutAlone
  split
  · split
    · exact .pure (hsome trivial)
    · exact .map (spends_fail (hsome rfl))
  · split
    · exact .pure (hsome trivial)
    · exact .map (spends_fail (hsome rfl))
  · split
    · split
      · exact .after (Contexts.mute_setVariable _ _ _) fun _ => .pure hfollow
      · exact .pure hfollow
    · exact .pure hfollow
  · split
    · exact Spends.bind (m := 0) (n := 0) (.attempt _ _ _) fun _ _ => .pure hfollow
    · exact .after (Mute.note _) fun _ => .pure hfollow
  · exact .after (Mute.note _) fun _ => .pure fun _ h => nomatch h

theorem spends_carryOutGivenAlone (a : Action) :
    Spends hs 0 (carryOutGivenAlone actor a) Sequel.Uncut := by
  have hfollow := Sequel.uncut_follow a.nextFlow a.next
  unfold carryOutGivenAlone
  split
  · exact .after (Mute.note _) fun _ => .pure rfl
  split
  · split
    · split
      · exact spends_setAt _ _ hfollow
      · exact .pure hfollow
    · exact .pure hfollow
  · split
    · exact .pure trivial
    · exact .pure rfl
  · split
    · exact .pure trivial
    · exact .pure rfl
  all_goals
    split
    · exact spends_setAt _ _ hfollow
    · exact .pure hfollow

theorem spends_pickAlone (payload : String) :
    Spends hs 0 (b.pickAlone actor payload) Sequel.Uncut := by
  refine .after (Contexts.mute_get actor) fun o => ?_
  split
  · exact .map (spends_fail rfl)
  split
  · exact .map (spends_fail rfl)
  split
  · exact .map (spends_fail rfl)
  split
  · exact .map (spends_fail rfl)
  · refine .after (Contexts.mute_setVariable _ _ _) fun _ => ?_
    split
    · exact .pure trivial
    · exact .pure (Sequel.uncut_advance _)

theorem spends_pressKeyboardAlone (payload : String) :
    Spends hs 0 (b.pressKeyboardAlone actor payload) Sequel.Uncut := by
  refine .after (Contexts.mute_get actor) fun o => ?_
  split
  · exact .pure rfl
  split
  · exact .pure rfl
  split
  · exact .pure rfl
  · exact spends_setAt _ _ (Sequel.uncut_proceed _)

theorem spends_pressAlone (payload : String) :
    Spends b.handlers 0 (b.pressAlone actor payload) Sequel.Uncut := by
  have hform (p : Press) :
      Spends b.handlers 0 (b.pressByFormAlone actor payload p) Sequel.Uncut := by
    cases p with
    | dynamic => exact spends_pickAlone payload
    | json a => exact spends_carryOutGivenAlone a
    | keyboard | registered => exact spends_pressKeyboardAlone payload
  refine .after (Mute.ofResult _) fun r => .after (Mute.noted r) fun p => ?_
  split
  · refine Spends.bind (m := 0) (n := 0) (spends_carryOutAlone _ payload) fun o ho => ?_
    split
    · exact .pure (ho _ rfl)
    · exact .after (Mute.noted _) hform
  · exact hform _

theorem spends_enterFirst (f : Flow) : Spends hs 0 (reachFirst actor f) fun r =>
    ∀ o, r = .inl o → o.isCut = false := by
  unfold reachFirst
  split
  · exact .after (Mute.note _) fun _ => .pure fun o ho => Sum.inl.inj ho ▸ rfl
  · exact .after (Contexts.mute_recordStep _ _ _) fun _ => .pure fun o ho => by cases ho

/-- On the way to the next step nothing is sent. -/
theorem spends_reach (actor : Int) (q : Sequel) (hq : q.Uncut) :
    Spends hs 0 (b.reach actor q) fun r => ∀ o, r = .inl o → o.isCut = false := by
  have hfail {n : Notice} {r : Reason} (h : (Outcome.failed r).isCut = false) :
      Spends hs 0 (Sum.inl <$> fail n r : Turn (Outcome ⊕ Arrival)) fun r =>
        ∀ o, r = .inl o → o.isCut = false :=
    .map (spends_fail fun o ho => Sum.inl.inj ho ▸ h)
  cases q with
  | rest o => exact .pure fun p hp => Sum.inl.inj hp ▸ hq
  | run s => exact .pure fun o ho => by cases ho
  | start name =>
    rw [reach]
    split
    · exact hfail rfl
    · refine .after (Contexts.mute_get actor) fun o => ?_
      split
      · exact hfail rfl
      · exact .after (Contexts.mute_revise _ _) fun _ => .after (mute_clearMarker _) fun _ =>
          spends_enterFirst _
  | startInTopic topic name target chat =>
    rw [reach]
    split
    · exact hfail rfl
    · refine .after (Contexts.mute_get actor) fun o => ?_
      split
      · exact hfail rfl
      simp only
      split
      · exact hfail rfl
      refine .after ((Contexts.mute_amend _ _).bind fun _ => Mute.pure _) fun _ => ?_
      split
      · exact .after (Contexts.mute_setVariable _ _ _) fun _ => .after (mute_clearMarker _)
          fun _ => spends_enterFirst _
      · exact .after (mute_clearMarker _) fun _ => spends_enterFirst _
  | goTo place =>
    refine .after (Contexts.mute_get actor) fun o => ?_
    split
    · exact hfail rfl
    split
    · exact hfail rfl
    split
    · exact hfail rfl
    split
    · exact hfail rfl
    · exact .after (Contexts.mute_recordStep _ _ _) fun _ => .pure fun o ho => by cases ho
  | complete =>
    refine .map (.after (Contexts.mute_get actor) fun o => ?_)
    split
    · exact .pure fun o ho => Sum.inl.inj ho ▸ rfl
    split
    · exact .pure fun o ho => Sum.inl.inj ho ▸ rfl
    · exact .after (Contexts.mute_revise _ _) fun _ => .after (mute_clearMarker _) fun _ =>
        .pure fun o ho => Sum.inl.inj ho ▸ rfl

end Costs

section Refusals
variable {actor : Int} {hs : Handlers}

/-- What a message is answered with when it does not meet the rule of the question. -/
def refused : Outcome := .ignored .validationFailed

/-- The work sends nothing, or it sends a refusal and is over with that. -/
def Refuses (hs : Handlers) (alone : Turn Sequel) : Prop :=
  ∀ w, (Sends hs 0 w (on alone w).2 ∧ ∀ q, (on alone w).1 = .ok q → q.Uncut) ∨
    (Sends hs 1 w (on alone w).2 ∧ (on alone w).1 = .ok (.rest refused))

namespace Refuses

theorem of_spends {alone : Turn Sequel} (h : Spends hs 0 alone Sequel.Uncut) : Refuses hs alone :=
  fun w => .inl (h w)

theorem after {α : Type} {work : Turn α} {f : α → Turn Sequel} (hwork : Mute work)
    (hf : ∀ a, Refuses hs (f a)) : Refuses hs (work >>= f) := by
  intro w
  have hstill : Sends hs 0 w (on work w).2 := .still (hwork.sent w)
  rw [on_bind]
  rcases hon : on work w with ⟨e | a, w'⟩
  · rw [hon] at hstill
    exact .inl ⟨hstill, fun _ he => nomatch he⟩
  · rw [hon] at hstill
    rcases hf a w' with ⟨hnext, hlast⟩ | ⟨hnext, hlast⟩
    · exact .inl ⟨hstill.trans hnext, hlast⟩
    · exact .inr ⟨hstill.trans hnext, hlast⟩

theorem deliver (dest : Destination) (text : String) :
    Refuses hs (Channel.deliver dest text >>= fun _ => pure (.rest refused)) := by
  intro w
  simp only [Channel.deliver, channelTask, on_bind, on_get, on_set]
  cases w.outages.channel _ w.channelTasks with
  | none => exact .inr ⟨.send rfl, rfl⟩
  | some f => exact .inl ⟨.still rfl, fun _ he => by cases he⟩

end Refuses

theorem refuses_takeAnswerAlone (c : Context) (text : String) :
    Refuses hs (takeAnswerAlone actor c text) := by
  have hkeep (m : WaitMarker) : Refuses hs (keepAnswerAlone actor m text) :=
    .after (Contexts.mute_setVariable _ _ _) fun _ =>
      .after (Contexts.mute_setVariable _ _ _) fun _ => .of_spends (.pure (Sequel.uncut_proceed _))
  refine .after (Mute.noted _) fun o => ?_
  split
  · exact .of_spends (.pure rfl)
  split
  · exact hkeep _
  · refine .after (Mute.noted _) fun accepted => ?_
    split
    · exact hkeep _
    · exact .deliver _ _

theorem refuses_inTopicFlowAlone {act : Context → Turn Sequel} (h : ∀ c, Refuses hs (act c)) :
    Refuses hs (inTopicFlowAlone actor act) := by
  refine .after (Contexts.mute_get actor) fun o => ?_
  split
  · exact .of_spends (.pure rfl)
  · split
    · exact h _
    · exact .of_spends (.pure rfl)

/-- By itself an event sends nothing but a refusal. -/
theorem refuses_eventAlone (b : Bot) (actor : Int) (e : Event) :
    Refuses b.handlers (b.eventAlone actor e) := by
  cases e with
  | startFlow | startTopicFlow | goToStep | completeFlow | executeStep =>
    exact .of_spends (.pure trivial)
  | message text =>
    refine .after (Contexts.mute_get actor) fun o => ?_
    split
    · exact .of_spends (.pure rfl)
    · exact refuses_takeAnswerAlone _ text
  | topicMessage text => exact refuses_inTopicFlowAlone fun c => refuses_takeAnswerAlone c text
  | press payload => exact .of_spends (spends_pressAlone payload)
  | topicPress payload =>
    exact refuses_inTopicFlowAlone fun _ => .of_spends (spends_pressAlone payload)

end Refusals

section Laps
variable {b : Bot} {actor : Int} {alone : Turn Sequel} {w : World} {l : Lap} {m : Nat}

theorem sends_lap (hsends : Sends b.handlers m w (on alone w).2)
    (huncut : ∀ q, (on alone w).1 = .ok q → q.Uncut) :
    Sends b.handlers m w (b.lap actor alone w).world ∧ (b.lap actor alone w).Uncut := by
  rw [lap]
  rcases hon : on alone w with ⟨f | q, w'⟩
  · rw [hon] at hsends
    exact ⟨hsends, fun _ he => by cases he⟩
  · rw [hon] at hsends huncut
    obtain ⟨hreach, hend⟩ := spends_reach actor q (huncut q rfl) w'
    exact ⟨hsends.trans hreach, fun o ho => hend _ ho o rfl⟩

/-- Every lap after the first sends one message at most. -/
theorem sends_laps (left : Nat) (hfirst : Sends b.handlers m w (b.lap actor alone w).world)
    (huncut : (b.lap actor alone w).Uncut) (hl : (b.laps actor left alone w).getLast? = some l) :
    Sends b.handlers (m + (b.laps actor left alone w).tail.length) w l.world ∧ l.Uncut := by
  induction left generalizing alone w m with
  | zero => exact Option.some.inj hl ▸ ⟨hfirst, huncut⟩
  | succ left ih =>
    cases ha : (b.lap actor alone w).arrival? with
    | none =>
      rw [laps_of_rest ha] at hl ⊢
      exact Option.some.inj hl ▸ ⟨hfirst, huncut⟩
    | some a =>
      rw [laps_of_arrival ha] at hl ⊢
      rw [List.getLast?_cons_of_ne_nil (laps_ne_nil left)] at hl
      obtain ⟨hsends, hend⟩ := spends_stepAlone actor a.step (b.lap actor alone w).world
      obtain ⟨hnext, hnextUncut⟩ := sends_lap hsends hend
      obtain ⟨hrest, hlast⟩ := ih hnext hnextUncut hl
      rw [List.tail_cons, length_laps, Nat.add_comm _ 1]
      exact ⟨hfirst.trans hrest, hlast⟩

end Laps

section Handling
variable {b : Bot} {actor : Int} {e : Event} {w : World} {l : Lap}

/-- The laps of an event send one message for each step at most, or a refusal and nothing else. -/
theorem sends_eventLaps (hl : (b.eventLaps actor e w).getLast? = some l) :
    (Sends b.handlers (b.eventLaps actor e w).tail.length w l.world ∧ l.Uncut) ∨
      (Sends b.handlers 1 w l.world ∧ l.landing = .ok (.inl refused)) := by
  rcases refuses_eventAlone b actor e w with ⟨hsends, hend⟩ | ⟨hsends, hend⟩
  · obtain ⟨hfirst, huncut⟩ := sends_lap hsends hend
    have hall := sends_laps b.chainLimit.toNat hfirst huncut hl
    rw [Nat.zero_add] at hall
    exact .inl hall
  · have hlap : b.lap actor (b.eventAlone actor e) w =
        ⟨some (.rest refused), .ok (.inl refused), (on (b.eventAlone actor e) w).2⟩ := by
      rw [lap]
      rcases hon : on (b.eventAlone actor e) w with ⟨f | q, w'⟩
      · rw [hon] at hend
        cases hend
      · rw [hon] at hend
        rw [Except.ok.inj hend]
        rfl
    have hover : (b.lap actor (b.eventAlone actor e) w).arrival? = none := by rw [hlap]; rfl
    rw [eventLaps, laps_of_rest hover] at hl
    have hlast : b.lap actor (b.eventAlone actor e) w = l := Option.some.inj hl
    rw [← hlast, hlap]
    exact .inr ⟨hsends, rfl⟩

/-- The outcome is that of the limit when the last lap came to a further step. -/
theorem isCut_outcome (huncut : l.Uncut) :
    l.outcome.isCut = true ↔ l.arrival?.isSome = true := by
  obtain ⟨q, landing, w'⟩ := l
  match landing with
  | .error f =>
    rw [Lap.outcome, Outcome.isCut_fault]
    exact Iff.rfl
  | .ok (.inl o) =>
    rw [Lap.outcome, huncut o rfl]
    exact Iff.rfl
  | .ok (.inr a) =>
    have hcut : (Outcome.failed .chainLimit).isCut = true := by decide
    exact iff_of_true hcut rfl

end Handling

end Bot

end Dialogue
