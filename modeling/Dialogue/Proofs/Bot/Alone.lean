import Dialogue.Proofs.Bot.Flows
import Dialogue.Proofs.Bot.Presses
import Dialogue.Proofs.Bot.Sequels
import Dialogue.Proofs.Json.Legibility

/-! What is kept up by all that steps and events do alone. They write into data, switch whether free
messages are passed on, and call handlers; flows begin and end, and steps are entered, by sequels
only. -/
namespace Dialogue

/-- An event as actors and admins cause it. The ids of a topic flow are whole numbers, with no more
digits than can be read again, and no step is run by hand. -/
def Event.IsOrdinary : Event → Prop
  | .startTopicFlow topic _ target chat => ∃ (t : Int) (u a : Option Int),
    topic = .int t ∧ target = Value.ofOption .int u ∧ chat = Value.ofOption .int a ∧
      Decimal.isReadable t = true ∧ u.all Decimal.isReadable = true ∧
      a.all Decimal.isReadable = true
  | .executeStep _ => False
  | _ => True

/-- No flow is started in a topic, and no step is run by hand. -/
def Event.IsPlain : Event → Prop
  | .startTopicFlow .. | .executeStep _ => False
  | _ => True

/-- The payload of a button that is pressed. -/
def Event.payload? : Event → Option String
  | .press payload | .topicPress payload => some payload
  | _ => none

/-- What belongs to an ordinary event: no step is run by hand, and the ids of a topic flow are whole
numbers that can be read again. -/
def Bot.Sequel.IsOrdinary : Bot.Sequel → Prop
  | .startInTopic topic _ target chat => ∃ (t : Int) (u a : Option Int),
    topic = .int t ∧ target = Value.ofOption .int u ∧ chat = Value.ofOption .int a ∧
      Decimal.isReadable t = true ∧ u.all Decimal.isReadable = true ∧
      a.all Decimal.isReadable = true
  | .run _ => False
  | _ => True

/-- What belongs to a step or to a message: no flow begins in a topic, and no step is run by hand.
-/
def Bot.Sequel.IsPlain : Bot.Sequel → Prop
  | .startInTopic .. | .run _ => False
  | _ => True

/-- The handler that a step calls. -/
def Step.handler? (s : Step) : Option String :=
  match s.work with
  | .call handler _ => some handler
  | .report r => some r.handler
  | .menu m => some m.handler
  | _ => none

namespace Bot
open Turn

namespace Sequel

theorem IsPlain.isOrdinary {q : Sequel} (h : q.IsPlain) : q.IsOrdinary := by
  cases q with
  | startInTopic => exact h.elim
  | run => exact h.elim
  | _ => trivial

theorem isPlain_advance (t : Option Target) : (advance t).IsPlain := by
  rw [advance]
  split <;> trivial

theorem isPlain_proceed (t : Option Target) : (proceed t).IsPlain := by
  cases t <;> trivial

theorem isOrdinary_advance (t : Option Target) : (advance t).IsOrdinary :=
  (isPlain_advance t).isOrdinary

theorem isPlain_follow (flow : Option String) (t : Option Target) : (follow flow t).IsPlain := by
  rw [follow]
  split <;> trivial

theorem isOrdinary_follow (flow : Option String) (t : Option Target) :
    (follow flow t).IsOrdinary := (isPlain_follow flow t).isOrdinary

theorem isOrdinary_proceed (t : Option Target) : (proceed t).IsOrdinary :=
  (isPlain_proceed t).isOrdinary

end Sequel

theorem names_of_handler? {b : Bot} {s : Step} {name : String} (hs : b.catalog.HasStep s)
    (h : s.handler? = some name) : b.Names name := by
  rw [Step.handler?] at h
  split at h <;> rename_i hwork
  · exact Option.some.inj h ▸ .call hs hwork
  · exact .report hs hwork (Option.some.inj h)
  · exact .menu hs hwork (Option.some.inj h)
  · cases h

section Calling
variable {b : Bot} {I P : Scene → Prop} {actor : Int} {handler : String}

/-- A call is made and recorded, and the handler does what it does. -/
theorem leads_invoke (payload : Option Value)
    (hcall : ∀ s taken, I s → I { s with calls := s.calls ++ [⟨handler, actor, taken⟩] })
    (hrun : ∀ h taken, Table.value? b.handlers handler = some h →
      Leads I (h.run actor taken) (fun _ => I) I) :
    Leads I (b.handlers.invoke handler actor payload) (fun _ => I) I := by
  unfold Handlers.invoke
  split
  · exact Leads.throw fun _ hs => hs
  · rename_i h hh
    refine (Leads.quiet (Quiet.ofResult _)).bind fun taken => ?_
    have hcalled : Leads I
        (modify fun w => { w with calls := w.calls ++ [⟨handler, actor, taken⟩] } :
          Turn Unit) (fun _ => I) I := fun w hw => hcall _ taken hw
    exact hcalled.bind fun _ => hrun h taken hh

theorem leads_attempt {payload : Option Value}
    (h : Leads I (b.handlers.invoke handler actor payload) (fun _ => I) I) :
    Leads I (b.handlers.attempt handler actor payload) (fun _ => I) I := by
  refine Leads.rescue (h.bind fun _ => Leads.pure fun _ hs => hs) fun f => ?_
  split <;> exact Leads.quiet (Quiet.note _)

theorem leads_reportAlone (dest : Destination) {r : Step.Report}
    (h : Leads I (b.handlers.invoke r.handler actor) (fun _ => I) I) :
    Leads I (b.reportAlone actor dest r) (fun _ => I) I := by
  refine Leads.rescue (h.bind fun reply => ?_) fun _ => Leads.quiet (Quiet.note _)
  split
  · split
    · exact Leads.quiet (Quiet.note _)
    · exact Leads.quiet ((quiet_keyboardOf _ _).bind fun _ => Quiet.deliver _ _ _)
  · exact Leads.quiet (Quiet.note _)

theorem leads_sendMenu (dest : Destination) (id : Option String) {m : Step.Menu}
    (h : Leads I (b.handlers.invoke m.handler actor) (fun _ => I) I) :
    Leads I (b.sendMenu actor dest id m) (fun _ => I) I := by
  refine Leads.rescue (h.bind fun reply => ?_) fun _ =>
    Leads.quiet ((Quiet.note _).bind fun _ => Quiet.pure _)
  split
  · exact Leads.quiet ((Quiet.noted _).bind fun _ => (Quiet.deliver _ _ _).bind fun _ =>
      Quiet.pure _)
  · exact Leads.quiet ((Quiet.note _).bind fun _ => Quiet.pure _)

private theorem leads_plain {q : Sequel} (hq : q.IsPlain) :
    Leads I (pure q : Turn Sequel) (fun q t => I t ∧ q.IsPlain) I :=
  Leads.pure fun _ hs => ⟨hs, hq⟩

/-- What a step does alone: a question arms its marker, a switch is turned, a handler is called, and
all else leaves the scene as it is. -/
theorem leads_workAlone {st : Step} (hP : ∀ s, P s → I s)
    (harm : ∀ q, st.work = .question q →
      Leads P (Contexts.setVariable actor WaitMarker.path (markerOf st.id q).stored) (fun _ => I) I)
    (hrelay : ∀ on next, st.work = .relaying on next →
      Leads I (Contexts.setForwarding actor on) (fun _ => I) I)
    (hinvoke : ∀ name, st.handler? = some name →
      Leads I (b.handlers.invoke name actor) (fun _ => I) I)
    (c : Context) : Leads P (b.workAlone actor c st) (fun q t => I t ∧ q.IsPlain) I := by
  have hquiet {α : Type} {work : Turn α} {f : α → Turn Sequel} (h : Quiet work)
      (hf : ∀ a, Leads I (f a) (fun q t => I t ∧ q.IsPlain) I) :
      Leads I (work >>= f) (fun q t => I t ∧ q.IsPlain) I := (Leads.quiet h).bind hf
  have hcalls {name : String} (h : st.handler? = some name) :
      Leads I (b.handlers.invoke name actor) (fun _ => I) I := hinvoke name h
  unfold workAlone
  split <;> rename_i hwork
  · refine Leads.pre (hquiet (quiet_keyboardOf _ _) fun keyboard =>
      hquiet (Quiet.deliver _ _ _) fun _ => leads_plain ?_) hP
    split
    · exact Sequel.isPlain_advance _
    · trivial
  · refine Leads.map ((harm _ hwork).bind fun _ => ?_)
    exact (Leads.quiet (Quiet.deliver _ _ _)).bind fun _ => Leads.pure fun s hs => ⟨hs, trivial⟩
  · exact Leads.pre (Leads.map ((Leads.quiet (quiet_offer _ _ _)).post
      fun _ _ hs => ⟨hs, trivial⟩)) hP
  · refine Leads.pre (hquiet (Quiet.noted _) fun yes => ?_) hP
    split
    · exact leads_plain trivial
    split
    · exact leads_plain trivial
    · exact hquiet (Quiet.note _) fun _ => leads_plain trivial
  · exact Leads.pre ((leads_attempt (hcalls (by rw [Step.handler?, hwork]))).bind fun _ =>
      leads_plain (Sequel.isPlain_proceed _)) hP
  · exact Leads.pre (leads_plain trivial) hP
  · exact Leads.pre (hquiet (Quiet.pause _) fun _ => leads_plain (Sequel.isPlain_proceed _)) hP
  · exact Leads.pre ((hrelay _ _ hwork).bind fun _ =>
      leads_plain (Sequel.isPlain_proceed _)) hP
  · refine Leads.pre ?_ hP
    split
    · exact (leads_reportAlone _ (hcalls (by rw [Step.handler?, hwork]))).bind fun _ =>
        leads_plain (Sequel.isPlain_advance _)
    · exact hquiet (Quiet.note _) fun _ => leads_plain trivial
  · refine Leads.pre ?_ hP
    split
    · refine (leads_sendMenu _ _ (hcalls (by rw [Step.handler?, hwork]))).bind fun sent => ?_
      split <;> exact leads_plain trivial
    · exact hquiet (Quiet.note _) fun _ => leads_plain trivial
  · exact Leads.pre (Leads.map ((Leads.quiet (quiet_fail _ _)).post
      fun _ _ hs => ⟨hs, trivial⟩)) hP

end Calling

private theorem field_of_read {fs : Table String Value} {a : Action}
    (h : Action.read (.dict fs) = .ok a) :
    Schema.fieldOr fs "value" .null Schema.anything = .ok a.value := by
  obtain ⟨_, _, h₁, -, rfl⟩ := Schema.Checked.apply_eq_ok h
  obtain ⟨_, _, h₂, -, rfl⟩ := Schema.Checked.apply_eq_ok h₁
  obtain ⟨_, _, h₃, -, rfl⟩ := Schema.Checked.apply_eq_ok h₂
  obtain ⟨_, _, h₄, -, rfl⟩ := Schema.Checked.apply_eq_ok h₃
  obtain ⟨_, _, h₅, hvalue, rfl⟩ := Schema.Checked.apply_eq_ok h₄
  obtain ⟨_, _, h₆, -, rfl⟩ := Schema.Checked.apply_eq_ok h₅
  obtain ⟨_, _, h₇, -, rfl⟩ := Schema.Checked.apply_eq_ok h₆
  obtain ⟨_, _, h₈, -, rfl⟩ := Schema.Checked.apply_eq_ok h₇
  obtain ⟨_, _, h₉, -, rfl⟩ := Schema.Checked.apply_eq_ok h₈
  obtain ⟨_, -, rfl⟩ := Schema.Checked.map_eq_ok h₉
  exact hvalue

/-- The value that a payload carries is a part of what is read from its text, if it is there. -/
theorem value_of_byForm {payload : String} {a : Action}
    (h : (Press.byForm payload).1 = .json a) : a.value = .null ∨
      ∃ fs, Json.read? payload = some (.dict fs) ∧ Table.value? fs "value" = some a.value := by
  unfold Press.byForm at h
  split at h
  · cases h
  split at h
  · rename_i fs hfs
    split at h
    · rename_i c hc
      have hfield := field_of_read hc
      rw [← Press.json.inj h]
      rw [Schema.fieldOr] at hfield
      split at hfield
      · rename_i v hv
        have hsame : v = c.value := Except.ok.inj hfield
        exact .inr ⟨fs, hfs, hsame ▸ hv⟩
      · exact .inl (Except.ok.inj hfield).symm
    · cases h
  · cases h

theorem readable_of_byForm {payload : String} {a : Action}
    (h : (Press.byForm payload).1 = .json a) : a.value.isReadable = true := by
  rcases value_of_byForm h with hnull | ⟨fs, hfs, hv⟩
  · rw [hnull]
    rfl
  · exact Value.isReadable_of_value? (Json.isReadable_of_read? hfs) hv

theorem byForm_of_press {k : Catalog} {payload : String} {a : Action} {ns : List Notice}
    (h : k.press payload = .ok (.json a, ns)) : (Press.byForm payload).1 = .json a := by
  rw [Catalog.press] at h
  split at h
  · cases h
  · cases h
  · exact congrArg Prod.fst (Except.ok.inj h)

/-- A payload picks, keeps or writes nothing, and calls no handler, that breaks what holds. -/
structure PressKeeps (b : Bot) (actor : Int) (I : Scene → Prop) (payload : String) : Prop where
  pick : ∀ {s c f st m} (value : String), I s → s.context? actor = some c →
    b.catalog.flow? c.currentFlow = some f → st ∈ f.steps → st.work = .menu m →
    Leads (· = s) (setAt actor m.saveTo (.text value)) (fun _ => I) I
  keyboard : Leads I (setAt actor (pressPath payload) (.text payload)) (fun _ => I) I
  given : ∀ {a path}, (Press.byForm payload).1 = .json a → writtenBy a = some path →
    isSystemPath path = false → Leads I (setAt actor path a.value) (fun _ => I) I
  action : ∀ {a path}, b.catalog.registered? payload = some (.action a) →
    Deed.ofAction a = .setVariable → a.target = some path →
    Leads I (setAt actor path a.value) (fun _ => I) I
  call : ∀ {a name}, b.catalog.registered? payload = some (.action a) →
    Deed.ofAction a = .callHandler → a.handler = some name →
    Leads I (b.handlers.invoke name actor (some (.text payload))) (fun _ => I) I

section Events
variable {b : Bot} {actor : Int} {I J R : Scene → Prop} {payload : String}

private theorem leads_sequel {q : Sequel} (hq : q.IsPlain) :
    Leads I (pure q : Turn Sequel) (fun q t => I t ∧ q.IsPlain) R :=
  Leads.pure fun _ hs => ⟨hs, hq⟩

private theorem leads_failing_plain (n : Notice) (r : Reason) :
    Leads I (Sequel.rest <$> fail n r) (fun q t => I t ∧ q.IsPlain) R :=
  Leads.map ((Leads.note n).bind fun _ => Leads.pure fun _ ht => ⟨ht, trivial⟩)

/-- A context is read, or none is found. -/
theorem leads_read {α : Type} {Q : α → Scene → Prop} {f : Option Context → Turn α}
    (hnone : Leads I (f none) Q R)
    (hsome : ∀ s c, I s → s.context? actor = some c → Leads (· = s) (f (some c)) Q R) :
    Leads I (Contexts.get actor >>= f) Q R := by
  refine Leads.at_each fun s hs => Contexts.leads_get_tried.bind fun o => Leads.given fun ho => ?_
  rcases ho with rfl | ⟨rfl, -⟩
  · cases hc : s.context? actor with
    | none => exact Leads.at_one hs hnone
    | some c => exact hsome s c hs hc
  · exact Leads.at_one hs hnone

namespace PressKeeps
variable (h : b.PressKeeps actor I payload)
include h

theorem leads_carryOutAlone {a : Action} (ha : b.catalog.registered? payload = some (.action a)) :
    Leads I (b.carryOutAlone actor a payload) (fun q t => I t ∧ ∀ p ∈ q, p.IsPlain) I := by
  have hsome {q : Sequel} (hq : q.IsPlain) :
      Leads I (pure (some q) : Turn (Option Sequel)) (fun q t => I t ∧ ∀ p ∈ q, p.IsPlain) I :=
    Leads.pure fun s hs => ⟨hs, fun p hp => Option.some.inj hp ▸ hq⟩
  have hfail {n : Notice} {r : Reason} :
      Leads I ((some ∘ Sequel.rest) <$> fail n r : Turn (Option Sequel))
        (fun q t => I t ∧ ∀ p ∈ q, p.IsPlain) I := by
    refine Leads.map ((Leads.quiet (quiet_fail n r)).post fun o s hs => ⟨hs, ?_⟩)
    intro p hp
    rw [← Option.some.inj hp]
    trivial
  have hfollow := hsome (Sequel.isPlain_follow a.nextFlow a.next)
  unfold Bot.carryOutAlone
  split
  · split
    · exact hsome trivial
    · exact hfail
  · split
    · exact hsome trivial
    · exact hfail
  · rename_i hdeed
    split
    · rename_i path hpath
      split
      · exact (h.action ha hdeed (filled?_eq_some hpath)).bind fun _ => hfollow
      · exact hfollow
    · exact hfollow
  · rename_i hdeed
    split
    · rename_i name hname
      exact (leads_attempt (h.call ha hdeed (filled?_eq_some hname))).bind fun _ => hfollow
    · exact (Leads.quiet (Quiet.note _)).bind fun _ => hfollow
  · exact (Leads.quiet (Quiet.note _)).bind fun _ => Leads.pure fun s hs =>
      ⟨hs, fun p hp => by cases hp⟩

/-- The path was looked at before anything is written. -/
theorem leads_carryOutGivenAlone {a : Action} (ha : (Press.byForm payload).1 = .json a) :
    Leads I (carryOutGivenAlone actor a) (fun q t => I t ∧ q.IsPlain) I := by
  have hfollow : Leads I (pure (Sequel.follow a.nextFlow a.next))
      (fun q t => I t ∧ q.IsPlain) I := leads_sequel (Sequel.isPlain_follow a.nextFlow a.next)
  unfold Bot.carryOutGivenAlone
  split
  · exact (Leads.note _).bind fun _ => leads_sequel trivial
  rename_i hany
  have hwrite {path : String} (hpath : writtenBy a = some path) :
      Leads I (setAt actor path a.value) (fun _ => I) I := by
    rw [writtenPath_of_writtenBy hpath] at hany
    exact h.given ha hpath (Bool.eq_false_iff.mpr hany)
  rw [writtenBy] at hwrite
  cases hdeed : Deed.ofAction a with
  | startFlow =>
    simp only
    split <;> exact leads_sequel trivial
  | goToStep =>
    simp only
    split <;> exact leads_sequel trivial
  | setVariable =>
    simp only [hdeed] at hwrite ⊢
    split
    · rename_i path hpath
      split
      · rename_i hvalue
        exact (hwrite (by rw [if_pos hvalue, hpath])).bind fun _ => hfollow
      · exact hfollow
    · exact hfollow
  | callHandler | unnamed =>
    simp only [hdeed] at hwrite ⊢
    split
    · rename_i path hpath
      exact (hwrite hpath).bind fun _ => hfollow
    · exact hfollow

theorem leads_pickAlone :
    Leads I (b.pickAlone actor payload) (fun q t => I t ∧ q.IsPlain) I := by
  refine leads_read (leads_failing_plain _ _) fun s c hs hc => ?_
  simp only
  split
  · exact Leads.at_one hs (leads_failing_plain _ _)
  split
  · exact Leads.at_one hs (leads_failing_plain _ _)
  · rename_i f hf
    split
    · exact Leads.at_one hs (leads_failing_plain _ _)
    · rename_i i m value hmatch
      obtain ⟨st, hst, hwork⟩ := matchMenu_mem hmatch
      refine (h.pick value hs hc hf hst hwork).bind fun _ => ?_
      split
      · exact leads_sequel trivial
      · exact leads_sequel (Sequel.isPlain_advance _)

theorem leads_pressKeyboardAlone :
    Leads I (b.pressKeyboardAlone actor payload) (fun q t => I t ∧ q.IsPlain) I := by
  refine leads_read (leads_sequel trivial) fun s c hs hc => ?_
  simp only
  split
  · exact Leads.at_one hs (leads_sequel trivial)
  split
  · exact Leads.at_one hs (leads_sequel trivial)
  · exact Leads.at_one hs (h.keyboard.bind fun _ => leads_sequel (Sequel.isPlain_proceed _))

theorem leads_pressByFormAlone {p : Press}
    (hp : ∀ a, p = .json a → (Press.byForm payload).1 = .json a) :
    Leads I (b.pressByFormAlone actor payload p) (fun q t => I t ∧ q.IsPlain) I := by
  cases p with
  | dynamic => exact h.leads_pickAlone
  | json a => exact h.leads_carryOutGivenAlone (hp a rfl)
  | keyboard | registered => exact h.leads_pressKeyboardAlone

theorem leads_pressAlone :
    Leads I (b.pressAlone actor payload) (fun q t => I t ∧ q.IsPlain) I := by
  refine (Leads.ofResult _ fun _ hs => hs).bind fun r => Leads.given fun hr => ?_
  refine (Leads.noted r).bind fun p => Leads.given fun hp => ?_
  have hpress : b.catalog.press payload = .ok (p, r.2) := by rw [hr, hp]
  split
  · rename_i a
    refine (h.leads_carryOutAlone (registered_of_press hpress)).bind fun o =>
      Leads.given fun ho => ?_
    split
    · exact leads_sequel (ho _ rfl)
    · refine (Leads.noted _).bind fun q => Leads.given fun hq => ?_
      exact h.leads_pressByFormAlone fun a ha => hq.symm.trans ha
  · refine h.leads_pressByFormAlone fun a ha => ?_
    subst ha
    exact byForm_of_press hpress

end PressKeeps

/-- The answer is kept where the question said, and after that the marker is emptied. -/
theorem leads_takeAnswerAlone {s : Scene} {c : Context} (hs : I s) (text : String)
    (hanswer : ∀ w, c.waitMarker.1 = some w →
      Leads (· = s) (setAt actor w.saveTo (.text text)) (fun _ => J) I)
    (hdisarm : Leads J (Contexts.setVariable actor WaitMarker.path .null) (fun _ => I) I) :
    Leads (· = s) (takeAnswerAlone actor c text) (fun q t => I t ∧ q.IsPlain) I := by
  refine (Leads.noted _).bind fun o => Leads.given fun hw => ?_
  split
  · exact Leads.at_one hs (leads_sequel trivial)
  · rename_i w
    have hkeep : Leads (· = s) (keepAnswerAlone actor w text) (fun q t => I t ∧ q.IsPlain) I :=
      (hanswer w hw.symm).bind fun _ => hdisarm.bind fun _ =>
        leads_sequel (Sequel.isPlain_proceed _)
    split
    · exact hkeep
    · refine (Leads.noted _).bind fun accepted => Leads.given fun _ => ?_
      split
      · exact hkeep
      · exact Leads.at_one hs ((Leads.quiet (Quiet.deliver _ _ _)).bind fun _ =>
          leads_sequel trivial)

theorem leads_inTopicFlowAlone {act : Context → Turn Sequel}
    (hact : ∀ s c, I s → s.context? actor = some c →
      Leads (· = s) (act c) (fun q t => I t ∧ q.IsPlain) I) :
    Leads I (inTopicFlowAlone actor act) (fun q t => I t ∧ q.IsPlain) I := by
  refine leads_read (leads_sequel trivial) fun s c hs hc => ?_
  simp only
  split
  · exact hact s c hs hc
  · exact Leads.at_one hs (leads_sequel trivial)

/-- What an event does alone that starts no flow in a topic and runs no step by hand. -/
theorem leads_eventAlone {e : Event} (he : e.IsPlain)
    (hanswer : ∀ s c text, I s → s.context? actor = some c →
      Leads (· = s) (takeAnswerAlone actor c text) (fun q t => I t ∧ q.IsPlain) I)
    (hpress : ∀ payload ∈ e.payload?, b.PressKeeps actor I payload) :
    Leads I (b.eventAlone actor e) (fun q t => I t ∧ q.IsPlain) I := by
  cases e with
  | startFlow | goToStep | completeFlow => exact leads_sequel trivial
  | startTopicFlow | executeStep => exact he.elim
  | message text =>
    exact leads_read (leads_sequel trivial) fun s c hs hc => hanswer s c text hs hc
  | topicMessage text => exact leads_inTopicFlowAlone fun s c hs hc => hanswer s c text hs hc
  | press payload => exact (hpress payload rfl).leads_pressAlone
  | topicPress payload =>
    exact leads_inTopicFlowAlone fun _ _ hs _ =>
      Leads.at_one hs (hpress payload rfl).leads_pressAlone

end Events

/-- What holds of scenes and is kept up by all that is done alone, when `W` tells what may be
written where. -/
structure Bears (b : Bot) (W : Path → Value → Prop) (I : Scene → Prop) : Prop where
  reliable : ∀ {s}, I s → s.Reliable
  write : ∀ {s t actor c p v}, I s → s.context? actor = some c → W p v →
    s.Rewritten t actor (c.written p v) → I t
  disarm : ∀ {s t actor c}, I s → s.context? actor = some c →
    s.Rewritten t actor (c.written WaitMarker.path .null) → I t
  relay : ∀ {s t actor c st on next}, b.catalog.HasStep st → st.work = .relaying on next → I s →
    s.context? actor = some c →
    s.Rewritten t actor (c.revised fun c => { c with forwarding := on }) → I t
  call : ∀ {s handler} (actor payload), b.Names handler → I s →
    I { s with calls := s.calls ++ [⟨handler, actor, payload⟩] }
  handler : ∀ {name h} (actor payload), Table.value? b.handlers name = some h →
    Turn.Leads I (h.run actor payload) (fun _ => I) I
  answer : ∀ {s actor c w} (text), I s → s.context? actor = some c → c.waitMarker.1 = some w →
    W (Path.ofString w.saveTo) (.text text)
  menu : ∀ {st m} (text), b.catalog.HasStep st → st.work = .menu m →
    W (Path.ofString m.saveTo) (.text text)
  action : ∀ {payload a path}, b.catalog.registered? payload = some (.action a) →
    a.target = some path → W (Path.ofString path) a.value
  other : ∀ {p v}, ¬ p.IsSystem → v.isReadable = true → W p v

namespace Bears
variable {b : Bot} {W : Path → Value → Prop} {I P R : Scene → Prop} {actor : Int}
variable (hI : b.Bears W I)
include hI

theorem leads_get {α : Type} {Q : α → Scene → Prop} {f : Option Context → Turn α}
    (hf : ∀ s, I s → Leads (· = s) (f (s.context? actor)) Q R) :
    Leads I (Contexts.get actor >>= f) Q R := by
  refine Leads.at_each fun s hs => (Contexts.leads_get (hI.reliable hs)).bind fun o => ?_
  refine Leads.given fun ho => ?_
  subst ho
  exact hf s hs

/-- For someone unknown nothing is written. -/
theorem leads_setVariable {p : Path} {v : Value} (hP : ∀ s, P s → I s)
    (hw : ∀ s t c, P s → s.context? actor = some c → s.Rewritten t actor (c.written p v) → I t) :
    Leads P (Contexts.setVariable actor p v) (fun _ => I) R := by
  refine Leads.at_each fun s hs => ?_
  have hreliable := hI.reliable (hP s hs)
  cases hc : s.context? actor with
  | some c =>
    exact (Contexts.leads_setVariable hreliable hc p v).post fun _ t ht => hw s t c hs hc ht
  | none =>
    exact (Contexts.leads_setVariable_unknown hreliable hc p v).post fun _ t ht => ht ▸ hP s hs

theorem leads_write {p : Path} {v : Value} (hv : W p v) :
    Leads I (Contexts.setVariable actor p v) (fun _ => I) R :=
  hI.leads_setVariable (fun _ hs => hs) fun _ _ _ hs hc ht => hI.write hs hc hv ht

theorem leads_setForwarding {st : Step} {on : Bool} {next : Option Target}
    (hst : b.catalog.HasStep st) (hwork : st.work = .relaying on next) :
    Leads I (Contexts.setForwarding actor on) (fun _ => I) R := by
  refine Leads.at_each fun s hs => ?_
  cases hc : s.context? actor with
  | some c =>
    exact (Contexts.leads_revise (hI.reliable hs) hc _ rfl rfl).post fun _ t ht =>
      hI.relay hst hwork hs hc ht
  | none =>
    exact (Contexts.leads_revise_unknown (hI.reliable hs) hc _).post fun _ t ht => ht ▸ hs

theorem leads_invoke {handler : String} (hn : b.Names handler) (payload : Option Value) :
    Leads I (b.handlers.invoke handler actor payload) (fun _ => I) I :=
  Bot.leads_invoke payload (fun _ taken hs => hI.call actor taken hn hs)
    fun _ taken hh => hI.handler actor taken hh

/-- What a step does alone. Only a question writes what depends on where the actor is. -/
theorem leads_workAlone {st : Step} (hst : b.catalog.HasStep st) (hP : ∀ s, P s → I s)
    (harm : ∀ q s t c, st.work = .question q → P s → s.context? actor = some c →
      s.Rewritten t actor (c.written WaitMarker.path (markerOf st.id q).stored) → I t)
    (c : Context) :
    Leads P (b.workAlone actor c st) (fun q t => I t ∧ q.IsOrdinary) I := by
  refine (Bot.leads_workAlone hP (fun q hq => ?_) (fun _ _ hwork => ?_) (fun _ hname => ?_) c).post
    fun _ _ ht => ⟨ht.1, ht.2.isOrdinary⟩
  · exact hI.leads_setVariable hP fun s t c hs hc ht => harm q s t c hq hs hc ht
  · exact hI.leads_setForwarding hst hwork
  · exact hI.leads_invoke (names_of_handler? hst hname) none

/-- What payloads pick, keep, write and call. -/
theorem pressKeeps (payload : String) : b.PressKeeps actor I payload where
  pick value hs _ hf hst hwork :=
    Leads.at_one hs (hI.leads_write (hI.menu value ⟨_, _, hf, hst⟩ hwork))
  keyboard := hI.leads_write (hI.other (not_isSystem (isSystemPath_pressPath payload)) rfl)
  given ha _ hpath := hI.leads_write (hI.other (not_isSystem hpath) (readable_of_byForm ha))
  action ha _ hpath := hI.leads_write (hI.action ha hpath)
  call ha _ hname := hI.leads_invoke (.action ha hname) _

/-- The answer is kept where the question said. -/
theorem leads_takeAnswerAlone {s : Scene} {c : Context} (hs : I s)
    (hc : s.context? actor = some c) (text : String) :
    Leads (· = s) (takeAnswerAlone actor c text) (fun q t => I t ∧ q.IsPlain) I := by
  have hdisarm : Leads I (Contexts.setVariable actor WaitMarker.path .null) (fun _ => I) I :=
    hI.leads_setVariable (fun _ hs => hs) fun _ _ _ hs hc ht => hI.disarm hs hc ht
  exact Bot.leads_takeAnswerAlone hs text
    (fun w hw => Leads.at_one hs (hI.leads_write (hI.answer text hs hc hw))) hdisarm

/-- What an ordinary event does alone, up to an ordinary sequel. -/
theorem leads_eventAlone {e : Event} (he : e.IsOrdinary) :
    Leads I (b.eventAlone actor e) (fun q t => I t ∧ q.IsOrdinary) I := by
  have hplain (hplain : e.IsPlain) :
      Leads I (b.eventAlone actor e) (fun q t => I t ∧ q.IsOrdinary) I :=
    (Bot.leads_eventAlone hplain (fun s c text hs hc => hI.leads_takeAnswerAlone hs hc text)
      fun payload _ => hI.pressKeeps payload).post fun _ _ ht => ⟨ht.1, ht.2.isOrdinary⟩
  cases e with
  | startTopicFlow topic flow target chat => exact Leads.pure fun _ hs => ⟨hs, he⟩
  | executeStep => exact he.elim
  | _ => exact hplain trivial

end Bears

end Bot

end Dialogue
