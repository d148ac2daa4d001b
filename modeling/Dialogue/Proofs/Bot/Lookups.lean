import Dialogue.Proofs.Bot.Alone
import Dialogue.Proofs.Bot.Laps
import Dialogue.Proofs.Catalog.References
import Dialogue.Proofs.Handler.Discretion

/-! What is looked up by name while an event is handled. When the references of the catalog have
been checked, no handler and no keyboard is ever missed, and what the work of a step leads to is there in
the flow of the step. -/
namespace Dialogue

/-- Neither a flow nor a step was looked for in vain. -/
def Outcome.Found (o : Outcome) : Prop :=
  o.reason.text ≠ Reason.flowNotFound.text ∧ o.reason.text ≠ Reason.stepNotFound.text

instance (o : Outcome) : Decidable o.Found := inferInstanceAs (Decidable (_ ∧ _))

theorem Outcome.found_completed (flow : String) : (completed flow).Found :=
  (by decide : Outcome.ok.Found)

theorem Outcome.found_fault (f : Fault) : (failed (.fault f)).Found :=
  ⟨f.summary_ne (by decide) (by decide), f.summary_ne (by decide) (by decide)⟩

theorem Keyboard.finds_ofChoice (id : Option String) (c : Step.Choice) :
    ∀ n ∈ (ofChoice id c).2, n.Finds := by
  intro n hn
  obtain ⟨_, -, rfl⟩ := List.mem_map.mp hn
  decide

theorem Keyboard.finds_ofMenu (lead : String) (m : Menu) : ∀ n ∈ (ofMenu lead m).2, n.Finds := by
  have hpayload (v : Value) : ∀ n ∈ (menuPayload lead v).2, n.Finds := by
    rw [menuPayload]
    split
    · intro n hn
      rw [List.mem_singleton.mp hn]
      exact ⟨nofun, nofun⟩
    · exact Notice.finds_nil
  intro n hn
  obtain ⟨e, he, hn⟩ := List.mem_flatMap.mp hn
  obtain ⟨item, -, rfl⟩ := List.mem_map.mp he
  exact hpayload item.2 n hn

theorem Condition.finds_decided (scope : Scope) (s : String) :
    ∀ n ∈ (decided scope s).2, n.Finds := by
  rw [decided]
  split
  · exact Notice.finds_nil
  · decide

theorem Validation.finds_accepts (v : Validation) (s : String) :
    ∀ n ∈ (v.accepts s).2, n.Finds := by
  rw [accepts]
  split
  · decide
  split
  · decide
  split
  · exact Notice.finds_nil
  · decide

theorem Press.finds_byForm (payload : String) : ∀ n ∈ (byForm payload).2, n.Finds := by
  rw [byForm]
  split
  · decide
  split
  · split
    · exact Notice.finds_nil
    · decide
  · decide

theorem Catalog.finds_press {k : Catalog} {payload : String} {r : Press × List Notice}
    (h : k.press payload = .ok r) : ∀ n ∈ r.2, n.Finds := by
  rw [press] at h
  split at h
  · rw [← Except.ok.inj h]
    exact Notice.finds_nil
  · cases h
  · rw [← Except.ok.inj h]
    exact Press.finds_byForm payload

/-- The handler that a step calls is among the references of the step. -/
theorem Step.handlers_subset {s : Step} {name : String} (h : s.handler? = some name) :
    Reference.handlers (some name) ⊆ s.references := by
  rw [Step.handler?] at h
  rw [Step.references]
  split at h <;> rename_i hwork
  · rw [hwork, ← Option.some.inj h]
    exact List.subset_append_right _ _
  · rw [hwork, ← Option.some.inj h]
    exact List.subset_append_right _ _
  · rw [hwork, ← Option.some.inj h]
    exact List.subset_append_right _ _
  · cases h

namespace Bot
open Turn

/-- Of steps that call a handler or start a flow, none leaves the name empty. -/
structure Named (b : Bot) : Prop where
  handler : ∀ s name, b.catalog.HasStep s → s.handler? = some name → name ≠ ""
  flow : ∀ s name, b.catalog.HasStep s → s.work = .flow name → name ≠ ""

/-- What a sequel leads to is there, in a flow and in the catalog. -/
def Sequel.LeadsOn (k : Catalog) (f : Flow) : Sequel → Prop
  | .rest o => o.Found
  | .start name => ∃ g, k.flow? name = some g
  | .goTo place => ∃ i s, place f = some i ∧ f.steps[i]? = some s
  | .complete => True
  | .startInTopic .. | .run _ => False

section
variable {k : Catalog} {f : Flow} {t : Option Target}

private theorem of_given {t : Option Target} {u : Target} (h : given? t = some u) : t = some u := by
  unfold given? at h
  split at h
  · cases h
  · exact h

variable (ht : ∀ u, t = some u → ∃ i s, f.resolve u = some i ∧ f.steps[i]? = some s)
include ht

theorem leadsOn_proceed : (Sequel.proceed t).LeadsOn k f := by
  cases t with
  | none => exact (by decide : Outcome.ok.Found)
  | some u => exact ht u rfl

theorem leadsOn_advance : (Sequel.advance t).LeadsOn k f := by
  rw [Sequel.advance]
  split
  · exact ht _ (of_given ‹_›)
  · trivial

theorem leadsOn_follow {flow : Option String}
    (hflow : ∀ name, filled? flow = some name → ∃ g, k.flow? name = some g) :
    (Sequel.follow flow t).LeadsOn k f := by
  rw [Sequel.follow]
  split
  · exact hflow _ ‹_›
  · exact ht _ (of_given ‹_›)
  · exact (by decide : Outcome.ok.Found)

end

/-- A step that is come to is one of the catalog. -/
def Arrives (k : Catalog) : Outcome ⊕ Arrival → Prop
  | .inl _ => True
  | .inr a => k.HasStep a.step

section
variable {b : Bot} {name : String} {f : Flow} {st : Step} {actor : Int} {E : Fault → Prop}
variable (hchecked : b.catalog.Checked (some b.handlers.names)) (hnamed : b.Named)
  (hdiscreet : ∀ name h, Table.value? b.handlers name = some h → h.Discreet)

private theorem filled_of_ne {name : String} (h : name ≠ "") : filled? (some name) = some name := by
  rw [filled?]
  split
  · exact absurd (String.isEmpty_iff.mp ‹_›) h
  · rfl

include hdiscreet

/-- A handler that is there is called, and does not complain. -/
theorem reports_invoke {handler : String} (h : handler ∈ b.handlers.names)
    (payload : Option Value) :
    Reports Notice.Finds (b.handlers.invoke handler actor payload) (fun _ => True)
      (· ≠ .handlerUnknown) := by
  have hhas : Table.has b.handlers handler = true := (Table.mem_keys_iff _ _).mp h
  obtain ⟨hd, hhd⟩ := Option.isSome_iff_exists.mp hhas
  rw [Handlers.invoke, hhd]
  have hsupply : Reports Notice.Finds (ofResult (hd.intake.supply payload)) (fun _ => True)
      (· ≠ .handlerUnknown) :=
    (Reports.ofResult _).mono (fun _ _ => trivial) fun _ => hd.intake.supply_ne_unknown
  refine hsupply.bind fun taken _ => Reports.bind (Reports.modify ?_) fun _ _ =>
    hdiscreet _ _ hhd actor taken
  exact fun _ => .of_eq rfl rfl

/-- Whatever comes of the call of a handler that is there, the handler is not missed. -/
theorem reports_attempt {handler : String} (h : handler ∈ b.handlers.names)
    (payload : Option Value) :
    Reports Notice.Finds (b.handlers.attempt handler actor payload) (fun _ => True) E := by
  refine ((reports_invoke hdiscreet h payload).bind fun _ _ => Reports.pure trivial).rescue
    (fun _ _ _ _ => trivial) fun e he => ?_
  split
  · exact absurd rfl he
  · exact Reports.note (by decide)

omit hdiscreet in
private theorem reports_keyboardOf {key : Option String}
    (h : ∀ k, filled? key = some k → ∃ rows, b.catalog.keyboard? k = some rows) :
    Reports Notice.Finds (b.keyboardOf key) (fun _ => True) E := by
  rw [keyboardOf]
  split
  · exact Reports.pure trivial
  · rename_i k hk
    obtain ⟨rows, hrows⟩ := h k hk
    rw [hrows]
    exact Reports.pure trivial

private theorem reports_reportAlone (dest : Destination) {r : Step.Report}
    (h : r.handler ∈ b.handlers.names)
    (hkey : ∀ k, filled? r.keyboard = some k → ∃ rows, b.catalog.keyboard? k = some rows) :
    Reports Notice.Finds (b.reportAlone actor dest r) (fun _ => True) E := by
  have hempty {E' : Fault → Prop} :
      Reports Notice.Finds (note .dynamicTextEmpty) (fun _ => True) E' := Reports.note (by decide)
  refine Reports.rescue_any ((reports_invoke hdiscreet h none).bind fun reply _ => ?_)
    fun _ => Reports.note (by decide)
  split
  · split
    · exact hempty
    · exact (reports_keyboardOf hkey).bind fun _ _ => Reports.deliver_plain _ _ _
  · exact hempty

private theorem reports_sendMenu (dest : Destination) (id : Option String) {m : Step.Menu}
    (h : m.handler ∈ b.handlers.names) :
    Reports Notice.Finds (b.sendMenu actor dest id m) (fun _ => True) E := by
  refine Reports.rescue_any ((reports_invoke hdiscreet h none).bind fun reply _ => ?_) fun _ =>
    (Reports.note (by decide)).bind fun _ _ => Reports.pure trivial
  split
  · refine (Reports.noted (Keyboard.finds_ofMenu _ _)).bind fun _ _ => ?_
    exact (Reports.deliver_plain _ _ _).bind fun _ _ => Reports.pure trivial
  · exact (Reports.note (by decide)).bind fun _ _ => Reports.pure trivial

section Steps
variable (hf : b.catalog.flow? name = some f) (hst : st ∈ f.steps)
include hchecked hnamed hf hst

omit hdiscreet in
private theorem mem_names_of_calls {handler : String} (h : st.handler? = some handler) :
    handler ∈ b.handlers.names := by
  have hne : handler ≠ "" := hnamed.handler st handler ⟨name, f, hf, hst⟩ h
  exact hchecked.mem_names hf hst
    (Step.handlers_subset h (Reference.mem_handlers (filled_of_ne hne)))

/-- Whatever a step does alone, what it looks for is there, and so is what it leads to. -/
theorem reports_workAlone (c : Context) :
    Reports Notice.Finds (b.workAlone actor c st) (Sequel.LeadsOn b.catalog f) fun _ => True := by
  have hcalls {handler : String} (h : st.handler? = some handler) : handler ∈ b.handlers.names :=
    mem_names_of_calls hchecked hnamed hf hst h
  have hok : Outcome.ok.Found := by decide
  have hfailed : (Outcome.failed .unsupportedStep).Found := by decide
  -- What each kind of step can look for is among its references, and those were checked.
  unfold workAlone
  split <;> rename_i hwork
  · rename_i m
    have hrefs : st.references = Reference.steps [m.next] ++ Reference.keyboards m.keyboard := by
      rw [Step.references, hwork]
    refine (reports_keyboardOf fun key hkey => ?_).bind fun keyboard _ =>
      (Reports.deliver _ _ _).bind fun _ _ => Reports.pure ?_
    · exact hchecked.exists_keyboard hf hst
        (hrefs ▸ List.mem_append_right _ (Reference.mem_keyboards hkey))
    · split
      · exact leadsOn_advance (hchecked.exists_next hf hst (hrefs ▸ List.subset_append_left _ _))
      · exact hok
  · rename_i q
    exact Reports.map ((Contexts.reports_setVariable _ _ _).bind fun _ _ =>
      (Reports.deliver _ _ _).bind fun _ _ => Reports.pure hok)
  · refine Reports.map ((Reports.noted (Keyboard.finds_ofChoice _ _)).bind fun _ _ => ?_)
    exact (Reports.deliver _ _ _).bind fun _ _ => Reports.pure hok
  · rename_i k
    have hrefs : st.references = Reference.steps [k.ifTrue, k.ifFalse] ++
        Reference.flows [k.flowIfTrue, k.flowIfFalse] := by
      rw [Step.references, hwork]
    refine (Reports.noted (Condition.finds_decided _ _)).bind fun yes _ => ?_
    split
    · rename_i flow hflow
      refine Reports.pure (hchecked.exists_flow hf hst (hrefs ▸ List.mem_append_right _
        (Reference.mem_flows ?_ hflow)))
      split <;> simp
    split
    · rename_i t ht
      refine Reports.pure (hchecked.exists_step hf hst (hrefs ▸ List.mem_append_left _
        (Reference.mem_steps ?_)))
      rw [← ht]
      split <;> simp
    · exact (Reports.note (by decide)).bind fun _ _ => Reports.pure hok
  · rename_i handler next
    have hrefs : st.references = Reference.steps [next] ++ Reference.handlers (some handler) := by
      rw [Step.references, hwork]
    have hname : handler ∈ b.handlers.names := hcalls (by rw [Step.handler?, hwork])
    have hnext := hchecked.exists_next hf hst (hrefs ▸ List.subset_append_left _ _)
    exact (reports_attempt hdiscreet hname none).bind fun _ _ =>
      Reports.pure (leadsOn_proceed hnext)
  · rename_i flow
    have hrefs : st.references = Reference.flows [some flow] := by rw [Step.references, hwork]
    exact Reports.pure (hchecked.exists_flow hf hst (hrefs ▸ Reference.mem_flows
      List.mem_cons_self (filled_of_ne (hnamed.flow st flow ⟨name, f, hf, hst⟩ hwork))))
  · rename_i milliseconds next
    have hrefs : st.references = Reference.steps [next] := by rw [Step.references, hwork]
    have hnext := hchecked.exists_next hf hst fun _ hr => hrefs ▸ hr
    exact (Reports.pause _).bind fun _ _ => Reports.pure (leadsOn_proceed hnext)
  · rename_i on next
    have hrefs : st.references = Reference.steps [next] := by rw [Step.references, hwork]
    have hnext := hchecked.exists_next hf hst fun _ hr => hrefs ▸ hr
    exact (Contexts.reports_revise _ _).bind fun _ _ => Reports.pure (leadsOn_proceed hnext)
  · rename_i r
    have hrefs : st.references = Reference.steps [r.next] ++ Reference.keyboards r.keyboard ++
        Reference.handlers (some r.handler) := by
      rw [Step.references, hwork]
    have hname : r.handler ∈ b.handlers.names := hcalls (by rw [Step.handler?, hwork])
    have hhas : Table.has b.handlers r.handler = true := (Table.mem_keys_iff _ _).mp hname
    rw [if_pos hhas]
    refine (reports_reportAlone hdiscreet _ hname fun key hkey => ?_).bind fun _ _ =>
      Reports.pure (leadsOn_advance (hchecked.exists_next hf hst ?_))
    · exact hchecked.exists_keyboard hf hst (hrefs ▸ List.mem_append_left _
        (List.mem_append_right _ (Reference.mem_keyboards hkey)))
    · rw [hrefs, List.append_assoc]
      exact List.subset_append_left _ _
  · rename_i m
    have hname : m.handler ∈ b.handlers.names := hcalls (by rw [Step.handler?, hwork])
    have hhas : Table.has b.handlers m.handler = true := (Table.mem_keys_iff _ _).mp hname
    rw [if_pos hhas]
    refine (reports_sendMenu hdiscreet _ _ hname).bind fun sent _ => ?_
    split
    · exact Reports.pure hok
    · exact Reports.pure trivial
  · exact Reports.map ((Reports.note (by decide)).bind fun _ _ => Reports.pure hfailed)

theorem reports_stepAlone :
    Reports Notice.Finds (b.stepAlone actor st) (Sequel.LeadsOn b.catalog f) fun _ => True := by
  refine (Contexts.reports_get actor).bind fun o _ => ?_
  split
  · exact Reports.pure (by decide : (Outcome.failed .noContext).Found)
  · exact reports_workAlone hchecked hnamed hdiscreet hf hst _

end Steps

omit hdiscreet in
private theorem reports_reachFirst {f : Flow} (hf : b.catalog.flow? name = some f) :
    Reports Notice.Finds (reachFirst actor f) (Arrives b.catalog) fun _ => True := by
  unfold reachFirst
  split
  · exact (Reports.note (by decide)).bind fun _ _ => Reports.pure trivial
  · rename_i s rest hsteps
    have hs : b.catalog.HasStep s := ⟨name, f, hf, hsteps ▸ List.mem_cons_self⟩
    exact (Contexts.reports_recordStep _ _ _).bind fun _ _ => Reports.pure hs

omit hdiscreet in
private theorem reports_beginInTopic (name : String) (topic chat target : Value) :
    Reports Notice.Finds (beginInTopic actor name topic chat target) (fun _ => True) E := by
  refine (Contexts.reports_amend fun c r hr => ?_).bind fun _ _ => Reports.pure trivial
  obtain ⟨_, _, h₁, -, rfl⟩ := Schema.Checked.apply_eq_ok hr
  obtain ⟨_, _, h₂, -, rfl⟩ := Schema.Checked.apply_eq_ok h₁
  obtain ⟨_, -, rfl⟩ := Schema.Checked.map_eq_ok h₂
  exact Context.finds_repair _

omit hdiscreet in
/-- Where a sequel leads nothing is looked for but flows and steps, and every step that is come to
is one of the catalog. -/
theorem reports_reach {q : Sequel} (hq : ∀ s, q ≠ .run s) :
    Reports Notice.Finds (b.reach actor q) (Arrives b.catalog) fun _ => True := by
  have hfail {n : Notice} {r : Reason} (hn : n.Finds) : Reports Notice.Finds
      (Sum.inl <$> fail n r : Turn (Outcome ⊕ Arrival)) (Arrives b.catalog) fun _ => True :=
    Reports.map ((Reports.note hn).bind fun _ _ => Reports.pure trivial)
  have hclear (c : Context) : Reports Notice.Finds (clearMarker actor c) (fun _ => True)
      fun _ => True := by
    rw [clearMarker]
    split
    · exact Reports.pure trivial
    · exact Contexts.reports_setVariable _ _ _
  have henter (c : Context) {name : String} {f : Flow} (hf : b.catalog.flow? name = some f) :
      Reports Notice.Finds (clearMarker actor c >>= fun _ => reachFirst actor f)
        (Arrives b.catalog) fun _ => True :=
    (hclear c).bind fun _ _ => reports_reachFirst hf
  cases q with
  | rest o => exact Reports.pure trivial
  | run s => exact absurd rfl (hq s)
  | start name =>
    rw [reach]
    split
    · exact hfail (by decide)
    · rename_i f hf
      refine (Contexts.reports_get actor).bind fun o _ => ?_
      split
      · exact hfail (by decide)
      · exact (Contexts.reports_revise _ _).bind fun _ _ => henter _ hf
  | startInTopic topic name target chat =>
    rw [reach]
    split
    · exact hfail (by decide)
    · rename_i f hf
      refine (Contexts.reports_get actor).bind fun o _ => ?_
      split
      · exact hfail (by decide)
      · simp only
        split
        · exact hfail (by decide)
        · refine (reports_beginInTopic _ _ _ _).bind fun _ _ => ?_
          split
          · exact (Contexts.reports_setVariable _ _ _).bind fun _ _ => henter _ hf
          · exact henter _ hf
  | goTo place =>
    rw [reach]
    refine (Contexts.reports_get actor).bind fun o _ => ?_
    split
    · exact hfail (by decide)
    split
    · exact hfail (by decide)
    split
    · exact hfail (by decide)
    · rename_i f hf
      split
      · exact hfail (by decide)
      · rename_i i s hplace
        obtain ⟨j, -, hj⟩ := Option.bind_eq_some_iff.mp hplace
        obtain ⟨v, hv, he⟩ := Option.map_eq_some_iff.mp hj
        have hs : b.catalog.HasStep s :=
          ⟨_, f, hf, (Prod.mk.inj he).2 ▸ List.mem_of_getElem? hv⟩
        exact (Contexts.reports_recordStep _ _ _).bind fun _ _ => Reports.pure hs
  | complete =>
    refine Reports.map ((Contexts.reports_get actor).bind fun o _ => ?_)
    split
    · exact Reports.pure trivial
    split
    · exact Reports.pure trivial
    · exact (Contexts.reports_revise _ _).bind fun _ _ => (hclear _).bind fun _ _ =>
        Reports.pure trivial

include hchecked hnamed

theorem reports_execute (left : Nat) (hst : b.catalog.HasStep st) :
    Reports Notice.Finds (b.execute actor left st) (fun _ => True) fun _ => True := by
  induction left generalizing st with
  | zero => exact (Reports.note (by decide)).bind fun _ _ => Reports.pure trivial
  | succ left ih =>
    obtain ⟨name, f, hf, hmem⟩ := hst
    rw [execute_succ]
    refine (reports_stepAlone hchecked hnamed hdiscreet hf hmem).bind fun q hq => ?_
    have hrun (s : Step) : q ≠ .run s := by
      rintro rfl
      exact hq
    refine (reports_reach hrun).bind fun r hr => ?_
    cases r with
    | inl o => exact Reports.pure trivial
    | inr a => exact ih hr

omit hchecked hnamed hdiscreet in
private theorem ne_run_of_isPlain {q : Sequel} (h : q.IsPlain) (s : Step) : q ≠ .run s := by
  rintro rfl
  exact h

omit hchecked hnamed hdiscreet in
private theorem reports_setAt {path : String} {v : Value} {q : Sequel} (hq : q.IsPlain) :
    Reports Notice.Finds (setAt actor path v >>= fun _ => pure q) Sequel.IsPlain fun _ => True :=
  (Contexts.reports_setVariable _ _ _).bind fun _ _ => Reports.pure hq

omit hchecked hnamed hdiscreet in
private theorem reports_failing {n : Notice} {r : Reason} (hn : n.Finds) :
    Reports Notice.Finds (Sequel.rest <$> fail n r) Sequel.IsPlain fun _ => True :=
  Reports.map ((Reports.note hn).bind fun _ _ => Reports.pure trivial)

omit hchecked hnamed hdiscreet in
private theorem reports_takeAnswerAlone (c : Context) (text : String) :
    Reports Notice.Finds (takeAnswerAlone actor c text) Sequel.IsPlain fun _ => True := by
  have hkeep (w : WaitMarker) :
      Reports Notice.Finds (keepAnswerAlone actor w text) Sequel.IsPlain fun _ => True :=
    (Contexts.reports_setVariable _ _ _).bind fun _ _ =>
      (Contexts.reports_setVariable _ _ _).bind fun _ _ =>
        Reports.pure (Sequel.isPlain_proceed _)
  refine (Reports.noted (Context.finds_waitMarker c)).bind fun o _ => ?_
  split
  · exact Reports.pure trivial
  split
  · exact hkeep _
  · refine (Reports.noted (Validation.finds_accepts _ _)).bind fun accepted _ => ?_
    split
    · exact hkeep _
    · exact (Reports.deliver _ _ _).bind fun _ _ => Reports.pure trivial

omit hnamed in
/-- A registered action calls no handler that is missed. -/
private theorem reports_carryOutAlone {a : Action} {payload : String}
    (ha : b.catalog.registered? payload = some (.action a)) :
    Reports Notice.Finds (b.carryOutAlone actor a payload) (fun o => ∀ q, o = some q → q.IsPlain)
      fun _ => True := by
  have hsome {q : Sequel} (hq : q.IsPlain) : ∀ p, some q = some p → p.IsPlain :=
    fun p hp => Option.some.inj hp ▸ hq
  have hincomplete : Reports Notice.Finds
      ((some ∘ Sequel.rest) <$> fail .actionIncomplete .actionIncomplete)
      (fun o => ∀ q, o = some q → q.IsPlain) fun _ => True :=
    Reports.map ((Reports.note (by decide)).bind fun _ _ => Reports.pure (hsome trivial))
  have hfollow := hsome (Sequel.isPlain_follow a.nextFlow a.next)
  unfold carryOutAlone
  split
  · split
    · exact Reports.pure (hsome trivial)
    · exact hincomplete
  · split
    · exact Reports.pure (hsome trivial)
    · exact hincomplete
  · split
    · split
      · exact (Contexts.reports_setVariable _ _ _).bind fun _ _ => Reports.pure hfollow
      · exact Reports.pure hfollow
    · exact Reports.pure hfollow
  · split
    · rename_i handler hhandler
      exact (reports_attempt hdiscreet (hchecked.mem_names_of_action ha hhandler) _).bind
        fun _ _ => Reports.pure hfollow
    · exact (Reports.note (by decide)).bind fun _ _ => Reports.pure hfollow
  · exact (Reports.note (by decide)).bind fun _ _ => Reports.pure fun _ hq => by cases hq

omit hchecked hnamed hdiscreet in
private theorem reports_carryOutGivenAlone (a : Action) :
    Reports Notice.Finds (carryOutGivenAlone actor a) Sequel.IsPlain fun _ => True := by
  have hfollow := Sequel.isPlain_follow a.nextFlow a.next
  unfold carryOutGivenAlone
  split
  · exact (Reports.note (by decide)).bind fun _ _ => Reports.pure trivial
  split
  · split
    · split
      · exact reports_setAt hfollow
      · exact Reports.pure hfollow
    · exact Reports.pure hfollow
  · split <;> exact Reports.pure trivial
  · split <;> exact Reports.pure trivial
  all_goals
    split
    · exact reports_setAt hfollow
    · exact Reports.pure hfollow

omit hchecked hnamed hdiscreet in
private theorem reports_pressByFormAlone (payload : String) (p : Press) :
    Reports Notice.Finds (b.pressByFormAlone actor payload p) Sequel.IsPlain fun _ => True := by
  have hkeyboard :
      Reports Notice.Finds (b.pressKeyboardAlone actor payload) Sequel.IsPlain fun _ => True := by
    refine (Contexts.reports_get actor).bind fun o _ => ?_
    split
    · exact Reports.pure trivial
    split
    · exact Reports.pure trivial
    split
    · exact Reports.pure trivial
    · exact reports_setAt (Sequel.isPlain_proceed _)
  cases p with
  | dynamic =>
    refine (Contexts.reports_get actor).bind fun o _ => ?_
    split
    · exact reports_failing (by decide)
    split
    · exact reports_failing (by decide)
    split
    · exact reports_failing (by decide)
    split
    · exact reports_failing (by decide)
    · refine (Contexts.reports_setVariable _ _ _).bind fun _ _ => ?_
      split
      · exact Reports.pure trivial
      · exact Reports.pure (Sequel.isPlain_advance _)
  | json a => exact reports_carryOutGivenAlone a
  | keyboard | registered => exact hkeyboard

omit hnamed in
private theorem reports_pressAlone (payload : String) :
    Reports Notice.Finds (b.pressAlone actor payload) Sequel.IsPlain fun _ => True := by
  refine ((Reports.ofResult _).mono (fun _ h => h) fun _ _ => trivial).bind fun r hr => ?_
  refine (Reports.noted (Catalog.finds_press hr)).bind fun p hp => ?_
  split
  · rename_i a
    have ha : b.catalog.press payload = .ok (.registered a, r.2) := by rw [hr, hp]
    refine (reports_carryOutAlone hchecked hdiscreet (registered_of_press ha)).bind fun o ho => ?_
    split
    · exact Reports.pure (ho _ rfl)
    · exact (Reports.noted (Press.finds_byForm payload)).bind fun _ _ =>
        reports_pressByFormAlone payload _
  · exact reports_pressByFormAlone payload _

/-- Whatever the event, and whatever fails: no handler and no keyboard is missed, unless a step is
run by hand. -/
theorem reports_handle {e : Event} (he : ∀ s, e ≠ .executeStep s) :
    Reports Notice.Finds (b.handle actor e) (fun _ => True) E := by
  have hinTopic {act : Context → Turn Sequel}
      (h : ∀ c, Reports Notice.Finds (act c) Sequel.IsPlain fun _ => True) :
      Reports Notice.Finds (inTopicFlowAlone actor act) Sequel.IsPlain fun _ => True := by
    refine (Contexts.reports_get actor).bind fun o _ => ?_
    split
    · exact Reports.pure trivial
    split
    · exact h _
    · exact Reports.pure trivial
  have halone : Reports Notice.Finds (b.eventAlone actor e) (fun q => ∀ s, q ≠ .run s)
      fun _ => True := by
    cases e with
    | startTopicFlow | startFlow | goToStep | completeFlow =>
      exact Reports.pure fun _ hq => by cases hq
    | executeStep s => exact absurd rfl (he s)
    | message text =>
      refine (Contexts.reports_get actor).bind fun o _ => ?_
      split
      · exact Reports.pure fun _ hq => by cases hq
      · exact (reports_takeAnswerAlone _ text).post fun _ => ne_run_of_isPlain
    | topicMessage text =>
      exact (hinTopic fun c => reports_takeAnswerAlone c text).post fun _ => ne_run_of_isPlain
    | press payload =>
      exact (reports_pressAlone hchecked hdiscreet payload).post fun _ => ne_run_of_isPlain
    | topicPress payload =>
      exact (hinTopic fun _ => reports_pressAlone hchecked hdiscreet payload).post
        fun _ => ne_run_of_isPlain
  have hreact : Reports Notice.Finds (b.react actor e) (fun _ => True) fun _ => True := by
    rw [react_eq]
    refine halone.bind fun q hq => (reports_reach hq).bind fun r hr => ?_
    cases r with
    | inl o => exact Reports.pure trivial
    | inr a => exact reports_execute hchecked hnamed hdiscreet _ hr
  exact hreact.rescue_any fun f => (Reports.note (by decide)).bind fun _ _ => Reports.pure trivial

end

end Bot

end Dialogue
