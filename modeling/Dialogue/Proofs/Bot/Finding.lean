import Dialogue.Proofs.Bot.Choices
import Dialogue.Proofs.Bot.Hosting
import Dialogue.Proofs.Bot.Runs

/-! What the check of references promises of events: as long as people start flows that are
registered, write, and press the buttons of choices, nothing is looked for in vain. -/
namespace Dialogue

/-- No flow and no step was looked for in vain by the time that a sequel has led on, and a step that
was come to is one of the flow that the actor is in then. -/
def Bot.Comes (k : Catalog) (actor : Int) : Outcome ⊕ Bot.Arrival → Scene → Prop
  | .inl o, s => o.Found ∧ ∃ f, Bot.Lodges k actor f s
  | .inr a, s => ∃ name f, k.flow? name = some f ∧ a.step ∈ f.steps ∧ Bot.Lodges k actor f s

/-- The actor is still in the flow, and there is what a sequel leads to. -/
def Bot.Continues (k : Catalog) (actor : Int) (f : Flow) (q : Bot.Sequel) (s : Scene) : Prop :=
  Bot.Lodges k actor f s ∧ q.LeadsOn k f

/-- What people do who start flows that are registered, write, and press the buttons of choices in
the flow that they are in. -/
inductive Catalog.Expects (k : Catalog) (s : Scene) (actor : Int) : Event → Prop
  | startFlow {name : String} {f : Flow} (hf : k.flow? name = some f) :
    k.Expects s actor (.startFlow name)
  | message (text : String) : k.Expects s actor (.message text)
  | completeFlow : k.Expects s actor .completeFlow
  | press {c : Context} {f : Flow} {st : Step} {choice : Step.Choice} {key : Button}
    (hc : s.context? actor = some c) (hidle : c.isIdle = false)
    (hf : k.flow? c.currentFlow = some f) (hst : st ∈ f.steps) (hwork : st.work = .choice choice)
    (hkey : key ∈ (Keyboard.ofChoice st.id choice).1.flatten)
    (hfree : k.registered? key.payload = none) : k.Expects s actor (.press key.payload)

namespace Bot
open Turn

section
variable {b : Bot} {actor : Int} {f : Flow} {s : Scene} {c : Context} {R : Scene → Prop}

private theorem leads_failing_comes (hs : Lodges b.catalog actor f s) {r : Reason}
    (hr : (Outcome.failed r).Found) (n : Notice) :
    Leads (· = s) (Sum.inl <$> fail n r) (Comes b.catalog actor) R :=
  Leads.map ((Leads.note n).bind fun _ => Leads.pure fun _ ht => ⟨hr, f, ht ▸ hs⟩)

private theorem leads_entered_comes (hs : Lodges b.catalog actor f s)
    (hc : s.context? actor = some c) {name : String} (hf : b.catalog.flow? name = some f)
    {i : Nat} {st : Step} (hst : f.steps[i]? = some st) :
    Leads (· = s)
      (Contexts.recordStep actor f.name i >>= fun _ =>
        (pure (.inr ⟨some (f.name, i), st⟩) : Turn (Outcome ⊕ Arrival)))
      (Comes b.catalog actor) R :=
  (Contexts.leads_recordStep hs.reliable hc f.name i).bind fun _ => Leads.pure fun _ ht =>
    ⟨name, f, hf, List.mem_of_getElem? hst,
      hs.rewritten ((hs.own c hc).visit (Store.context?_clear hc) _ _ _) ht⟩

private theorem leads_reachFirst_comes (hs : Lodges b.catalog actor f s)
    (hc : s.context? actor = some c) {name : String} (hf : b.catalog.flow? name = some f) :
    Leads (· = s) (reachFirst actor f) (Comes b.catalog actor) R := by
  unfold reachFirst
  split
  · exact (Leads.note _).bind fun _ => Leads.pure fun _ ht =>
      ⟨(by decide : (Outcome.ignored .emptyFlow).Found), f, ht ▸ hs⟩
  · rename_i st rest hsteps
    have hst : f.steps[0]? = some st := by rw [hsteps]; rfl
    exact leads_entered_comes hs hc hf hst

/-- Where a sequel leads on, nothing is looked for in vain. -/
theorem leads_reach_comes {q : Sequel} (hq : q.LeadsOn b.catalog f) :
    Leads (Lodges b.catalog actor f) (b.reach actor q) (Comes b.catalog actor) R := by
  cases q with
  | rest o => exact Leads.pure fun s hs => ⟨hq, f, hs⟩
  | startInTopic => exact hq.elim
  | run => exact hq.elim
  | start name =>
    obtain ⟨g, hg⟩ := hq
    rw [reach]
    simp only [hg]
    refine leads_get_lodges fun s hs => ?_
    split
    · exact leads_failing_comes hs (by decide) _
    · rename_i c hc
      have hbegan := Catalog.Hosts.began (Store.context?_clear hc) hg
      refine (Contexts.leads_revise hs.reliable hc (·.began name) rfl rfl).bind fun _ =>
        (leads_clearMarker hs.reliable c _).bind fun _ => Leads.at_each fun u hu => ?_
      exact leads_reachFirst_comes (hs.rewritten hbegan hu) hu.context? hg
  | goTo place =>
    obtain ⟨i, st, hi, hst⟩ := hq
    rw [reach]
    refine leads_get_lodges fun s hs => ?_
    split
    · exact leads_failing_comes hs (by decide) _
    · rename_i c hc
      split
      · exact leads_failing_comes hs (by decide) _
      · rename_i hidle
        have hf : b.catalog.flow? c.currentFlow = some f := (hs.own c hc).seats.resolve_left
          fun hnone => hidle (String.isEmpty_iff.mpr hnone)
        simp only [hf, hi, Option.bind_some, hst, Option.map_some]
        exact leads_entered_comes hs hc hf hst
  | complete =>
    rw [reach]
    refine Leads.map (leads_get_lodges fun s hs => ?_)
    split
    · exact Leads.pure fun _ ht =>
        ⟨(by decide : (Outcome.ignored .noContext).Found), f, ht ▸ hs⟩
    · rename_i c hc
      have hended : b.catalog.Hosts f _ := .ended (Store.context?_clear hc)
      split
      · exact Leads.pure fun _ ht =>
          ⟨(by decide : (Outcome.ignored .noActiveFlow).Found), f, ht ▸ hs⟩
      · exact (Contexts.leads_revise hs.reliable hc (·.ended) rfl rfl).bind fun _ =>
          (leads_clearMarker hs.reliable c _).bind fun _ => Leads.pure fun _ ht =>
            ⟨Outcome.found_completed _, f, hs.rewritten hended ht⟩

end

section
variable {b : Bot} {actor : Int} {f : Flow} {s : Scene} {c : Context} {R : Scene → Prop}
variable (hchecked : b.catalog.Checked (some b.handlers.names))

section Events
include hchecked

/-- After a question that was asked it goes on in the flow that the question belongs to. -/
theorem leads_takeAnswerAlone_leadsOn (hs : Lodges b.catalog actor f s)
    (hc : s.context? actor = some c) (text : String) :
    Leads (· = s) (takeAnswerAlone actor c text)
      (Continues b.catalog actor f) (Lodges b.catalog actor f) := by
  refine (Leads.noted _).bind fun o => Leads.given fun hw => ?_
  split
  · exact Leads.pure fun _ ht => ⟨ht ▸ hs, (by decide : (Outcome.ignored .notWaiting).Found)⟩
  rename_i w
  have hkeep : Leads (· = s) (keepAnswerAlone actor w text)
      (Continues b.catalog actor f) (Lodges b.catalog actor f) := by
    -- The marker may be old, but it is that of a question of the flow the actor is still in.
    obtain ⟨name, st, q, hf, hst, hq, rfl⟩ := (hs.own c hc).waitMarker hw.symm
    have hrefs : st.references = Reference.steps [q.next] := by rw [Step.references, hq]
    have hnext := hchecked.exists_next hf hst fun _ hr => hrefs ▸ hr
    exact (Contexts.leads_setVariable hs.reliable hc _ _).bind fun _ =>
      (leads_since hs.reliable fun t ht hd => Contexts.leads_setVariable ht hd _ _).bind fun _ =>
        Leads.pure fun t ht => ⟨hs.rewritten (.of_answered (hs.own c hc).seats _ _) ht,
          leadsOn_proceed hnext⟩
  split
  · exact hkeep
  · refine (Leads.noted _).bind fun accepted => Leads.given fun _ => ?_
    split
    · exact hkeep
    · exact Leads.at_one hs ((Leads.quiet (Quiet.deliver _ _ _)).bind fun _ =>
        Leads.pure fun _ ht => ⟨ht, (by decide : (Outcome.ignored .validationFailed).Found)⟩)

/-- A press under a keyboard goes on from the message that the keyboard stands under. -/
theorem leads_pressKeyboardAlone_leadsOn (payload : String) :
    Leads (Lodges b.catalog actor f) (b.pressKeyboardAlone actor payload)
      (Continues b.catalog actor f) (Lodges b.catalog actor f) := by
  refine leads_get_lodges fun s hs => ?_
  split
  · exact Leads.pure fun _ ht => ⟨ht ▸ hs, (by decide : (Outcome.ignored .noActiveFlow).Found)⟩
  rename_i c hc
  split
  · exact Leads.pure fun _ ht => ⟨ht ▸ hs, (by decide : (Outcome.ignored .noActiveFlow).Found)⟩
  rename_i hidle
  split
  · exact Leads.pure fun _ ht => ⟨ht ▸ hs, (by decide : (Outcome.ignored .noKeyboardStep).Found)⟩
  rename_i m hm
  have hf : b.catalog.flow? c.currentFlow = some f := (hs.own c hc).seats.resolve_left
    fun hnone => hidle (String.isEmpty_iff.mpr hnone)
  have hpath := not_isSystem (isSystemPath_pressPath payload)
  obtain ⟨st, hst, hwork⟩ : ∃ st ∈ f.steps, st.work = .message m := by
    rw [keyboardStep?, hf, Option.bind_some] at hm
    split at hm
    · rename_i id m' hstep
      split at hm
      · exact ⟨_, Flow.mem_of_stepAt? hstep, congrArg Step.Work.message (Option.some.inj hm)⟩
      · cases hm
    · cases hm
  have hrefs : st.references = Reference.steps [m.next] ++ Reference.keyboards m.keyboard := by
    rw [Step.references, hwork]
  have hnext := hchecked.exists_next hf hst (hrefs ▸ List.subset_append_left _ _)
  exact Leads.at_one hs ((leads_write_lodges hpath _).bind fun _ => Leads.pure fun _ ht =>
    ⟨ht, leadsOn_proceed hnext⟩)

/-- The press of a button of a choice follows the transition of the button, in the flow of the
choice. -/
theorem leads_carryOutGivenAlone_leadsOn {name : String} {st : Step} {choice : Step.Choice}
    {button : ChoiceButton} (hf : b.catalog.flow? name = some f) (hst : st ∈ f.steps)
    (hwork : st.work = .choice choice) (hbutton : button ∈ choice.buttons) (v : Value) :
    Leads (Lodges b.catalog actor f)
      (carryOutGivenAlone actor (({ button with value := v } : ChoiceButton).action st.id))
      (Continues b.catalog actor f) (Lodges b.catalog actor f) := by
  have hrefs : Reference.steps [button.next] ++ Reference.flows [button.nextFlow] ⊆
      st.references := by
    rw [Step.references, hwork]
    exact fun r hr => List.mem_flatMap.mpr ⟨button, hbutton, hr⟩
  have hfollow : (Sequel.follow button.nextFlow button.next).LeadsOn b.catalog f := by
    refine leadsOn_follow (hchecked.exists_next hf hst fun _ hr =>
      hrefs (List.mem_append_left _ hr)) fun flow hflow => ?_
    exact hchecked.exists_flow hf hst (hrefs (List.mem_append_right _
      (Reference.mem_flows List.mem_cons_self hflow)))
  unfold carryOutGivenAlone
  split
  · exact (Leads.note _).bind fun _ => Leads.pure fun _ ht =>
      ⟨ht, (by decide : (Outcome.ignored .variableNotWritable).Found)⟩
  rename_i hany
  have hdeed : Deed.ofAction (({ button with value := v } : ChoiceButton).action st.id) =
      .unnamed := rfl
  rw [hdeed]
  simp only
  split
  · rename_i path hpath
    have hsafe : isSystemPath path = false := by
      rw [writtenPath, if_neg (by rw [hdeed]; decide), hpath] at hany
      exact Bool.eq_false_iff.mpr hany
    exact (leads_write_lodges (not_isSystem hsafe) _).bind fun _ => Leads.pure fun _ ht =>
      ⟨ht, hfollow⟩
  · exact Leads.pure fun _ ht => ⟨ht, hfollow⟩

/-- The press of a button of a choice goes on in the flow of the choice. -/
theorem leads_pressAlone_leadsOn {name : String} {st : Step} {choice : Step.Choice} {key : Button}
    (hf : b.catalog.flow? name = some f) (hst : st ∈ f.steps) (hwork : st.work = .choice choice)
    (hkey : key ∈ (Keyboard.ofChoice st.id choice).1.flatten)
    (hfree : b.catalog.registered? key.payload = none) :
    Leads (Lodges b.catalog actor f) (b.pressAlone actor key.payload)
      (Continues b.catalog actor f) (Lodges b.catalog actor f) := by
  obtain ⟨button, hbutton, rfl⟩ : ∃ button ∈ choice.buttons,
      Button.mk button.text (Keyboard.choicePayload st.id button) = key := by
    simpa [Keyboard.ofChoice] using hkey
  have hpress : b.catalog.press (Keyboard.choicePayload st.id button) =
      .ok (Press.byForm (Keyboard.choicePayload st.id button)) := by
    rw [Catalog.press, hfree]
  unfold pressAlone
  simp only [hpress, Keyboard.byForm_choicePayload, ofResult, pure_bind]
  refine (Leads.noted _).bind fun p => Leads.given fun hp => ?_
  by_cases hread : (Value.dict (Keyboard.transition st.id button)).isReadable = true
  · rw [if_pos hread] at hp
    subst hp
    exact leads_carryOutGivenAlone_leadsOn hchecked hf hst hwork hbutton _
  · rw [if_neg hread] at hp
    subst hp
    exact leads_pressKeyboardAlone_leadsOn hchecked _

/-- What is expected of an actor goes on in the flow that the actor is in. -/
theorem leads_eventAlone_leadsOn {e : Event} (hs : Lodges b.catalog actor f s)
    (he : b.catalog.Expects s actor e) :
    Leads (· = s) (b.eventAlone actor e)
      (Continues b.catalog actor f) (Lodges b.catalog actor f) := by
  cases he with
  | startFlow hg => exact Leads.pure fun _ ht => ⟨ht ▸ hs, _, hg⟩
  | completeFlow => exact Leads.pure fun _ ht => ⟨ht ▸ hs, trivial⟩
  | message text =>
    refine Leads.at_one hs (leads_get_lodges fun t ht => ?_)
    split
    · exact Leads.pure fun _ hu => ⟨hu ▸ ht, (by decide : (Outcome.ignored .noContext).Found)⟩
    · exact leads_takeAnswerAlone_leadsOn hchecked ht ‹_› text
  | @press c g st choice key hc hidle hg hst hwork hkey hfree =>
    have hf : b.catalog.flow? c.currentFlow = some f := (hs.own c hc).seats.resolve_left
      fun hnone => Bool.eq_false_iff.mp hidle (String.isEmpty_iff.mpr hnone)
    obtain rfl : f = g := Option.some.inj (hf.symm.trans hg)
    exact Leads.at_one hs (leads_pressAlone_leadsOn hchecked hf hst hwork hkey hfree)

end Events

variable (hnamed : b.Named)
  (hdiscreet : ∀ name h, Table.value? b.handlers name = some h → h.Discreet)
  (hnoted : ∀ name h, Table.value? b.handlers name = some h → h.Edits Context.Noted)
include hchecked hnamed hdiscreet hnoted

/-- However many steps are run, each leads on. -/
theorem leads_execute_found (left : Nat) {name : String} {st : Step}
    (hf : b.catalog.flow? name = some f) (hst : st ∈ f.steps) :
    Leads (Lodges b.catalog actor f) (b.execute actor left st)
      (fun o t => o.Found ∧ ∃ g, Lodges b.catalog actor g t)
      (fun t => ∃ g, Lodges b.catalog actor g t) := by
  -- A step can lead into another flow, so the flow is not the same all the way.
  induction left generalizing name f st with
  | zero =>
    exact (Leads.note _).bind fun _ => Leads.pure fun _ ht =>
      ⟨(by decide : (Outcome.failed .chainLimit).Found), f, ht⟩
  | succ left ih =>
    rw [execute_succ]
    have hreports : Reports Notice.Finds (b.stepAlone actor st) (Sequel.LeadsOn b.catalog f)
        fun _ => True := reports_stepAlone hchecked hnamed hdiscreet hf hst
    have hstep := hreports.and_leads (leads_stepAlone_lodges hnoted hf hst)
    refine (hstep.mono (fun _ _ h => ⟨h.1.1, h.2⟩) fun _ h => ⟨f, h⟩).bind fun q =>
      Leads.given fun hq => (leads_reach_comes hq).bind fun r => ?_
    cases r with
    | inl o => exact Leads.pure fun _ h => h
    | inr a =>
      refine Leads.at_each fun t ht => ?_
      obtain ⟨name, g, hg, hmem, ht⟩ := ht
      exact Leads.at_one ht (ih hg hmem)

/-- Nothing is looked for in vain in what comes of what is expected. -/
theorem leads_handle_found {e : Event} (hs : Lodges b.catalog actor f s)
    (he : b.catalog.Expects s actor e) :
    Leads (· = s) (b.handle actor e) (fun o t => o.Found ∧ ∃ g, Lodges b.catalog actor g t) R := by
  have hreact : Leads (· = s) (b.react actor e)
      (fun o t => o.Found ∧ ∃ g, Lodges b.catalog actor g t)
      (fun t => ∃ g, Lodges b.catalog actor g t) := by
    rw [react_eq]
    refine ((leads_eventAlone_leadsOn hchecked hs he).mono (fun _ _ h => h)
      fun _ h => ⟨f, h⟩).bind fun q => Leads.given fun hq => (leads_reach_comes hq).bind fun r => ?_
    cases r with
    | inl o => exact Leads.pure fun _ h => h
    | inr a =>
      refine Leads.at_each fun t ht => ?_
      obtain ⟨name, g, hg, hmem, ht⟩ := ht
      exact Leads.at_one ht (leads_execute_found hchecked hnamed hdiscreet hnoted _ hg hmem)
  exact hreact.rescue fun _ => (Leads.note _).bind fun _ => Leads.pure fun _ h =>
    ⟨Outcome.found_fault _, h⟩

end

end Bot

end Dialogue
