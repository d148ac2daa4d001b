import Dialogue.Proofs.Bot.Finding
import Dialogue.Proofs.Contexts.Writing

/-! Runs of a bot whose references were checked. As long as its people do what is expected of them,
no flow, step, handler or keyboard is ever looked for in vain. What the check does not look at can
still be missed: empty names, the steps that registered actions go to, and what handlers complain of
themselves. -/
namespace Dialogue.Bot
open Turn

/-- Worlds that a run of expected events can lead to. The time and the failures of the channel are
new with every event; the store never fails. -/
inductive ReachesExpectedly (b : Bot) (w₀ : World) : World → Prop
  | start : b.ReachesExpectedly w₀ w₀
  | event {w : World} (h : b.ReachesExpectedly w₀ w) (actor : Int) (e : Event) (now : String)
    (outages : Outages) (hstore : ∀ t n, outages.store t n = none)
    (he : b.catalog.Expects ({ w with now, outages } : World).scene actor e) :
    b.ReachesExpectedly w₀ (b.after actor e now outages w)

section
variable {b : Bot} {w₀ w : World}
variable (hchecked : b.catalog.Checked (some b.handlers.names)) (hnamed : b.Named)
  (hdiscreet : ∀ name h, Table.value? b.handlers name = some h → h.Discreet)
  (hnoted : ∀ name h, Table.value? b.handlers name = some h → h.Edits Context.Noted)
include hchecked hnamed hdiscreet hnoted

/-- Everyone stays in registered flows, and is asked the questions of those. -/
theorem ReachesExpectedly.hosts (hblank : w₀.Blank) (h : b.ReachesExpectedly w₀ w) :
    ∀ now actor c, w.store.context? now actor = some c → ∃ f, b.catalog.Hosts f c := by
  induction h with
  | start =>
    intro now actor c hc
    obtain ⟨human, rfl⟩ := Store.context?_blank hblank hc
    exact ⟨{ name := "" }, .fresh ..⟩
  | @event w h actor e now outages hstore he ih =>
    -- What holds of the store at any time holds of it at the time of the event.
    obtain ⟨f, hf⟩ := exists_lodges (s := ({ w with now, outages } : World).scene) hstore ih actor
    have hhandle : Leads _ (b.handle actor e) _ fun _ => False :=
      leads_handle_found hchecked hnamed hdiscreet hnoted hf he
    have hdone := hhandle { w with now, outages } rfl
    rw [after]
    split at hdone <;> rename_i hon
    · rw [hon]
      obtain ⟨-, g, hg⟩ := hdone
      exact hg.each
    · exact hdone.elim

end

/-- When the references were checked without a complaint, nothing is looked for in vain in any run
of expected events, unless a name was left empty or a handler complains itself. -/
theorem found_of_checkReferences {b : Bot} {w₀ w : World}
    (hreferences : b.catalog.checkReferences (some b.handlers.names) = .ok [])
    (hnamed : b.Named)
    (hdiscreet : ∀ name h, Table.value? b.handlers name = some h → h.Discreet)
    (hnoted : ∀ name h, Table.value? b.handlers name = some h → h.Edits Context.Noted)
    (hblank : w₀.Blank) (h : b.ReachesExpectedly w₀ w) {actor : Int} {e : Event} {now : String}
    {outages : Outages} (hstore : ∀ t n, outages.store t n = none)
    (hchannel : ∀ t n, outages.channel t n ≠ some .handlerUnknown)
    (he : b.catalog.Expects ({ w with now, outages } : World).scene actor e) :
    ∃ o v ns, on (b.handle actor e) { w with now, outages } = (.ok o, v) ∧ o.Found ∧
      v.notices = w.notices ++ ns ∧ ∀ n ∈ ns, n.Finds := by
  have hchecked := Catalog.checked_of_checkReferences hreferences
  have hhosts := h.hosts hchecked hnamed hdiscreet hnoted hblank
  obtain ⟨f, hf⟩ := exists_lodges (s := ({ w with now, outages } : World).scene) hstore hhosts actor
  have hhandle : Leads _ (b.handle actor e) _ fun _ => False :=
    leads_handle_found hchecked hnamed hdiscreet hnoted hf he
  have hplain : outages.Plain :=
    ⟨fun t n => by rw [hstore]; exact (Option.some_ne_none _).symm, hchannel⟩
  have hmanual : ∀ s, e ≠ .executeStep s := by
    rintro s rfl
    cases he
  have hdone := hhandle { w with now, outages } rfl
  have hreports : Reports Notice.Finds (b.handle actor e) (fun _ => True) fun _ => True :=
    reports_handle hchecked hnamed hdiscreet hmanual
  obtain ⟨ns, hns, hfinds⟩ := ((hreports { w with now, outages }).2 hplain).1.notices
  rcases hon : on (b.handle actor e) { w with now, outages } with ⟨f | o, v⟩
  · rw [hon] at hdone
    exact hdone.elim
  · rw [hon] at hdone hns
    exact ⟨o, v, ns, rfl, hdone.1, hns, hfinds⟩

section
variable {b : Bot} {actor : Int} {s : Scene} {c : Context} {name : String} {f : Flow} {st : Step}

/-- A flow that has a step begins, and what comes of the event is what comes of the step. -/
theorem on_react_startFlow (b : Bot) (actor : Int) (w : World) (hs : w.scene.Reliable)
    (hc : w.scene.context? actor = some c) (hf : b.catalog.flow? name = some f)
    (hst : f.steps[0]? = some st) :
    ∃ u, w.scene.Rewritten u.scene actor
        (((c.revised (·.began name)).disarmed c.rawMarker).visit f.name (0 : Nat) w.now).kept ∧
      on (b.react actor (.startFlow name)) w = on (b.runner actor st) u := by
  have hreach : Leads _ (b.reach actor (.start name)) _ fun _ => False :=
    leads_reach_start hs hc hf hst
  have hdone := hreach w rfl
  rcases hon : on (b.reach actor (.start name)) w with ⟨e | r, u⟩
  · rw [hon] at hdone
    exact hdone.elim
  · rw [hon] at hdone
    obtain ⟨rfl, hu⟩ := hdone
    refine ⟨u, hu, ?_⟩
    rw [react_eq, eventAlone, pure_bind, pursue, on_bind, hon]
    rfl

/-- The offer of a choice leaves everyone where they are. -/
theorem leads_runner_choice (b : Bot) (actor : Int) (s : Scene) (id : Option String)
    (choice : Step.Choice) :
    Leads (· = s) (b.runner actor ⟨id, .choice choice⟩) (fun _ t => t = s) (· = s) := by
  rw [runner]
  cases b.chainLimit.toNat with
  | zero => exact Leads.quiet (quiet_fail _ _)
  | succ left =>
    have hstep : Leads (· = s) (b.stepAlone actor ⟨id, .choice choice⟩)
        (fun q t => t = s ∧ ∃ o, q = .rest o) (· = s) := by
      refine (Leads.quiet (Contexts.quiet_get actor)).bind fun o => ?_
      split
      · exact Leads.pure fun _ ht => ⟨ht, _, rfl⟩
      · exact Leads.map ((Leads.quiet (quiet_offer _ _ _)).post fun o _ ht => ⟨ht, o, rfl⟩)
    rw [execute_succ]
    refine hstep.bind fun q => Leads.given fun hq => ?_
    obtain ⟨o, rfl⟩ := hq
    exact Leads.pure fun _ ht => ht

/-- After a flow has begun with a choice, the actor is in that flow. -/
theorem exists_context_of_startFlow {w : World} {now : String} {outages : Outages}
    (hstore : ∀ t n, outages.store t n = none) (hc : w.store.context? now actor = some c)
    (hid : c.hasReadableId = true) (htidy : c.Tidy) (hf : b.catalog.flow? name = some f)
    {id : Option String} {choice : Step.Choice} (hst : f.steps[0]? = some ⟨id, .choice choice⟩) :
    ∃ d, (∀ now', (b.after actor (.startFlow name) now outages w).store.context? now' actor =
      some d) ∧ d.currentFlow = name := by
  obtain ⟨u, hu, hon⟩ := on_react_startFlow b actor { w with now, outages } hstore hc hf hst
  have hbegins : Begins name c _ := .ownChat
  have hreadable := hbegins.hasReadableId.trans hid
  have hlegible : (Context.visit _ f.name (0 : Nat) now).isLegible = true :=
    Context.visit_legible hbegins.tidy.legible f.name Decimal.isReadable_zero now
  have hstays : (b.after actor (.startFlow name) now outages w).store = u.store := by
    have hrun := leads_runner_choice b actor u.scene id choice u rfl
    rw [after, handle, on_rescue, hon]
    rcases hdone : on (b.runner actor ⟨id, .choice choice⟩) u with ⟨e | o, v⟩
    · rw [hdone] at hrun
      exact congrArg Scene.store hrun
    · rw [hdone] at hrun
      exact congrArg Scene.store hrun
  refine ⟨_, fun now' => by rw [hstays]; exact hu.own now', ?_⟩
  exact (Context.currentFlow_kept (c := Context.visit _ f.name (0 : Nat) now) hreadable
    hlegible).trans (hbegins.currentFlow hid htidy)

end

/-- A button that goes on to the offer. -/
def largeButton : ChoiceButton where
  text := "Large"
  value := .text "l"
  next := some (.label "offer")

def orderSize : Step.Choice := { buttons := [largeButton] }

def order : Flow where
  name := "order"
  steps := [
    ⟨some "size", .choice orderSize⟩,
    ⟨some "offer", .call "show_offer_summary" (some (.label "thanks"))⟩,
    ⟨some "thanks", .message { text := "Thank you!", keyboard := some "again" }⟩]

/-- A bot with nothing that its check complains of. -/
def taker : Bot where
  catalog := {
    flows := [("order", order)]
    keyboards := [("again", [[⟨"Again", "again"⟩]])]
    frozen := true }
  handlers := Handler.standard

theorem taker_named : taker.Named := by
  have hsteps {s : Step} (hs : taker.catalog.HasStep s) : s ∈ order.steps := by
    obtain ⟨name, f, hf, hs⟩ := hs
    rwa [(Table.eq_of_value?_singleton hf).2] at hs
  refine ⟨fun s name hs hname => ?_, fun s name hs hname => ?_⟩
  all_goals
    have hmem := hsteps hs
    simp only [order, List.mem_cons, List.not_mem_nil, or_false] at hmem
    rcases hmem with rfl | rfl | rfl
  · cases hname
  · rw [← Option.some.inj hname]
    decide
  · cases hname
  all_goals cases hname

/-- The flow was started, and its first step has sent a button. -/
def ordering : World := taker.after 1 (.startFlow "order") "" {} .reception

theorem found_of_checkReferences_large : ∃ key,
    (Keyboard.ofChoice (some "size") orderSize).1 = [[key]] ∧
      taker.catalog.checkReferences (some taker.handlers.names) = .ok [] ∧
      taker.ReachesExpectedly .reception ordering ∧
      ∃ o v ns, on (taker.handle 1 (.press key.payload))
          { ordering with now := "", outages := {} } = (.ok o, v) ∧ o.Found ∧
        v.notices = ordering.notices ++ ns ∧ ∀ n ∈ ns, n.Finds := by
  have hstarted : taker.ReachesExpectedly .reception ordering :=
    .event .start 1 (.startFlow "order") "" {} (fun _ _ => rfl) (.startFlow (f := order) rfl)
  obtain ⟨d, hd, hflow⟩ :
      ∃ d, (∀ now, ordering.store.context? now 1 = some d) ∧ d.currentFlow = "order" :=
    exists_context_of_startFlow (c := .fresh 1 1) (f := order) (fun _ _ => rfl) rfl
      (by decide) (Context.fresh_tidy 1 1) rfl rfl
  have hf : taker.catalog.flow? d.currentFlow = some order := by
    rw [hflow]
    rfl
  have hcheck : taker.catalog.checkReferences (some taker.handlers.names) = .ok [] := rfl
  have hscene (w : World) : ({ w with now := "", outages := {} } : World).scene.context? 1 =
      w.store.context? "" 1 := rfl
  have hread := (hscene ordering).trans (hd "")
  have hexpects : taker.catalog.Expects ({ ordering with now := "", outages := {} } : World).scene 1
      (.press (Button.mk "Large" (Keyboard.choicePayload (some "size") largeButton)).payload) :=
    .press hread (by rw [Context.isIdle, hflow]; decide) hf
      (List.mem_cons_self (l := order.steps.tail)) rfl (List.mem_singleton_self _) rfl
  refine ⟨_, rfl, hcheck, hstarted, ?_⟩
  exact found_of_checkReferences hcheck taker_named (fun _ _ => Handler.standard_discreet)
    (fun _ _ => Handler.standard_edits) World.reception_blank hstarted (fun _ _ => rfl)
    (fun _ _ => (Option.some_ne_none _).symm) hexpects

/-- A step that starts a flow without a name. -/
def leaper : Bot where
  catalog := { flows := [("order", { name := "order", steps := [⟨none, .flow ""⟩] })] }

/-- The payload of the button is also registered, for an action that leads nowhere. -/
def misleader : Bot where
  catalog := {
    taker.catalog with
    actions := [(Keyboard.choicePayload (some "size") largeButton, .action {
      action := some "go_to_step", next := some (.label "payment") })] }
  handlers := Handler.standard

/-- A handler that says itself that it is missing. -/
def denier : Bot where
  catalog := { flows := [("order", { name := "order", steps := [⟨none, .call "deny" none⟩] })] }
  handlers := [("deny", { intake := .nothing, run := fun _ _ => throw .handlerUnknown })]

private theorem on_runner {b : Bot} {actor : Int} {c : Context} {u : World} {left : Nat}
    (hs : u.scene.Reliable) (hc : u.scene.context? actor = some c)
    (hlimit : b.chainLimit.toNat = left + 1) (st : Step) :
    ∃ v, on (b.runner actor st) u =
      on (b.workAlone actor c st >>= b.pursue (b.execute actor left) actor) v := by
  obtain ⟨v, hget, -⟩ := Contexts.exists_get hs actor
  have hc : u.store.context? u.now actor = some c := hc
  refine ⟨v, ?_⟩
  rw [runner, hlimit, execute_succ, stepAlone, bind_assoc, on_bind, hget, hc]

/-- What comes of a flow that begins in the reception comes of the work of its first step. -/
private theorem on_handle_reception (b : Bot) (name : String) (left : Nat) {f : Flow} {st : Step}
    (hf : b.catalog.flow? name = some f) (hst : f.steps[0]? = some st)
    (hlimit : b.chainLimit.toNat = left + 1) : ∃ c v, on (b.handle 1 (.startFlow name)) .reception =
      on (rescue (b.workAlone 1 c st >>= b.pursue (b.execute 1 left) 1) fun f => do
        note .entryPointFailed
        return .failed (.fault f)) v := by
  have hs : World.reception.scene.Reliable := fun _ _ => rfl
  obtain ⟨u, hu, hon⟩ := on_react_startFlow b 1 .reception (c := .fresh 1 1) hs rfl hf hst
  obtain ⟨c, hc⟩ : ∃ c, u.scene.context? 1 = some c := ⟨_, hu.context?⟩
  obtain ⟨v, hrun⟩ := on_runner (b := b) (hu.reliable hs) hc hlimit st
  refine ⟨c, v, ?_⟩
  rw [handle, on_rescue, hon, hrun, on_rescue]

/-- What a registered action goes to is looked for in the flow that the actor is in. -/
private theorem leads_react_misled {s : Scene} {c : Context} (hs : s.Reliable)
    (hc : s.context? 1 = some c) (hflow : c.currentFlow = "order") :
    Leads (· = s)
      (misleader.react 1 (.press (Keyboard.choicePayload (some "size") largeButton)))
      (fun o _ => o = .failed .stepNotFound) fun _ => False := by
  have hpress : misleader.catalog.press (Keyboard.choicePayload (some "size") largeButton) =
      .ok (.registered { action := some "go_to_step", next := some (.label "payment") }, []) := by
    rw [Catalog.press, Catalog.registered?]
    simp only [misleader, Table.value?_cons, if_true]
  have hidle : c.isIdle = false := by
    rw [Context.isIdle, hflow]
    decide
  have hf : misleader.catalog.flow? c.currentFlow = some order := by
    rw [hflow]
    rfl
  have hnone : order.resolve (.label "payment") = none := by decide
  rw [react_eq]
  refine Leads.bind (Q := fun q t => t = s ∧ q = .toTarget (.label "payment")) ?_ fun q =>
    Leads.given fun hq => ?_
  · rw [eventAlone, pressAlone, hpress]
    simp only [ofResult, pure_bind]
    refine (Leads.noted _).bind fun p => Leads.given fun hp => ?_
    subst hp
    exact Leads.pure fun _ ht => ⟨ht, rfl⟩
  · subst hq
    rw [Sequel.toTarget, pursue_goTo, goTo]
    refine (Contexts.leads_get hs).bind fun o => Leads.given fun ho => ?_
    rw [ho, hc]
    simp only [hidle, Bool.false_eq_true, if_false, hf, hnone, Option.bind_none]
    exact (Leads.note _).bind fun _ => Leads.pure fun _ _ => rfl

private theorem misled_of_press {w : World} {c : Context} (hc : w.store.context? "" 1 = some c)
    (hflow : c.currentFlow = "order") :
    ∃ v, on (misleader.handle 1 (.press (Keyboard.choicePayload (some "size") largeButton)))
      { w with now := "", outages := {} } = (.ok (.failed .stepNotFound), v) := by
  have hleads := leads_react_misled (s := ({ w with now := "", outages := {} } : World).scene)
    (fun _ _ => rfl) hc hflow { w with now := "", outages := {} } rfl
  rcases hon : on (misleader.react 1 (.press (Keyboard.choicePayload (some "size") largeButton)))
    { w with now := "", outages := {} } with ⟨e | o, v⟩
  · rw [hon] at hleads
    exact hleads.elim
  · rw [hon] at hleads
    obtain rfl : o = .failed .stepNotFound := hleads
    exact ⟨v, by rw [handle, on_rescue, hon]⟩

private theorem fails_leaper : ∃ v, on (leaper.handle 1 (.startFlow "order")) .reception =
    (.ok (.failed .flowNotFound), v) := by
  obtain ⟨c, v, hon⟩ := on_handle_reception leaper "order" 49 rfl rfl rfl
  exact ⟨_, hon.trans rfl⟩

private theorem reports_denier : ∃ v,
    on (denier.handle 1 (.startFlow "order")) .reception = (.ok .ok, v) ∧
      .handlerNotFound ∈ v.notices := by
  obtain ⟨c, v, hon⟩ := on_handle_reception denier "order" 49 rfl rfl rfl
  exact ⟨_, hon.trans rfl, List.mem_append_right _ List.mem_cons_self⟩

/-- The check looks neither at empty names nor at the steps that registered actions go to, nor into
handlers. -/
theorem missed_by_checkReferences :
    (leaper.catalog.checkReferences (some leaper.handlers.names) = .ok [] ∧
      ∃ v, on (leaper.handle 1 (.startFlow "order")) .reception =
        (.ok (.failed .flowNotFound), v)) ∧
    (misleader.catalog.checkReferences (some misleader.handlers.names) = .ok [] ∧
      ∃ key, (Keyboard.ofChoice (some "size") orderSize).1 = [[key]] ∧
        ∃ v, on (misleader.handle 1 (.press key.payload))
          { misleader.after 1 (.startFlow "order") "" {} .reception with now := "", outages := {} } =
            (.ok (.failed .stepNotFound), v)) ∧
    (denier.catalog.checkReferences (some denier.handlers.names) = .ok [] ∧
      ∃ v, on (denier.handle 1 (.startFlow "order")) .reception = (.ok .ok, v) ∧
        .handlerNotFound ∈ v.notices) := by
  obtain ⟨d, hd, hflow⟩ : ∃ d,
      (∀ now, (misleader.after 1 (.startFlow "order") "" {} .reception).store.context? now 1 =
        some d) ∧ d.currentFlow = "order" :=
    exists_context_of_startFlow (c := .fresh 1 1) (f := order) (fun _ _ => rfl) rfl
      (by decide) (Context.fresh_tidy 1 1) rfl rfl
  exact ⟨⟨rfl, fails_leaper⟩, ⟨rfl, ⟨"Large", _⟩, rfl, misled_of_press (hd "") hflow⟩, rfl,
    reports_denier⟩

end Dialogue.Bot
