import Dialogue.Proofs.Bot.Blindness
import Dialogue.Proofs.Bot.Capture
import Dialogue.Proofs.Handler.Bookkeeping

/-! A flow that is started in the actor's own chat goes the same way whatever was before it: of the
old context only the data count. -/
namespace Dialogue

namespace Context
variable {c c' d d' : Context}

/-- Whether a context can be read again does not depend on the steps that were entered, as long as
their numbers can. -/
private theorem isReadable_unvisited (h : d.unvisited.isReadable = true →
    d.history.all (Decimal.isReadable ·.step) = true) : d.isReadable = d.unvisited.isReadable := by
  have hsplit : d.isReadable =
      (d.unvisited.isReadable && d.history.all (Decimal.isReadable ·.step)) := by
    rw [isReadable_eq, isReadable_eq, isLegible, isLegible]
    simp only [unvisited, hasReadableId, List.all_nil, Bool.and_true]
    ac_rfl
  rw [hsplit]
  cases hd : d.unvisited.isReadable with
  | false => rfl
  | true => rw [h hd]; rfl

private theorem unvisited_kept (h : d.unvisited.isReadable = true →
    d.history.all (Decimal.isReadable ·.step) = true) : d.kept.unvisited = d.unvisited.kept := by
  rw [kept, kept, isReadable_unvisited h]
  split
  · rw [repair_eq, repair_eq]
    rfl
  · rfl

/-- The steps of a legible context can be read. -/
private theorem history_legible (h : c.isLegible = true) :
    c.history.all (Decimal.isReadable ·.step) = true := by
  obtain ⟨-, -, hhistory, -⟩ := isLegible_iff.mp h
  exact hhistory

/-- Two contexts that were read, and differ only in the steps that were entered. -/
structure Akin (c c' : Context) : Prop where
  same : c'.unvisited = c.unvisited
  legible : c.isLegible = true
  legible' : c'.isLegible = true

namespace Akin
variable (h : c.Akin c')
include h

/-- A change that leaves the history alone leads to contexts that stay akin when they are kept. -/
private theorem kept_of (hd : d.history = c.history) (hd' : d'.history = c'.history)
    (hsame : d'.unvisited = d.unvisited) : d'.kept.unvisited = d.kept.unvisited := by
  have hkept {e e₀ : Context} (he : e.history = e₀.history) (hlegible : e₀.isLegible = true) :
      e.kept.unvisited = e.unvisited.kept :=
    unvisited_kept fun _ => he ▸ history_legible hlegible
  rw [hkept hd h.legible, hkept hd' h.legible', hsame]

theorem setData (p : Path) (v : Value) :
    (c'.setData p v).kept.unvisited = (c.setData p v).kept.unvisited :=
  h.kept_of rfl rfl (congrArg (·.setData p v) h.same)

theorem revised {f : Context → Context} (hf : Ahistorical f) :
    (f c').repair.1.kept.unvisited = (f c).repair.1.kept.unvisited := by
  have hkeeps (e : Context) : (f e).repair.1.history = e.history := by
    rw [repair_eq]
    exact hf.keeps_history e
  have hunvisited (e : Context) : (f e).repair.1.unvisited = (f e.unvisited).repair.1 := by
    rw [← hf.unvisited, repair_eq, repair_eq]
    rfl
  refine h.kept_of (hkeeps c) (hkeeps c') ?_
  rw [hunvisited, hunvisited, h.same]

/-- A step whose number is too long to be read is too long as the current step as well. -/
theorem visit (flow : String) (step : Int) (now now' : String) :
    (c'.visit flow step now').kept.unvisited = (c.visit flow step now).kept.unvisited := by
  have hsteps {e : Context} (he : e.isLegible = true) (now : String)
      (hread : (e.visit flow step now).unvisited.isReadable = true) :
      (e.visit flow step now).history.all (Decimal.isReadable ·.step) = true := by
    rw [isReadable_eq, Bool.and_eq_true] at hread
    have hstep : Decimal.isReadable step = true := (isLegible_iff.mp hread.2).1
    exact history_legible (visit_legible he flow hstep now)
  rw [unvisited_kept (hsteps h.legible now), unvisited_kept (hsteps h.legible' now')]
  have hsame : { c' with history := [], currentStep := step } =
      { c with history := [], currentStep := step } :=
    congrArg (fun e : Context => { e with currentStep := step }) h.same
  exact congrArg Context.kept hsame

end Akin

end Context

namespace World

/-- Whoever is asked for, the context is the same in both worlds but for the steps that were
entered, and the same messages were sent in both. -/
structure Reconciled (actor : Int) (past past' : List Delivery) (w w' : World) : Prop where
  working : w.outages.Absent
  working' : w'.outages.Absent
  known : ∀ now, ∃ c, w.store.context? now actor = some c
  contexts : ∀ a now now', (w'.store.context? now' a).map Context.unvisited =
    (w.store.context? now a).map Context.unvisited
  sent : ∃ ms, w.sent = past ++ ms ∧ w'.sent = past' ++ ms

variable {actor : Int} {past past' : List Delivery} {w w' v v' : World} {a : Int} {d d' : Context}

namespace Reconciled

theorem wrote (h : w.Reconciled actor past past' w') (hv : w.Wrote a d v) (hv' : w'.Wrote a d' v')
    (hd : d'.kept.unvisited = d.kept.unvisited) : v.Reconciled actor past past' v' where
  working := hv.outages ▸ h.working
  working' := hv'.outages ▸ h.working'
  known now := by
    by_cases ha : actor = a
    · exact ⟨_, ha ▸ hv.own now⟩
    · rw [hv.others now ha]
      exact h.known now
  contexts j now now' := by
    by_cases hj : j = a
    · subst hj
      rw [hv.own, hv'.own, Option.map_some, Option.map_some, hd]
    · rw [hv.others now hj, hv'.others now' hj]
      exact h.contexts j now now'
  sent := by
    rw [hv.sent, hv'.sent]
    exact h.sent

theorem unmoved (h : w.Reconciled actor past past' w') (hv : w.Unmoved v) (hv' : w'.Unmoved v') :
    v.Reconciled actor past past' v' where
  working := hv.outages ▸ h.working
  working' := hv'.outages ▸ h.working'
  known := hv.store ▸ h.known
  contexts := hv.store ▸ hv'.store ▸ h.contexts
  sent := hv.sent ▸ hv'.sent ▸ h.sent

open Turn in
private theorem blind_deliver (dest : Destination) (text : String) (keyboard : Keyboard) :
    Blind (Reconciled actor past past') (Channel.deliver dest text keyboard) := by
  intro w w' hw
  obtain ⟨ms, hsent, hsent'⟩ := hw.sent
  have hon {u : World} (hu : u.outages.Absent) : on (Channel.deliver dest text keyboard) u =
      (.ok (), { u with
        channelTasks := u.channelTasks + 1
        sent := u.sent ++ [{ destination := dest, text, keyboard }] }) := by
    simp only [Channel.deliver, channelTask, on_bind, on_get, on_set, hu.channel]
    rfl
  refine ⟨.ok (), _, _, hon hw.working, hon hw.working', hw.working, hw.working', hw.known,
    hw.contexts, ms ++ [{ destination := dest, text, keyboard }], ?_, ?_⟩
  · rw [hsent, List.append_assoc]
  · rw [hsent', List.append_assoc]

/-- Whoever work is done for, it keeps worlds as they are to each other. -/
theorem ground (actor : Int) (past past' : List Delivery) (a : Int) :
    Turn.Ground (Reconciled actor past past') a Context.Akin
      (fun d d' => d'.kept.unvisited = d.kept.unvisited) where
  reliable hw := ⟨hw.working.store, hw.working'.store⟩
  reads {w w'} hw := by
    have hread := hw.contexts a w.now w'.now
    cases hc : w.store.context? w.now a with
    | none =>
      rw [hc, Option.map_none, Option.map_eq_none_iff] at hread
      rw [hread]
      exact .none
    | some c =>
      rw [hc, Option.map_some, Option.map_eq_some_iff] at hread
      obtain ⟨c', hc', hcc⟩ := hread
      rw [hc']
      exact .some ⟨hcc, Store.context?_legible hc, Store.context?_legible hc'⟩
  unmoved := unmoved
  wrote := wrote
  deliver := blind_deliver
  unvisited hcc := hcc.same
  setData hcc p v := hcc.setData p v
  revised hcc f hf := hcc.revised hf
  visit hcc flow step now now' := hcc.visit flow step now now'

end Reconciled

end World

namespace Turn

/-- Work that keeps to the data cannot tell worlds apart in which only the entered steps differ. -/
theorem ByData.blind {α : Type} {R : World → World → Prop} (hR : ∀ a, Veil R a) {work : Turn α}
    (h : ByData work) : Blind R work := by
  induction h with
  | answer a => exact .pure a
  | fail f => exact .throw f
  | read a next _ ih => exact (hR a).read (fun _ => rfl) fun o _ => ih _
  | write a p v _ _ ih => exact ((hR a).write p v).bind fun _ => ih

end Turn

namespace Bot
open Turn
variable {b : Bot} {actor : Int} {w w' : World} {c c' : Context}

/-- Where a flow begins, the old contexts are forgotten but for their data. -/
private theorem reconciled_began (hw : w.outages.Absent) (hw' : w'.outages.Absent)
    (hc : w.store.context? w.now actor = some c) (hc' : w'.store.context? w'.now actor = some c')
    (hhuman : c'.humanId = c.humanId) (hdata : c'.data = c.data)
    (hothers : ∀ a, a ≠ actor → ∀ now now', (w'.store.context? now' a).map Context.unvisited =
      (w.store.context? now a).map Context.unvisited) {v v' : World} {name : String}
    (hv : w.Wrote actor (c.began name).repair.1 v)
    (hv' : w'.Wrote actor (c'.began name).repair.1 v') :
    v.Reconciled actor w.sent w'.sent v' where
  working := hv.outages ▸ hw
  working' := hv'.outages ▸ hw'
  known now := ⟨_, hv.own now⟩
  contexts a now now' := by
    by_cases ha : a = actor
    · subst ha
      have hexternal : c'.externalId = c.externalId :=
        (Store.context?_identity hc').1.trans (Store.context?_identity hc).1.symm
      have hakin : (c.began name).Akin (c'.began name) := by
        refine ⟨?_, Context.began_legible (Store.context?_legible hc) name,
          Context.began_legible (Store.context?_legible hc') name⟩
        simp only [Context.began, Context.unvisited, hexternal, hhuman, hdata]
      have hkept := hakin.revised (f := id) ⟨fun _ _ => rfl, fun _ => rfl, fun _ => rfl⟩
      rw [hv.own, hv'.own]
      exact congrArg some hkept
    · rw [hv.others now ha, hv'.others now' ha]
      exact hothers a ha now now'
  sent := ⟨[], by rw [hv.sent, List.append_nil], by rw [hv'.sent, List.append_nil]⟩

/-- A start reads the context, and writes it with the flow begun. -/
private theorem exists_began {name : String} {f : Flow} (hf : b.catalog.flow? name = some f)
    (run : Runner) (hw : w.outages.Absent) (hc : w.store.context? w.now actor = some c) :
    ∃ v, w.Wrote actor (c.began name).repair.1 v ∧ on (b.start run actor name) w =
      on (clearMarker actor c >>= fun _ => enterFirst run actor f) v := by
  obtain ⟨u, hget, hu, hnow⟩ := Contexts.exists_get hw.store actor
  have hc₁ : u.store.context? u.now actor = some c := by rw [hu.store, hnow, hc]
  obtain ⟨_, v, hrevise, hv⟩ := Contexts.exists_revise (f := (·.began name))
    (hu.outages ▸ hw.store : ∀ t n, u.outages.store t n = none) hc₁ rfl rfl
  refine ⟨v, hu.wrote hv, ?_⟩
  rw [hc] at hget
  rw [start, hf]
  simp only [on_bind, hget, hrevise]

/-- A start leads to the same outcome and the same messages from any two contexts with the same
data. In the end nothing tells the contexts apart but the steps that were entered. -/
theorem handle_startFlow_forgets
    (hh : ∀ name h, Table.value? b.handlers name = some h → h.ByData) {name : String} {f : Flow}
    (hf : b.catalog.flow? name = some f) (hw : w.outages.Absent) (hw' : w'.outages.Absent)
    (hc : w.store.context? w.now actor = some c) (hc' : w'.store.context? w'.now actor = some c')
    (hhuman : c'.humanId = c.humanId) (hdata : c'.data = c.data)
    (hothers : ∀ a, a ≠ actor → ∀ now now', (w'.store.context? now' a).map Context.unvisited =
      (w.store.context? now a).map Context.unvisited) :
    ∃ o ms v v', on (b.handle actor (.startFlow name)) w = (.ok o, v) ∧
      on (b.handle actor (.startFlow name)) w' = (.ok o, v') ∧
      v.sent = w.sent ++ ms ∧ v'.sent = w'.sent ++ ms ∧
      ∀ now now', ∃ d d', v.store.context? now actor = some d ∧
        v'.store.context? now' actor = some d' ∧ d'.unvisited = d.unvisited := by
  have hveil (a : Int) := (World.Reconciled.ground actor w.sent w'.sent a).veil
  have hstart : InStep (fun u u' => u = w ∧ u' = w') (b.react actor (.startFlow name))
      (b.react actor (.startFlow name)) (fun _ => World.Reconciled actor w.sent w'.sent)
      (World.Reconciled actor w.sent w'.sent) := by
    rintro u u' ⟨hu, hu'⟩
    obtain ⟨v, hv, hon⟩ := exists_began hf (b.runner actor) hw hc
    obtain ⟨v', hv', hon'⟩ := exists_began hf (b.runner actor) hw' hc'
    have hclear : clearMarker actor c' = clearMarker actor c := by
      rw [clearMarker, clearMarker, Context.rawMarker, Context.rawMarker, hdata]
    have hrunner (s : Step) :
        Blind (World.Reconciled actor w.sent w'.sent) (b.runner actor s) :=
      blind_execute (hveil actor)
        (fun name h payload hvalue => (hh name h hvalue actor payload).blind hveil) _ s
    have hrest := (blind_clearMarker (hveil actor) c).bind fun _ =>
      blind_enterFirst (hveil actor) hrunner f
    rw [hclear] at hon'
    rw [hu, hu', react, hon, hon']
    exact hrest v v' (reconciled_began hw hw' hc hc' hhuman hdata hothers hv hv')
  have hall := InStep.rescue hstart fun f => ((hveil actor).note .entryPointFailed).bind fun _ =>
    .pure (Outcome.failed (.fault f))
  obtain ⟨r, v, v', hon, hon', hr⟩ := hall w w' ⟨rfl, rfl⟩
  obtain ⟨o, _, hok⟩ := b.exists_handled actor (.startFlow name) w
  obtain rfl : r = .ok o := congrArg Prod.fst (hon.symm.trans hok)
  obtain ⟨ms, hsent, hsent'⟩ := hr.sent
  refine ⟨o, ms, v, v', hon, hon', hsent, hsent', fun now now' => ?_⟩
  obtain ⟨d, hd⟩ := hr.known now
  have hsame := hr.contexts actor now now'
  rw [hd, Option.map_some, Option.map_eq_some_iff] at hsame
  obtain ⟨d', hd', hsame⟩ := hsame
  exact ⟨d, d', hd, hd', hsame⟩

/-- A bot with a flow that takes down that it was begun, and says so. -/
def guide : Bot where
  catalog := {
    flows := [("tour", {
      name := "tour"
      steps := [
        { work := .call "note" (some (.index 1)) },
        { work := .message { text := "This way!" } }] })] }
  handlers := [("note",
    Script.handler (fun _ _ => throw .tooDeep) { acts := [.set "tour.begun" (.bool true)] })]

/-- An actor who runs some flow in a topic. -/
def busy : Context :=
  { Context.fresh 1 1 with
    currentFlow := "lead", currentStep := 3, history := [⟨"lead", 3, "noon"⟩], forwarding := false
    flowMode := true, inTopic := true, topicId := some 7, adminChatId := some (-100) }

theorem handle_startFlow_forgets_tour :
    ∃ o ms v v',
      on (guide.handle 1 (.startFlow "tour")) (keeping (Context.fresh 1 1)) = (.ok o, v) ∧
      on (guide.handle 1 (.startFlow "tour")) (keeping busy) = (.ok o, v') ∧
      v.sent = ms ∧ v'.sent = ms ∧
      ∀ now now', ∃ d d', v.store.context? now 1 = some d ∧ v'.store.context? now' 1 = some d' ∧
        d'.unvisited = d.unvisited := by
  have hh (name : String) (h : Handler) (hvalue : Table.value? guide.handlers name = some h) :
      h.ByData := by
    obtain ⟨-, rfl⟩ := Table.eq_of_value?_singleton hvalue
    refine Script.handler_byData _ fun a ha => ?_
    rw [List.mem_singleton.mp ha]
    trivial
  have hdata {c : Context} (hc : c.data = []) : c.kept.data = [] := by
    rw [Context.kept]
    split
    · rw [Context.repair_eq, Context.settled, hc]
      rfl
    · rfl
  have hnobody (c : Context) (now : String) {a : Int} (ha : a ≠ c.externalId) :
      (keeping c).store.context? now a = none := by
    have hnone : Table.value? [(c.externalId, c.humanId)] a = none := by
      rw [Table.value?_cons, if_neg ha.symm]
      rfl
    simp only [Store.context?, keeping, Store.resolve, Records.resolve, hnone]
  have hc : (keeping (Context.fresh 1 1)).store.context? "" 1 = some (Context.fresh 1 1).kept :=
    context?_keeping _
  have hc' : (keeping busy).store.context? "" 1 = some busy.kept := context?_keeping _
  have hhuman (c : Context) : c.kept.humanId = c.humanId := by
    rw [Context.kept]
    split
    · exact c.settled.repair_identity.2
    · rfl
  have hothers (a : Int) (ha : a ≠ 1) (now now' : String) :
      ((keeping busy).store.context? now' a).map Context.unvisited =
        ((keeping (Context.fresh 1 1)).store.context? now a).map Context.unvisited := by
    rw [hnobody busy now' ha, hnobody (Context.fresh 1 1) now ha]
  exact handle_startFlow_forgets hh rfl ⟨fun _ _ => rfl, fun _ _ => rfl⟩
    ⟨fun _ _ => rfl, fun _ _ => rfl⟩ hc hc'
    ((hhuman busy).trans (hhuman (Context.fresh 1 1)).symm) ((hdata rfl).trans (hdata rfl).symm)
    hothers

end Bot

end Dialogue
