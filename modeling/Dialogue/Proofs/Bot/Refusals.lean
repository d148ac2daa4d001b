import Dialogue.Proofs.Bot.Capture
import Dialogue.Proofs.Bot.Settling

/-! Events that are refused. An event is ignored before anything was done for it, and never in the
middle of a flow. -/
namespace Dialogue

namespace Handlers

/-- Work that comes to nothing. -/
def idle (_ : String) (_ : Int) (_ : Option Value) : Turn Reply := throw .handlerUnknown

/-- The handlers under the same names and for the same payloads, but with other work. -/
def doing (hs : Handlers) (runs : String → Int → Option Value → Turn Reply) : Handlers :=
  hs.map fun e => (e.1, { e.2 with run := runs e.1 })

theorem value?_doing {hs : Handlers} (runs : String → Int → Option Value → Turn Reply)
    {name : String} {h : Handler} (hvalue : Table.value? (hs.doing runs) name = some h) :
    ∃ g, Table.value? hs name = some g ∧ h = { g with run := runs name } := by
  induction hs with
  | nil => cases hvalue
  | cons e hs ih =>
    rw [doing, List.map_cons, Table.value?_cons] at hvalue
    rw [Table.value?_cons]
    split at hvalue
    · rename_i heq
      obtain rfl := Option.some.inj hvalue
      exact ⟨e.2, if_pos heq, by rw [← heq]⟩
    · rename_i hne
      rw [if_neg hne]
      exact ih hvalue

end Handlers

namespace Bot
open Turn

section Reach
variable {b : Bot} {actor : Int} {u v : World} {q : Sequel} {o : Outcome}

/-- An end that no one calls ignored, but for an empty flow. -/
private def Plain (o : Outcome) : Prop := o.status = .ignored → o.reason = .emptyFlow

private theorem plain_of_failing {n : Notice} {r : Reason} {x : Outcome ⊕ Arrival}
    (h : on (Sum.inl <$> fail n r) u = (.ok x, v)) (hx : x = .inl o) : Plain o := by
  obtain ⟨p, hon, rfl⟩ := ok_of_map h
  obtain rfl := Except.ok.inj (Prod.mk.inj hon).1
  obtain rfl := Sum.inl.inj hx
  nofun

private theorem plain_of_reachFirst {f : Flow}
    (h : on (reachFirst actor f) u = (.ok (.inl o), v)) : Plain o := by
  unfold reachFirst at h
  split at h
  · obtain ⟨_, _, -, hpure⟩ := ok_of_bind h
    obtain ⟨ho, -⟩ := ok_of_pure hpure
    obtain rfl := Sum.inl.inj ho
    intro _
    rfl
  · obtain ⟨_, _, -, hpure⟩ := ok_of_bind h
    obtain ⟨ho, -⟩ := ok_of_pure hpure
    cases ho

private theorem not_inFlow_of_none (hc : u.store.context? u.now actor = none) :
    ¬ InFlow actor u.scene := by
  rintro ⟨d, hd, -⟩
  rw [Scene.context?] at hd
  cases hd.symm.trans hc

/-- Where a sequel ends an event as ignored, it said so itself, or there was no flow to complete. -/
private theorem reach_ignored (hs : u.scene.Reliable)
    (h : on (b.reach actor q) u = (.ok (.inl o), v)) :
    Plain o ∨ (q = .rest o ∧ v = u) ∨ q = .complete ∧ u.Unmoved v ∧ ¬ InFlow actor u.scene := by
  obtain ⟨u₁, hget, hu₁, -⟩ := Contexts.exists_get hs actor
  cases q with
  | rest p =>
    obtain ⟨hp, rfl⟩ := ok_of_pure h
    obtain rfl := Sum.inl.inj hp
    exact .inr (.inl ⟨rfl, rfl⟩)
  | run st =>
    obtain ⟨hp, -⟩ := ok_of_pure h
    cases hp
  | start name =>
    rw [reach] at h
    split at h
    · exact .inl (plain_of_failing h rfl)
    rw [on_bind, hget] at h
    cases hc : u.store.context? u.now actor with
    | none =>
      rw [hc] at h
      exact .inl (plain_of_failing h rfl)
    | some c =>
      rw [hc] at h
      obtain ⟨_, _, -, hclear⟩ := ok_of_bind h
      obtain ⟨_, _, -, hfirst⟩ := ok_of_bind hclear
      exact .inl (plain_of_reachFirst hfirst)
  | startInTopic topic name target chat =>
    rw [reach] at h
    split at h
    · exact .inl (plain_of_failing h rfl)
    rw [on_bind, hget] at h
    cases hc : u.store.context? u.now actor with
    | none =>
      rw [hc] at h
      exact .inl (plain_of_failing h rfl)
    | some c =>
      rw [hc] at h
      simp only at h
      split at h
      · exact .inl (plain_of_failing h rfl)
      obtain ⟨_, _, -, hbegun⟩ := ok_of_bind h
      have hfirst {f : Flow} {u : World} (h : on (clearMarker actor c >>= fun _ =>
          reachFirst actor f) u = (.ok (.inl o), v)) : Plain o := by
        obtain ⟨_, _, -, hfirst⟩ := ok_of_bind h
        exact plain_of_reachFirst hfirst
      split at hbegun
      · obtain ⟨_, _, -, hclear⟩ := ok_of_bind hbegun
        exact .inl (hfirst hclear)
      · exact .inl (hfirst hbegun)
  | goTo place =>
    rw [reach] at h
    rw [on_bind, hget] at h
    cases hc : u.store.context? u.now actor with
    | none =>
      rw [hc] at h
      exact .inl (plain_of_failing h rfl)
    | some c =>
      rw [hc] at h
      simp only at h
      split at h
      · exact .inl (plain_of_failing h rfl)
      split at h
      · exact .inl (plain_of_failing h rfl)
      split at h
      · exact .inl (plain_of_failing h rfl)
      · obtain ⟨_, _, -, hpure⟩ := ok_of_bind h
        obtain ⟨ho, -⟩ := ok_of_pure hpure
        cases ho
  | complete =>
    obtain ⟨p, hcomplete, hp⟩ := ok_of_map h
    obtain rfl := Sum.inl.inj hp
    unfold complete at hcomplete
    rw [on_bind, hget] at hcomplete
    cases hc : u.store.context? u.now actor with
    | none =>
      rw [hc] at hcomplete
      obtain ⟨-, rfl⟩ := ok_of_pure hcomplete
      exact .inr (.inr ⟨rfl, hu₁, not_inFlow_of_none hc⟩)
    | some c =>
      rw [hc] at hcomplete
      simp only at hcomplete
      split at hcomplete
      · rename_i hidle
        obtain ⟨-, rfl⟩ := ok_of_pure hcomplete
        refine .inr (.inr ⟨rfl, hu₁, ?_⟩)
        rintro ⟨d, hd, hflow⟩
        obtain rfl : d = c := Option.some.inj (hd.symm.trans hc)
        rw [Bool.and_eq_true, Context.isIdle, String.isEmpty_iff] at hidle
        exact hflow hidle.1
      · obtain ⟨_, _, -, hclear⟩ := ok_of_bind hcomplete
        obtain ⟨_, _, -, hpure⟩ := ok_of_bind hclear
        obtain ⟨rfl, -⟩ := ok_of_pure hpure
        exact .inl fun h => by cases h

/-- Whoever comes to a step is at its place in a registered flow. -/
theorem isAt_of_lands (hb : b.catalog.Built) (hl : b.Legible) {s t : Scene} {a : Arrival}
    (hs : Sane actor s) (h : b.Lands actor s (.inr a) t) : ∃ name f, ∃ i : Nat, ∃ d,
      b.catalog.flow? name = some f ∧ f.steps[i]? = some a.step ∧
      a.place = some (name, (i : Int)) ∧ t.context? actor = some d ∧
      d.position.IsAt (name, (i : Int)) := by
  have hentered {s t : Scene} {c : Context} {f : Flow} {i : Nat} {st : Step} (hs : Sane actor s)
      (hc : s.context? actor = some c) (hf : b.catalog.flow? c.currentFlow = some f)
      (hst : f.steps[i]? = some st) (ht : s.Rewritten t actor (c.visit f.name i s.now).kept) :
      ∃ d, t.context? actor = some d ∧ d.position.IsAt (f.name, (i : Int)) := by
    have hindex : Decimal.isReadable i = true :=
      Decimal.isReadable_of_lt (hl.steps _ f hf) (List.getElem?_eq_some_iff.mp hst).1
    have hne : c.currentFlow ≠ "" := by
      intro hidle
      rw [hidle, hb.flow?_empty] at hf
      cases hf
    refine ⟨_, ht.context?, ?_⟩
    rw [Context.position_visit (hs.hasReadableId hc) (Store.context?_tidy hc) hne _ hindex]
    exact Position.isAt_entered (hb.name_eq hf).symm
  have hnamed {name : String} {f : Flow} (hf : b.catalog.flow? name = some f) :
      b.catalog.flow? f.name = some f := by rwa [hb.name_eq hf]
  cases h with
  | @first name f st c d u t hc hf hst hd hu ht =>
    have hflow := hd.currentFlow (hs.hasReadableId hc) (Store.context?_tidy hc)
    obtain ⟨e, he, hat⟩ := hentered (hs.rewritten hu) hu.context? (hflow ▸ hf) hst ht
    exact ⟨f.name, f, 0, e, hnamed hf, hst, rfl, he, hat⟩
  | @jump f i st c t hc hf hst ht =>
    obtain ⟨e, he, hat⟩ := hentered hs hc hf hst ht
    exact ⟨f.name, f, i, e, hnamed hf, hst, rfl, he, hat⟩

private theorem inFlow_of_lands (hb : b.catalog.Built) (hl : b.Legible) {s t : Scene}
    {a : Arrival} (hs : Sane actor s) (h : b.Lands actor s (.inr a) t) : InFlow actor t := by
  obtain ⟨name, f, i, d, hf, -, -, hd, hat⟩ := isAt_of_lands hb hl hs h
  refine ⟨d, hd, fun hidle => ?_⟩
  rw [← show d.currentFlow = name from hat.flow, hidle, hb.flow?_empty] at hf
  cases hf

theorem sane_of_lands {s t : Scene} {r : Outcome ⊕ Arrival} (hs : Sane actor s)
    (h : b.Lands actor s r t) : Sane actor t := by
  cases h with
  | stay => exact hs
  | finish _ ht => exact hs.rewritten ht
  | blank _ _ _ _ ht => exact hs.rewritten ht
  | first _ _ _ _ hu ht => exact (hs.rewritten hu).rewritten ht
  | jump _ _ _ ht => exact hs.rewritten ht

end Reach

/-- The actor has come to a step of a flow. -/
private structure Midway (b : Bot) (actor : Int) (st : Step) (s : Scene) : Prop where
  step : b.catalog.HasStep st
  sane : Sane actor s
  inFlow : InFlow actor s

section Laps
variable {b : Bot} {actor : Int} {w : World} {o : Outcome}
variable (hb : b.catalog.Built) (hl : b.Legible)
  (hh : ∀ name h, Table.value? b.handlers name = some h →
    ∀ actor payload, ∃ f, h.run actor payload = throw f)

/-- Where handlers leave it so, the store works on, and ids stay as they are. -/
theorem bears_sane (hsane : ∀ name h, Table.value? b.handlers name = some h → ∀ x payload,
    Leads (Sane actor) (h.run x payload) (fun _ => Sane actor) (Sane actor)) :
    b.Bears (fun _ _ => True) (Sane actor) where
  reliable h := h.reliable
  write h _ _ ht := h.rewritten ht
  disarm h _ ht := h.rewritten ht
  relay _ _ h _ ht := h.rewritten ht
  call _ _ _ h := ⟨h.reliable, h.readable⟩
  handler x payload hvalue := hsane _ _ hvalue x payload
  answer _ _ _ _ := trivial
  menu _ _ _ := trivial
  action _ _ := trivial
  other _ _ := trivial

theorem Bears.leads_stepAlone_sane (hbears : b.Bears (fun _ _ => True) (Sane actor)) {st : Step}
    (hst : b.catalog.HasStep st) :
    Leads (Sane actor) (b.stepAlone actor st) (fun q t => Sane actor t ∧ q.IsOrdinary)
      (Sane actor) := by
  refine hbears.leads_get fun s hs => ?_
  cases s.context? actor with
  | none => exact Leads.pure fun _ ht => ⟨ht ▸ hs, trivial⟩
  | some c =>
    exact Leads.at_one hs (hbears.leads_workAlone hst (fun _ hs => hs)
      (fun _ _ _ _ _ hs _ ht => hs.rewritten ht) c)

include hh in
private theorem bears_sane_of_throws : b.Bears (fun _ _ => True) (Sane actor) :=
  bears_sane fun _ _ hvalue x payload => by
    obtain ⟨f, hf⟩ := hh _ _ hvalue x payload
    rw [hf]
    exact Leads.throw fun _ hs => hs

include hh in
private theorem leads_stepAlone_heeds (st : Step) :
    Leads (fun s => Sane actor s ∧ InFlow actor s) (b.stepAlone actor st)
      (fun q t => q.Heeds (fun _ => False) (InFlow actor t)) fun _ => True := by
  have hinvoke (name : String) : Leads (fun s => Sane actor s ∧ InFlow actor s)
      (b.handlers.invoke name actor) (fun _ s => Sane actor s ∧ InFlow actor s)
      (fun s => Sane actor s ∧ InFlow actor s) := by
    refine Bot.leads_invoke none (fun s _ hs => ⟨⟨hs.1.reliable, hs.1.readable⟩, hs.2⟩)
      fun h payload hvalue => ?_
    obtain ⟨f, hf⟩ := hh name h hvalue actor payload
    rw [hf]
    exact Leads.throw fun _ hs => hs
  refine Leads.at_each fun s hs => (Contexts.leads_get hs.1.reliable).bind fun o =>
    Leads.given fun _ => ?_
  cases o with
  | none => exact Leads.pure fun _ _ => Sequel.heeds_failed _
  | some c =>
    exact Leads.at_one hs ((leads_workAlone_heeds hinvoke c st).post fun _ _ hq =>
      hq.mono (fun _ h => h) fun h => h.2)

include hb hl

/-- A lap comes to a step in a flow, or it ends the event: not as ignored, but for an empty flow, or
because that was said, or because there was no flow to complete. -/
private theorem lap_ends {alone : Turn Sequel} (halone : ∀ q v, on alone w = (.ok q, v) →
      Sane actor v.scene ∧ q.IsOrdinary) :
    (∀ a, (b.lap actor alone w).arrival? = some a →
      b.Midway actor a.step (b.lap actor alone w).world.scene) ∧
    ((b.lap actor alone w).arrival? = none → (b.lap actor alone w).outcome.status = .ignored →
      (b.lap actor alone w).outcome.reason ≠ .emptyFlow → ∃ q v, on alone w = (.ok q, v) ∧
        v.Unmoved (b.lap actor alone w).world ∧
        (q = .rest (b.lap actor alone w).outcome ∨ q = .complete ∧ ¬ InFlow actor v.scene)) := by
  have hnone (a : Arrival) : (none : Option Arrival) ≠ some a := nofun
  have hfailed : Status.failed ≠ .ignored := nofun
  rcases hon : on alone w with ⟨f | q, v⟩
  · rw [lap_of_broken hon]
    exact ⟨fun a ha => absurd ha (hnone a), fun _ ho => absurd ho hfailed⟩
  · obtain ⟨hsane, hq⟩ := halone q v hon
    rw [lap_of_sequel hon]
    have hlands : Leads (· = v.scene) (b.reach actor q) (b.Lands actor v.scene) fun _ => True :=
      leads_reach hl hsane.reliable (fun c hc => Store.context?_tidy hc) hq
    rcases hreach : on (b.reach actor q) v with ⟨f | o | a, v'⟩
    · exact ⟨fun a ha => absurd ha (hnone a), fun _ ho => absurd ho hfailed⟩
    · refine ⟨fun a ha => absurd ha (hnone a), fun _ ho hne => ?_⟩
      rcases reach_ignored hsane.reliable hreach with hplain | ⟨rfl, rfl⟩ | ⟨rfl, hv, hnot⟩
      · exact absurd (hplain ho) hne
      · exact ⟨_, _, rfl, .refl _, .inl rfl⟩
      · exact ⟨_, _, rfl, hv, .inr ⟨rfl, hnot⟩⟩
    · have hto : b.Lands actor v.scene (.inr a) v'.scene := hlands.of_ok rfl hreach
      refine ⟨fun e he => ?_, fun hrest => absurd hrest.symm (hnone a)⟩
      obtain rfl : a = e := Option.some.inj he
      exact ⟨hto.hasStep, sane_of_lands hsane hto, inFlow_of_lands hb hl hsane hto⟩

include hh

/-- A step of a flow that the actor is in comes to another one, or ends the event: not as ignored,
but for an empty flow. -/
private theorem step_ends {st : Step} (h : b.Midway actor st w.scene) :
    (∀ a, (b.lap actor (b.stepAlone actor st) w).arrival? = some a →
      b.Midway actor a.step (b.lap actor (b.stepAlone actor st) w).world.scene) ∧
    ((b.lap actor (b.stepAlone actor st) w).arrival? = none →
      (b.lap actor (b.stepAlone actor st) w).outcome.status = .ignored →
      (b.lap actor (b.stepAlone actor st) w).outcome.reason = .emptyFlow) := by
  have halone : Leads (Sane actor) (b.stepAlone actor st)
      (fun q t => Sane actor t ∧ q.IsOrdinary) (Sane actor) :=
    (bears_sane_of_throws hh).leads_stepAlone_sane h.step
  obtain ⟨hgoes, hends⟩ := lap_ends hb hl fun q v hon => halone.of_ok h.sane hon
  refine ⟨hgoes, fun hrest ho => by_contra fun hne => ?_⟩
  obtain ⟨q, v, hon, -, hq⟩ := hends hrest ho hne
  have hheeds := (leads_stepAlone_heeds hh st).of_ok ⟨h.sane, h.inFlow⟩ hon
  rcases hq with rfl | ⟨rfl, hnot⟩
  · exact hheeds ho
  · exact hnot hheeds

/-- In the middle of a flow no event is ignored, unless it comes to a flow without steps. -/
private theorem laps_step_ignored (left : Nat) {st : Step} (h : b.Midway actor st w.scene)
    {l : Lap}
    (hlast : (b.laps actor left (b.stepAlone actor st) w).getLast? = some l)
    (ho : l.outcome.status = .ignored) : l.outcome.reason = .emptyFlow := by
  -- Each lap hands over a step in a flow, so what holds of one step holds of the last one.
  induction left generalizing st w with
  | zero =>
    obtain ⟨-, hends⟩ := step_ends hb hl hh h
    obtain rfl : b.lap actor (b.stepAlone actor st) w = l := Option.some.inj hlast
    cases ha : (b.lap actor (b.stepAlone actor st) w).arrival? with
    | none => exact hends ha ho
    | some a =>
      rw [Lap.outcome, Lap.landing_of_arrival ha] at ho
      cases ho
  | succ left ih =>
    obtain ⟨hgoes, hends⟩ := step_ends hb hl hh h
    cases ha : (b.lap actor (b.stepAlone actor st) w).arrival? with
    | none =>
      rw [laps_of_rest ha] at hlast
      obtain rfl : b.lap actor (b.stepAlone actor st) w = l := Option.some.inj hlast
      exact hends ha ho
    | some a =>
      rw [laps_of_arrival ha, List.getLast?_cons_of_ne_nil (laps_ne_nil left)] at hlast
      exact ih (hgoes a ha) hlast

/-- Where handlers do nothing, an event that is ignored leaves nothing behind, unless it comes to a
flow without steps. -/
private theorem laps_event_spared (left : Nat) {e : Event} (he : e.IsOrdinary)
    (hs : Sane actor w.scene) {l : Lap}
    (hlast : (b.laps actor left (b.eventAlone actor e) w).getLast? = some l)
    (ho : l.outcome.status = .ignored) (hne : l.outcome.reason ≠ .emptyFlow) :
    Spared actor w l.world l.outcome := by
  obtain ⟨hgoes, hends⟩ := lap_ends hb hl fun q v hon =>
    ((bears_sane_of_throws hh).leads_eventAlone he).of_ok hs hon
  cases ha : (b.lap actor (b.eventAlone actor e) w).arrival? with
  | none =>
    rw [laps_of_rest ha] at hlast
    obtain rfl : b.lap actor (b.eventAlone actor e) w = l := Option.some.inj hlast
    obtain ⟨q, v, hon, hv, hq⟩ := hends ha ho hne
    rcases eventAlone_settles hs hon with hsettles | ⟨rfl, rfl⟩
    · rcases hq with rfl | ⟨rfl, hnot⟩
      · exact (hsettles ho).unmoved_right hv
      · exact absurd hsettles hnot
    · exact .unmoved hv
  | some a =>
    cases left with
    | zero =>
      obtain rfl : b.lap actor (b.eventAlone actor e) w = l := Option.some.inj hlast
      rw [Lap.outcome, Lap.landing_of_arrival ha] at ho
      cases ho
    | succ left =>
      rw [laps_of_arrival ha, List.getLast?_cons_of_ne_nil (laps_ne_nil left)] at hlast
      exact absurd (laps_step_ignored hb hl hh left (hgoes a ha) hlast ho) hne

end Laps

/-- The same bot with handlers that do other work. -/
def doing (b : Bot) (runs : String → Int → Option Value → Turn Reply) : Bot :=
  { b with handlers := b.handlers.doing runs }

/-- An event for which no handler is called: it goes the same, whatever the handlers do. -/
def Unaided (b : Bot) (actor : Int) (e : Event) (w : World) : Prop :=
  ∀ runs, on ((b.doing runs).handle actor e) w = on (b.handle actor e) w

/-- An event that leads nowhere: the actor, the flow, the chat or the step is not there. -/
def Misdirected (b : Bot) (actor : Int) (w : World) : Event → Prop
  | .startFlow flow => b.catalog.flow? flow = none ∨ w.store.context? w.now actor = none
  | .startTopicFlow _ flow _ chat => b.catalog.flow? flow = none ∨
    ∀ c, w.store.context? w.now actor = some c →
      chat = .null ∧ b.adminChat = none ∧ c.adminChatId = none
  | .goToStep place => ∀ c, w.store.context? w.now actor = some c → c.currentFlow ≠ "" →
    ∀ f, b.catalog.flow? c.currentFlow = some f → f.locate place = none
  | _ => False

section
variable {b : Bot} {actor : Int} {w v : World} {e : Event}

/-- An event that no handler is called for spares the store if it is ignored, unless it came to a
flow without steps. -/
private theorem spared_of_ignored (hb : b.catalog.Built) (hl : b.Legible) (hs : Sane actor w.scene)
    (he : e.IsOrdinary) (hunaided : b.Unaided actor e w) {o : Outcome}
    (hon : on (b.handle actor e) w = (.ok o, v)) (ho : o.status = .ignored)
    (hne : o.reason ≠ .emptyFlow) : Spared actor w v o := by
  -- No handler is called, so the event goes as with handlers that come to nothing.
  have hnothing (name : String) (h : Handler)
      (hvalue : Table.value? (b.doing Handlers.idle).handlers name = some h)
      (actor : Int) (payload : Option Value) : ∃ f, h.run actor payload = throw f := by
    obtain ⟨g, -, rfl⟩ := Handlers.value?_doing Handlers.idle hvalue
    exact ⟨_, rfl⟩
  obtain ⟨l, hlast⟩ := exists_lastLap (b := b.doing Handlers.idle) (w := w)
    b.chainLimit.toNat
  obtain ⟨ns, hend⟩ := on_handle hlast
  obtain ⟨hout, rfl⟩ := Prod.mk.inj (hon.symm.trans ((hunaided _).symm.trans hend))
  obtain rfl : o = l.outcome := Except.ok.inj hout
  have hspared := laps_event_spared (b := b.doing Handlers.idle) hb
    ⟨hl.adminChat, hl.steps⟩ hnothing _ he hs hlast ho hne
  exact hspared.unmoved_right ⟨rfl, rfl, rfl⟩

/-- An event that leads nowhere fails and does nothing. -/
private theorem misdirected_fails (hs : w.scene.Reliable) (h : b.Misdirected actor w e) :
    ∃ r v, on (b.handle actor e) w = (.ok (.failed r), v) ∧ w.Unmoved v := by
  obtain ⟨u, hget, hu, -⟩ := Contexts.exists_get hs actor
  -- What is left to do is to report the failure.
  have hfail {n : Notice} {r : Reason} {u : World} (hu : w.Unmoved u)
      (hreact : on (b.react actor e) w = on (fail n r) u) :
      ∃ r v, on (b.handle actor e) w = (.ok (.failed r), v) ∧ w.Unmoved v := by
    refine ⟨r, { u with notices := u.notices ++ [n] }, ?_, hu.store, hu.sent, hu.outages⟩
    rw [handle, on_rescue, hreact]
    rfl
  cases e with
  | startFlow flow =>
    cases hf : b.catalog.flow? flow with
    | none =>
      refine hfail (.refl w) (n := .flowNotFound) (r := .flowNotFound) ?_
      simp only [react, start, hf]
    | some f =>
      have hc : w.store.context? w.now actor = none := h.resolve_left (hf ▸ Option.some_ne_none f)
      refine hfail hu (n := .startContextMissing) (r := .noContext) ?_
      simp only [react, start, hf, on_bind, hget, hc]
  | startTopicFlow topic flow target chat =>
    cases hf : b.catalog.flow? flow with
    | none =>
      refine hfail (.refl w) (n := .flowNotFound) (r := .flowNotFound) ?_
      simp only [react, startInTopic, hf]
    | some f =>
      have hchat := h.resolve_left (hf ▸ Option.some_ne_none f)
      cases hc : w.store.context? w.now actor with
      | none =>
        refine hfail hu (n := .adminContextMissing) (r := .adminContextMissing) ?_
        simp only [react, startInTopic, hf, on_bind, hget, hc]
      | some c =>
        obtain ⟨rfl, hadmin, hremembered⟩ := hchat c hc
        refine hfail hu (n := .adminChatMissing) (r := .adminChatMissing) ?_
        simp only [react, startInTopic, hf, on_bind, hget, hc, hadmin, hremembered]
        rfl
  | goToStep place =>
    cases hc : w.store.context? w.now actor with
    | none =>
      refine hfail hu (n := .noActiveFlow) (r := .noActiveFlow) ?_
      simp only [react, goTo, on_bind, hget, hc]
    | some c =>
      by_cases hidle : c.isIdle = true
      · refine hfail hu (n := .noActiveFlow) (r := .noActiveFlow) ?_
        simp only [react, goTo, on_bind, hget, hc, hidle, if_true]
      have hflow : c.currentFlow ≠ "" := fun hempty => hidle (by rw [Context.isIdle, hempty]; rfl)
      cases hf : b.catalog.flow? c.currentFlow with
      | none =>
        refine hfail hu (n := .flowNotFound) (r := .flowNotFound) ?_
        simp only [react, goTo, on_bind, hget, hc, hidle, hf]
        rfl
      | some f =>
        have hnowhere : f.locate place = none := h c hc hflow f hf
        refine hfail hu (n := .stepNotFound) (r := .stepNotFound) ?_
        simp only [react, goTo, on_bind, hget, hc, hidle, hf, hnowhere]
        rfl
  | completeFlow | executeStep | message | topicMessage | press | topicPress => exact h.elim

end

/-- An answer that does not meet its rule is refused with one message, whichever bot it is. -/
theorem exists_unaccepted {actor : Int} {w : World} (hs : w.scene.Reliable)
    (hchannel : ∀ t n, w.outages.channel t n = none) {c : Context} {m : WaitMarker}
    {rule : Validation} (hc : w.store.context? w.now actor = some c)
    (hm : c.waitMarker.1 = some m) (hrule : m.validation = some rule) {text : String}
    (hno : (rule.accepts text).1 = false) :
    ∃ v, (∀ b : Bot, on (b.handle actor (.message text)) w =
        (.ok (.ignored .validationFailed), v)) ∧
      v.sent = w.sent ++ [{ destination := Destination.ofContext c, text := refusal rule }] := by
  obtain ⟨u, hget, hu, -⟩ := Contexts.exists_get hs actor
  obtain ⟨v, hv, hsent⟩ := exists_delivered { u with
    notices := u.notices ++ c.waitMarker.2 ++ (rule.accepts text).2 }
    (hu.outages ▸ hchannel) (Destination.ofContext c) (refusal rule)
  refine ⟨v, ?_, hsent.trans (congrArg (· ++ _) hu.sent)⟩
  intro b
  simp only [handle, react, takeAnswer, on_rescue, on_bind, hget, hc, on_noted, hm, hrule, hno,
    Bool.false_eq_true, if_false, hv]
  rfl

def yearsOld : Step.Question where
  text := "Your age?"
  saveTo := "human.age"
  validation := some { kind := "number" }

/-- The age was asked for, and only a number is accepted. -/
def demanding : World := keeping (awaiting "interview" (markerOf (some "age") yearsOld))

/-- The interview with a handler that no step calls. -/
def clerk : Bot :=
  { interviewer with handlers := [("file", ⟨.anything, fun _ _ => return .value .null⟩)] }

end Bot

end Dialogue
