import Dialogue.Proofs.Bot.Modes
import Dialogue.Proofs.Context.Positions

/-! Which question is awaited. A marker is armed by the step that an actor is at, and stays with it
as long as no step is entered in between. Going to a step does not disarm it. -/
namespace Dialogue

namespace WaitMarker

theorem truthy_stored (w : WaitMarker) : w.stored.truthy = true := by
  obtain ⟨id, saveTo, validation, next⟩ := w
  rcases id with _ | id <;> rcases validation with _ | ⟨kind, pattern, message⟩ <;>
    rcases next with _ | ⟨n⟩ | ⟨s⟩ <;> rfl

end WaitMarker

theorem Context.waitMarker_of_stored {c : Context} {w : WaitMarker} (h : c.rawMarker = w.stored) :
    c.waitMarker.1 = some w := by
  rw [waitMarker, h, WaitMarker.truthy_stored, if_pos rfl, WaitMarker.read_stored]
  rfl

namespace Catalog
variable {k : Catalog} {c d : Context}

/-- What is kept of a question while its answer is awaited, when the question is a step of a flow.
-/
def AsksAt (k : Catalog) (flow : String) (step : Int) (m : Value) : Prop :=
  ∃ f s q, k.flow? flow = some f ∧ f.stepAt? step = some s ∧ s.work = .question q ∧
    m = (Bot.markerOf s.id q).stored

/-- Only the question of the current step is awaited, and nothing else stands under the bot's own
key. -/
def Faces (k : Catalog) (c : Context) : Prop := c.Reserves (k.AsksAt c.currentFlow c.currentStep)

theorem AsksAt.kept {flow : String} {step : Int} (m : Value) (h : k.AsksAt flow step m) :
    m.kept = m := by
  obtain ⟨f, s, q, -, -, -, rfl⟩ := h
  exact WaitMarker.kept_stored _

theorem Faces.kept (h : k.Faces c) (hn : (Table.keys c.data).Nodup) (hstep : c.stepSound = true) :
    k.Faces c.kept := by
  have hkept := Context.Reserves.kept h hn AsksAt.kept
  by_cases hr : c.isReadable = true
  · have hsettled : c.settled.stepSound = true := hstep
    have hflow : c.kept.currentFlow = c.currentFlow := by
      rw [Context.kept, if_pos hr, Context.repair_eq]
      rfl
    have hstep : c.kept.currentStep = c.currentStep := by
      rw [Context.kept, if_pos hr, Context.repair_eq]
      simp only [hsettled, if_true]
      rfl
    rwa [Faces, hflow, hstep]
  · rw [Context.kept, if_neg hr]
    exact Context.reserves_fresh _ _

/-- Nothing is awaited: that is so in any flow and at any step. -/
theorem Faces.of_none (h : c.Reserves fun _ => False) : k.Faces c := h.mono fun _ hm => hm.elim

/-- The marker that is awaited is that of the current step. -/
theorem Faces.waitMarker (h : k.Faces c) {w : WaitMarker} (hw : c.waitMarker.1 = some w) :
    ∃ f s q, k.flow? c.currentFlow = some f ∧ f.stepAt? c.currentStep = some s ∧
      s.work = .question q ∧ w = Bot.markerOf s.id q := by
  rcases Context.Reserves.rawMarker h with hnull | ⟨f, s, q, hf, hs, hq, hm⟩
  · rw [Context.waitMarker, hnull] at hw
    cases hw
  · refine ⟨f, s, q, hf, hs, hq, ?_⟩
    rw [Context.waitMarker_of_stored hm] at hw
    exact (Option.some.inj hw).symm

/-- Without an armed marker nothing is awaited. -/
theorem rawMarker_of_unarmed {flow : String} {step : Int} (h : c.Reserves (k.AsksAt flow step))
    (hw : c.waitMarker.1 = none) : c.rawMarker = .null := by
  rcases Context.Reserves.rawMarker h with hnull | ⟨f, s, q, -, -, -, hm⟩
  · exact hnull
  · rw [Context.waitMarker_of_stored hm] at hw
    cases hw

end Catalog

/-- When a flow has begun, nothing is awaited any more. -/
theorem Bot.Begins.reserves {k : Catalog} {name : String} {c d : Context} (h : Begins name c d)
    (hc : c.Tidy) (hk : k.Faces c) : d.Reserves fun _ => False := by
  cases h with
  | ownChat =>
    exact Context.Reserves.disarmed hk Catalog.AsksAt.kept
      (fun L hL h => h.revised hc.nodup hL rfl) (Context.revised_tidy ..).nodup
  | topic =>
    refine Context.Reserves.disarmed hk Catalog.AsksAt.kept (fun L hL h => ?_)
      (Context.aimed_tidy (Context.revised_tidy ..) _).nodup
    exact (h.revised hc.nodup hL rfl).aimed (Context.revised_tidy ..).nodup hL _

namespace Bot
open Turn

/-- In the contexts of all actors only the question of the current step is awaited. -/
def Heeds (k : Catalog) (s : Store) : Prop :=
  ∀ now a c, s.context? now a = some c → c.Tidy ∧ k.Faces c

/-- The store works, and all contexts heed their questions. -/
def Attends (k : Catalog) (s : Scene) : Prop := s.Reliable ∧ Heeds k s.store

/-- The actor is at a step of a flow, unless what is written for the actor is lost anyway. -/
def AtStep (k : Catalog) (actor : Int) (st : Step) (s : Scene) : Prop :=
  ∃ c f, s.context? actor = some c ∧ (c.hasReadableId = true →
    k.flow? c.currentFlow = some f ∧ f.stepAt? c.currentStep = some st)

section
variable {b : Bot} {k : Catalog} {s t : Scene} {actor : Int} {c d : Context}

theorem Attends.known (h : Attends k s) (hc : s.context? actor = some c) : c.Tidy ∧ k.Faces c :=
  h.2 s.now actor c hc

theorem Attends.rewritten (h : Attends k s) (hd : d.Tidy) (hk : k.Faces d)
    (ht : s.Rewritten t actor d) : Attends k t := by
  refine ⟨ht.reliable h.1, fun now a e he => ?_⟩
  by_cases ha : a = actor
  · subst ha
    rw [ht.own] at he
    rw [← Option.some.inj he]
    exact ⟨hd, hk⟩
  · rw [ht.others now ha] at he
    exact h.2 now a e he

theorem Attends.written (h : Attends k s) (hc : s.context? actor = some c) {p : Path}
    (hp : ¬ p.IsSystem) {v : Value} (ht : s.Rewritten t actor (c.written p v)) : Attends k t := by
  obtain ⟨htidy, hfaces⟩ := h.known hc
  have hset : k.Faces (c.setData p v) := Context.Reserves.setData hfaces hp v
  exact h.rewritten (Context.kept_tidy _)
    (hset.kept (Path.nodup_keys_set htidy.nodup p v) htidy.sound.2) ht

theorem Attends.edited (h : Attends k s) (ht : s.Edited Context.Noted t) : Attends k t := by
  induction ht with
  | refl => exact h
  | edit _ hc hd hu ih =>
    obtain ⟨p, v, hp, rfl⟩ := hd
    exact ih.written hc hp hu

/-- What is done alone neither arms a question nor points at another. -/
theorem bears_attends (hg : b.Guarded)
    (hh : ∀ name h, Table.value? b.handlers name = some h → h.Edits Context.Noted) :
    b.Bears (fun p _ => ¬ p.IsSystem) (Attends b.catalog) where
  reliable h := h.1
  write h hc hp ht := h.written hc hp ht
  disarm {s t actor c} h hc ht := by
    obtain ⟨htidy, hfaces⟩ := h.known hc
    have hset : b.catalog.Faces (c.setData WaitMarker.path .null) :=
      Context.Reserves.setMarker hfaces (.inl rfl)
    exact h.rewritten (Context.kept_tidy _)
      (hset.kept (Path.nodup_keys_set htidy.nodup _ _) htidy.sound.2) ht
  relay {s t actor c st on next} _ _ h hc ht := by
    obtain ⟨htidy, hfaces⟩ := h.known hc
    have hsound : ({ c with forwarding := on } : Context).Sound := htidy.sound
    have hchanged : b.catalog.Faces { c with forwarding := on } := hfaces
    refine h.rewritten (Context.revised_tidy ..) ?_ ht
    rw [Context.revised, Context.repair_of_sound hsound]
    exact hchanged.kept htidy.nodup htidy.sound.2
  call _ _ _ h := h
  handler actor payload hh' := Leads.at_each fun s hs =>
    (hh _ _ hh' actor payload s hs.1).mono (fun _ _ ht => hs.edited ht) fun _ ht => hs.edited ht
  answer text h hc hw := by
    obtain ⟨f, st, q, hf, hst, hq, rfl⟩ := (h.known hc).2.waitMarker hw
    exact not_isSystem (hg.question st q ⟨_, f, hf, Flow.mem_of_stepAt? hst⟩ hq)
  menu _ hs hm := not_isSystem (hg.menu _ _ hs hm)
  action ha hp := not_isSystem (hg.action _ _ _ ha hp)
  other hp _ := hp

/-- The work of the step that the actor is at arms no question but its own. -/
theorem leads_stepAlone_attends (hg : b.Guarded)
    (hh : ∀ name h, Table.value? b.handlers name = some h → h.Edits Context.Noted) {st : Step}
    (hst : b.catalog.HasStep st) :
    Leads (fun s => Attends b.catalog s ∧ AtStep b.catalog actor st s) (b.stepAlone actor st)
      (fun q t => Attends b.catalog t ∧ q.IsOrdinary) (Attends b.catalog) := by
  have hbears := bears_attends hg hh
  refine Leads.at_each fun s hs => (Contexts.leads_get hs.1.1).bind fun o => ?_
  have hsame (t : Scene) (ht : t = s ∧ o = s.context? actor) :
      Attends b.catalog t ∧ AtStep b.catalog actor st t := ht.1 ▸ hs
  split
  · exact Leads.pure fun t ht => ⟨(hsame t ht).1, trivial⟩
  · refine Leads.pre ?_ hsame
    refine hbears.leads_workAlone hst (fun t ht => ht.1) ?_ _
    intro q s t c hq hs hc ht
    obtain ⟨hattends, d, f, hd, hplace⟩ := hs
    obtain rfl : d = c := Option.some.inj (hd.symm.trans hc)
    obtain ⟨htidy, hfaces⟩ := hattends.known hc
    refine hattends.rewritten (Context.kept_tidy _) ?_ ht
    cases hid : d.hasReadableId with
    | true =>
      obtain ⟨hf, hst⟩ := hplace hid
      have hset : b.catalog.Faces (d.setData WaitMarker.path (markerOf st.id q).stored) :=
        Context.Reserves.setMarker hfaces (.inr ⟨f, st, q, hf, hst, hq, rfl⟩)
      exact hset.kept (Path.nodup_keys_set htidy.nodup _ _) htidy.sound.2
    | false =>
      have hlost : (d.setData WaitMarker.path (markerOf st.id q).stored).kept =
          Context.fresh d.externalId d.humanId := Context.kept_of_unreadableId hid
      rw [hlost]
      exact Context.reserves_fresh _ _

/-- After a step was entered the actor is at that step. -/
theorem atStep_entered (hb : b.catalog.Built) (hl : b.Legible) {name : String} {f : Flow} {i : Nat}
    {st : Step} (hf : b.catalog.flow? name = some f) (hst : f.steps[i]? = some st) (hd : d.Tidy)
    (hname : d.hasReadableId = true → d.currentFlow = name)
    (ht : s.Rewritten t actor (d.visit f.name i s.now).kept) :
    AtStep b.catalog actor st t := by
  refine ⟨_, f, ht.context?, fun hid => ?_⟩
  have hid' : d.hasReadableId = true :=
    (Context.hasReadableId_kept (d.visit f.name i s.now)).symm.trans hid
  have hflow : d.currentFlow ≠ "" := by
    intro hidle
    rw [← hname hid', hidle, hb.flow?_empty] at hf
    cases hf
  have hindex : Decimal.isReadable i = true :=
    Decimal.isReadable_of_lt (hl.steps name f hf) (List.getElem?_eq_some_iff.mp hst).1
  have hposition := Context.position_visit hid' hd hflow f.name hindex s.now
  have hsame : (d.visit f.name i s.now).kept.currentFlow = d.currentFlow :=
    congrArg Position.flow hposition
  have hstep : (d.visit f.name i s.now).kept.currentStep = i := congrArg Position.step hposition
  rw [hsame, hname hid', hstep, Flow.stepAt?_natCast]
  exact ⟨hf, hst⟩

/-- Where a sequel leads, nothing is awaited that an actor has left, unless a step was entered while
a marker was armed. -/
theorem lands_attends (hb : b.catalog.Built) (hl : b.Legible) {r : Outcome ⊕ Arrival}
    (hs : Attends b.catalog s) (h : b.Lands actor s r t)
    (hcalm : ∀ a c, r = .inr a → t.context? actor = some c → c.waitMarker.1 = none) :
    Attends b.catalog t ∧ ∀ a, r = .inr a → AtStep b.catalog actor a.step t := by
  cases h with
  | stay o => exact ⟨hs, fun a ha => nomatch ha⟩
  | @finish o c t hc ht =>
    obtain ⟨htidy, hfaces⟩ := hs.known hc
    have hended : ((c.revised (·.ended)).disarmed c.rawMarker).Reserves fun _ => False :=
      Context.Reserves.disarmed hfaces Catalog.AsksAt.kept
        (fun L hL h => h.revised htidy.nodup hL rfl) (Context.revised_tidy ..).nodup
    exact ⟨hs.rewritten (Context.disarmed_tidy (Context.revised_tidy ..) _) (.of_none hended) ht,
      fun a ha => nomatch ha⟩
  | @blank o name f c d t hc hf hsteps hd ht =>
    obtain ⟨htidy, hfaces⟩ := hs.known hc
    exact ⟨hs.rewritten hd.tidy (.of_none (hd.reserves htidy hfaces)) ht, fun a ha => nomatch ha⟩
  | @first name f st c d u t hc hf hst hd hu ht =>
    obtain ⟨htidy, hfaces⟩ := hs.known hc
    have hnone : (d.visit f.name (0 : Nat) u.now).kept.Reserves fun _ => False :=
      Context.Reserves.kept (c := d.visit f.name (0 : Nat) u.now) (hd.reserves htidy hfaces)
        hd.tidy.nodup fun _ hm => hm.elim
    refine ⟨hs.rewritten (Context.kept_tidy _) (.of_none hnone) (hu.trans ht), fun a ha => ?_⟩
    rw [← Sum.inr.inj ha]
    refine atStep_entered hb hl hf hst hd.tidy (fun hid => ?_) ht
    exact hd.currentFlow (hd.hasReadableId.symm.trans hid) htidy
  | @jump f i st c t hc hf hst ht =>
    obtain ⟨htidy, hfaces⟩ := hs.known hc
    have hkept : (c.visit f.name i s.now).kept.Reserves
        (b.catalog.AsksAt c.currentFlow c.currentStep) :=
      Context.Reserves.kept (c := c.visit f.name i s.now) hfaces htidy.nodup Catalog.AsksAt.kept
    have hunarmed := hcalm _ _ rfl ht.context?
    have hnone : (c.visit f.name i s.now).kept.Reserves fun _ => False :=
      hkept.of_rawMarker (Catalog.rawMarker_of_unarmed hkept hunarmed)
    refine ⟨hs.rewritten (Context.kept_tidy _) (.of_none hnone) ht, fun a ha => ?_⟩
    rw [← Sum.inr.inj ha]
    exact atStep_entered hb hl hf hst htidy (fun _ => rfl) ht

end

/-- No step is entered by laps while an answer is awaited. -/
def Calm (actor : Int) (ls : List Lap) : Prop :=
  ∀ l ∈ ls, ∀ a c, l.arrival? = some a → l.world.scene.context? actor = some c →
    c.waitMarker.1 = none

/-- In laps that enter no step while an answer is awaited, nothing else is ever awaited. -/
theorem attends_laps {b : Bot} {actor : Int} {alone : Turn Sequel} {P : Scene → Prop} {w : World}
    (hb : b.catalog.Built) (hl : b.Legible) (hg : b.Guarded)
    (hh : ∀ name h, Table.value? b.handlers name = some h → h.Edits Context.Noted) (left : Nat)
    (halone : Leads P alone (fun q t => Attends b.catalog t ∧ q.IsOrdinary) (Attends b.catalog))
    (hw : P w.scene) (hcalm : Calm actor (b.laps actor left alone w)) :
    ∀ l ∈ b.laps actor left alone w, Attends b.catalog l.world.scene := by
  refine laps_keep actor hl (fun _ hs => hs.1) (fun _ _ hs hc => (hs.known hc).1)
    (fun a ha => leads_stepAlone_attends hg hh ha) left halone hw fun l hmem r s hr hs hto => ?_
  refine lands_attends hb hl hs hto fun a c ha hc => hcalm l hmem a c ?_ hc
  rw [Lap.arrival?, hr, ha]

/-- Worlds that a run can lead to in which no step is entered while an answer is awaited. -/
inductive ReachesCalmly (b : Bot) (w₀ : World) : World → Prop
  | start : b.ReachesCalmly w₀ w₀
  | event {w : World} (h : b.ReachesCalmly w₀ w) (actor : Int) (e : Event) (he : e.IsOrdinary)
    (now : String) (outages : Outages) (hstore : ∀ t n, outages.store t n = none)
    (hcalm : Calm actor (b.eventLaps actor e { w with now, outages })) :
    b.ReachesCalmly w₀ (b.after actor e now outages w)

section
variable {b : Bot} {w₀ w : World}

theorem ReachesCalmly.heeds (hb : b.catalog.Built) (hl : b.Legible) (hg : b.Guarded)
    (hh : ∀ name h, Table.value? b.handlers name = some h → h.Edits Context.Noted)
    (hblank : w₀.Blank) (h : b.ReachesCalmly w₀ w) : Heeds b.catalog w.store := by
  induction h with
  | start =>
    intro now a c hc
    obtain ⟨human, rfl⟩ := Store.context?_blank hblank hc
    exact ⟨Context.fresh_tidy .., Context.reserves_fresh _ _⟩
  | @event w _ actor e he now outages hstore hcalm ih =>
    have halone : Leads (Attends b.catalog) (b.eventAlone actor e)
        (fun q t => Attends b.catalog t ∧ q.IsOrdinary) (Attends b.catalog) :=
      (bears_attends hg hh).leads_eventAlone he
    have hattends : Attends b.catalog ({ w with now, outages } : World).scene := ⟨hstore, ih⟩
    obtain ⟨l, hlast⟩ := @exists_lastLap b actor (b.eventAlone actor e) { w with now, outages }
      b.chainLimit.toNat
    have hafter := attends_laps hb hl hg hh b.chainLimit.toNat halone hattends hcalm l
      (List.mem_of_getLast? hlast)
    obtain ⟨ns, hon⟩ := on_handle hlast
    rw [after, hon]
    exact hafter.2

/-- As long as no step is entered while an answer is awaited, an armed marker is that of the current
step, which is a question. -/
theorem awaited_of_reachesCalmly (hb : b.catalog.Built) (hl : b.Legible) (hg : b.Guarded)
    (hh : ∀ name h, Table.value? b.handlers name = some h → h.Edits Context.Noted)
    (hblank : w₀.Blank) (h : b.ReachesCalmly w₀ w) {now : String} {actor : Int} {c : Context}
    {m : WaitMarker} (hc : w.store.context? now actor = some c) (hm : c.waitMarker.1 = some m) :
    ∃ f s q, b.catalog.flow? c.currentFlow = some f ∧ f.stepAt? c.currentStep = some s ∧
      s.work = .question q ∧ m = markerOf s.id q :=
  (h.heeds hb hl hg hh hblank now actor c hc).2.waitMarker hm

end

section
variable {b : Bot} {actor : Int} {s : Scene} {c : Context}

theorem leads_stepAlone_question (hs : s.Reliable) (hc : s.context? actor = some c)
    (id : Option String) (q : Step.Question) :
    Leads (· = s) (b.stepAlone actor ⟨id, .question q⟩)
      (fun r t => (∃ o, r = .rest o) ∧
        s.Rewritten t actor (c.written WaitMarker.path (markerOf id q).stored))
      (fun t => s.Rewritten t actor (c.written WaitMarker.path (markerOf id q).stored)) := by
  refine (Contexts.leads_get hs).bind fun o => Leads.given fun ho => ?_
  rw [ho, hc]
  refine Leads.map ((Contexts.leads_setVariable hs hc _ _).bind fun _ => ?_)
  exact (Leads.quiet (Quiet.deliver _ _ _)).bind fun _ => Leads.pure fun _ ht => ⟨⟨_, rfl⟩, ht⟩

theorem leads_stepAlone_choice (hs : s.Reliable) (hc : s.context? actor = some c)
    (id : Option String) (k : Step.Choice) :
    Leads (· = s) (b.stepAlone actor ⟨id, .choice k⟩) (fun r t => (∃ o, r = .rest o) ∧ t = s)
      (· = s) := by
  refine (Contexts.leads_get hs).bind fun o => Leads.given fun ho => ?_
  rw [ho, hc]
  exact Leads.map ((Leads.quiet (quiet_offer _ _ _)).post fun _ _ ht => ⟨⟨_, rfl⟩, ht⟩)

/-- An event that enters a step at which it rests. -/
theorem eventLaps_of_entered {e : Event} {q : Sequel} {a : Arrival} {T Q : Scene → Prop} {w : World}
    (he : b.eventAlone actor e = pure q) (hlimit : 0 < b.chainLimit)
    (hreach : Leads (· = w.scene) (b.reach actor q) (fun r t => r = .inr a ∧ T t) fun _ => False)
    (hstep : Leads T (b.stepAlone actor a.step) (fun q t => (∃ o, q = .rest o) ∧ Q t) Q) :
    ∃ l l', b.eventLaps actor e w = [l, l'] ∧ T l.world.scene ∧ l'.arrival? = none ∧
      (∀ q, l'.sequel = some q → ∃ o, q = .rest o) ∧ Q l'.world.scene := by
  obtain ⟨left, hleft⟩ : ∃ left, b.chainLimit.toNat = left + 1 :=
    Nat.exists_eq_succ_of_ne_zero (by omega)
  have hgiven : Leads (· = w.scene) (pure q : Turn Sequel) (fun r s => s = w.scene ∧ r = q)
      fun _ => False := Leads.pure fun _ hs => ⟨hs, rfl⟩
  have hfirst := leads_lap hgiven (fun r => Leads.given fun hr => hr ▸ hreach) rfl
  rw [eventLaps, he, hleft]
  generalize hl : b.lap actor (pure q) w = l at hfirst
  obtain ⟨f, -, hfalse⟩ | ⟨r, hr, rfl, hT⟩ := hfirst
  · exact hfalse.elim
  have ha : l.arrival? = some a := by rw [Lap.arrival?, hr]
  have hstay (r : Sequel) : Leads (fun s => (∃ o, r = .rest o) ∧ Q s) (b.reach actor r)
      (fun r t => (∃ o, r = .inl o) ∧ Q t) Q := by
    refine Leads.at_each fun s hs => ?_
    obtain ⟨⟨o, ho⟩, hs⟩ := hs
    rw [ho]
    exact Leads.pure fun t ht => ⟨⟨o, rfl⟩, ht ▸ hs⟩
  have hrest := leads_lap hstep hstay hT
  have hend : (b.lap actor (b.stepAlone actor a.step) l.world).arrival? = none ∧
      Q (b.lap actor (b.stepAlone actor a.step) l.world).world.scene := by
    obtain ⟨f, hf, hQ⟩ | ⟨r, hr, ⟨o, rfl⟩, hQ⟩ := hrest
    · exact ⟨by rw [Lap.arrival?, hf], hQ⟩
    · exact ⟨by rw [Lap.arrival?, hr], hQ⟩
  refine ⟨l, b.lap actor (b.stepAlone actor a.step) l.world, ?_, hT, hend.1, fun r hr => ?_, hend.2⟩
  · rw [laps_of_arrival (hl ▸ ha), hl, laps_of_rest hend.1]
  · obtain ⟨_, hresting, -⟩ := sequel_of_leads hstep hT hr
    exact hresting

theorem scene_handle_of_entered {e : Event} {l l' : Lap} {w : World}
    (h : b.eventLaps actor e w = [l, l']) : (on (b.handle actor e) w).2.scene = l'.world.scene := by
  have hlast : (b.eventLaps actor e w).getLast? = some l' := by rw [h]; rfl
  obtain ⟨ns, hon⟩ := on_handle hlast
  rw [hon]
  rfl

theorem context?_after {e : Event} {l l' : Lap} {w : World} {now : String} {outages : Outages}
    (h : b.eventLaps actor e { w with now, outages } = [l, l'])
    (hl : s.Rewritten l'.world.scene actor c) :
    (b.after actor e now outages w).store.context? now actor = some c := by
  have hscene := scene_handle_of_entered h
  rw [← hscene] at hl
  exact hl.own now

section
variable {w : World} {now : String} {outages : Outages} {f : Flow} {id : Option String}
variable (hstore : ∀ t n, outages.store t n = none) (hc : w.store.context? now actor = some c)
  (hlimit : 0 < b.chainLimit)
include hstore hc hlimit

/-- A flow that begins with a question: its step is entered, and then the question is armed. -/
theorem eventLaps_startFlow_question {name : String} {q : Step.Question}
    (hf : b.catalog.flow? name = some f) (hst : f.steps[0]? = some ⟨id, .question q⟩) :
    ∃ l l' d, b.eventLaps actor (.startFlow name) { w with now, outages } = [l, l'] ∧
      d = (((c.revised (·.began name)).disarmed c.rawMarker).visit f.name (0 : Nat) now).kept ∧
      l.world.scene.context? actor = some d ∧ l'.arrival? = none ∧
      (∀ q, l'.sequel = some q → ∃ o, q = .rest o) ∧
      ({ w with now, outages } : World).scene.Rewritten l'.world.scene actor
        (d.written WaitMarker.path (markerOf id q).stored) := by
  have hs : ({ w with now, outages } : World).scene.Reliable := hstore
  obtain ⟨l, l', hlaps, hl, hend, hrests, hl'⟩ :=
    eventLaps_of_entered (e := .startFlow name) rfl hlimit
    (leads_reach_start hs hc hf hst)
    (Leads.at_each fun t ht => (leads_stepAlone_question (ht.reliable hs) ht.context? id q).mono
      (fun _ _ hu => ⟨hu.1, ht.trans hu.2⟩) fun _ hu => ht.trans hu)
  exact ⟨l, l', _, hlaps, rfl, hl.context?, hend, hrests, hl'⟩

/-- Going to a step that offers a choice moves the actor, and changes nothing else. -/
theorem context?_after_goTo_choice {place : Value} {i : Nat} {k : Step.Choice}
    (hidle : c.isIdle = false) (hf : b.catalog.flow? c.currentFlow = some f)
    (hplace : f.locate place = some i) (hst : f.steps[i]? = some ⟨id, .choice k⟩) :
    (b.after actor (.goToStep place) now outages w).store.context? now actor =
      some (c.visit f.name i now).kept := by
  have hs : ({ w with now, outages } : World).scene.Reliable := hstore
  obtain ⟨l, l', hlaps, -, -, -, hl'⟩ := eventLaps_of_entered (e := .goToStep place) rfl hlimit
    (leads_reach_goTo hs hc hidle hf hplace hst)
    (Leads.at_each fun t ht => (leads_stepAlone_choice (ht.reliable hs) ht.context? id k).mono
      (fun _ _ hu => ⟨hu.1, hu.2 ▸ ht⟩) fun _ hu => hu ▸ ht)
  exact context?_after hlaps hl'

end

end

/-- A question for a name. -/
def nameQuestion : Step :=
  { id := some "name", work := .question { text := "Your name?", saveTo := "human.name" } }

def sizeChoice : Step := { work := .choice { buttons := [⟨"Small", .int 1, none, none, none⟩] } }

def survey : Flow := { name := "survey", steps := [nameQuestion, sizeChoice] }

/-- A bot that asks for a name and then offers a choice. -/
def surveyor : Bot where
  catalog := { flows := [("survey", survey)], frozen := true }

/-- The name was asked for. -/
def asked : World := surveyor.after 1 (.startFlow "survey") "" {} .reception

/-- The bot went on to the choice before there was an answer. -/
def passed : World := surveyor.after 1 (.goToStep (.int 1)) "" {} asked

private theorem flow?_surveyor {name : String} {f : Flow}
    (h : surveyor.catalog.flow? name = some f) : f = survey :=
  (Table.eq_of_value?_singleton h).2

private theorem step_surveyor {s : Step} (h : surveyor.catalog.HasStep s) :
    s = nameQuestion ∨ s = sizeChoice := by
  obtain ⟨name, f, hf, hs⟩ := h
  rw [flow?_surveyor hf] at hs
  exact (List.mem_cons.mp hs).imp_right List.mem_singleton.mp

theorem surveyor_built : surveyor.catalog.Built :=
  .freeze (k := { flows := [("survey", survey)] }) (.flow (f := survey) .empty rfl)

theorem surveyor_legible : surveyor.Legible where
  adminChat := rfl
  steps name f hf := by
    rw [flow?_surveyor hf]
    decide

theorem surveyor_guarded : surveyor.Guarded where
  question s q hs hq := by
    rcases step_surveyor hs with rfl | rfl <;> cases hq
    decide
  menu s m hs hm := by
    rcases step_surveyor hs with rfl | rfl <;> cases hm
  action payload a path ha := nomatch ha

/-- The actor at the question, before it was asked. -/
def entering : Context :=
  ((((Context.fresh 1 1).revised (·.began "survey")).disarmed (Context.fresh 1 1).rawMarker).visit
    survey.name (0 : Nat) "").kept

def nameMarker : WaitMarker := { stepId := some "name", saveTo := "human.name" }

def waiting : Context := entering.written WaitMarker.path nameMarker.stored

theorem waitMarker_waiting : waiting.waitMarker.1 = some nameMarker := by decide +kernel

theorem laps_asked : ∃ l l',
    surveyor.eventLaps 1 (.startFlow "survey") { World.reception with now := "", outages := {} } =
      [l, l'] ∧ l.world.scene.context? 1 = some entering ∧ l'.arrival? = none ∧
      (∀ q, l'.sequel = some q → ∃ o, q = .rest o) ∧
      World.reception.scene.Rewritten l'.world.scene 1 waiting := by
  have hc : World.reception.store.context? "" 1 = some (Context.fresh 1 1) := rfl
  have hf : surveyor.catalog.flow? "survey" = some survey := rfl
  have hst : survey.steps[0]? = some nameQuestion := rfl
  have hstore (t : StoreTask) (n : Nat) : ({} : Outages).store t n = none := rfl
  obtain ⟨l, l', d, hlaps, rfl, hl, hend, hrests, hl'⟩ :=
    eventLaps_startFlow_question hstore hc (by decide) hf hst
  exact ⟨l, l', hlaps, hl, hend, hrests, hl'⟩

theorem context_asked : asked.store.context? "" 1 = some waiting := by
  obtain ⟨l, l', hlaps, -, -, -, hl'⟩ := laps_asked
  exact context?_after hlaps hl'

private theorem calm_asked :
    Calm 1 (surveyor.eventLaps 1 (.startFlow "survey")
      { World.reception with now := "", outages := {} }) := by
  obtain ⟨k, k', hlaps, hk, hend, -, -⟩ := laps_asked
  intro l hl a c ha hc
  rw [hlaps] at hl
  rcases List.mem_cons.mp hl with rfl | hl
  · rw [hk] at hc
    have hnone : entering.waitMarker.1 = none := by decide +kernel
    rwa [← Option.some.inj hc]
  · rw [List.mem_singleton.mp hl, hend] at ha
    cases ha

/-- When the name was asked for, that question is awaited, and it is the current step. -/
theorem awaited_of_reachesCalmly_asked :
    surveyor.ReachesCalmly .reception asked ∧ ∃ c, asked.store.context? "" 1 = some c ∧
      c.waitMarker.1 = some nameMarker ∧ ∃ f s q, surveyor.catalog.flow? c.currentFlow = some f ∧
        f.stepAt? c.currentStep = some s ∧ s.work = .question q ∧
        nameMarker = markerOf s.id q := by
  have hreaches : surveyor.ReachesCalmly .reception asked :=
    .event .start 1 (.startFlow "survey") trivial "" {} (fun _ _ => rfl) calm_asked
  exact ⟨hreaches, waiting, context_asked, waitMarker_waiting,
    awaited_of_reachesCalmly surveyor_built surveyor_legible surveyor_guarded nofun
      World.reception_blank hreaches context_asked waitMarker_waiting⟩

/-- The actor at the choice, with the question still armed. -/
private def skipping : Context := (waiting.visit survey.name (1 : Nat) "").kept

private theorem context_passed : passed.store.context? "" 1 = some skipping := by
  have hflow : waiting.currentFlow = "survey" := by decide +kernel
  have hf : surveyor.catalog.flow? waiting.currentFlow = some survey := by rw [hflow]; rfl
  have hplace : survey.locate (.int 1) = some 1 := by decide
  have hst : survey.steps[1]? = some sizeChoice := rfl
  have hstore (t : StoreTask) (n : Nat) : ({} : Outages).store t n = none := rfl
  exact context?_after_goTo_choice hstore context_asked (by decide) (by decide +kernel) hf hplace
    hst

/-- Going to another step leaves the question armed: it is awaited at a step that asks nothing. -/
theorem passed_awaits : surveyor.handlers = [] ∧ surveyor.Reaches .reception passed ∧
    ∃ c, passed.store.context? "" 1 = some c ∧ c.waitMarker.1 = some nameMarker ∧
      ¬ ∃ f s q, surveyor.catalog.flow? c.currentFlow = some f ∧
        f.stepAt? c.currentStep = some s ∧ s.work = .question q ∧
        nameMarker = markerOf s.id q := by
  have hreaches : surveyor.Reaches .reception passed :=
    .event (.event .start 1 (.startFlow "survey") trivial "" {} fun _ _ => rfl) 1
      (.goToStep (.int 1)) trivial "" {} fun _ _ => rfl
  have hm : skipping.waitMarker.1 = some nameMarker := by decide +kernel
  refine ⟨rfl, hreaches, skipping, context_passed, hm, ?_⟩
  rintro ⟨f, s, q, hf, hs, hq, -⟩
  have hstep : skipping.currentStep = 1 := by decide +kernel
  rw [flow?_surveyor hf, hstep] at hs
  obtain rfl : sizeChoice = s := Option.some.inj hs
  cases hq

end Bot

end Dialogue
