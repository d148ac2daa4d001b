import Dialogue.Proofs.Bot.Modes
import Dialogue.Proofs.Context.Positions
import Mathlib.Logic.Function.Basic

/-! Where runs of a bot take its actors. Only sequels move an actor, and every step that is entered
is remembered. -/
namespace Dialogue

/-- What was forgotten before is forgotten all the same. -/
theorem rtake_rtake_append {α : Type} (l m : List α) (n : Nat) :
    (l.rtake n ++ m).rtake n = (l ++ m).rtake n := by
  have hmin : min (n - m.length) n = n - m.length := Nat.min_eq_left (Nat.sub_le _ _)
  simp only [List.rtake_eq_reverse_take_reverse, List.reverse_append, List.reverse_reverse,
    List.take_append, List.take_take, List.length_reverse, hmin]

namespace Context

/-- The data are replaced by other data, which can be read again if the old ones could. -/
def Jotted (c d : Context) : Prop :=
  ∃ data, (Value.readableFields c.data = true → Value.readableFields data = true) ∧
    d = { c with data := data }

end Context

namespace Bot
open Turn

/-- All numbers of the configuration that are written can be read again. -/
structure Lucid (b : Bot) : Prop extends Legible b where
  question : ∀ s q, b.catalog.HasStep s → s.work = .question q →
    (markerOf s.id q).stored.isReadable = true
  action : ∀ payload a, b.catalog.registered? payload = some (.action a) →
    a.value.isReadable = true

/-- The contexts of all actors are where a map says, and their numbers can be read. -/
def Seats (pos : Int → Position) (s : Store) : Prop :=
  ∀ now a c, s.context? now a = some c →
    c.Tidy ∧ c.hasReadableId = true ∧ c.position = pos a

def Stands (pos : Int → Position) (s : Scene) : Prop := s.Reliable ∧ Seats pos s.store

section
variable {b : Bot} {pos : Int → Position} {s t : Scene} {actor : Int} {c d : Context}

theorem Stands.known (h : Stands pos s) (hc : s.context? actor = some c) :
    c.Tidy ∧ c.hasReadableId = true ∧ c.position = pos actor := h.2 s.now actor c hc

theorem Stands.moved (h : Stands pos s) (hd : d.Tidy) (hid : d.hasReadableId = true)
    (ht : s.Rewritten t actor d) : Stands (Function.update pos actor d.position) t := by
  refine ⟨ht.reliable h.1, fun now a e he => ?_⟩
  by_cases ha : a = actor
  · subst ha
    rw [ht.own] at he
    rw [← Option.some.inj he, Function.update_self]
    exact ⟨hd, hid, rfl⟩
  · rw [ht.others now ha] at he
    rw [Function.update_of_ne ha]
    exact h.2 now a e he

theorem Stands.stayed (h : Stands pos s) (hc : s.context? actor = some c) (hd : d.Tidy)
    (hid : d.hasReadableId = true) (hsame : d.position = c.position)
    (ht : s.Rewritten t actor d) : Stands pos t := by
  have hmoved := h.moved hd hid ht
  rwa [hsame, (h.known hc).2.2, Function.update_eq_self] at hmoved

theorem Stands.edited (h : Stands pos s) (ht : s.Edited Context.Jotted t) : Stands pos t := by
  induction ht with
  | refl => exact h
  | @edit t u actor c d _ hc hd hu ih =>
    obtain ⟨data, hdata, rfl⟩ := hd
    obtain ⟨htidy, hid, -⟩ := ih.known hc
    obtain ⟨hstep, hold, hrest⟩ := Context.isLegible_iff.mp htidy.legible
    have hlegible : ({ c with data := data } : Context).isLegible = true :=
      Context.isLegible_iff.mpr ⟨hstep, hdata hold, hrest⟩
    have hposition : ({ c with data := data } : Context).kept.position = c.position :=
      Context.position_kept (c := { c with data := data }) hid hlegible htidy.sound.2
    exact ih.stayed (d := ({ c with data := data } : Context).kept) hc (Context.kept_tidy _)
      ((Context.hasReadableId_kept _).trans hid) hposition hu

/-- What is done alone moves no one. -/
theorem bears_stands (hl : b.Lucid)
    (hh : ∀ name h, Table.value? b.handlers name = some h → h.Edits Context.Jotted)
    (pos : Int → Position) : b.Bears (fun _ v => v.isReadable = true) (Stands pos) where
  reliable h := h.1
  write h hc hv ht := by
    obtain ⟨htidy, hid, -⟩ := h.known hc
    exact h.stayed hc (Context.kept_tidy _) ((Context.hasReadableId_written _ _).trans hid)
      (Context.position_written hid htidy _ hv) ht
  disarm h hc ht := by
    obtain ⟨htidy, hid, -⟩ := h.known hc
    exact h.stayed hc (Context.kept_tidy _) ((Context.hasReadableId_written _ _).trans hid)
      (Context.position_written hid htidy _ rfl) ht
  relay {s t actor c st on next} _ _ h hc ht := by
    obtain ⟨htidy, hid, -⟩ := h.known hc
    have hsame : (c.revised fun c => { c with forwarding := on }).hasReadableId =
        c.hasReadableId := Context.hasReadableId_revised rfl rfl
    have hposition : (c.revised fun c => { c with forwarding := on }).position = c.position :=
      Context.position_revised (f := fun c => { c with forwarding := on }) hid htidy.legible
        htidy.sound.2
    exact h.stayed hc (Context.revised_tidy ..) (hsame.trans hid) hposition ht
  call _ _ _ h := h
  handler actor payload hh' := Leads.at_each fun s hs =>
    (hh _ _ hh' actor payload s hs.1).mono (fun _ _ ht => hs.edited ht) fun _ ht => hs.edited ht
  answer _ _ _ _ := rfl
  menu _ _ _ := rfl
  action ha _ := hl.action _ _ ha
  other _ hv := hv

/-- A step that was entered moves no one while it does its own work. -/
theorem leads_stepAlone_stands (hl : b.Lucid)
    (hh : ∀ name h, Table.value? b.handlers name = some h → h.Edits Context.Jotted)
    {st : Step} (hst : b.catalog.HasStep st) :
    Leads (Stands pos) (b.stepAlone actor st) (fun q t => Stands pos t ∧ q.IsOrdinary)
      (Stands pos) := by
  have hbears := bears_stands hl hh pos
  refine hbears.leads_get fun s hs => ?_
  split
  · exact Leads.at_one hs (Leads.pure fun t ht => ⟨ht, trivial⟩)
  · refine Leads.at_one hs (hbears.leads_workAlone hst (fun _ h => h) ?_ _)
    intro q s t c hq h hc ht
    exact hbears.write h hc (hl.question st q hst hq) ht

end

/-- The places of the steps that were entered, in order. -/
def entered (ls : List Lap) : List (String × Int) := (arrivals ls).filterMap (·.place)

theorem entered_cons (l : Lap) (ls : List Lap) : entered (l :: ls) = entered [l] ++ entered ls := by
  rw [entered, entered, entered, arrivals, arrivals, arrivals, ← List.singleton_append,
    List.filterMap_append, List.filterMap_append]

section
variable {b : Bot} {pos : Int → Position} {s t : Scene} {actor : Int}

/-- Where a sequel leads an actor, who then stands at the step that was entered. -/
theorem lands_stands (hb : b.catalog.Built) (hl : b.Legible) {r : Outcome ⊕ Arrival}
    (hs : Stands pos s) (hp : (pos actor).Placed b.catalog) (h : b.Lands actor s r t) :
    ∃ p : Position, p.Placed b.catalog ∧
      p.history = ((pos actor).history ++ r.elim (fun _ => []) (·.place.toList)).rtake
        Context.historyLimit ∧
      Stands (Function.update pos actor p) t := by
  have hnone : ((pos actor).history ++ []).rtake Context.historyLimit = (pos actor).history := by
    rw [List.append_nil, List.rtake, Nat.sub_eq_zero_of_le hp.short, List.drop_zero]
  have hindex {f : Flow} {name : String} {i : Nat} {st : Step}
      (hf : b.catalog.flow? name = some f) (hst : f.steps[i]? = some st) :
      Decimal.isReadable i = true :=
    Decimal.isReadable_of_lt (hl.steps name f hf) (List.getElem?_eq_some_iff.mp hst).1
  have hrecorded := hp.toRecorded
  cases h with
  | stay o =>
    refine ⟨pos actor, hp, hnone.symm, ?_⟩
    rwa [Function.update_eq_self]
  | @finish o c t hc ht =>
    obtain ⟨htidy, hid, hpos⟩ := hs.known hc
    have hmoved := hs.moved (Context.disarmed_tidy (Context.revised_tidy c (·.ended)) c.rawMarker)
      ((Context.hasReadableId_ended _).trans hid) ht
    rw [Context.position_ended hid htidy, hpos] at hmoved
    exact ⟨(pos actor).ended, hrecorded.ended, hnone.symm, hmoved⟩
  | @blank o name f c d t hc hf hsteps hd ht =>
    obtain ⟨htidy, hid, hpos⟩ := hs.known hc
    have hmoved := hs.moved hd.tidy (hd.hasReadableId.trans hid) ht
    rw [hd.position hid htidy, hpos] at hmoved
    exact ⟨(pos actor).began name, hrecorded.blank hf hsteps, hnone.symm, hmoved⟩
  | @first name f st c d u t hc hf hst hd hu ht =>
    obtain ⟨htidy, hid, hpos⟩ := hs.known hc
    have hname : f.name = name := hb.name_eq hf
    have hbegan : d.position = (pos actor).began name := by rw [hd.position hid htidy, hpos]
    have hflow : d.currentFlow ≠ "" := by
      rw [hd.currentFlow hid htidy]
      rintro rfl
      rw [hb.flow?_empty] at hf
      cases hf
    have hid' := hd.hasReadableId.trans hid
    have hmoved := hs.moved (d := (d.visit f.name (0 : Nat) u.now).kept) (Context.kept_tidy _)
      ((Context.hasReadableId_kept _).trans hid') (hu.trans ht)
    rw [Context.position_visit hid' hd.tidy hflow f.name (hindex hf hst), hbegan, hname] at hmoved
    rw [hname]
    refine ⟨((pos actor).began name).entered (name, (0 : Nat)), ?_, rfl, hmoved⟩
    exact (hrecorded.began name).entered (p := (pos actor).began name) hf hst
  | @jump f i st c t hc hf hst ht =>
    obtain ⟨htidy, hid, hpos⟩ := hs.known hc
    have hname : f.name = c.currentFlow := hb.name_eq hf
    have hflow : c.currentFlow ≠ "" := by
      intro hidle
      rw [hidle, hb.flow?_empty] at hf
      cases hf
    have hmoved := hs.moved (d := (c.visit f.name i s.now).kept) (Context.kept_tidy _)
      ((Context.hasReadableId_kept _).trans hid) ht
    have hplace : c.currentFlow = (pos actor).flow := congrArg Position.flow hpos
    rw [Context.position_visit hid htidy hflow f.name (hindex hf hst), hpos, hname,
      hplace] at hmoved
    rw [hname, hplace]
    rw [hplace] at hf
    exact ⟨(pos actor).entered ((pos actor).flow, i), hrecorded.entered hf hst, rfl, hmoved⟩

variable {alone : Turn Sequel} {P : Scene → Prop} {w : World} {l : Lap}

/-- A lap moves its actor to where it lands, and no one else. -/
theorem stands_lap (actor : Int) (hb : b.catalog.Built) (hl : b.Legible)
    (halone : Leads P alone (fun q t => Stands pos t ∧ q.IsOrdinary) (Stands pos))
    (hw : P w.scene) (hp : (pos actor).Placed b.catalog) :
    ∃ p : Position, p.Placed b.catalog ∧
      p.history = ((pos actor).history ++ entered [b.lap actor alone w]).rtake
        Context.historyLimit ∧
      Stands (Function.update pos actor p) (b.lap actor alone w).world.scene ∧
      ∀ a, (b.lap actor alone w).arrival? = some a → b.catalog.HasStep a.step := by
  have hlap := lap_lands actor hl (fun s hs => hs.1) (fun s c hs hc => (hs.known hc).1)
    halone hw
  generalize b.lap actor alone w = l at hlap ⊢
  obtain ⟨q, landing, w'⟩ := l
  rcases hlap with ⟨f, rfl, hstands⟩ | ⟨r, s, rfl, hs, hlands⟩
  · obtain ⟨p, hplaced, hhistory, hstands⟩ :=
      lands_stands hb hl hstands hp (.stay (.failed (.fault f)))
    exact ⟨p, hplaced, hhistory, hstands, fun a ha => nomatch ha⟩
  · obtain ⟨p, hplaced, hhistory, hstands⟩ := lands_stands hb hl hs hp hlands
    refine ⟨p, hplaced, ?_, hstands, ?_⟩
    · rw [hhistory]
      cases r with
      | inl o => rfl
      | inr a => obtain ⟨_ | e, st⟩ := a <;> rfl
    · intro a ha
      obtain rfl : r = .inr a := Except.ok.inj (Lap.landing_of_arrival ha)
      exact hlands.hasStep

/-- Laps move their actor from step to step, and no one else. -/
theorem stands_laps (hb : b.catalog.Built) (hl : b.Lucid)
    (hh : ∀ name h, Table.value? b.handlers name = some h → h.Edits Context.Jotted) (left : Nat)
    (halone : Leads P alone (fun q t => Stands pos t ∧ q.IsOrdinary) (Stands pos))
    (hw : P w.scene) (hp : (pos actor).Placed b.catalog)
    (hlast : (b.laps actor left alone w).getLast? = some l) :
    ∃ p : Position, p.Placed b.catalog ∧
      p.history = ((pos actor).history ++ entered (b.laps actor left alone w)).rtake
        Context.historyLimit ∧
      Stands (Function.update pos actor p) l.world.scene := by
  induction left generalizing alone w P pos with
  | zero =>
    obtain ⟨p, hplaced, hhistory, hstands, -⟩ :=
      stands_lap actor hb hl.toLegible halone hw hp
    have hl : b.lap actor alone w = l := Option.some.inj hlast
    exact ⟨p, hplaced, hhistory, hl ▸ hstands⟩
  | succ left ih =>
    obtain ⟨p, hplaced, hhistory, hstands, hstep⟩ :=
      stands_lap actor hb hl.toLegible halone hw hp
    cases ha : (b.lap actor alone w).arrival? with
    | none =>
      rw [laps_of_rest ha] at hlast ⊢
      have hl : b.lap actor alone w = l := Option.some.inj hlast
      exact ⟨p, hplaced, hhistory, hl ▸ hstands⟩
    | some a =>
      rw [laps_of_arrival ha] at hlast ⊢
      rw [List.getLast?_cons_of_ne_nil (laps_ne_nil left)] at hlast
      have hself : Function.update pos actor p actor = p := Function.update_self ..
      obtain ⟨q, hplaced', hhistory', hstands'⟩ := ih
        (leads_stepAlone_stands hl hh (hstep a ha)) hstands (hself.symm ▸ hplaced) hlast
      rw [hself, hhistory, rtake_rtake_append, List.append_assoc, ← entered_cons] at hhistory'
      rw [Function.update_idem] at hstands'
      exact ⟨q, hplaced', hhistory', hstands'⟩

end

section Runs
variable {b : Bot} {w₀ w : World}
variable (hb : b.catalog.Built) (hl : b.Lucid)
  (hh : ∀ name h, Table.value? b.handlers name = some h → h.Edits Context.Jotted)
include hb hl hh

/-- An event moves its actor along the steps that are entered, and no one else. -/
theorem seats_after {pos : Int → Position} (hpos : Seats pos w.store)
    (hp : ∀ a, (pos a).Placed b.catalog) (actor : Int) {e : Event} (he : e.IsOrdinary)
    (now : String) (outages : Outages) (hstore : ∀ t n, outages.store t n = none) :
    ∃ p : Position, p.Placed b.catalog ∧
      p.history = ((pos actor).history ++
        entered (b.eventLaps actor e { w with now, outages })).rtake Context.historyLimit ∧
      Seats (Function.update pos actor p) (b.after actor e now outages w).store := by
  have halone : Leads (Stands pos) (b.eventAlone actor e) (fun q t => Stands pos t ∧ q.IsOrdinary)
      (Stands pos) := (bears_stands hl hh pos).leads_eventAlone he
  have hstands : Stands pos ({ w with now, outages } : World).scene := ⟨hstore, hpos⟩
  obtain ⟨l, hlast⟩ := @exists_lastLap b actor (b.eventAlone actor e) { w with now, outages }
    b.chainLimit.toNat
  obtain ⟨p, hplaced, hhistory, hafter⟩ :=
    stands_laps hb hl hh b.chainLimit.toNat halone hstands (hp actor) hlast
  obtain ⟨ns, hon⟩ := on_handle hlast
  refine ⟨p, hplaced, hhistory, ?_⟩
  rw [after, hon]
  exact hafter.2

variable (hids : ∀ actor human, w₀.store.resolve actor = .ok (some human) →
    Decimal.isReadable actor = true ∧ Decimal.isReadable human = true)
  (hblank : w₀.Blank)
include hids hblank

theorem Reaches.seats (h : b.Reaches w₀ w) :
    ∃ pos : Int → Position, (∀ a, (pos a).Placed b.catalog) ∧ Seats pos w.store := by
  induction h with
  | start =>
    refine ⟨fun _ => {}, fun _ => Position.placed_start _, fun now a c hc => ?_⟩
    obtain ⟨hactor, hresolve⟩ := Store.context?_identity hc
    obtain ⟨hexternal, hhuman⟩ := hids a c.humanId hresolve
    obtain ⟨human, hfresh⟩ := Store.context?_blank hblank hc
    refine ⟨hfresh ▸ Context.fresh_tidy .., ?_, hfresh ▸ rfl⟩
    rw [Context.hasReadableId, hactor, hexternal, hhuman]
    rfl
  | event _ actor e he now outages hstore ih =>
    obtain ⟨pos, hp, hpos⟩ := ih
    obtain ⟨p, hplaced, -, hafter⟩ := seats_after hb hl hh hpos hp actor he now outages hstore
    refine ⟨Function.update pos actor p, fun a => ?_, hafter⟩
    by_cases ha : a = actor
    · rw [ha, Function.update_self]
      exact hplaced
    · rw [Function.update_of_ne ha]
      exact hp a

end Runs

theorem greeter_lucid : greeter.Lucid where
  toLegible := greeter_legible
  question s q hs hq := by
    rw [message_of_hasStep hs] at hq
    cases hq
  action payload a ha := nomatch ha

end Bot

end Dialogue
