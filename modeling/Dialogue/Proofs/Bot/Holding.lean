import Dialogue.Proofs.Bot.Positions
import Dialogue.Proofs.Context.Frames
import Dialogue.Proofs.Contexts.Sanity

/-! What the data of an actor hold while steps are run, whatever becomes of the tasks of the store.
Beside what handlers do, steps write nothing into data but the markers of questions, and where
sequels lead the marker is emptied at most. -/
namespace Dialogue

namespace WaitMarker

theorem wellFormed_stored (w : WaitMarker) : w.stored.WellFormed := by
  have hkeys : (Table.keys w.toFields).Nodup := (by decide : fieldNames.Nodup)
  have hvalidation (v : Validation) : v.toValue.WellFormed :=
    ⟨(by decide : ["type", "pattern", "error_message"].Nodup), trivial, trivial, trivial, trivial⟩
  refine ⟨hkeys.sublist (List.filter_sublist.map _), (Value.fieldsWellFormed_iff _).mpr ?_⟩
  intro e he
  have hmem := List.mem_of_mem_filter he
  simp only [toFields, List.mem_cons, List.not_mem_nil, or_false] at hmem
  rcases hmem with rfl | rfl | rfl | rfl
  · cases w.stepId <;> trivial
  · trivial
  · cases w.validation with
    | none => trivial
    | some v => exact hvalidation v
  · rcases w.next with _ | _ | _ <;> trivial

theorem isFinite_stored (w : WaitMarker) : w.stored.isFinite = true := by
  obtain ⟨id, saveTo, validation, next⟩ := w
  rcases id with _ | id <;> rcases validation with _ | ⟨kind, pattern, message⟩ <;>
    rcases next with _ | ⟨n⟩ | ⟨s⟩ <;> rfl

end WaitMarker

namespace Bot
open Turn

/-- A property of data that outlasts their being written and read again, and the emptying of the
marker's place. -/
structure Lasting (E : Table String Value → Prop) : Prop where
  kept : ∀ {fs gs : Table String Value}, (Value.dict fs).WellFormed → E fs →
    Value.dict gs = (Value.dict fs).kept → E gs
  disarm : ∀ {fs : Table String Value}, (Value.dict fs).WellFormed → E fs →
    E (Path.set fs WaitMarker.path .null)

/-- A value beside the marker lasts unless it is one that changes by being kept. -/
theorem Lasting.at_path {p : Path} {v : Value} (hp : p.Incomparable WaitMarker.path)
    (hv : v.kept = v) : Lasting fun fs => Path.get (.dict fs) p = v where
  kept hwell h hkept := by rw [hkept, Value.get_kept hwell, h, hv]
  disarm _ h := (Path.get_set_of_incomparable _ hp.symm _).trans h

/-- The actor has a context that can be kept, and its data have a property. Another is known of the
tasks of the store that fail. -/
def Holds (actor : Int) (F : (StoreTask → Nat → Option Fault) → Prop)
    (E : Table String Value → Prop) (s : Scene) : Prop :=
  F s.failing ∧ ∃ c, s.context? actor = some c ∧ c.hasReadableId = true ∧ E c.data

/-- The handlers that a step calls for an actor leave something as it is. -/
def Spares (b : Bot) (actor : Int) (I : Scene → Prop) (st : Step) : Prop :=
  ∀ name h payload, st.handler? = some name → Table.value? b.handlers name = some h →
    Leads I (h.run actor payload) (fun _ => I) I

section
variable {b : Bot} {actor : Int} {F : (StoreTask → Nat → Option Fault) → Prop}
  {E : Table String Value → Prop} {R : Scene → Prop} {s t : Scene} {c d : Context}

theorem Lasting.holds (hE : Lasting E) (hF : F s.failing) (hid : d.hasReadableId = true)
    (hd : d.isLegible = true) (hwell : (Value.dict d.data).WellFormed) (hdata : E d.data)
    (ht : s.Rewritten t actor d.kept) : Holds actor F E t :=
  ⟨ht.failing ▸ hF, _, ht.context?, (Context.hasReadableId_kept d).trans hid,
    hE.kept hwell hdata (Context.dict_data_kept hid hd)⟩

/-- What was tried and failed has changed nothing. -/
theorem Lasting.holds_of_tried (hE : Lasting E) (hs : Holds actor F E s)
    (hid : d.hasReadableId = true) (hd : d.isLegible = true)
    (hwell : (Value.dict d.data).WellFormed) (hdata : E d.data) (ht : s.Tried t actor d.kept) :
    Holds actor F E t := by
  rcases ht with ht | ⟨rfl, -⟩
  · exact hE.holds hs.1 hid hd hwell hdata ht
  · exact hs

/-- The data that are read have the property, should there be an answer. -/
theorem leads_get_holds {α : Type} {Q : α → Scene → Prop} {f : Option Context → Turn α}
    (hf : ∀ o, Leads (Holds actor F E) (f o) Q R) :
    Leads (Holds actor F E) (Contexts.get actor >>= f) Q R :=
  Leads.at_each fun _ hs => Contexts.leads_get_tried.bind fun o =>
    (hf o).pre fun _ ht => ht.1 ▸ hs

section Work
variable (hE : Lasting E)
include hE

theorem leads_setVariable_holds {p : Path} {v : Value} (hv : v.isReadable = true)
    (hwell : v.WellFormed)
    (hset : ∀ fs, (Value.dict fs).WellFormed → E fs → E (Path.set fs p v)) :
    Leads (Holds actor F E) (Contexts.setVariable actor p v) (fun _ => Holds actor F E) R := by
  refine Leads.at_each fun s hs => ?_
  obtain ⟨-, c, hc, hid, hdata⟩ := id hs
  have hold := Store.context?_wellFormed hc
  exact (Contexts.leads_setVariable_tried hc p v).post fun _ t ht =>
    hE.holds_of_tried (d := c.setData p v) hs hid
      (Context.setData_legible (Store.context?_legible hc) p hv)
      (Value.nests_wellFormed.set hold p hwell) (hset _ hold hdata) ht

theorem leads_revise_holds {f : Context → Context} (hdata : ∀ c, (f c).data = c.data)
    (hexternal : ∀ c, (f c).externalId = c.externalId) (hhuman : ∀ c, (f c).humanId = c.humanId)
    (hlegible : ∀ c : Context, c.isLegible = true → (f c).isLegible = true) :
    Leads (Holds actor F E) (Contexts.revise actor f) (fun _ => Holds actor F E) R := by
  refine Leads.at_each fun s hs => ?_
  obtain ⟨-, c, hc, hid, hE'⟩ := id hs
  have hsame : (f c).repair.1.data = c.data := by
    rw [Context.repair_eq]
    exact hdata c
  have hid' : (f c).repair.1.hasReadableId = true := by
    obtain ⟨hexternal', hhuman'⟩ := (f c).repair_identity
    rw [Context.hasReadableId, hexternal', hhuman', hexternal, hhuman]
    exact hid
  refine (Contexts.leads_revise_tried hc f (hexternal c) (hhuman c)).post fun _ t ht => ?_
  refine hE.holds_of_tried hs hid' (Context.repair_legible (hlegible c (Store.context?_legible hc)))
    ?_ ?_ ht
  · rw [hsame]
    exact Store.context?_wellFormed hc
  · rw [hsame]
    exact hE'

theorem leads_recordStep_holds (flow : String) {i : Nat} (hi : Decimal.isReadable i = true) :
    Leads (Holds actor F E) (Contexts.recordStep actor flow i) (fun _ => Holds actor F E) R := by
  refine Leads.at_each fun s hs => ?_
  obtain ⟨-, c, hc, hid, hdata⟩ := id hs
  have hwell := Store.context?_wellFormed hc
  exact (Contexts.leads_recordStep_tried hc flow i).post fun _ t ht =>
    hE.holds_of_tried (d := c.visit flow i s.now) hs hid
      (Context.visit_legible (Store.context?_legible hc) flow hi s.now) hwell hdata ht

theorem leads_disarm_holds :
    Leads (Holds actor F E) (Contexts.setVariable actor WaitMarker.path .null)
      (fun _ => Holds actor F E) R :=
  leads_setVariable_holds hE rfl trivial fun _ hwell hdata => hE.disarm hwell hdata

theorem leads_clearMarker_holds (c : Context) :
    Leads (Holds actor F E) (clearMarker actor c) (fun _ => Holds actor F E) R := by
  rw [clearMarker]
  split
  · exact Leads.pure fun _ hs => hs
  · exact leads_disarm_holds hE

/-- Where a sequel has led, there is something left, and a step that was entered is registered. -/
private def Landed (b : Bot) (actor : Int) (F : (StoreTask → Nat → Option Fault) → Prop)
    (E : Table String Value → Prop) (r : Outcome ⊕ Arrival) (s : Scene) : Prop :=
  Holds actor F E s ∧ ∀ a, r = .inr a → b.catalog.HasStep a.step

omit hE in
private theorem leads_ended (o : Outcome) :
    Leads (Holds actor F E) (pure (.inl o)) (Landed b actor F E) R :=
  Leads.pure fun _ hs => ⟨hs, fun _ ha => nomatch ha⟩

omit hE in
private theorem leads_over (o : Outcome) :
    Leads (Holds actor F E) (pure o) (fun o t => Landed b actor F E (.inl o) t) R :=
  Leads.pure fun _ hs => ⟨hs, fun _ ha => nomatch ha⟩

omit hE in
private theorem leads_failed (n : Notice) (r : Reason) :
    Leads (Holds actor F E) (Sum.inl <$> fail n r) (Landed b actor F E) R :=
  Leads.map ((Leads.note n).bind fun _ => leads_over _)

private theorem leads_entered (hl : b.Legible) {name : String} {f : Flow} {i : Nat} {st : Step}
    (hf : b.catalog.flow? name = some f) (hst : f.steps[i]? = some st) :
    Leads (Holds actor F E) (do
      let _ ← Contexts.recordStep actor f.name i
      return .inr ⟨some (f.name, i), st⟩) (Landed b actor F E) R := by
  have hindex : Decimal.isReadable i = true :=
    Decimal.isReadable_of_lt (hl.steps name f hf) (List.getElem?_eq_some_iff.mp hst).1
  refine (leads_recordStep_holds hE f.name hindex).bind fun _ => Leads.pure fun _ hs => ⟨hs, ?_⟩
  intro a ha
  rw [← Sum.inr.inj ha]
  exact ⟨name, f, hf, List.mem_of_getElem? hst⟩

private theorem leads_first (hl : b.Legible) {name : String} {f : Flow}
    (hf : b.catalog.flow? name = some f) :
    Leads (Holds actor F E) (reachFirst actor f) (Landed b actor F E) R := by
  rw [reachFirst]
  split
  · exact (Leads.note _).bind fun _ => leads_ended _
  · rename_i st sts hsteps
    exact leads_entered hE hl (i := 0) hf (by rw [hsteps]; rfl)

/-- Plain sequels write nothing into data but an empty marker. -/
theorem leads_reach_holds (hl : b.Legible) {q : Sequel} (hq : q.IsPlain) :
    Leads (Holds actor F E) (b.reach actor q)
      (fun r t => Holds actor F E t ∧ ∀ a, r = .inr a → b.catalog.HasStep a.step) R := by
  cases q with
  | rest o => exact leads_ended o
  | startInTopic | run => exact hq.elim
  | start name =>
    rw [reach]
    split
    · exact leads_failed _ _
    · rename_i f hf
      refine leads_get_holds fun o => ?_
      split
      · exact leads_failed _ _
      · exact (leads_revise_holds hE (f := (·.began name)) (fun _ => rfl) (fun _ => rfl)
          (fun _ => rfl) fun _ hc => Context.began_legible hc name).bind fun _ =>
            (leads_clearMarker_holds hE _).bind fun _ => leads_first hE hl hf
  | goTo place =>
    rw [reach]
    refine leads_get_holds fun o => ?_
    split
    · exact leads_failed _ _
    split
    · exact leads_failed _ _
    split
    · exact leads_failed _ _
    · rename_i f hf
      split
      · exact leads_failed _ _
      · rename_i i st hplace
        obtain ⟨j, -, hj⟩ := Option.bind_eq_some_iff.mp hplace
        obtain ⟨v, hv, he⟩ := Option.map_eq_some_iff.mp hj
        obtain ⟨rfl, rfl⟩ := Prod.mk.inj he
        exact leads_entered hE hl hf hv
  | complete =>
    refine Leads.map (leads_get_holds fun o => ?_)
    split
    · exact leads_over _
    split
    · exact leads_over _
    · exact (leads_revise_holds hE (f := (·.ended)) (fun _ => rfl) (fun _ => rfl)
        (fun _ => rfl) fun _ hc => Context.ended_legible hc).bind fun _ =>
          (leads_clearMarker_holds hE _).bind fun _ => leads_over _

/-- A step writes the marker of its question, if it asks, and leaves the rest to its handler. -/
theorem leads_stepAlone_holds (hl : b.Lucid) {st : Step} (hst : b.catalog.HasStep st)
    (hspares : b.Spares actor (Holds actor F E) st)
    (harm : ∀ q fs, st.work = .question q → (Value.dict fs).WellFormed → E fs →
      E (Path.set fs WaitMarker.path (markerOf st.id q).stored)) :
    Leads (Holds actor F E) (b.stepAlone actor st) (fun q t => Holds actor F E t ∧ q.IsPlain)
      (Holds actor F E) := by
  refine leads_get_holds fun o => ?_
  split
  · exact Leads.pure fun _ hs => ⟨hs, trivial⟩
  · refine leads_workAlone (fun _ hs => hs) (fun q hq => ?_) (fun on _ _ => ?_)
      (fun name hname => ?_) _
    · exact leads_setVariable_holds hE (hl.question st q hst hq) (WaitMarker.wellFormed_stored _)
        fun fs hwell hdata => harm q fs hq hwell hdata
    · exact leads_revise_holds hE (f := fun c => { c with forwarding := on }) (fun _ => rfl)
        (fun _ => rfl) (fun _ => rfl) fun _ hc => hc
    · exact leads_invoke none (fun _ _ hs => hs) fun h taken hh => hspares name h taken hname hh

end Work

/-- Laps that start alike are alike. -/
theorem laps_congr {alone alone' : Turn Sequel} {w w' : World} (h : on alone w = on alone' w')
    (left : Nat) : b.laps actor left alone w = b.laps actor left alone' w' := by
  have hlap : b.lap actor alone w = b.lap actor alone' w' := by rw [lap, lap, h]
  cases left with
  | zero => rw [laps, laps, hlap]
  | succ left => rw [laps, laps, hlap]

variable {I P : Scene → Prop} {Ready : Arrival → Scene → Prop} {alone : Turn Sequel} {w : World}

/-- What holds where a sequel leads holds after the lap, and of a step that was entered more may be
known. -/
theorem lap_stands {Q : Sequel → Scene → Prop}
    (hreach : ∀ q, Leads (Q q) (b.reach actor q) (fun r t => I t ∧ ∀ a, r = .inr a → Ready a t) I)
    (halone : Leads P alone Q I) (hw : P w.scene) :
    I (b.lap actor alone w).world.scene ∧ ∀ a, (b.lap actor alone w).arrival? = some a →
      Ready a (b.lap actor alone w).world.scene := by
  rcases leads_lap halone hreach hw with ⟨f, hf, hkept⟩ | ⟨r, hr, hkept, hstep⟩
  · refine ⟨hkept, fun a ha => ?_⟩
    rw [Lap.arrival?, hf] at ha
    cases ha
  · refine ⟨hkept, fun a ha => hstep a ?_⟩
    exact Except.ok.inj (hr.symm.trans (Lap.landing_of_arrival ha))

/-- What holds after the first lap, and is kept by plain sequels and by the work of the steps that
are run, holds after every lap. -/
theorem laps_stand
    (hreach : ∀ q, q.IsPlain → Leads I (b.reach actor q)
      (fun r t => I t ∧ ∀ a, r = .inr a → Ready a t) I)
    (left : Nat)
    (hstep : ∀ a ∈ arrivals (b.laps actor left alone w).dropLast,
      Leads (fun s => I s ∧ Ready a s) (b.stepAlone actor a.step)
        (fun q t => I t ∧ q.IsPlain) I)
    (hfirst : I (b.lap actor alone w).world.scene ∧
      ∀ a, (b.lap actor alone w).arrival? = some a → Ready a (b.lap actor alone w).world.scene) :
    ∀ l ∈ b.laps actor left alone w, I l.world.scene ∧
      ∀ a, l.arrival? = some a → Ready a l.world.scene :=
  laps_forall left hfirst fun _ hmem a ha hstands _ =>
    lap_stands (fun q => Leads.given fun hq => hreach q hq)
      (hstep a (List.mem_filterMap.mpr ⟨_, hmem, ha⟩)) ⟨hstands.1, hstands.2 a ha⟩

/-- What plain sequels keep, and the work of the steps that are run, holds after every lap. -/
theorem laps_hold
    (hreach : ∀ q, q.IsPlain → Leads I (b.reach actor q)
      (fun r t => I t ∧ ∀ a, r = .inr a → b.catalog.HasStep a.step) I)
    (left : Nat)
    (hstep : ∀ a ∈ arrivals (b.laps actor left alone w).dropLast, b.catalog.HasStep a.step →
      Leads I (b.stepAlone actor a.step) (fun q t => I t ∧ q.IsPlain) I)
    (halone : Leads P alone (fun q t => I t ∧ q.IsPlain) I) (hw : P w.scene) :
    ∀ l ∈ b.laps actor left alone w, I l.world.scene := fun l hl =>
  (@laps_stand b actor I (fun a _ => b.catalog.HasStep a.step) _ _ hreach left
    (fun a ha => Leads.given fun hst => hstep a ha hst)
    (lap_stands (fun q => Leads.given fun hq => hreach q hq) halone hw) l hl).1

end

end Bot

end Dialogue
