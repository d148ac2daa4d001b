import Dialogue.Proofs.Bot.Holding
import Dialogue.Proofs.Bot.Questions
import Dialogue.Proofs.Contexts.Outages

/-! What becomes of the answer to a question. It is kept before the marker is emptied, in two writes
of their own, and the steps that follow read it where the question said. Whatever else the event
does, nothing beside the answer and the marker moves. -/
namespace Dialogue

/-- Where all is finite, a value that is written stands beside what was there before. -/
theorem Context.data_written {c : Context} (hid : c.hasReadableId = true) (hc : c.isLegible = true)
    (hwell : (Value.dict c.data).WellFormed) (hfinite : (Value.dict c.data).isFinite = true)
    (p : Path) {v : Value} (hv : v.isReadable = true) (hv' : v.WellFormed)
    (hv'' : v.isFinite = true) : (c.written p v).data = Path.set c.data p v :=
  data_kept_of_isFinite hid (setData_legible hc p hv) (Value.nests_wellFormed.set hwell p hv')
    (Value.nests_isFinite.set hfinite p hv'')

/-- A text meets the rule for answers to a question, if there is one. -/
def WaitMarker.Takes (m : WaitMarker) (text : String) : Prop :=
  ∀ v, m.validation = some v → (v.accepts text).1 = true

theorem WaitMarker.takes_of_unchecked {m : WaitMarker} (h : m.validation = none) (text : String) :
    m.Takes text := by
  intro v hv
  rw [h] at hv
  cases hv

namespace Bot
open Turn

section
variable {b : Bot} {w : World} {actor : Int} {c : Context} {m : WaitMarker} {text : String}

/-- An event that comes to rest by itself, or breaks off, is over with that. -/
theorem scene_handle_of_rest {e : Event} {s : Scene}
    (h : match on (b.eventAlone actor e) w with
      | (.ok q, u) => u.scene = s ∧ ∃ o, q = .rest o
      | (.error _, u) => u.scene = s) : (on (b.handle actor e) w).2.scene = s := by
  rw [handle, react_eq, on_rescue, on_bind]
  rcases hon : on (b.eventAlone actor e) w with ⟨f | q, u⟩
  · rw [hon] at h
    exact h
  · rw [hon] at h
    obtain ⟨hu, o, rfl⟩ := h
    exact hu

/-- A message that finds no context is passed over. -/
theorem scene_handle_of_not_readsAt (h : ¬ w.scene.ReadsAt w.storeTasks) :
    (on (b.handle actor (.message text)) w).2.scene = w.scene := by
  obtain ⟨u, hget, hscene⟩ := Contexts.on_get_of_not_readsAt h
  refine scene_handle_of_rest ?_
  rw [eventAlone, on_bind, hget]
  exact ⟨hscene, _, rfl⟩

variable (hc : w.store.context? w.now actor = some c) (hm : c.waitMarker.1 = some m)
include hc hm

/-- A message that does not meet the rule is answered with a text at most. -/
theorem scene_handle_of_not_takes (hreads : w.scene.ReadsAt w.storeTasks) (h : ¬ m.Takes text) :
    (on (b.handle actor (.message text)) w).2.scene = w.scene := by
  obtain ⟨u, hget, hscene, -⟩ := Contexts.on_get_of_readsAt hc hreads
  obtain ⟨v, hv, hrefused⟩ : ∃ v, m.validation = some v ∧ (v.accepts text).1 = false := by
    simpa [WaitMarker.Takes] using h
  have hrefusal : Leads (· = w.scene) (takeAnswerAlone actor c text)
      (fun q t => t = w.scene ∧ ∃ o, q = .rest o) (· = w.scene) := by
    refine (Leads.noted _).bind fun o => Leads.given fun ho => ?_
    rw [ho, hm]
    simp only [hv]
    refine (Leads.noted _).bind fun accepted => Leads.given fun haccepted => ?_
    rw [haccepted, hrefused]
    exact (Leads.quiet (Quiet.deliver _ _ _)).bind fun _ => Leads.pure fun _ ht => ⟨ht, _, rfl⟩
  have hdone := hrefusal u hscene
  refine scene_handle_of_rest ?_
  simp only [eventAlone, on_bind, hget]
  generalize on (takeAnswerAlone actor c text) u = r at hdone ⊢
  obtain ⟨f | q, u'⟩ := r <;> exact hdone

/-- A message that meets the rule is kept. -/
theorem on_message (hreads : w.scene.ReadsAt w.storeTasks) (htakes : m.Takes text) :
    ∃ u, u.scene = w.scene ∧ u.storeTasks = w.storeTasks + 2 ∧
      on (b.eventAlone actor (.message text)) w = on (keepAnswerAlone actor m text) u := by
  obtain ⟨u, hget, hscene, htasks⟩ := Contexts.on_get_of_readsAt hc hreads
  rw [eventAlone, on_bind, hget]
  simp only [takeAnswerAlone, on_bind, on_noted, hm]
  cases hv : m.validation with
  | none => exact ⟨{ u with notices := u.notices ++ c.waitMarker.2 }, hscene, htasks, rfl⟩
  | some v =>
    simp only [on_bind, on_noted, htakes v hv, if_true]
    exact ⟨{ u with notices := u.notices ++ c.waitMarker.2 ++ (v.accepts text).2 }, hscene, htasks,
      rfl⟩

/-- Once the answer is written, what remains of the event starts with the emptying of the marker. -/
theorem eventLaps_message (hreads : w.scene.ReadsAt w.storeTasks) (htakes : m.Takes text)
    (hwrites : w.scene.WritesAt (w.storeTasks + 2)) :
    ∃ w', w.scene.Rewritten w'.scene actor (c.written (Path.ofString m.saveTo) (.text text)) ∧
      b.eventLaps actor (.message text) w = b.laps actor b.chainLimit.toNat (do
        Contexts.setVariable actor WaitMarker.path .null
        return .proceed m.next) w' := by
  obtain ⟨u, hscene, htasks, hmessage⟩ := @on_message b _ _ _ _ _ hc hm hreads htakes
  rw [← hscene, ← htasks] at hwrites
  have hknown : u.scene.context? actor = some c := by
    rw [hscene]
    exact hc
  obtain ⟨w', hset, hrewritten⟩ := Contexts.on_setVariable (p := Path.ofString m.saveTo)
    (v := .text text) hknown hwrites
  refine ⟨w', hscene ▸ hrewritten, laps_congr ?_ _⟩
  rw [hmessage, keepAnswerAlone, on_bind, hset]

end

/-- The answer is kept in data that are otherwise as they were, but for the marker. -/
structure Captured (old : Table String Value) (p : Path) (text : String) (M : Value → Prop)
    (fs : Table String Value) : Prop where
  finite : (Value.dict fs).isFinite = true
  answer : Path.get (.dict fs) p = .text text
  marker : Path.get (.dict fs) WaitMarker.path = .null ∨ M (Path.get (.dict fs) WaitMarker.path)
  frame : ∀ q : Path, q.Incomparable p → q.Incomparable WaitMarker.path →
    Path.get (.dict fs) q = Path.get (.dict old) q

namespace Captured
variable {old fs : Table String Value} {p : Path} {text : String} {M N : Value → Prop}

/-- Another marker leaves the answer where it is. -/
theorem set_marker (h : Captured old p text M fs) (hp : p.Incomparable WaitMarker.path) {v : Value}
    (hv : v.isFinite = true) (hN : v = .null ∨ N v) :
    Captured old p text N (Path.set fs WaitMarker.path v) where
  finite := Value.nests_isFinite.set h.finite _ hv
  answer := (Path.get_set_of_incomparable fs hp.symm v).trans h.answer
  marker := by rwa [Path.get_set_self fs (by decide)]
  frame _ hq hq' := (Path.get_set_of_incomparable fs hq'.symm v).trans (h.frame _ hq hq')

theorem set_answer (hfs : (Value.dict fs).isFinite = true) (hp : p ≠ []) (text : String) :
    Captured fs p text (fun _ => True) (Path.set fs p (.text text)) where
  finite := Value.nests_isFinite.set hfs p rfl
  answer := Path.get_set_self fs hp _
  marker := .inr trivial
  frame _ hq _ := Path.get_set_of_incomparable fs hq.symm _

theorem lasting (hp : p.Incomparable WaitMarker.path) : Lasting (Captured old p text M) where
  kept hwell h hkept := by
    rw [Value.kept_of_isFinite hwell h.finite] at hkept
    rwa [Value.dict.inj hkept]
  disarm _ h := h.set_marker hp rfl (.inl rfl)

end Captured

/-- The marker of a question that was asked on the way. What the last lap comes to is not run. -/
def AskedIn (ls : List Lap) (v : Value) : Prop :=
  ∃ a ∈ arrivals ls.dropLast, ∃ q, a.step.work = .question q ∧ v = (markerOf a.step.id q).stored

section
variable {b : Bot} {w : World} {actor : Int} {c : Context} {m : WaitMarker} {text : String}

/-- A step that branches, where data with a property are found: it sees them. -/
private theorem on_execute_branch {F : (StoreTask → Nat → Option Fault) → Prop}
    {E : Table String Value → Prop} (hF : ∀ f, F f → ∀ t n, f t n = none)
    (h : Holds actor F E w.scene) {st : Step} {k : Step.Branch} (hwork : st.work = .branch k) :
    ∃ (d : Context) (w' : World), E d.data ∧ ∀ left, on (b.execute actor (left + 1) st) w =
      on (b.decide (b.execute actor left) actor d.data k) w' := by
  obtain ⟨hstore, d, hd, -, hdata⟩ := h
  have hreliable : w.scene.Reliable := hF _ hstore
  obtain ⟨w', hget, -, -⟩ := Contexts.on_get_of_readsAt hd (hreliable.writesAt _).1
  refine ⟨d, w', hdata, fun left => ?_⟩
  simp only [execute, on_bind, hget, work, hwork]

/-- What holds after every lap of an event holds after the event. -/
theorem holds_handle {F : (StoreTask → Nat → Option Fault) → Prop} {E : Table String Value → Prop}
    {e : Event} (h : ∀ l ∈ b.eventLaps actor e w, Holds actor F E l.world.scene) :
    Holds actor F E (on (b.handle actor e) w).2.scene := by
  obtain ⟨l, hmem, hscene⟩ := @exists_lap_handle b actor w e
  exact hscene ▸ h l hmem

theorem context?_handle_of_holds {F : (StoreTask → Nat → Option Fault) → Prop}
    {E : Table String Value → Prop} {e : Event}
    (h : ∀ l ∈ b.eventLaps actor e w, Holds actor F E l.world.scene) :
    ∃ d, (on (b.handle actor e) w).2.scene.context? actor = some d ∧ E d.data := by
  obtain ⟨-, d, hd, -, hdata⟩ := holds_handle h
  exact ⟨d, hd, hdata⟩

variable (hl : b.Lucid) (hc : w.scene.context? actor = some c) (hid : c.hasReadableId = true)
  (hm : c.waitMarker.1 = some m)
include hl hc hm

/-- Once an answer is written, what is known of the data lasts through the laps that follow. -/
theorem laps_keep_answer {F : (StoreTask → Nat → Option Fault) → Prop}
    {E : Table String Value → Prop} (hE : Lasting E) (hreads : w.scene.ReadsAt w.storeTasks)
    (htakes : m.Takes text) (hwrites : w.scene.WritesAt (w.storeTasks + 2))
    (hdisarm : ∀ s, w.scene.Rewritten s actor (c.written (Path.ofString m.saveTo) (.text text)) →
      Leads (· = s) (Contexts.setVariable actor WaitMarker.path .null)
        (fun _ => Holds actor F E) (Holds actor F E))
    (hspares : ∀ a ∈ arrivals (b.eventLaps actor (.message text) w).dropLast,
      b.Spares actor (Holds actor F E) a.step)
    (harm : ∀ a ∈ arrivals (b.eventLaps actor (.message text) w).dropLast, ∀ q fs,
      a.step.work = .question q → (Value.dict fs).WellFormed → E fs →
        E (Path.set fs WaitMarker.path (markerOf a.step.id q).stored)) :
    ∀ l ∈ b.eventLaps actor (.message text) w, Holds actor F E l.world.scene := by
  obtain ⟨w', hw', hlaps⟩ := @eventLaps_message b _ _ _ _ _ hc hm hreads htakes hwrites
  rw [hlaps] at hspares harm ⊢
  have halone : Leads (· = w'.scene) (do
      Contexts.setVariable actor WaitMarker.path .null
      return Sequel.proceed m.next) (fun q t => Holds actor F E t ∧ q.IsPlain) (Holds actor F E) :=
    (hdisarm _ hw').bind fun _ => Leads.pure fun _ ht => ⟨ht, Sequel.isPlain_proceed _⟩
  exact laps_hold (fun q hq => leads_reach_holds hE hl.toLegible hq) _
    (fun a ha hst => leads_stepAlone_holds hE hl hst (hspares a ha) (harm a ha)) halone rfl

include hid

end

/-- A world whose store keeps one context. -/
def keeping (c : Context) : World where
  store := .memory {
    actors := [(c.externalId, c.humanId)]
    contexts := [(c.externalId, c.encode)] }

theorem context?_keeping (c : Context) :
    (keeping c).scene.context? c.externalId = some c.kept := by
  have hfound {α : Type} (v : α) : Table.value? [(c.externalId, v)] c.externalId = some v := by
    rw [Table.value?_cons, if_pos rfl]
  have hdecode := Context.decode_encode_fst "" c
  rw [Scene.context?, Store.context?]
  simp only [keeping, World.scene, Store.resolve, Store.load, Records.resolve, Records.load, hfound,
    hdecode]

/-- Ids as short as those of the first actor can be read. -/
theorem hasReadableId_first {c : Context} (hactor : c.externalId = 1) (hhuman : c.humanId = 1) :
    c.hasReadableId = true := by
  rw [Context.hasReadableId, hactor, hhuman]
  decide

/-- An actor in a flow who was asked a question. -/
def awaiting (flow : String) (m : WaitMarker) : Context :=
  { Context.fresh 1 1 with
    currentFlow := flow
    data := [("_system", .dict [("waiting_for_input", m.stored)])] }

section
variable {m : WaitMarker}

theorem hasReadableId_awaiting (flow : String) : (awaiting flow m).kept.hasReadableId = true :=
  (Context.hasReadableId_kept _).trans (hasReadableId_first rfl rfl)

theorem isFinite_awaiting (flow : String) :
    (Value.dict (awaiting flow m).data).isFinite = true := by
  have hstored := m.isFinite_stored
  simp [awaiting, Value.isFinite, Value.haveFinite, hstored]

theorem wellFormed_awaiting (flow : String) : (Value.dict (awaiting flow m).data).WellFormed :=
  ⟨(by decide : ["_system"].Nodup),
    ⟨(by decide : ["waiting_for_input"].Nodup), m.wellFormed_stored, trivial⟩, trivial⟩

theorem data_awaiting (flow : String) (h : m.stored.isReadable = true) :
    (awaiting flow m).kept.data = (awaiting flow m).data := by
  have hlegible : (awaiting flow m).isLegible = true := by
    refine Context.isLegible_iff.mpr
      ⟨(by decide : Decimal.isReadable 0 = true), ?_, rfl, rfl, rfl, rfl⟩
    simpa [awaiting, Value.readableFields, Value.isReadable] using h
  exact Context.data_kept_of_isFinite ((Context.hasReadableId_kept _).symm.trans
    (hasReadableId_awaiting flow)) hlegible (wellFormed_awaiting flow) (isFinite_awaiting flow)

theorem waitMarker_awaiting (flow : String) (h : m.stored.isReadable = true) :
    (awaiting flow m).kept.waitMarker.1 = some m := by
  refine Context.waitMarker_of_stored ?_
  rw [Context.rawMarker, data_awaiting flow h]
  rfl

end

def firstName : Step.Question where
  text := "Your name?"
  saveTo := "human.name"
  next := some (.label "known")

/-- A flow that asks for a name, and for an age if the name is known. -/
def interview : Flow where
  name := "interview"
  steps := [
    ⟨some "name", .question firstName⟩,
    ⟨some "known", .branch { condition := "data.human.name === 'Ann'", ifTrue := some (.index 2) }⟩,
    ⟨some "age", .question { text := "Your age?", saveTo := "human.age" }⟩]

def interviewer : Bot where
  catalog := { flows := [("interview", interview)], frozen := true }

theorem flow?_interviewer {name : String} {f : Flow}
    (h : interviewer.catalog.flow? name = some f) : f = interview :=
  (Table.eq_of_value?_singleton h).2

theorem interviewer_lucid : interviewer.Lucid where
  adminChat := rfl
  steps name f hf := by
    rw [flow?_interviewer hf]
    decide
  question s q hs hq := by
    obtain ⟨name, f, hf, hs⟩ := hs
    rw [flow?_interviewer hf] at hs
    simp only [interview, List.mem_cons, List.not_mem_nil, or_false] at hs
    rcases hs with rfl | rfl | rfl
    · obtain rfl := Step.Work.question.inj hq
      decide
    · cases hq
    · obtain rfl := Step.Work.question.inj hq
      decide
  action payload a ha := nomatch ha

/-- The name was asked for. -/
def interviewed : World := keeping (awaiting "interview" (markerOf (some "name") firstName))

end Bot

end Dialogue
