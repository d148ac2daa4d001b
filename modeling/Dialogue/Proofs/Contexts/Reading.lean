import Dialogue.Proofs.Context.Decoding
import Dialogue.Proofs.Store.Saving
import Dialogue.Proofs.Turn.Leading

/-! The operations on contexts as reads and writes of scenes in which the store works. Each
operation that changes a context leads to a scene in which that context, and no other, has become
what is left of the new one after it was written and read. -/
namespace Dialogue

/-- The context of an actor as it is read at some time; none when the actor is unknown. -/
def Store.context? (s : Store) (now : String) (actor : Int) : Option Context :=
  match s.resolve actor with
  | .ok (some human) => match s.load actor with
    | .ok blob => some (Context.decode now actor human blob).1
    | .error _ => none
  | _ => none

namespace Scene

def context? (s : Scene) (actor : Int) : Option Context := s.store.context? s.now actor

/-- No task of the store fails. -/
def Reliable (s : Scene) : Prop := ∀ t n, s.failing t n = none

/-- The context of one actor has become another, and nothing else has changed. -/
structure Rewritten (s t : Scene) (actor : Int) (c : Context) : Prop where
  own : ∀ now, t.store.context? now actor = some c
  load : ∀ a, a ≠ actor → t.store.load a = s.store.load a
  resolve : ∀ a, t.store.resolve a = s.store.resolve a
  failing : t.failing = s.failing
  now : t.now = s.now
  calls : t.calls = s.calls

theorem Rewritten.others {s t : Scene} {actor : Int} {c : Context} (h : s.Rewritten t actor c)
    (now : String) {a : Int} (ha : a ≠ actor) :
    t.store.context? now a = s.store.context? now a := by
  rw [Store.context?, Store.context?, h.resolve, h.load a ha]

theorem Rewritten.context? {s t : Scene} {actor : Int} {c : Context} (h : s.Rewritten t actor c) :
    t.context? actor = some c := h.own t.now

theorem Rewritten.reliable {s t : Scene} {actor : Int} {c : Context} (h : s.Rewritten t actor c)
    (hs : s.Reliable) : t.Reliable := by
  intro task n
  rw [h.failing, hs]

theorem Rewritten.trans {s t u : Scene} {actor : Int} {c d : Context} (h : s.Rewritten t actor c)
    (k : t.Rewritten u actor d) : s.Rewritten u actor d where
  own := k.own
  load a ha := (k.load a ha).trans (h.load a ha)
  resolve a := (k.resolve a).trans (h.resolve a)
  failing := k.failing.trans h.failing
  now := k.now.trans h.now
  calls := k.calls.trans h.calls

/-- The context of one actor was to become another: it did, or a task of the store failed and all is
as it was. -/
def Tried (s t : Scene) (actor : Int) (c : Context) : Prop :=
  s.Rewritten t actor c ∨ t = s ∧ ¬ s.Reliable

theorem Tried.rewritten {s t : Scene} {actor : Int} {c : Context} (h : s.Tried t actor c)
    (hs : s.Reliable) : s.Rewritten t actor c :=
  h.resolve_right fun h => h.2 hs

end Scene

namespace Context
open Schema

theorem repair_identity (c : Context) :
    c.repair.1.externalId = c.externalId ∧ c.repair.1.humanId = c.humanId := by
  simp only [repair]
  split <;> split <;> exact ⟨rfl, rfl⟩

private theorem read_identity {now : String} {fs : Table String Value} {externalId humanId : Int}
    {r : Context × List Notice}
    (h : read now (.dict (Table.put (Table.put fs "external_id" (.int externalId)) "human_id"
      (.int humanId))) = .ok r) :
    r.1.externalId = externalId ∧ r.1.humanId = humanId := by
  obtain ⟨c, hc, rfl⟩ := Checked.map_eq_ok h
  obtain ⟨hexternal, hhuman, -⟩ := readFields_iff.mp hc
  rw [required, Table.value?_put_of_ne _ _ (by decide), Table.value?_put_self] at hexternal
  rw [required, Table.value?_put_self] at hhuman
  rw [c.repair_identity.1, c.repair_identity.2]
  exact ⟨(Except.ok.inj hexternal).symm, (Except.ok.inj hhuman).symm⟩

/-- The identity of a context is the store's, whatever the text says. -/
theorem decode_identity (now : String) (externalId humanId : Int) (blob : Option String) :
    (decode now externalId humanId blob).1.externalId = externalId ∧
      (decode now externalId humanId blob).1.humanId = humanId := by
  cases blob with
  | none => exact ⟨rfl, rfl⟩
  | some s =>
    simp only [decode]
    split
    · exact ⟨rfl, rfl⟩
    split
    · split
      · rename_i hread
        exact read_identity hread
      · exact ⟨rfl, rfl⟩
    · exact ⟨rfl, rfl⟩

end Context

theorem Store.context?_identity {s : Store} {now : String} {actor : Int} {c : Context}
    (h : s.context? now actor = some c) :
    c.externalId = actor ∧ s.resolve actor = .ok (some c.humanId) := by
  rw [context?] at h
  split at h
  · rename_i human hresolve
    split at h
    · rename_i blob _
      obtain ⟨hexternal, hhuman⟩ := Context.decode_identity now actor human blob
      rw [← Option.some.inj h, hexternal, hhuman]
      exact ⟨rfl, hresolve⟩
    · cases h
  · cases h

theorem Store.context?_legible {s : Store} {now : String} {actor : Int} {c : Context}
    (h : s.context? now actor = some c) : c.isLegible = true := by
  rw [context?] at h
  split at h
  · split at h
    · rw [← Option.some.inj h]
      exact Context.decode_legible ..
    · cases h
  · cases h

/-- A context that was written is read as what is kept of it. -/
theorem Store.Saved.own {s t : Store} {d : Context} (h : s.Saved t d.externalId d.encode)
    (hresolve : s.resolve d.externalId = .ok (some d.humanId)) (now : String) :
    t.context? now d.externalId = some d.kept := by
  rw [context?, h.resolve, hresolve, ← Context.decode_encode_fst now]
  simp only [h.load_self]

theorem Store.Saved.others {s t : Store} {actor : Int} {blob : String} (h : s.Saved t actor blob)
    (now : String) {a : Int} (ha : a ≠ actor) : t.context? now a = s.context? now a := by
  rw [context?, context?, h.resolve, h.load_of_ne a ha]

/-- The time of reading only stands in for the times of visits. -/
theorem Store.untimed_context? (s : Store) (now now' : String) (actor : Int) :
    (s.context? now' actor).map Context.untimed = (s.context? now actor).map Context.untimed := by
  rw [context?, context?]
  split
  · split
    · rw [Option.map_some, Option.map_some, Context.untimed_decode]
    · rfl
  · rfl

namespace Contexts
open Turn

variable {s : Scene} {actor : Int} {c : Context} {P : Scene → Prop} {R : Scene → Prop}

/-- Whatever fails, a context that is read is that of the actor. -/
theorem externalId_of_get {w w' : World} (h : on (Contexts.get actor) w = (.ok (some c), w')) :
    c.externalId = actor := by
  rw [Contexts.get, guarded, on_rescue, on_bind] at h
  rcases hresolve : on (resolve actor) w with ⟨f | o, w₁⟩
  · rw [hresolve] at h
    nomatch h
  · rw [hresolve] at h
    cases o with
    | none => nomatch h
    | some human =>
      simp only [on_bind] at h
      rcases hload : on (load actor) w₁ with ⟨f | blob, w₂⟩
      · rw [hload] at h
        nomatch h
      · rw [hload] at h
        have hread := Option.some.inj (Except.ok.inj (Prod.mk.inj h).1)
        rw [← hread]
        exact (Context.decode_identity w₂.now actor human blob).1

theorem leads_guarded {α : Type} {neutral : α} {work : Turn α} {Q : α → Scene → Prop}
    (h : Leads P work Q (Q neutral)) : Leads P (guarded neutral work) Q R :=
  h.rescue fun _ => (Leads.quiet (Quiet.note _)).bind fun _ => Leads.pure fun _ hs => hs

private theorem leads_storeTask (task : StoreTask) :
    Leads (· = s) (storeTask task) (fun _ t => t = s) (fun t => t = s ∧ ¬ s.Reliable) := by
  intro w hw
  rw [on_storeTask]
  cases hnone : w.outages.store task w.storeTasks with
  | none => exact hw
  | some f =>
    refine ⟨hw, fun hs => ?_⟩
    have hok : w.outages.store task w.storeTasks = none := by
      change w.scene.failing task w.storeTasks = none
      rw [hw, hs]
    rw [hok] at hnone
    cases hnone

private theorem leads_resolve :
    Leads (· = s) (resolve actor) (fun r t => t = s ∧ s.store.resolve actor = .ok r)
      (fun t => t = s ∧ (s.Reliable → ∃ f, s.store.resolve actor = .error f)) := by
  refine Leads.bind ((leads_storeTask .resolve).mono (fun _ _ h => h) fun t ht => ?_) fun _ => ?_
  · exact ⟨ht.1, fun hs => absurd hs ht.2⟩
  rintro w rfl
  rw [on_bind, on_get]
  simp only [on_ofResult]
  cases h : w.store.resolve actor with
  | error f => exact ⟨rfl, fun _ => ⟨f, h⟩⟩
  | ok r => exact ⟨rfl, h⟩

private theorem leads_load :
    Leads (· = s) (load actor) (fun r t => t = s ∧ s.store.load actor = .ok r)
      (fun t => t = s ∧ (s.Reliable → ∃ f, s.store.load actor = .error f)) := by
  refine Leads.bind ((leads_storeTask .load).mono (fun _ _ h => h) fun t ht => ?_) fun _ => ?_
  · exact ⟨ht.1, fun hs => absurd hs ht.2⟩
  rintro w rfl
  rw [on_bind, on_get]
  simp only [on_ofResult]
  cases h : w.store.load actor with
  | error f => exact ⟨rfl, fun _ => ⟨f, h⟩⟩
  | ok r => exact ⟨rfl, h⟩

/-- A read answers with the context that is there, or the store fails and it answers with none. -/
theorem leads_get_tried :
    Leads (· = s) (Contexts.get actor)
      (fun r t => t = s ∧ (r = s.context? actor ∨ r = none ∧ ¬ s.Reliable)) R := by
  have hnone {t : Scene} (ht : t = s) (h : s.Reliable → s.context? actor = none) :
      t = s ∧ (none = s.context? actor ∨ (none : Option Context) = none ∧ ¬ s.Reliable) := by
    by_cases hs : s.Reliable
    · exact ⟨ht, .inl (h hs).symm⟩
    · exact ⟨ht, .inr ⟨rfl, hs⟩⟩
  refine leads_guarded (Leads.bind (leads_resolve.mono (fun _ _ h => h) ?_) fun r => ?_)
  · rintro t ⟨ht, hf⟩
    refine hnone ht fun hs => ?_
    obtain ⟨f, hf⟩ := hf hs
    rw [Scene.context?, Store.context?, hf]
  · cases r with
    | none =>
      exact Leads.pure fun t ht => ⟨ht.1, .inl (by rw [Scene.context?, Store.context?, ht.2])⟩
    | some human =>
      refine Leads.given fun hr =>
        Leads.bind (leads_load.mono (fun _ _ h => h) ?_) fun blob => ?_
      · rintro t ⟨ht, hf⟩
        refine hnone ht fun hs => ?_
        obtain ⟨f, hf⟩ := hf hs
        simp only [Scene.context?, Store.context?, hr, hf]
      · refine Leads.given fun hl => ?_
        rintro w rfl
        exact ⟨rfl, .inl (by simp only [Scene.context?, Store.context?, hr, hl]; rfl)⟩

/-- A read answers with the context that is there. -/
theorem leads_get (hs : s.Reliable) :
    Leads (· = s) (Contexts.get actor) (fun r t => t = s ∧ r = s.context? actor) R :=
  leads_get_tried.post fun _ _ h => ⟨h.1, h.2.resolve_right fun h => h.2 hs⟩

/-- Unless that task of the store fails, the text of a context is kept, and nothing is reported. -/
theorem on_put_text {d : Context} {w : World}
    (hr : w.store.resolve d.externalId = .ok (some d.humanId))
    (htask : w.outages.store .save w.storeTasks = none) :
    ∃ s, on (put d) w = (.ok (), { w with store := s, storeTasks := w.storeTasks + 1 }) ∧
      w.store.Saved s d.externalId d.encode := by
  obtain ⟨s, hsave, hsaved⟩ := Store.save_of_accepts (Store.accepts_of_resolve hr) d.encode
  refine ⟨s, ?_, hsaved⟩
  simp only [put, save, on_bind, on_storeTask, htask, Turn.on_get, on_ofResult, hsave, on_modify,
    noteAll, List.append_nil]

/-- A context is written unless that task of the store fails. -/
theorem on_put {d : Context} {w : World} (hd : d.externalId = actor)
    (hr : w.store.resolve actor = .ok (some d.humanId))
    (htask : w.outages.store .save w.storeTasks = none) :
    ∃ w', on (put d) w = (.ok (), w') ∧ w.scene.Rewritten w'.scene actor d.kept := by
  subst hd
  obtain ⟨s, hput, hsaved⟩ := on_put_text hr htask
  exact ⟨_, hput, hsaved.own hr, hsaved.load_of_ne, hsaved.resolve, rfl, rfl, rfl⟩

private theorem leads_put {d : Context} (hd : d.externalId = actor)
    (hr : s.store.resolve actor = .ok (some d.humanId)) :
    Leads (· = s) (put d) (fun _ t => s.Rewritten t actor d.kept)
      (fun t => t = s ∧ ¬ s.Reliable) := by
  rintro w rfl
  cases htask : w.outages.store .save w.storeTasks with
  | none =>
    obtain ⟨w', hput, hw'⟩ := on_put hd hr htask
    rw [hput]
    exact hw'
  | some f =>
    rw [put, save, on_bind, on_storeTask, htask]
    refine ⟨rfl, fun hs => ?_⟩
    have hnone : w.outages.store .save w.storeTasks = none := hs _ _
    rw [hnone] at htask
    cases htask

/-- For an actor who is unknown nothing is written. -/
theorem leads_setVariable_unknown (hs : s.Reliable) (hc : s.context? actor = none) (p : Path)
    (v : Value) : Leads (· = s) (setVariable actor p v) (fun _ t => t = s) R := by
  refine leads_guarded ((leads_get hs).bind fun o => Leads.given fun ho => ?_)
  rw [ho, hc]
  exact Leads.quiet (Quiet.note _)

theorem leads_revise_unknown (hs : s.Reliable) (hc : s.context? actor = none)
    (f : Context → Context) : Leads (· = s) (revise actor f) (fun _ t => t = s) R := by
  refine Leads.bind (leads_guarded ((leads_get hs).bind fun o => Leads.given fun ho => ?_))
    fun _ => Leads.pure fun _ ht => ht
  rw [ho, hc]
  exact Leads.quiet ((Quiet.note _).bind fun _ => Quiet.pure _)

section Known
variable (hc : s.context? actor = some c)
include hc

/-- A change of the context of a known actor, after it was read. -/
private theorem leads_changed {α : Type} {d : Context} {neutral : α}
    {f : Option Context → Turn α}
    (hf : Leads (· = s) (f (some c)) (fun _ t => s.Rewritten t actor d)
      (fun t => t = s ∧ ¬ s.Reliable))
    (hnone : Quiet (f none)) :
    Leads (· = s) (guarded neutral (Contexts.get actor >>= f)) (fun _ t => s.Tried t actor d)
      R := by
  refine leads_guarded (leads_get_tried.bind fun o => Leads.given fun ho => ?_)
  rw [hc] at ho
  rcases ho with rfl | ⟨rfl, hs⟩
  · exact hf.mono (fun _ _ h => .inl h) fun _ h => .inr h
  · exact (Leads.quiet hnone).mono (fun _ _ h => .inr ⟨h, hs⟩) fun _ h => .inr ⟨h, hs⟩

theorem leads_amend_tried {change : Context → Schema.Checked (Context × List Notice)}
    {r : Context × List Notice} (hchange : change c = .ok r)
    (hexternal : r.1.externalId = c.externalId) (hhuman : r.1.humanId = c.humanId) :
    Leads (· = s) (amend actor change) (fun _ t => s.Tried t actor r.1.kept) R := by
  obtain ⟨hactor, hresolve⟩ := Store.context?_identity hc
  have hchange : change c = Except.ok r := hchange
  refine leads_changed hc ?_ ((Quiet.note _).bind fun _ => Quiet.pure _)
  simp only [hchange]
  refine (Leads.noted r).bind fun d => Leads.given fun hd => ?_
  subst hd
  exact (leads_put (hexternal.trans hactor) (hhuman ▸ hresolve)).bind fun _ =>
    Leads.pure fun _ ht => ht

theorem leads_revise_tried (f : Context → Context) (hexternal : (f c).externalId = c.externalId)
    (hhuman : (f c).humanId = c.humanId) :
    Leads (· = s) (revise actor f) (fun _ t => s.Tried t actor (f c).repair.1.kept) R := by
  refine (leads_amend_tried hc rfl ?_ ?_).bind fun _ => Leads.pure fun _ ht => ht
  · rw [(f c).repair_identity.1, hexternal]
  · rw [(f c).repair_identity.2, hhuman]

theorem leads_setVariable_tried (p : Path) (v : Value) :
    Leads (· = s) (setVariable actor p v) (fun _ t => s.Tried t actor (c.setData p v).kept) R := by
  obtain ⟨hactor, hresolve⟩ := Store.context?_identity hc
  exact leads_changed hc (leads_put hactor hresolve) (Quiet.note _)

theorem leads_recordStep_tried (flow : String) (step : Int) :
    Leads (· = s) (recordStep actor flow step)
      (fun _ t => s.Tried t actor (c.visit flow step s.now).kept) R := by
  obtain ⟨hactor, hresolve⟩ := Store.context?_identity hc
  refine leads_changed hc ?_ ((Quiet.note _).bind fun _ => Quiet.pure _)
  refine Leads.get fun w hw => ?_
  have hnow : w.now = s.now := congrArg Scene.now hw
  rw [← hnow]
  exact (leads_put (d := c.visit flow step w.now) hactor hresolve).bind fun _ =>
    Leads.pure fun _ ht => ht

end Known

section Reliable
variable (hs : s.Reliable) (hc : s.context? actor = some c)
include hs hc

theorem leads_amend {change : Context → Schema.Checked (Context × List Notice)}
    {r : Context × List Notice} (hchange : change c = .ok r)
    (hexternal : r.1.externalId = c.externalId) (hhuman : r.1.humanId = c.humanId) :
    Leads (· = s) (amend actor change) (fun _ t => s.Rewritten t actor r.1.kept) R :=
  (leads_amend_tried hc hchange hexternal hhuman).post fun _ _ h => h.rewritten hs

theorem leads_revise (f : Context → Context) (hexternal : (f c).externalId = c.externalId)
    (hhuman : (f c).humanId = c.humanId) :
    Leads (· = s) (revise actor f) (fun _ t => s.Rewritten t actor (f c).repair.1.kept) R :=
  (leads_revise_tried hc f hexternal hhuman).post fun _ _ h => h.rewritten hs

theorem leads_setVariable (p : Path) (v : Value) :
    Leads (· = s) (setVariable actor p v)
      (fun _ t => s.Rewritten t actor (c.setData p v).kept) R :=
  (leads_setVariable_tried hc p v).post fun _ _ h => h.rewritten hs

theorem leads_recordStep (flow : String) (step : Int) :
    Leads (· = s) (recordStep actor flow step)
      (fun _ t => s.Rewritten t actor (c.visit flow step s.now).kept) R :=
  (leads_recordStep_tried hc flow step).post fun _ _ h => h.rewritten hs

end Reliable

end Contexts

end Dialogue
