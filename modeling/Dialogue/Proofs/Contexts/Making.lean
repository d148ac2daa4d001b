import Dialogue.Proofs.Contexts.Sanity

/-! Contexts that are there or else are made. What is given out is what the store keeps from then
on, also when a context was only made because the one that is there could not be read. -/
namespace Dialogue

/-- Nothing in a context that nothing was done with gets lost when it is written and read. -/
theorem Context.kept_fresh (externalId humanId : Int) :
    (fresh externalId humanId).kept = fresh externalId humanId := by
  rw [kept]
  split <;> rfl

/-- Of an actor who can be resolved there is a context. -/
theorem Scene.exists_context?_of_resolve {s : Scene} {actor human : Int}
    (h : s.store.resolve actor = .ok (some human)) : ∃ c, s.context? actor = some c := by
  obtain ⟨blob, hload⟩ := Store.load_of_resolve h
  exact ⟨_, by simp only [context?, Store.context?, h, hload]; rfl⟩

namespace Contexts
open Turn
variable {w v : World} {actor human : Int} {c : Context} {o : Option Context}

theorem scene_of_get (h : on (Contexts.get actor) w = (.ok o, v)) : v.scene = w.scene :=
  (leads_get_tried.of_ok (R := fun _ => True) rfl h).1

theorem context?_of_get (h : on (Contexts.get actor) w = (.ok (some c), v)) :
    w.scene.context? actor = some c := by
  obtain ⟨-, hc | ⟨hc, -⟩⟩ := leads_get_tried.of_ok (R := fun _ => True) rfl h
  · exact hc.symm
  · cases hc

/-- A read that does not fail finds what is there. -/
theorem eq_of_get (hreads : w.scene.ReadsAt w.storeTasks)
    (h : on (Contexts.get actor) w = (.ok o, v)) : o = w.scene.context? actor := by
  cases hc : w.scene.context? actor with
  | some c =>
    obtain ⟨w', hget, -⟩ := on_get_of_readsAt hc hreads
    exact Except.ok.inj (Prod.mk.inj (h.symm.trans hget)).1
  | none =>
    cases o with
    | some c => exact (context?_of_get h).symm.trans hc
    | none => rfl

/-- Nothing is made of a context that is there. -/
theorem exists_getOrCreate_of_readsAt (hc : w.scene.context? actor = some c)
    (hreads : w.scene.ReadsAt w.storeTasks) (human : Int) :
    ∃ u, on (getOrCreate actor human) w = (.ok (some c), u) ∧ u.scene = w.scene := by
  obtain ⟨u, hget, hscene, -⟩ := on_get_of_readsAt hc hreads
  refine ⟨u, ?_, hscene⟩
  rw [getOrCreate, on_bind, hget]
  rfl

theorem context?_of_create (hresolve : w.store.resolve actor = .ok (some human))
    (h : on (create actor human) w = (.ok (some c), v)) : v.scene.context? actor = some c := by
  cases htask : w.outages.store .save w.storeTasks with
  | some f =>
    rw [create, guarded, on_rescue] at h
    simp only [put, save, on_bind, on_storeTask, htask] at h
    cases (Prod.mk.inj h).1
  | none =>
    obtain ⟨u, hput, hu⟩ := on_put (d := .fresh actor human) rfl hresolve htask
    rw [create, guarded, on_rescue, on_bind, hput] at h
    obtain ⟨hc, rfl⟩ := Prod.mk.inj h
    rw [← Option.some.inj (Except.ok.inj hc)]
    exact hu.context?.trans (congrArg some (Context.kept_fresh actor human))

/-- A context that is there or else is made is what the store keeps from then on, and if the read of
it does not fail it was there. -/
theorem context?_of_getOrCreate (hresolve : w.store.resolve actor = .ok (some human))
    (h : on (getOrCreate actor human) w = (.ok (some c), v)) :
    v.scene.context? actor = some c ∧
      (w.scene.ReadsAt w.storeTasks → w.scene.context? actor = some c) := by
  obtain ⟨o, u, hget, hrest⟩ := ok_of_bind h
  have hscene := scene_of_get hget
  cases o with
  | some c' =>
    obtain ⟨hc, rfl⟩ := ok_of_pure hrest
    have hthere := context?_of_get hget
    rw [hscene, hthere, hc]
    exact ⟨rfl, fun _ => rfl⟩
  | none =>
    have hstore : u.store = w.store := congrArg Scene.store hscene
    refine ⟨context?_of_create (hstore ▸ hresolve) hrest, fun hreads => ?_⟩
    obtain ⟨c', hc'⟩ := Scene.exists_context?_of_resolve (s := w.scene) hresolve
    rw [← eq_of_get hreads hget] at hc'
    cases hc'

end Contexts

end Dialogue
