import Dialogue.Proofs.Contexts.Sanity

/-! Looking through the contexts of all actors while the store works: what is found there, and that
nothing changes in the world but what is counted and reported. -/
namespace Dialogue

namespace World

/-- Nothing has changed but the counts of tasks and what was reported. -/
def Looked (w v : World) : Prop :=
  ∃ storeTasks channelTasks notices, v = { w with storeTasks, channelTasks, notices }

variable {w u v : World}

theorem Looked.refl (w : World) : w.Looked w := ⟨_, _, _, rfl⟩

theorem Looked.trans (h : w.Looked u) (k : u.Looked v) : w.Looked v := by
  obtain ⟨_, _, _, rfl⟩ := h
  obtain ⟨_, _, _, rfl⟩ := k
  exact ⟨_, _, _, rfl⟩

theorem Looked.scene (h : w.Looked v) : v.scene = w.scene := by
  obtain ⟨_, _, _, rfl⟩ := h
  rfl

theorem Looked.owners (h : w.Looked v) : v.owners = w.owners := by
  obtain ⟨_, _, _, rfl⟩ := h
  rfl

end World

namespace Scene

/-- What stands at a place in the data of an actor; null for someone unknown. -/
def valueAt (s : Scene) (p : Path) (actor : Int) : Value :=
  (s.context? actor).elim .null fun c => Path.get (.dict c.data) p

/-- The data of an actor hold a value at a place. -/
def holds (s : Scene) (p : Path) (v : Value) (actor : Int) : Bool :=
  (s.context? actor).any fun c => Value.same (Path.get (.dict c.data) p) v

end Scene

theorem Store.mem_externalIds {s : Store} {actor human : Int}
    (h : s.resolve actor = .ok (some human)) : actor ∈ s.externalIds := by
  have hrecords {r : Records} (hr : r.resolve actor = some human) : actor ∈ r.externalIds := by
    rw [Records.externalIds, Table.mem_keys_iff, Table.has]
    exact Option.isSome_iff_exists.mpr ⟨human, hr⟩
  cases s with
  | memory r | sealed r => exact hrecords (Except.ok.inj h)
  | files f => exact hrecords (Except.ok.inj h)
  | rows t =>
    obtain ⟨row, hrow⟩ := accepts_of_resolve h
    have hactor := Rows.externalId_of_find hrow
    rw [Rows.find] at hrow
    split at hrow
    · have hmem := List.mem_of_find?_eq_some (Except.ok.inj hrow)
      exact List.mem_map.mpr ⟨row, hmem, hactor⟩
    · cases hrow

namespace Contexts
open Turn
variable {w : World} (hs : w.scene.Reliable)
include hs

/-- What is asked for is found. -/
theorem exists_looked_get (actor : Int) :
    ∃ v, on (Contexts.get actor) w = (.ok (w.scene.context? actor), v) ∧ w.Looked v := by
  by_cases hknown : ∃ human, w.store.resolve actor = .ok (some human)
  · obtain ⟨human, hresolve⟩ := hknown
    obtain ⟨blob, hload⟩ := Store.load_of_resolve hresolve
    have hc : w.scene.context? actor = some (Context.decode w.now actor human blob).1 := by
      change w.store.context? w.now actor = _
      simp only [Store.context?, hresolve, hload]
    rw [hc]
    exact ⟨_, on_get_of_resolve (hs.writesAt _).1 hresolve hload, _, _, _, rfl⟩
  · have hreads : reads w actor = false := by
      rw [reads, finds]
      split
      · rename_i human hresolve
        exact absurd ⟨human, hresolve⟩ hknown
      · simp
    have hc : w.scene.context? actor = none := by
      change w.store.context? w.now actor = _
      rw [Store.context?]
      split
      · rename_i human hresolve
        exact absurd ⟨human, hresolve⟩ hknown
      · rfl
    obtain ⟨ns, -, hget⟩ := on_get_of_not_reads hreads
    rw [hc]
    exact ⟨_, hget, _, _, _, rfl⟩

theorem exists_looked_variableAt (actor : Int) (p : Path) :
    ∃ v, on (variableAt actor p) w = (.ok (w.scene.valueAt p actor), v) ∧ w.Looked v := by
  obtain ⟨v, hget, hv⟩ := exists_looked_get hs actor
  refine ⟨v, ?_, hv⟩
  rw [variableAt, guarded, on_rescue, on_bind, hget, Scene.valueAt]
  cases w.scene.context? actor <;> rfl

private theorem exists_looked_firstHolding (p : Path) (x : Value) (actors : List Int) :
    ∃ v, on (firstHolding p x actors) w = (.ok (actors.find? (w.scene.holds p x)), v) ∧
      w.Looked v := by
  induction actors generalizing w with
  | nil => exact ⟨w, rfl, .refl w⟩
  | cons actor actors ih =>
    obtain ⟨u, hget, hu⟩ := exists_looked_get hs actor
    rw [← hu.scene] at hs
    obtain ⟨v, hrest, hv⟩ := ih hs
    rw [hu.scene] at hrest
    have hholds : w.scene.holds p x actor =
      (w.scene.context? actor).any fun c => Value.same (Path.get (.dict c.data) p) x := rfl
    rw [firstHolding, on_bind, hget, List.find?_cons, hholds]
    cases w.scene.context? actor with
    | none => exact ⟨v, hrest, hu.trans hv⟩
    | some c =>
      simp only [Option.any_some]
      cases Value.same (Path.get (.dict c.data) p) x with
      | true => exact ⟨u, rfl, hu⟩
      | false => exact ⟨v, hrest, hu.trans hv⟩

/-- The first of all actors is found whose data hold the value. -/
theorem exists_looked_findActor (p : Path) (x : Value) :
    ∃ v, on (findActor p x) w = (.ok (w.store.externalIds.find? (w.scene.holds p x)), v) ∧
      w.Looked v := by
  have hlist : w.outages.store .list w.storeTasks = none := hs _ _
  have hreliable : World.scene { w with storeTasks := w.storeTasks + 1 } |>.Reliable := hs
  obtain ⟨v, hfirst, hv⟩ := exists_looked_firstHolding hreliable p x w.store.externalIds
  refine ⟨v, ?_, World.Looked.trans ⟨_, _, _, rfl⟩ hv⟩
  rw [findActor, guarded, on_rescue, on_bind, externalIds]
  simp only [on_bind, on_storeTask, hlist, on_get, on_pure, hfirst]
  rfl

/-- A value that is written changes the text of the actor, and nothing else. -/
theorem exists_looked_setVariable {actor : Int} {c : Context}
    (hc : w.scene.context? actor = some c) (p : Path) (x : Value) :
    ∃ s v, on (setVariable actor p x) w = (.ok (), { v with store := s }) ∧ w.Looked v ∧
      w.store.Saved s actor (c.setData p x).encode := by
  obtain ⟨rfl, hresolve⟩ := Store.context?_identity hc
  obtain ⟨u, hget, hu⟩ := exists_looked_get hs c.externalId
  rw [← hu.scene] at hs hresolve
  obtain ⟨s, hput, hsaved⟩ := on_put_text (w := u) (d := c.setData p x) hresolve (hs _ _)
  rw [setVariable, guarded, on_rescue, on_bind, hget, hc]
  simp only [hput]
  have hstore : u.store = w.store := congrArg Scene.store hu.scene
  exact ⟨s, { u with storeTasks := u.storeTasks + 1 }, rfl, hu.trans ⟨_, _, _, rfl⟩,
    hstore ▸ hsaved⟩

end Contexts

end Dialogue
