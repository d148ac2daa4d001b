import Dialogue.Proofs.Contexts.Overwriting
import Dialogue.Proofs.Contexts.Reading

/-! Reads and writes of contexts when single tasks of the store fail. A read takes two tasks and a
write one more; when one of them fails, nothing is found or nothing is done, and nobody is told. -/
namespace Dialogue

namespace Scene
variable {s : Scene}

/-- A read whose first task has some number fails in neither of its tasks. -/
def ReadsAt (s : Scene) (n : Nat) : Prop :=
  s.failing .resolve n = none ∧ s.failing .load (n + 1) = none

/-- The same of a write, which begins with a read. -/
def WritesAt (s : Scene) (n : Nat) : Prop := s.ReadsAt n ∧ s.failing .save (n + 2) = none

theorem Reliable.writesAt (h : s.Reliable) (n : Nat) : s.WritesAt n := ⟨⟨h _ _, h _ _⟩, h _ _⟩

end Scene

namespace Contexts
open Turn
variable {w : World} {actor : Int} {c : Context} {p : Path} {v : Value}

/-- A read that fails finds nothing. -/
theorem on_get_of_not_readsAt (h : ¬ w.scene.ReadsAt w.storeTasks) :
    ∃ w', on (Contexts.get actor) w = (.ok none, w') ∧ w'.scene = w.scene := by
  have hfails : reads w actor = false := by
    rw [Bool.eq_false_iff]
    intro hreads
    obtain ⟨hfinds, hload⟩ := (Bool.and_eq_true ..).mp hreads
    obtain ⟨hresolve, -⟩ := (Bool.and_eq_true ..).mp hfinds
    exact h ⟨Option.isNone_iff_eq_none.mp hresolve, Option.isNone_iff_eq_none.mp hload⟩
  obtain ⟨ns, -, hget⟩ := on_get_of_not_reads hfails
  exact ⟨_, hget, rfl⟩

/-- A read answers with what the text of the actor stands for, and reports what it gave rise to. -/
theorem on_get_of_resolve {human : Int} {blob : Option String}
    (h : w.scene.ReadsAt w.storeTasks) (hresolve : w.store.resolve actor = .ok (some human))
    (hload : w.store.load actor = .ok blob) :
    on (Contexts.get actor) w = (.ok (some (Context.decode w.now actor human blob).1), { w with
      storeTasks := w.storeTasks + 2
      notices := w.notices ++ (Context.decode w.now actor human blob).2 }) := by
  obtain ⟨hfirst, hsecond⟩ : w.outages.store .resolve w.storeTasks = none ∧
    w.outages.store .load (w.storeTasks + 1) = none := h
  simp only [Contexts.get, guarded, resolve, load, on_rescue, on_bind, on_storeTask, hfirst,
    hsecond, on_get, on_ofResult, hresolve, hload, on_noted, on_pure]

variable (hc : w.store.context? w.now actor = some c)
include hc

theorem on_get_of_readsAt (h : w.scene.ReadsAt w.storeTasks) :
    ∃ w', on (Contexts.get actor) w = (.ok (some c), w') ∧ w'.scene = w.scene ∧
      w'.storeTasks = w.storeTasks + 2 := by
  obtain ⟨-, hresolve⟩ := Store.context?_identity hc
  rw [Store.context?, hresolve] at hc
  simp only at hc
  split at hc
  · rename_i blob hload
    rw [on_get_of_resolve h hresolve hload, Option.some.inj hc]
    exact ⟨_, rfl, rfl, rfl⟩
  · cases hc

theorem on_variableAt (h : w.scene.ReadsAt w.storeTasks) :
    ∃ w', on (variableAt actor p) w = (.ok (Path.get (.dict c.data) p), w') ∧
      w'.scene = w.scene := by
  obtain ⟨w', hget, hscene, -⟩ := on_get_of_readsAt hc h
  refine ⟨w', ?_, hscene⟩
  rw [variableAt, guarded, on_rescue, on_bind, hget]
  rfl

theorem on_setVariable (h : w.scene.WritesAt w.storeTasks) :
    ∃ w', on (setVariable actor p v) w = (.ok (), w') ∧
      w.scene.Rewritten w'.scene actor (c.setData p v).kept := by
  obtain ⟨hactor, hresolve⟩ := Store.context?_identity hc
  obtain ⟨u, hget, hscene, htasks⟩ := on_get_of_readsAt hc h.1
  have hstore : u.store = w.store := congrArg Scene.store hscene
  have hsave := h.2
  rw [← hscene, ← htasks] at hsave
  obtain ⟨w', hput, hw'⟩ := on_put (d := c.setData p v) hactor (hstore ▸ hresolve) hsave
  refine ⟨w', ?_, hscene ▸ hw'⟩
  rw [setVariable, guarded, on_rescue, on_bind, hget]
  simp only [hput]

/-- A write whose last task fails has done nothing, and nobody is told. -/
theorem on_setVariable_lost (hreads : w.scene.ReadsAt w.storeTasks) {f : Fault}
    (hsave : w.scene.failing .save (w.storeTasks + 2) = some f) :
    ∃ w', on (setVariable actor p v) w = (.ok (), w') ∧ w'.scene = w.scene ∧
      w'.storeTasks = w.storeTasks + 3 := by
  obtain ⟨u, hget, hscene, htasks⟩ := on_get_of_readsAt hc hreads
  rw [← hscene, ← htasks] at hsave
  have hfails : u.outages.store .save u.storeTasks = some f := hsave
  rw [setVariable, guarded, on_rescue, on_bind, hget]
  simp only [put, save, on_bind, on_storeTask, hfails]
  exact ⟨_, rfl, hscene, congrArg (· + 1) htasks⟩

end Contexts

end Dialogue
