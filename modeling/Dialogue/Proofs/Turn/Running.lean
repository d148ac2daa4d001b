import Dialogue.Turn

/-! How work runs on a world: what it answers, and the world that it leaves. -/
namespace Dialogue.Turn
variable {α β : Type}

/-- Runs work on a world. -/
def on (work : Turn α) (w : World) : Except Fault α × World := work.run.run w

theorem ext_on {x y : Turn α} (h : ∀ w, on x w = on y w) : x = y := funext h

@[simp] theorem on_pure (a : α) (w : World) : on (pure a) w = (.ok a, w) := rfl

@[simp] theorem on_throw (f : Fault) (w : World) : on (throw f : Turn α) w = (.error f, w) := rfl

@[simp] theorem on_get (w : World) : on (get : Turn World) w = (.ok w, w) := rfl

@[simp] theorem on_set (w' w : World) : on (set w' : Turn PUnit) w = (.ok ⟨⟩, w') := rfl

@[simp] theorem on_modify (f : World → World) (w : World) :
    on (modify f : Turn PUnit) w = (.ok ⟨⟩, f w) := rfl

theorem on_bind (work : Turn α) (f : α → Turn β) (w : World) :
    on (work >>= f) w = match on work w with
      | (.ok a, w') => on (f a) w'
      | (.error e, w') => (.error e, w') := by
  rw [on, ExceptT.run_bind, StateT.run_bind]
  change _ = match work.run.run w with
    | (.ok a, w') => on (f a) w'
    | (.error e, w') => (.error e, w')
  rcases work.run.run w with ⟨a | a, w'⟩ <;> rfl

theorem on_rescue (work : Turn α) (handle : Fault → Turn α) (w : World) :
    on (rescue work handle) w = match on work w with
      | (.ok a, w') => (.ok a, w')
      | (.error e, w') => on (handle e) w' := by
  rw [rescue, on, ExceptT.run_tryCatch, StateT.run_bind]
  change _ = match work.run.run w with
    | (Except.ok a, w') => (Except.ok a, w')
    | (.error e, w') => on (handle e) w'
  rcases work.run.run w with ⟨a | a, w'⟩ <;> rfl

theorem on_ofResult (r : Except Fault α) (w : World) :
    on (ofResult r) w = (r, w) := by
  cases r <;> rfl

theorem on_noted (r : α × List Notice) (w : World) :
    on (noted r) w = (.ok r.1, { w with notices := w.notices ++ r.2 }) := rfl

theorem on_storeTask (t : StoreTask) (w : World) :
    on (storeTask t) w = (match w.outages.store t w.storeTasks with
      | some f => .error f
      | none => .ok ⟨⟩, { w with storeTasks := w.storeTasks + 1 }) := by
  simp only [storeTask, on_bind, on_get, on_set]
  cases w.outages.store t w.storeTasks <;> rfl

theorem on_resolve (actor : Int) (w : World) :
    on (resolve actor) w = (match w.outages.store .resolve w.storeTasks with
      | some f => .error f
      | none => w.store.resolve actor, { w with storeTasks := w.storeTasks + 1 }) := by
  rw [resolve, on_bind, on_storeTask]
  cases w.outages.store .resolve w.storeTasks with
  | some f => rfl
  | none => simp only [on_bind, on_get, on_ofResult]

section
variable {a : α} {b : β} {w v : World}

theorem on_bind_of_ok {x : Turn α} (h : on x w = (.ok a, v)) (f : α → Turn β) :
    on (x >>= f) w = on (f a) v := by
  rw [on_bind, h]

theorem on_map_of_ok {x : Turn α} (h : on x w = (.ok a, v)) (f : α → β) :
    on (f <$> x) w = (.ok (f a), v) := by
  rw [map_eq_pure_bind, on_bind_of_ok h, on_pure]

/-- A run of two pieces of work, one after the other, taken apart. -/
theorem ok_of_bind {x : Turn α} {f : α → Turn β} (h : on (x >>= f) w = (.ok b, v)) :
    ∃ a u, on x w = (.ok a, u) ∧ on (f a) u = (.ok b, v) := by
  rw [on_bind] at h
  rcases hon : on x w with ⟨e | a, u⟩
  · rw [hon] at h
    nomatch h
  · rw [hon] at h
    exact ⟨a, u, rfl, h⟩

theorem ok_of_map {x : Turn α} {f : α → β} (h : on (f <$> x) w = (.ok b, v)) :
    ∃ a, on x w = (.ok a, v) ∧ f a = b := by
  rw [map_eq_pure_bind] at h
  obtain ⟨a, u, hon, hpure⟩ := ok_of_bind h
  obtain ⟨hb, rfl⟩ := Prod.mk.inj hpure
  exact ⟨a, hon, Except.ok.inj hb⟩

theorem ok_of_pure {c : α} (h : on (pure a) w = (.ok c, v)) : a = c ∧ w = v := by
  obtain ⟨hb, hv⟩ := Prod.mk.inj h
  exact ⟨Except.ok.inj hb, hv⟩

end

end Dialogue.Turn
