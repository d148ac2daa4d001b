import Dialogue.Contexts
import Dialogue.Proofs.Turn.Running

/-! Work that never ends in a fault, and where the fault of other work comes from. -/
namespace Dialogue

namespace Turn
variable {α β : Type} {Q : α → Prop} {Q' : β → Prop}

/-- On every world the work ends with an answer, and with one that meets `Q`. -/
def Returns (work : Turn α) (Q : α → Prop) : Prop := ∀ w, ∃ a v, on work w = (.ok a, v) ∧ Q a

/-- What is done one after the other ends in a fault of the first or of the second. -/
theorem on_bind_eq_error_iff {work : Turn α} {k : α → Turn β} {w u : World} {f : Fault} :
    on (work >>= k) w = (.error f, u) ↔ on work w = (.error f, u) ∨
      ∃ a v, on work w = (.ok a, v) ∧ on (k a) v = (.error f, u) := by
  rw [on_bind]
  rcases on work w with ⟨e | a, v⟩
  · simp
  · constructor
    · exact fun h => .inr ⟨a, v, rfl, h⟩
    · rintro (h | ⟨a', v', h, hk⟩)
      · nomatch h
      · obtain ⟨ha, rfl⟩ := Prod.mk.inj h
        exact Except.ok.inj ha ▸ hk

theorem on_ofResult_bind_eq_error_iff {r : Except Fault α} {k : α → Turn β} {w u : World}
    {f : Fault} :
    on (ofResult r >>= k) w = (.error f, u) ↔ (r = .error f ∧ u = w) ∨
      ∃ a, r = .ok a ∧ on (k a) w = (.error f, u) := by
  rw [on_bind, on_ofResult]
  cases r with
  | error g => simp [Prod.mk.injEq, eq_comm]
  | ok a => simp

namespace Returns

theorem pure {a : α} (h : Q a) : Returns (pure a) Q := fun w => ⟨a, w, rfl, h⟩

theorem note (n : Notice) : Returns (note n) fun _ => True := fun _ => ⟨_, _, rfl, trivial⟩

theorem bind {work : Turn α} {k : α → Turn β} (hwork : Returns work Q)
    (hk : ∀ a, Q a → Returns (k a) Q') : Returns (work >>= k) Q' := by
  intro w
  obtain ⟨a, v, hon, ha⟩ := hwork w
  rw [on_bind, hon]
  exact hk a ha v

theorem map {work : Turn α} {g : α → β} (hwork : Returns work Q) (hg : ∀ a, Q a → Q' (g a)) :
    Returns (g <$> work) Q' := by
  rw [map_eq_pure_bind]
  exact hwork.bind fun a ha => .pure (hg a ha)

/-- Faults that are dealt with do not get on. -/
theorem rescue {work : Turn α} {handle : Fault → Turn α}
    (h : ∀ f, Returns (handle f) fun _ => True) :
    Returns (Turn.rescue work handle) fun _ => True := by
  intro w
  rw [on_rescue]
  rcases on work w with ⟨f | a, v⟩
  · exact h f v
  · exact ⟨a, v, rfl, trivial⟩

theorem ne_error {work : Turn α} (h : Returns work Q) (w u : World) (f : Fault) :
    on work w ≠ (.error f, u) := by
  obtain ⟨a, v, hon, -⟩ := h w
  rw [hon]
  nofun

/-- Before work that always returns only what comes first can go wrong. -/
theorem on_bind_eq_error_iff {work : Turn α} {k : α → Turn β} {w u : World} {f : Fault}
    (h : ∀ a, Returns (k a) fun _ => True) :
    on (work >>= k) w = (.error f, u) ↔ on work w = (.error f, u) := by
  rw [Turn.on_bind_eq_error_iff]
  constructor
  · rintro (hwork | ⟨a, v, -, hk⟩)
    · exact hwork
    · exact absurd hk ((h a).ne_error v u f)
  · exact .inl

end Returns

theorem on_map_eq_error_iff {work : Turn α} {g : α → β} {w u : World} {f : Fault} :
    on (g <$> work) w = (.error f, u) ↔ on work w = (.error f, u) := by
  rw [map_eq_pure_bind]
  exact Returns.on_bind_eq_error_iff fun _ => .pure trivial

end Turn

namespace Contexts
open Turn

theorem returns_guarded {α : Type} (neutral : α) (work : Turn α) :
    Returns (guarded neutral work) fun _ => True :=
  Returns.rescue fun _ => (Returns.note _).bind fun _ _ => .pure trivial

theorem returns_getOrCreate (actor human : Int) :
    Returns (getOrCreate actor human) fun _ => True := by
  refine (returns_guarded _ _).bind fun o _ => ?_
  cases o with
  | some c => exact .pure trivial
  | none => exact returns_guarded _ _

end Contexts

end Dialogue
