import Dialogue.Proofs.Bot.Sequels
import Dialogue.Proofs.Turn.Running

/-! Events lap by lap. The first lap is what the event does by itself, every further one is the work
of a step, and each ends where its sequel leads. -/
namespace Dialogue.Bot
open Turn

/-- What was done alone, with the sequel that it led to unless it broke off, and where that led. -/
structure Lap where
  sequel : Option Sequel
  landing : Except Fault (Outcome ⊕ Arrival)
  world : World

namespace Lap

/-- The step that is to be run next. -/
def arrival? (l : Lap) : Option Arrival :=
  match l.landing with
  | .ok (.inr a) => some a
  | _ => none

/-- What is left to do after the last lap. A step that is still to be run is one too many. -/
def closing (l : Lap) : Turn Outcome :=
  match l.landing with
  | .ok (.inl o) => return o
  | .ok (.inr _) => fail .chainLimitReached .chainLimit
  | .error f => throw f

/-- The outcome of an event whose last lap this is. -/
def outcome (l : Lap) : Outcome :=
  match l.landing with
  | .ok (.inl o) => o
  | .ok (.inr _) => .failed .chainLimit
  | .error f => .failed (.fault f)

theorem landing_of_arrival {l : Lap} {a : Arrival} (h : l.arrival? = some a) :
    l.landing = .ok (.inr a) := by
  rw [arrival?] at h
  split at h
  · rename_i hland
    rw [hland, Option.some.inj h]
  · cases h

theorem closing_of_arrival {l : Lap} {a : Arrival} (h : l.arrival? = some a) :
    l.closing = fail .chainLimitReached .chainLimit := by
  rw [closing, landing_of_arrival h]

end Lap

section
variable (b : Bot) (actor : Int)

def lap (alone : Turn Sequel) (w : World) : Lap :=
  match on alone w with
  | (.ok q, w') => ⟨some q, (on (b.reach actor q) w').1, (on (b.reach actor q) w').2⟩
  | (.error f, w') => ⟨none, .error f, w'⟩

/-- The laps from some work on, with as many steps left as the number says. -/
def laps : Nat → Turn Sequel → World → List Lap
  | 0, alone, w => [b.lap actor alone w]
  | left + 1, alone, w =>
    let l := b.lap actor alone w
    match l.arrival? with
    | some a => l :: laps left (b.stepAlone actor a.step) l.world
    | none => [l]

/-- The laps of an event. -/
def eventLaps (e : Event) (w : World) : List Lap :=
  b.laps actor b.chainLimit.toNat (b.eventAlone actor e) w

end

/-- The steps that laps came to, in order. -/
def arrivals (ls : List Lap) : List Arrival := ls.filterMap (·.arrival?)

section
variable {b : Bot} {actor : Int} {alone : Turn Sequel} {w : World} {l : Lap} {a : Arrival}

theorem lap_of_broken {f : Fault} {w' : World} (h : on alone w = (.error f, w')) :
    b.lap actor alone w = ⟨none, .error f, w'⟩ := by
  rw [lap, h]

theorem lap_of_sequel {q : Sequel} {w' : World} (h : on alone w = (.ok q, w')) :
    b.lap actor alone w =
      ⟨some q, (on (b.reach actor q) w').1, (on (b.reach actor q) w').2⟩ := by
  rw [lap, h]

theorem laps_ne_nil (left : Nat) : b.laps actor left alone w ≠ [] := by
  cases left with
  | zero => exact List.cons_ne_nil _ _
  | succ left =>
    rw [laps]
    split <;> exact List.cons_ne_nil _ _

theorem laps_of_arrival (h : (b.lap actor alone w).arrival? = some a) (left : Nat) :
    b.laps actor (left + 1) alone w = b.lap actor alone w ::
      b.laps actor left (b.stepAlone actor a.step) (b.lap actor alone w).world := by
  simp only [laps, h]

theorem laps_of_rest (h : (b.lap actor alone w).arrival? = none) (left : Nat) :
    b.laps actor left alone w = [b.lap actor alone w] := by
  cases left with
  | zero => rfl
  | succ left => simp only [laps, h]

theorem head?_laps (left : Nat) :
    (b.laps actor left alone w).head? = some (b.lap actor alone w) := by
  cases left with
  | zero => rfl
  | succ left =>
    rw [laps]
    split <;> rfl

/-- What holds of the first lap, and goes over to the lap of a step that a lap came to, holds of all
laps. The step that the last lap comes to is not run any more. -/
theorem laps_forall {K : Lap → Prop} (left : Nat) (hfirst : K (b.lap actor alone w))
    (hnext : ∀ l ∈ (b.laps actor left alone w).dropLast, ∀ a, l.arrival? = some a → K l →
      b.lap actor (b.stepAlone actor a.step) l.world ∈ b.laps actor left alone w →
      K (b.lap actor (b.stepAlone actor a.step) l.world)) :
    ∀ l ∈ b.laps actor left alone w, K l := by
  induction left generalizing alone w with
  | zero =>
    intro l hl
    rwa [List.mem_singleton.mp hl]
  | succ left ih =>
    cases ha : (b.lap actor alone w).arrival? with
    | none =>
      rw [laps_of_rest ha]
      intro l hl
      rwa [List.mem_singleton.mp hl]
    | some a =>
      rw [laps_of_arrival ha] at hnext ⊢
      rw [List.dropLast_cons_of_ne_nil (laps_ne_nil left)] at hnext
      have hsecond := hnext _ (List.mem_cons_self ..) a ha hfirst
        (List.mem_cons_of_mem _ (List.mem_of_head? (head?_laps left)))
      exact List.forall_mem_cons.mpr ⟨hfirst, ih hsecond fun l hl a' ha' hK hmem =>
        hnext l (List.mem_cons_of_mem _ hl) a' ha' hK (List.mem_cons_of_mem _ hmem)⟩

/-- Running a step takes one from the steps that are left. -/
theorem execute_succ (left : Nat) (s : Step) :
    b.execute actor (left + 1) s =
      b.stepAlone actor s >>= b.pursue (b.execute actor left) actor := by
  rw [execute, stepAlone, bind_assoc]
  apply bind_congr
  intro o
  cases o with
  | none => simp only [pure_bind, pursue_rest]
  | some c => exact work_eq c s

/-- Work with its sequel, put into one lap and what comes after it. -/
private theorem on_pursue (run : Runner) :
    on (alone >>= b.pursue run actor) w = match (b.lap actor alone w).arrival? with
      | some a => on (run a.step) (b.lap actor alone w).world
      | none => on (b.lap actor alone w).closing (b.lap actor alone w).world := by
  rw [on_bind, lap]
  rcases on alone w with ⟨f | q, w'⟩
  · rfl
  · simp only [pursue, on_bind]
    rcases on (b.reach actor q) w' with ⟨f | o | a, w''⟩ <;> rfl

/-- What work comes to with its sequel shows in the last of its laps. -/
theorem on_laps (left : Nat) (hl : (b.laps actor left alone w).getLast? = some l) :
    on (alone >>= b.pursue (b.execute actor left) actor) w = on l.closing l.world := by
  induction left generalizing alone w with
  | zero =>
    have hlast : b.lap actor alone w = l := Option.some.inj hl
    rw [on_pursue, ← hlast]
    cases ha : (b.lap actor alone w).arrival? with
    | some a =>
      rw [Lap.closing_of_arrival ha]
      rfl
    | none => rfl
  | succ left ih =>
    rw [on_pursue]
    cases ha : (b.lap actor alone w).arrival? with
    | some a =>
      rw [laps_of_arrival ha, List.getLast?_cons_of_ne_nil (laps_ne_nil left)] at hl
      simp only [execute_succ]
      exact ih hl
    | none =>
      rw [laps_of_rest ha] at hl
      have hlast : b.lap actor alone w = l := Option.some.inj hl
      rw [← hlast]

theorem on_react {e : Event} (hl : (b.eventLaps actor e w).getLast? = some l) :
    on (b.react actor e) w = on l.closing l.world := by
  rw [react_eq]
  exact on_laps _ hl

/-- The last lap of an event gives its outcome, and all that it leaves behind but a notice. -/
theorem on_handle {e : Event} (hl : (b.eventLaps actor e w).getLast? = some l) :
    ∃ ns, on (b.handle actor e) w =
      (.ok l.outcome, { l.world with notices := l.world.notices ++ ns }) := by
  rw [handle, on_rescue, on_react hl]
  obtain ⟨q, landing, w'⟩ := l
  match landing with
  | .error f => exact ⟨[.entryPointFailed], rfl⟩
  | .ok (.inl o) =>
    refine ⟨[], ?_⟩
    rw [List.append_nil]
    rfl
  | .ok (.inr a) => exact ⟨[.chainLimitReached], rfl⟩

theorem exists_lastLap (left : Nat) : ∃ l, (b.laps actor left alone w).getLast? = some l :=
  ⟨_, List.getLast?_eq_some_getLast (laps_ne_nil left)⟩

/-- An event leaves the scene as the last of its laps does. -/
theorem exists_lap_handle (e : Event) : ∃ l ∈ b.eventLaps actor e w,
    (on (b.handle actor e) w).2.scene = l.world.scene := by
  obtain ⟨l, hlast⟩ := @exists_lastLap b actor (b.eventAlone actor e) w b.chainLimit.toNat
  obtain ⟨ns, hon⟩ := on_handle hlast
  exact ⟨l, List.mem_of_getLast? hlast, congrArg (fun r => r.2.scene) hon⟩

theorem length_laps (left : Nat) :
    (b.laps actor left alone w).length = (b.laps actor left alone w).tail.length + 1 := by
  have hpos := List.length_pos_iff.mpr (@laps_ne_nil b actor alone w left)
  rw [List.length_tail]
  omega

theorem length_tail_laps_le (left : Nat) : (b.laps actor left alone w).tail.length ≤ left := by
  induction left generalizing alone w with
  | zero => exact Nat.le_refl 0
  | succ left ih =>
    cases ha : (b.lap actor alone w).arrival? with
    | none =>
      rw [laps_of_rest ha]
      exact Nat.zero_le _
    | some a =>
      rw [laps_of_arrival ha, List.tail_cons, length_laps]
      exact Nat.succ_le_succ ih

/-- The last lap comes to a further step when one more was attempted than could be run. -/
theorem arrival_last_iff (left : Nat) (hl : (b.laps actor left alone w).getLast? = some l) :
    l.arrival?.isSome = true ↔ left < (arrivals (b.laps actor left alone w)).length := by
  induction left generalizing alone w with
  | zero =>
    have hlast : b.lap actor alone w = l := Option.some.inj hl
    rw [laps, arrivals, hlast]
    cases ha : l.arrival? with
    | none => simp [ha]
    | some a => simp [ha]
  | succ left ih =>
    cases ha : (b.lap actor alone w).arrival? with
    | none =>
      rw [laps_of_rest ha] at hl ⊢
      have hlast : b.lap actor alone w = l := Option.some.inj hl
      simp [arrivals, ← hlast, ha]
    | some a =>
      rw [laps_of_arrival ha] at hl ⊢
      rw [List.getLast?_cons_of_ne_nil (laps_ne_nil left)] at hl
      have hcons (ls : List Lap) :
          (arrivals (b.lap actor alone w :: ls)).length = (arrivals ls).length + 1 := by
        rw [arrivals, List.filterMap_cons_some ha, List.length_cons, arrivals]
      rw [ih hl, hcons, Nat.add_lt_add_iff_right]

/-- Laps that came to an end before the limit are the same under every larger one. -/
theorem laps_of_le {left more : Nat} (hmore : left ≤ more)
    (hl : (b.laps actor left alone w).getLast? = some l) (hend : l.arrival? = none) :
    b.laps actor more alone w = b.laps actor left alone w := by
  induction left generalizing alone w more with
  | zero =>
    have hlast : b.lap actor alone w = l := Option.some.inj hl
    rw [← hlast] at hend
    rw [laps_of_rest hend, laps_of_rest hend]
  | succ left ih =>
    cases ha : (b.lap actor alone w).arrival? with
    | none => rw [laps_of_rest ha, laps_of_rest ha]
    | some a =>
      obtain ⟨more, rfl⟩ := Nat.exists_eq_add_of_le' hmore
      rw [laps_of_arrival ha, List.getLast?_cons_of_ne_nil (laps_ne_nil left)] at hl
      have hnext := ih (Nat.le_add_left left more) hl
      rw [← Nat.add_assoc, laps_of_arrival ha, laps_of_arrival ha, hnext]

/-- What one lap does has nothing to do with the limit. -/
theorem laps_chainLimit (limit : Int) (left : Nat) :
    ({ b with chainLimit := limit } : Bot).laps actor left alone w =
      b.laps actor left alone w := by
  induction left generalizing alone w with
  | zero => rfl
  | succ left ih =>
    have hlap : ({ b with chainLimit := limit } : Bot).lap actor alone w = b.lap actor alone w :=
      rfl
    cases ha : (b.lap actor alone w).arrival? with
    | none =>
      rw [laps_of_rest ha, ← hlap]
      exact laps_of_rest (hlap ▸ ha) _
    | some a =>
      rw [laps_of_arrival ha, ← hlap, ← ih]
      exact laps_of_arrival (hlap ▸ ha) left

end

end Dialogue.Bot
