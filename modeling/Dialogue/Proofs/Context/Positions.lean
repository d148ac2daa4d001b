import Dialogue.Proofs.Bot.Landing
import Dialogue.Proofs.Catalog.Building
import Mathlib.Data.List.DropRight

/-! Where contexts stand: in which flow, at which step of it, and which steps they have entered on
the way. Writing and reading a context does not move it, as long as its numbers can be read. -/
namespace Dialogue

structure Position where
  flow : String := ""
  step : Int := 0
  /-- The steps that were entered, the oldest first. -/
  history : List (String × Int) := []

def Visit.place (v : Visit) : String × Int := (v.flow, v.step)

def Context.position (c : Context) : Position :=
  { flow := c.currentFlow, step := c.currentStep, history := c.history.map (·.place) }

namespace Position

def began (p : Position) (flow : String) : Position := { p with flow := flow, step := 0 }

/-- Without a flow there is no step to be at. -/
def ended (p : Position) : Position := p.began ""

/-- A step is entered: the oldest places beyond the limit are forgotten. -/
def entered (p : Position) (place : String × Int) : Position :=
  { p with step := place.2, history := (p.history ++ [place]).rtake Context.historyLimit }

/-- At a step of a flow, which was entered last. -/
structure IsAt (p : Position) (place : String × Int) : Prop where
  flow : p.flow = place.1
  step : p.step = place.2
  last : p.history.getLast? = some place

theorem isAt_entered {p : Position} {place : String × Int} (h : p.flow = place.1) :
    (p.entered place).IsAt place where
  flow := h
  step := rfl
  last := by
    have hroom : ¬ (p.history ++ [place]).length ≤
        (p.history ++ [place]).length - Context.historyLimit := by
      rw [List.length_append, List.length_singleton, Context.historyLimit]
      omega
    rw [entered, List.rtake, List.getLast?_drop, if_neg hroom, List.getLast?_concat]

theorem IsAt.eq {p : Position} {here there : String × Int} (h : p.IsAt here) (k : p.IsAt there) :
    here = there := Option.some.inj (h.last.symm.trans k.last)

end Position

namespace Context
variable {c d : Context}

theorem position_kept (hid : c.hasReadableId = true) (hc : c.isLegible = true)
    (hstep : c.stepSound = true) : c.kept.position = c.position := by
  have hsettled : c.settled.stepSound = true := hstep
  rw [kept_of_legible hid hc, repair_eq]
  simp only [position, hsettled, if_true]
  rfl

theorem position_written (hid : c.hasReadableId = true) (hc : c.Tidy) (p : Path) {v : Value}
    (hv : v.isReadable = true) : (c.written p v).position = c.position :=
  position_kept (c := c.setData p v) hid (setData_legible hc.legible p hv) hc.sound.2

theorem position_disarmed (hid : c.hasReadableId = true) (hc : c.Tidy) (marker : Value) :
    (c.disarmed marker).position = c.position :=
  disarmed_of (P := fun d => d.position = c.position) marker rfl (position_written hid hc _ rfl)

theorem position_aimed (hid : c.hasReadableId = true) (hc : c.Tidy) {target : Value}
    (ht : target.isReadable = true) : (c.aimed target).position = c.position :=
  aimed_of (P := fun d => d.position = c.position) target rfl (position_written hid hc _ ht)

theorem position_revised {f : Context → Context} (hid : (f c).hasReadableId = true)
    (hc : (f c).isLegible = true) (hstep : (f c).stepSound = true) :
    (c.revised f).position = (f c).position := by
  have hrepaired : (f c).repair.1.position = (f c).position := by
    rw [repair_eq]
    simp only [position, hstep, if_true]
  have hidentity : (f c).repair.1.hasReadableId = true := by
    rw [hasReadableId, (f c).repair_identity.1, (f c).repair_identity.2]
    exact hid
  rw [revised, position_kept hidentity (repair_legible hc) (repair_sound _).2, hrepaired]

theorem stepSound_of_zero (h : c.currentStep = 0) : c.stepSound = true := by
  simp [stepSound, h]

theorem position_visit (hid : c.hasReadableId = true) (hc : c.Tidy) (hflow : c.currentFlow ≠ "")
    (flow : String) {step : Int} (hstep : Decimal.isReadable step = true) (now : String) :
    (c.visit flow step now).kept.position = c.position.entered (flow, step) := by
  have hsound : (c.visit flow step now).stepSound = true := by
    simp [stepSound, isIdle, visit, hflow]
  rw [position_kept (c := c.visit flow step now) hid (visit_legible hc.legible flow hstep now)
    hsound]
  simp only [position, Position.entered, visit, List.rtake, List.map_drop, List.map_append,
    List.length_append, List.length_map, List.map_cons, List.map_nil, List.length_singleton]
  rfl

theorem hasReadableId_written (p : Path) (v : Value) :
    (c.written p v).hasReadableId = c.hasReadableId := hasReadableId_kept _

theorem hasReadableId_revised {f : Context → Context} (hexternal : (f c).externalId = c.externalId)
    (hhuman : (f c).humanId = c.humanId) : (c.revised f).hasReadableId = c.hasReadableId := by
  rw [revised, hasReadableId_kept, hasReadableId, hasReadableId, (f c).repair_identity.1,
    (f c).repair_identity.2, hexternal, hhuman]

theorem hasReadableId_disarmed (marker : Value) :
    (c.disarmed marker).hasReadableId = c.hasReadableId :=
  disarmed_of (P := fun d => d.hasReadableId = c.hasReadableId) marker rfl
    (hasReadableId_written _ _)

theorem hasReadableId_aimed (target : Value) : (c.aimed target).hasReadableId = c.hasReadableId :=
  aimed_of (P := fun d => d.hasReadableId = c.hasReadableId) target rfl (hasReadableId_written _ _)

theorem hasReadableId_ended (marker : Value) :
    ((c.revised (·.ended)).disarmed marker).hasReadableId = c.hasReadableId := by
  rw [hasReadableId_disarmed]
  exact hasReadableId_revised rfl rfl

theorem position_ended (hid : c.hasReadableId = true) (hc : c.Tidy) (marker : Value) :
    ((c.revised (·.ended)).disarmed marker).position = c.position.ended := by
  have hsame : (c.revised (·.ended)).hasReadableId = c.hasReadableId :=
    hasReadableId_revised rfl rfl
  have hrevised : (c.revised (·.ended)).position = c.ended.position :=
    position_revised hid (ended_legible hc.legible) (stepSound_of_zero rfl)
  rw [position_disarmed (hsame.trans hid) (revised_tidy ..), hrevised]
  rfl

end Context

namespace Bot.Begins
variable {name : String} {c d : Context}

theorem tidy (h : Begins name c d) : d.Tidy := by
  cases h with
  | ownChat => exact Context.disarmed_tidy (Context.revised_tidy ..) _
  | topic => exact Context.disarmed_tidy (Context.aimed_tidy (Context.revised_tidy ..) _) _

theorem hasReadableId (h : Begins name c d) : d.hasReadableId = c.hasReadableId := by
  cases h with
  | ownChat =>
    rw [Context.hasReadableId_disarmed]
    exact Context.hasReadableId_revised rfl rfl
  | topic =>
    rw [Context.hasReadableId_disarmed, Context.hasReadableId_aimed]
    exact Context.hasReadableId_revised rfl rfl

theorem position (h : Begins name c d) (hid : c.hasReadableId = true) (hc : c.Tidy) :
    d.position = c.position.began name := by
  cases h with
  | ownChat =>
    have hsame : (c.revised (·.began name)).hasReadableId = c.hasReadableId :=
      Context.hasReadableId_revised rfl rfl
    have hrevised : (c.revised (·.began name)).position = (c.began name).position :=
      Context.position_revised hid (Context.began_legible hc.legible name)
        (Context.stepSound_of_zero rfl)
    rw [Context.position_disarmed (hsame.trans hid) (Context.revised_tidy ..), hrevised]
    rfl
  | topic topic chat target htopic hchat htarget =>
    have hsame : (c.revised (·.beganInTopic name (some topic) (some chat) target)).hasReadableId =
        c.hasReadableId := Context.hasReadableId_revised rfl rfl
    have hrevised : (c.revised (·.beganInTopic name (some topic) (some chat) target)).position =
        (c.beganInTopic name (some topic) (some chat) target).position :=
      Context.position_revised hid
        (Context.beganInTopic_legible hc.legible name htopic hchat htarget)
        (Context.stepSound_of_zero rfl)
    have hvalue : (Value.ofOption .int target).isReadable = true := by
      cases target with
      | none => rfl
      | some u => exact htarget
    have htidy := Context.revised_tidy c (·.beganInTopic name (some topic) (some chat) target)
    have haimed := (Context.hasReadableId_aimed (Value.ofOption .int target)).trans
      (hsame.trans hid)
    rw [Context.position_disarmed haimed (Context.aimed_tidy htidy _),
      Context.position_aimed (hsame.trans hid) htidy hvalue, hrevised]
    rfl

theorem currentFlow (h : Begins name c d) (hid : c.hasReadableId = true) (hc : c.Tidy) :
    d.currentFlow = name := congrArg Position.flow (h.position hid hc)

end Bot.Begins

/-- A step of a registered flow. -/
def Catalog.HasPlace (k : Catalog) (flow : String) (step : Int) : Prop :=
  ∃ f s, k.flow? flow = some f ∧ f.stepAt? step = some s

namespace Flow
variable {f : Flow} {s : Step}

theorem stepAt?_natCast (i : Nat) : f.stepAt? i = f.steps[i]? := by
  rw [stepAt?, if_pos (Int.natCast_nonneg i), Int.toNat_natCast]

theorem mem_of_stepAt? {i : Int} (h : f.stepAt? i = some s) : s ∈ f.steps := by
  rw [stepAt?] at h
  split at h
  · exact List.mem_of_getElem? h
  · cases h

end Flow

namespace Position
variable {k : Catalog} {p : Position}

/-- Only steps of registered flows were entered, and no more are remembered than can be. -/
structure Recorded (k : Catalog) (p : Position) : Prop where
  each : ∀ e ∈ p.history, k.HasPlace e.1 e.2
  short : p.history.length ≤ Context.historyLimit

/-- The actor is in no flow, in one without steps, or at the step that was entered last. -/
structure Placed (k : Catalog) (p : Position) : Prop extends Recorded k p where
  current : p.flow ≠ "" → ∃ f, k.flow? p.flow = some f ∧
    ((f.steps = [] ∧ p.step = 0) ∨
      ((f.stepAt? p.step).isSome ∧ p.history.getLast? = some (p.flow, p.step)))

theorem placed_start (k : Catalog) : Placed k {} := ⟨⟨nofun, Nat.zero_le _⟩, fun h => absurd rfl h⟩

theorem Recorded.ended (h : p.Recorded k) : p.ended.Placed k :=
  ⟨⟨h.each, h.short⟩, fun hflow => absurd rfl hflow⟩

theorem Recorded.began (h : p.Recorded k) (flow : String) : (p.began flow).Recorded k :=
  ⟨h.each, h.short⟩

/-- A flow without steps has begun. -/
theorem Recorded.blank (h : p.Recorded k) {name : String} {f : Flow} (hf : k.flow? name = some f)
    (hsteps : f.steps = []) : (p.began name).Placed k :=
  ⟨h.began name, fun _ => ⟨f, hf, .inl ⟨hsteps, rfl⟩⟩⟩

theorem Recorded.entered (h : p.Recorded k) {f : Flow} {i : Nat} {s : Step}
    (hf : k.flow? p.flow = some f) (hs : f.steps[i]? = some s) :
    (p.entered (p.flow, i)).Placed k := by
  have hstep : f.stepAt? i = some s := (Flow.stepAt?_natCast i).trans hs
  refine ⟨⟨fun e he => ?_, ?_⟩, fun _ => ⟨f, hf, .inr ⟨?_, ?_⟩⟩⟩
  · have hmem := List.mem_of_mem_drop he
    rcases List.mem_append.mp hmem with hold | hnew
    · exact h.each e hold
    · rw [List.mem_singleton.mp hnew]
      exact ⟨f, s, hf, hstep⟩
  · simp only [Position.entered, List.rtake, List.length_drop]
    omega
  · exact Option.isSome_iff_exists.mpr ⟨s, hstep⟩
  · have hlimit : Context.historyLimit = 99 + 1 := rfl
    simp only [Position.entered]
    rw [hlimit, List.rtake_concat_succ, List.getLast?_append]
    rfl

end Position

end Dialogue
