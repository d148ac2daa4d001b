import Dialogue.Handler
import Dialogue.Proofs.Turn.Running

/-! Rules for what work leads to. They only speak of what flows depend on: the store, and who was
called. What is sent or reported is left out, so most work leaves everything as it is. -/
namespace Dialogue

/-- What flows depend on. -/
structure Scene where
  store : Store
  /-- Which tasks of the store fail, and how. -/
  failing : StoreTask → Nat → Option Fault
  now : String
  calls : List Call

def World.scene (w : World) : Scene := ⟨w.store, w.outages.store, w.now, w.calls⟩

namespace Turn
variable {α β : Type} {P P' R R' : Scene → Prop} {Q : α → Scene → Prop} {Q' : β → Scene → Prop}

/-- From a scene that meets `P` the work leads to one that meets `Q` for its answer, or `R` when it
ends in a fault. -/
def Leads (P : Scene → Prop) (work : Turn α) (Q : α → Scene → Prop) (R : Scene → Prop) : Prop :=
  ∀ w : World, P w.scene → match on work w with
    | (.ok a, w') => Q a w'.scene
    | (.error _, w') => R w'.scene

/-- Work that leaves the scene as it is, whatever comes of it. -/
def Quiet (work : Turn α) : Prop := ∀ w : World, (on work w).2.scene = w.scene

namespace Leads

theorem pure {a : α} (h : ∀ s, P s → Q a s) : Leads P (pure a) Q R := fun w hw => h w.scene hw

theorem throw {f : Fault} (h : ∀ s, P s → R s) : Leads P (throw f : Turn α) Q R :=
  fun w hw => h w.scene hw

theorem bind {work : Turn α} {f : α → Turn β} (hwork : Leads P work Q R)
    (hf : ∀ a, Leads (Q a) (f a) Q' R) : Leads P (work >>= f) Q' R := by
  intro w hw
  have hdone := hwork w hw
  rw [on_bind]
  rcases hon : on work w with ⟨a | a, w'⟩
  · rw [hon] at hdone
    exact hdone
  · rw [hon] at hdone
    exact hf a w' hdone

theorem map {work : Turn α} {f : α → β} (h : Leads P work (fun a => Q' (f a)) R) :
    Leads P (f <$> work) Q' R := by
  rw [map_eq_pure_bind]
  exact h.bind fun _ => pure fun _ hs => hs

theorem rescue {work : Turn α} {handle : Fault → Turn α} (hwork : Leads P work Q R)
    (hhandle : ∀ f, Leads R (handle f) Q R') : Leads P (rescue work handle) Q R' := by
  intro w hw
  have hdone := hwork w hw
  rw [on_rescue]
  rcases hon : on work w with ⟨f | a, w'⟩
  · rw [hon] at hdone
    exact hhandle f w' hdone
  · rw [hon] at hdone
    exact hdone

theorem mono {work : Turn α} {Q₀ : α → Scene → Prop} {R₀ : Scene → Prop} (h : Leads P work Q₀ R₀)
    (hQ : ∀ a s, Q₀ a s → Q a s) (hR : ∀ s, R₀ s → R s) : Leads P work Q R := by
  intro w hw
  have hdone := h w hw
  rcases hon : on work w with ⟨f | a, w'⟩
  · rw [hon] at hdone
    exact hR _ hdone
  · rw [hon] at hdone
    exact hQ _ _ hdone

theorem pre {work : Turn α} (h : Leads P' work Q R) (hP : ∀ s, P s → P' s) : Leads P work Q R :=
  fun w hw => h w (hP _ hw)

theorem post {work : Turn α} {Q₀ : α → Scene → Prop} (h : Leads P work Q₀ R)
    (hQ : ∀ a s, Q₀ a s → Q a s) : Leads P work Q R :=
  h.mono hQ fun _ hs => hs

/-- What is known beside the scene. -/
theorem given {p : Prop} {work : Turn α} (h : p → Leads P work Q R) :
    Leads (fun s => P s ∧ p) work Q R :=
  fun w hw => h hw.2 w hw.1

/-- What is known of one scene at a time. -/
theorem at_each {work : Turn α} (h : ∀ s, P s → Leads (· = s) work Q R) : Leads P work Q R :=
  fun w hw => h w.scene hw w rfl

/-- What leads on from every scene of a kind leads on from one of them. -/
theorem at_one {s : Scene} {work : Turn α} (hs : P s) (h : Leads P work Q R) :
    Leads (· = s) work Q R :=
  h.pre fun _ ht => ht ▸ hs

theorem get {f : World → Turn α} (h : ∀ w : World, P w.scene → Leads P (f w) Q R) :
    Leads P (MonadState.get >>= f) Q R := by
  intro w hw
  rw [on_bind, on_get]
  exact h w hw w hw

theorem note (n : Notice) : Leads P (note n) (fun _ => P) R := fun _ hw => hw

theorem noted (r : α × List Notice) : Leads P (noted r) (fun a s => P s ∧ a = r.1) R :=
  fun _ hw => ⟨hw, rfl⟩

theorem ofResult (r : Except Fault α) (h : ∀ s, P s → R s) :
    Leads P (ofResult r) (fun a s => P s ∧ r = .ok a) R := by
  cases r with
  | error f => exact throw h
  | ok a => exact pure fun _ hs => ⟨hs, rfl⟩

theorem quiet {work : Turn α} (h : Quiet work) : Leads P work (fun _ => P) P := by
  intro w hw
  have hscene := h w
  rcases hon : on work w with ⟨f | a, w'⟩
  · rw [hon] at hscene
    change P w'.scene
    rwa [hscene]
  · rw [hon] at hscene
    change P w'.scene
    rwa [hscene]

theorem of_ok {work : Turn α} {w v : World} {a : α} (h : Leads P work Q R) (hw : P w.scene)
    (hon : on work w = (.ok a, v)) : Q a v.scene := by
  have hdone := h w hw
  rwa [hon] at hdone

/-- Of work that is not looked into nothing is known. -/
theorem anyhow (work : Turn α) (P : Scene → Prop) :
    Leads P work (fun _ _ => True) fun _ => True := by
  intro w _
  rcases on work w with ⟨e | a, v⟩ <;> trivial

end Leads

namespace Quiet

theorem pure (a : α) : Quiet (pure a) := fun _ => rfl

theorem throw (f : Fault) : Quiet (throw f : Turn α) := fun _ => rfl

theorem bind {work : Turn α} {f : α → Turn β} (hwork : Quiet work) (hf : ∀ a, Quiet (f a)) :
    Quiet (work >>= f) := by
  intro w
  have hdone := hwork w
  rw [on_bind]
  rcases hon : on work w with ⟨e | a, w'⟩
  · rw [hon] at hdone
    exact hdone
  · rw [hon] at hdone
    exact (hf a w').trans hdone

theorem rescue {work : Turn α} {handle : Fault → Turn α} (hwork : Quiet work)
    (hhandle : ∀ f, Quiet (handle f)) : Quiet (rescue work handle) := by
  intro w
  have hdone := hwork w
  rw [on_rescue]
  rcases hon : on work w with ⟨f | a, w'⟩
  · rw [hon] at hdone
    exact (hhandle f w').trans hdone
  · rw [hon] at hdone
    exact hdone

theorem map {work : Turn α} (h : Quiet work) (f : α → β) : Quiet (f <$> work) := by
  rw [map_eq_pure_bind]
  exact h.bind fun _ => pure _

theorem note (n : Notice) : Quiet (note n) := fun _ => rfl

theorem noted (r : α × List Notice) : Quiet (noted r) := fun _ => rfl

theorem ofResult (r : Except Fault α) : Quiet (ofResult r) := by cases r <;> exact fun _ => rfl

theorem storeTask (t : StoreTask) : Quiet (storeTask t) := by
  intro w
  rw [on_storeTask]
  rfl

theorem resolve (actor : Int) : Quiet (resolve actor) :=
  (storeTask _).bind fun _ w => (ofResult (w.store.resolve actor)) w

theorem load (actor : Int) : Quiet (load actor) :=
  (storeTask _).bind fun _ w => (ofResult (w.store.load actor)) w

theorem channelTask (t : ChannelTask) : Quiet (channelTask t) := by
  intro w
  simp only [Turn.channelTask, on_bind, on_get, on_set]
  cases w.outages.channel t w.channelTasks <;> rfl

theorem pause (milliseconds : Nat) : Quiet (pause milliseconds) := by
  unfold Turn.pause
  split <;> exact fun _ => rfl

theorem deliver (dest : Destination) (text : String) (keyboard : Keyboard) :
    Quiet (Channel.deliver dest text keyboard) :=
  (channelTask _).bind fun _ _ => rfl

end Quiet

end Turn

end Dialogue
