import Dialogue.Handler
import Dialogue.Proofs.Turn.Running

/-! How many messages work sends. What handlers send by themselves is not counted, as nothing is
known about them. -/
namespace Dialogue

/-- The world was changed with so many messages sent at most, apart from what handlers did. -/
inductive Sends (hs : Handlers) : Nat → World → World → Prop
  | still {n : Nat} {w w' : World} (h : w'.sent = w.sent) : Sends hs n w w'
  | send {n : Nat} {w w' : World} {d : Delivery} (h : w'.sent = w.sent ++ [d]) :
    Sends hs (n + 1) w w'
  | handler {n : Nat} {name : String} {h : Handler} (hh : Table.value? hs name = some h)
    (actor : Int) (payload : Option Value) (w : World) :
    Sends hs n w (Turn.on (h.run actor payload) w).2
  | trans {m n : Nat} {w w' w'' : World} (h : Sends hs m w w') (h' : Sends hs n w' w'') :
    Sends hs (m + n) w w''

namespace Sends
variable {hs : Handlers} {m n : Nat} {w w' : World}

theorem weaken (h : Sends hs m w w') (hmn : m ≤ n) : Sends hs n w w' := by
  have hsame : Sends hs (n - m) w' w' := .still rfl
  have hall := h.trans hsame
  rwa [Nat.add_sub_cancel' hmn] at hall

/-- With handlers that send nothing the messages themselves are counted. -/
theorem length_le (hsilent : ∀ name h actor payload w, Table.value? hs name = some h →
    (Turn.on (h.run actor payload) w).2.sent = w.sent) (h : Sends hs n w w') :
    w'.sent.length ≤ w.sent.length + n := by
  induction h with
  | still h => rw [h]; exact Nat.le_add_right _ _
  | send h => rw [h, List.length_append, List.length_singleton]; omega
  | handler hh actor payload w => rw [hsilent _ _ actor payload w hh]; exact Nat.le_add_right _ _
  | trans _ _ ih ih' => omega

end Sends

namespace Turn
variable {α β : Type}

/-- Work that sends nothing, whatever comes of it, and puts nothing into or out of order. -/
def Mute (work : Turn α) : Prop :=
  ∀ w : World, ((on work w).2.sent, (on work w).2.outages) = (w.sent, w.outages)

namespace Mute

theorem sent {work : Turn α} (h : Mute work) (w : World) : (on work w).2.sent = w.sent :=
  congrArg Prod.fst (h w)

theorem outages {work : Turn α} (h : Mute work) (w : World) : (on work w).2.outages = w.outages :=
  congrArg Prod.snd (h w)

theorem pure (a : α) : Mute (pure a) := fun _ => rfl

theorem throw (f : Fault) : Mute (throw f : Turn α) := fun _ => rfl

theorem bind {work : Turn α} {f : α → Turn β} (hwork : Mute work) (hf : ∀ a, Mute (f a)) :
    Mute (work >>= f) := by
  intro w
  have hdone := hwork w
  rw [on_bind]
  rcases hon : on work w with ⟨e | a, w'⟩
  · rw [hon] at hdone
    exact hdone
  · rw [hon] at hdone
    exact (hf a w').trans hdone

theorem rescue {work : Turn α} {handle : Fault → Turn α} (hwork : Mute work)
    (hhandle : ∀ f, Mute (handle f)) : Mute (rescue work handle) := by
  intro w
  have hdone := hwork w
  rw [on_rescue]
  rcases hon : on work w with ⟨f | a, w'⟩
  · rw [hon] at hdone
    exact (hhandle f w').trans hdone
  · rw [hon] at hdone
    exact hdone

theorem note (n : Notice) : Mute (note n) := fun _ => rfl

theorem noted (r : α × List Notice) : Mute (noted r) := fun _ => rfl

theorem ofResult (r : Except Fault α) : Mute (ofResult r) := by cases r <;> exact fun _ => rfl

theorem storeTask (t : StoreTask) : Mute (storeTask t) := by
  intro w
  rw [on_storeTask]

theorem resolve (actor : Int) : Mute (resolve actor) :=
  (storeTask _).bind fun _ w => (ofResult (w.store.resolve actor)) w

theorem load (actor : Int) : Mute (load actor) :=
  (storeTask _).bind fun _ w => (ofResult (w.store.load actor)) w

theorem save (actor : Int) (blob : String) : Mute (save actor blob) := by
  refine (storeTask _).bind fun _ => ?_
  intro w
  rw [on_bind, on_get]
  exact ((ofResult (w.store.save actor blob)).bind fun _ _ => rfl) w

theorem pause (milliseconds : Nat) : Mute (pause milliseconds) := by
  unfold Turn.pause
  split <;> exact fun _ => rfl

end Mute

end Turn

namespace Contexts
open Turn

theorem mute_guarded {α : Type} {neutral : α} {work : Turn α} (h : Mute work) :
    Mute (guarded neutral work) :=
  h.rescue fun _ => (Mute.note _).bind fun _ => Mute.pure _

theorem mute_get (actor : Int) : Mute (Contexts.get actor) := by
  refine mute_guarded ((Mute.resolve actor).bind fun o => ?_)
  cases o with
  | none => exact Mute.pure _
  | some human =>
    exact (Mute.load actor).bind fun blob w => Mute.noted (Context.decode w.now actor human blob) w

theorem mute_amend (actor : Int) (change : Context → Schema.Checked (Context × List Notice)) :
    Mute (amend actor change) := by
  refine mute_guarded ((mute_get actor).bind fun o => ?_)
  cases o with
  | none => exact (Mute.note _).bind fun _ => Mute.pure _
  | some c =>
    simp only
    split
    · exact (Mute.noted _).bind fun _ => (Mute.save _ _).bind fun _ => Mute.pure _
    · exact Mute.throw _

theorem mute_revise (actor : Int) (f : Context → Context) : Mute (revise actor f) :=
  (mute_amend actor _).bind fun _ => Mute.pure _

theorem mute_setVariable (actor : Int) (p : Path) (v : Value) : Mute (setVariable actor p v) := by
  refine mute_guarded ((mute_get actor).bind fun o => ?_)
  cases o with
  | none => exact Mute.note _
  | some c => exact Mute.save _ _

theorem mute_recordStep (actor : Int) (flow : String) (step : Int) :
    Mute (recordStep actor flow step) := by
  refine mute_guarded ((mute_get actor).bind fun o => ?_)
  cases o with
  | none => exact (Mute.note _).bind fun _ => Mute.pure _
  | some c =>
    intro w
    rw [on_bind, on_get]
    exact ((Mute.save _ _).bind fun _ => Mute.pure _) w

end Contexts

namespace Turn
variable {α β : Type} {hs : Handlers} {m n : Nat} {Q : α → Prop} {Q' : β → Prop}

/-- The work sends so many messages at most, and what it answers is of some kind. -/
def Spends (hs : Handlers) (n : Nat) (work : Turn α) (Q : α → Prop) : Prop :=
  ∀ w : World, Sends hs n w (on work w).2 ∧ ∀ a, (on work w).1 = .ok a → Q a

namespace Spends

theorem of_mute {work : Turn α} (h : Mute work) : Spends hs n work fun _ => True :=
  fun w => ⟨.still (h.sent w), fun _ _ => trivial⟩

theorem pure {a : α} (h : Q a) : Spends hs n (pure a) Q :=
  fun _ => ⟨.still rfl, fun _ he => Except.ok.inj he ▸ h⟩

theorem throw (f : Fault) : Spends hs n (throw f : Turn α) Q :=
  fun _ => ⟨.still rfl, fun _ he => nomatch he⟩

theorem bind {work : Turn α} {f : α → Turn β} (hwork : Spends hs m work Q)
    (hf : ∀ a, Q a → Spends hs n (f a) Q') : Spends hs (m + n) (work >>= f) Q' := by
  intro w
  obtain ⟨hsends, hanswer⟩ := hwork w
  rw [on_bind]
  rcases hon : on work w with ⟨e | a, w'⟩
  · rw [hon] at hsends
    exact ⟨hsends.weaken (Nat.le_add_right m n), fun _ he => nomatch he⟩
  · rw [hon] at hsends hanswer
    obtain ⟨hnext, hlast⟩ := hf a (hanswer a rfl) w'
    exact ⟨hsends.trans hnext, hlast⟩

/-- Nothing is sent before. -/
theorem after {work : Turn α} {f : α → Turn β} (hwork : Mute work)
    (hf : ∀ a, Spends hs n (f a) Q') : Spends hs n (work >>= f) Q' := by
  have hall := (of_mute (n := 0) hwork).bind fun a _ => hf a
  rwa [Nat.zero_add] at hall

theorem map {work : Turn α} {f : α → β} (h : Spends hs n work fun a => Q' (f a)) :
    Spends hs n (f <$> work) Q' := by
  rw [map_eq_pure_bind]
  exact h.bind (n := 0) fun _ ha => pure ha

theorem rescue {work : Turn α} {handle : Fault → Turn α} (hwork : Spends hs n work Q)
    (hhandle : ∀ f, Spends hs 0 (handle f) Q) : Spends hs n (rescue work handle) Q := by
  intro w
  obtain ⟨hsends, hanswer⟩ := hwork w
  rw [on_rescue]
  rcases hon : on work w with ⟨f | a, w'⟩
  · rw [hon] at hsends
    obtain ⟨hnext, hlast⟩ := hhandle f w'
    exact ⟨hsends.trans hnext, hlast⟩
  · rw [hon] at hsends hanswer
    exact ⟨hsends, hanswer⟩

theorem weaken {work : Turn α} (h : Spends hs m work Q) (hmn : m ≤ n) : Spends hs n work Q :=
  fun w => ⟨(h w).1.weaken hmn, (h w).2⟩

theorem post {work : Turn α} {Q₀ : α → Prop} (h : Spends hs n work Q₀) (hQ : ∀ a, Q₀ a → Q a) :
    Spends hs n work Q :=
  fun w => ⟨(h w).1, fun a ha => hQ a ((h w).2 a ha)⟩

theorem note (k : Notice) : Spends hs n (note k) fun _ => True := of_mute (Mute.note k)

/-- A channel that is out of order sends nothing. -/
theorem deliver (dest : Destination) (text : String) (keyboard : Keyboard) :
    Spends hs 1 (Channel.deliver dest text keyboard) fun _ => True := by
  intro w
  refine ⟨?_, fun _ _ => trivial⟩
  simp only [Channel.deliver, channelTask, on_bind, on_get, on_set]
  cases w.outages.channel _ w.channelTasks with
  | none => exact .send rfl
  | some f => exact .still rfl

/-- Of what a handler does nothing is known. -/
theorem invoke (name : String) (actor : Int) (payload : Option Value) :
    Spends hs 0 (hs.invoke name actor payload) fun _ => True := by
  rw [Handlers.invoke]
  cases hh : Table.value? hs name with
  | none => exact throw _
  | some h =>
    refine after (Mute.ofResult _) fun taken => after (fun _ => rfl) fun _ w => ?_
    exact ⟨.handler hh actor taken w, fun _ _ => trivial⟩

theorem attempt (name : String) (actor : Int) (payload : Option Value) :
    Spends hs 0 (hs.attempt name actor payload) fun _ => True := by
  refine rescue ((invoke name actor payload).bind (n := 0) fun _ _ => pure trivial) fun f => ?_
  split <;> exact note _

end Spends

end Turn

end Dialogue
