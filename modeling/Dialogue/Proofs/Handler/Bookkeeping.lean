import Dialogue.Handler.Script
import Dialogue.Proofs.Turn.Pairing

/-! Handlers that depend only on the data of actors, and only write data. They cannot tell in which
of two worlds they are called. -/
namespace Dialogue

/-- Work that reads the data of actors and puts values into them, and does nothing else. -/
inductive Turn.ByData {α : Type} : Turn α → Prop
  | answer (a : α) : ByData (pure a)
  | fail (f : Fault) : ByData (throw f)
  | read (actor : Int) (next : Option (Table String Value) → Turn α)
    (h : ∀ data, ByData (next data)) :
    ByData (Contexts.get actor >>= fun c => next (c.map Context.data))
  | write (actor : Int) (p : Path) (v : Value) (work : Turn α) (h : ByData work) :
    ByData (Contexts.setVariable actor p v >>= fun _ => work)

/-- Whatever the handler is called for, it keeps to the data. -/
def Handler.ByData (h : Handler) : Prop := ∀ actor payload, Turn.ByData (h.run actor payload)

namespace Turn.ByData
variable {α β : Type}

theorem bind {work : Turn α} {f : α → Turn β} (h : ByData work) (hf : ∀ a, ByData (f a)) :
    ByData (work >>= f) := by
  induction h with
  | answer a =>
    rw [pure_bind]
    exact hf a
  | fail e =>
    have hthrow : (throw e >>= f : Turn β) = throw e := rfl
    rw [hthrow]
    exact .fail e
  | read actor next _ ih =>
    rw [bind_assoc]
    exact .read actor (fun data => next data >>= f) ih
  | write actor p v work _ ih =>
    rw [bind_assoc]
    exact .write actor p v (work >>= f) ih

theorem setVariable (actor : Int) (p : Path) (v : Value) :
    ByData (Contexts.setVariable actor p v) := by
  have h := write actor p v (pure ()) (answer ())
  rwa [bind_pure_unit] at h

/-- Reading a context never ends in a fault. -/
private theorem exists_get (actor : Int) (w : World) :
    ∃ o v, on (Contexts.get actor) w = (.ok o, v) := by
  rw [Contexts.get, Contexts.guarded, on_rescue]
  split
  · rename_i o v _
    exact ⟨o, v, rfl⟩
  · exact ⟨none, _, rfl⟩

theorem variableAt (actor : Int) (p : Path) : ByData (Contexts.variableAt actor p) := by
  have heq : Contexts.variableAt actor p = Contexts.get actor >>= fun c =>
      pure (((c.map Context.data).map fun data => Path.get (.dict data) p).getD .null) := by
    apply ext_on
    intro w
    obtain ⟨o, v, hon⟩ := exists_get actor w
    rw [Contexts.variableAt, Contexts.guarded, on_rescue, on_bind, on_bind, hon]
    cases o <;> rfl
  rw [heq]
  exact .read actor (fun data => pure ((data.map fun d => Path.get (.dict d) p).getD .null))
    fun _ => .answer _

/-- Where only data count, the work is the same in both worlds. -/
theorem inStep {g : Stage} (ht : Decimal.isReadable g.topic = true)
    (hchat : Decimal.isReadable g.chat = true) {work : Turn α} (h : ByData work) :
    InStep g.Near work work (fun _ => g.Near) g.Near := by
  induction h with
  | answer a => exact InStep.pure fun _ _ hw => hw
  | fail f => exact InStep.throw fun _ _ hw => hw
  | read actor next _ ih => exact InStep.read_bind actor ih
  | write actor p v work _ ih => exact (InStep.setVariable ht hchat actor p v).bind fun _ => ih

end Turn.ByData

namespace Script
open Turn

/-- An act that puts a value into the data. -/
def Writes : Act → Prop
  | .set _ _ | .keepPayload _ => True
  | .send _ => False

private theorem byData_acts (engine : Engine) (actor : Int) (payload : Option Value) {as : List Act}
    (h : ∀ a ∈ as, Writes a) : ByData (as.forM (act engine actor payload)) := by
  induction as with
  | nil => exact .answer _
  | cons a as ih =>
    obtain ⟨ha, has⟩ := List.forall_mem_cons.mp h
    have hact : ByData (act engine actor payload a) := by
      cases a with
      | set path v => exact .setVariable actor _ v
      | keepPayload path => exact .setVariable actor _ _
      | send e => exact ha.elim
    exact hact.bind fun _ => ih has

private theorem byData_finish (actor : Int) (e : Ending) : ByData (finish actor e) := by
  match e with
  | .answer v => exact .answer _
  | .offer v =>
    cases hm : Menu.read v with
    | ok m =>
      simp only [finish, hm]
      exact .answer _
    | error complaints =>
      simp only [finish, hm]
      exact .fail _
  | .recall path => exact (ByData.variableAt actor _).bind fun _ => .answer _
  | .fail f => exact .fail f

/-- A script that sends no events keeps to the data, however it ends. -/
theorem handler_byData (engine : Engine) {s : Script} (h : ∀ a ∈ s.acts, Writes a) :
    (s.handler engine).ByData :=
  fun actor payload => (byData_acts engine actor payload h).bind fun _ =>
    byData_finish actor s.ending

end Script

namespace Turn.InStep

variable {g : Stage} {hs : Handlers}
variable (ht : Decimal.isReadable g.topic = true) (hchat : Decimal.isReadable g.chat = true)
  (hh : ∀ name h, Table.value? hs name = some h → h.ByData)
include ht hchat hh

theorem invoke (handler : String) (actor : Int) (payload : Option Value) :
    InStep g.Near (hs.invoke handler actor payload) (hs.invoke handler actor payload)
      (fun _ => g.Near) g.Near := by
  unfold Handlers.invoke
  split
  · exact throw fun _ _ hw => hw
  · rename_i h hvalue
    refine (still (still_ofResult _)).bind fun taken => ?_
    have hcalled : Still (modify fun w =>
        { w with calls := w.calls ++ [{ handler, actor, payload := taken }] } : Turn Unit)
        (.ok ()) :=
      fun _ => ⟨_, rfl, rfl, rfl, rfl⟩
    exact (still hcalled).bind fun _ => (hh _ _ hvalue actor taken).inStep ht hchat

theorem attempt (handler : String) (actor : Int) (payload : Option Value) :
    InStep g.Near (hs.attempt handler actor payload) (hs.attempt handler actor payload)
      (fun _ => g.Near) g.Near := by
  refine rescue ((invoke ht hchat hh handler actor payload).bind fun _ => pure fun _ _ hw => hw)
    fun f => ?_
  split <;> exact still (still_note _)

end Turn.InStep

end Dialogue
