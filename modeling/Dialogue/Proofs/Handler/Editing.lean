import Dialogue.Handler.Script
import Dialogue.Handler.Standard
import Dialogue.Proofs.Bot.Markers

/-! What handlers may write. The handlers that come with the bot only put values into the data of
actors, outside of what belongs to the bot. -/
namespace Dialogue

/-- Contexts were written, one after another, each as a relation to what was read allows. -/
inductive Scene.Edited (T : Context → Context → Prop) (s : Scene) : Scene → Prop
  | refl : s.Edited T s
  | edit {t u : Scene} {actor : Int} {c d : Context} (h : s.Edited T t)
    (hc : t.context? actor = some c) (hd : T c d) (hu : t.Rewritten u actor d.kept) : s.Edited T u

theorem Scene.Edited.reliable {T : Context → Context → Prop} {s t : Scene} (h : s.Edited T t)
    (hs : s.Reliable) : t.Reliable := by
  induction h with
  | refl => exact hs
  | edit _ _ _ hu ih => exact hu.reliable ih

theorem Scene.Edited.trans {T : Context → Context → Prop} {s t u : Scene} (h : s.Edited T t)
    (k : t.Edited T u) : s.Edited T u := by
  induction k with
  | refl => exact h
  | edit _ hc hd hu ih => exact .edit ih hc hd hu

namespace Context

/-- A value is put into the data, outside of what belongs to the bot. -/
def Noted (c d : Context) : Prop := ∃ p v, ¬ Path.IsSystem p ∧ d = c.setData p v

/-- Whatever else is changed, what belongs to the bot stays, and so does the flow as long as an
answer is awaited. -/
structure Spared (c d : Context) : Prop where
  /-- No key of the data comes to stand twice. -/
  nodup : (Table.keys c.data).Nodup → (Table.keys d.data).Nodup
  system : Table.value? d.data WaitMarker.systemKey = Table.value? c.data WaitMarker.systemKey
  flow : c.rawMarker = .null ∨ d.currentFlow = c.currentFlow

theorem Noted.spared {c d : Context} (h : c.Noted d) : c.Spared d := by
  obtain ⟨p, v, hp, rfl⟩ := h
  exact ⟨fun hn => Path.nodup_keys_set hn p v, Path.value?_set c.data hp v, .inr rfl⟩

theorem Spared.minds {k : Catalog} {c d : Context} (h : c.Spared d) (hc : c.Tidy)
    (hm : k.Minds c) : k.Minds d.kept := by
  refine Catalog.Minds.kept ?_ (h.nodup hc.nodup)
  have hsame {M : Value → Prop} (hM : c.Reserves M) : d.Reserves M := fun v hv =>
    hM v (h.system ▸ hv)
  obtain hnull | hflow := h.flow
  · exact hsame (hm.of_rawMarker hnull)
  · rw [Catalog.Minds, hflow]
    exact hsame hm

end Context

namespace Contexts
open Turn

theorem quiet_get (actor : Int) : Quiet (Contexts.get actor) := by
  refine Quiet.rescue ((Quiet.resolve actor).bind fun o => ?_) fun _ =>
    (Quiet.note _).bind fun _ => Quiet.pure _
  split
  · exact Quiet.pure _
  · exact (Quiet.load actor).bind fun blob w => Quiet.noted (Context.decode w.now actor _ blob) w

theorem quiet_variableAt (actor : Int) (p : Path) : Quiet (variableAt actor p) := by
  refine Quiet.rescue ((quiet_get actor).bind fun o => ?_) fun _ =>
    (Quiet.note _).bind fun _ => Quiet.pure _
  split <;> exact Quiet.pure _

theorem edits_setVariable {T : Context → Context → Prop} {s : Scene} (hs : s.Reliable) (actor : Int)
    (p : Path) (v : Value) (hT : ∀ c, T c (c.setData p v)) {R : Scene → Prop} :
    Leads (· = s) (setVariable actor p v) (fun _ t => s.Edited T t) R := by
  cases hc : s.context? actor with
  | none => exact (leads_setVariable_unknown hs hc p v).post fun _ t ht => ht ▸ .refl
  | some c => exact (leads_setVariable hs hc p v).post fun _ t ht => .edit .refl hc (hT c) ht

end Contexts

namespace Handler
open Turn

/-- Whatever a handler is called for, it only writes contexts, and only as a relation allows. -/
def Edits (T : Context → Context → Prop) (h : Handler) : Prop :=
  ∀ actor payload (s : Scene), s.Reliable →
    Leads (· = s) (h.run actor payload) (fun _ t => s.Edited T t) (fun t => s.Edited T t)

theorem Edits.mono {T T' : Context → Context → Prop} {h : Handler} (hh : h.Edits T)
    (hT : ∀ c d, T c d → T' c d) : h.Edits T' := by
  have hedited {s t : Scene} (ht : s.Edited T t) : s.Edited T' t := by
    induction ht with
    | refl => exact .refl
    | edit _ hc hd hu ih => exact .edit ih hc (hT _ _ hd) hu
  exact fun actor payload s hs => (hh actor payload s hs).mono (fun _ _ => hedited) fun _ => hedited

theorem quiet_reply (actor : Int) (text : String) : Quiet (reply actor text) := by
  refine (Contexts.quiet_get actor).bind fun o => ?_
  split
  · exact Quiet.deliver _ _ _
  · exact Quiet.pure _

theorem setStatus_edits : setStatus.Edits Context.Noted := by
  intro actor payload s hs
  simp only [setStatus]
  split
  · have hnoted (v : Value) (c : Context) : c.Noted (c.setData ["lead", "status"] v) :=
      ⟨_, v, by decide, rfl⟩
    refine (Contexts.edits_setVariable hs actor _ _ (hnoted _)).bind fun _ => ?_
    exact Leads.quiet ((quiet_reply _ _).bind fun _ => Quiet.pure _)
  · exact Leads.throw fun _ ht => ht ▸ .refl

theorem showOffer_edits : showOffer.Edits Context.Noted := by
  intro actor payload s hs
  have hquiet : Quiet (showOffer.run actor payload) :=
    (Contexts.quiet_variableAt actor _).bind fun offer => (Quiet.ofResult _).bind fun text =>
      (quiet_reply actor text).bind fun _ => Quiet.pure _
  exact (Leads.quiet hquiet).mono (fun _ _ ht => ht ▸ .refl) fun _ ht => ht ▸ .refl

/-- The handlers that come with the bot only put values into the data. -/
theorem standard_edits {name : String} {h : Handler} (hh : Table.value? standard name = some h) :
    h.Edits Context.Noted := by
  rw [standard, Table.value?_cons, Table.value?_cons] at hh
  split at hh
  · exact Option.some.inj hh ▸ setStatus_edits
  split at hh
  · exact Option.some.inj hh ▸ showOffer_edits
  · cases hh

end Handler

namespace Script
open Turn

/-- An act that only puts a value into the data, outside of what belongs to the bot. -/
def Notes : Act → Prop
  | .set path _ | .keepPayload path => ¬ (Path.ofString path).IsSystem
  | .send _ => False

private theorem edits_acts (engine : Engine) (actor : Int) (payload : Option Value) {as : List Act}
    (h : ∀ a ∈ as, Notes a) {s : Scene} (hs : s.Reliable) {R : Scene → Prop} :
    Leads (· = s) (as.forM (act engine actor payload)) (fun _ t => s.Edited Context.Noted t) R := by
  induction as generalizing s with
  | nil => exact Leads.pure fun t ht => ht ▸ .refl
  | cons a as ih =>
    obtain ⟨ha, has⟩ := List.forall_mem_cons.mp h
    have hact : Leads (· = s) (act engine actor payload a)
        (fun _ t => s.Edited Context.Noted t) R := by
      cases a with
      | set path v => exact Contexts.edits_setVariable hs actor _ _ fun c => ⟨_, _, ha, rfl⟩
      | keepPayload path => exact Contexts.edits_setVariable hs actor _ _ fun c => ⟨_, _, ha, rfl⟩
      | send e => exact ha.elim
    refine hact.bind fun _ => Leads.at_each fun t ht => ?_
    exact (ih has (ht.reliable hs)).post fun _ _ hu => ht.trans hu

theorem quiet_finish (actor : Int) (e : Ending) : Quiet (finish actor e) := by
  match e with
  | .answer v => exact Quiet.pure _
  | .offer v =>
    cases hm : Menu.read v with
    | ok m =>
      simp only [finish, hm]
      exact Quiet.pure _
    | error complaints =>
      simp only [finish, hm]
      exact Quiet.throw _
  | .recall path => exact (Contexts.quiet_variableAt actor _).bind fun _ => Quiet.pure _
  | .fail f => exact Quiet.throw f

/-- A script of such acts only puts values into the data, however it ends. -/
theorem handler_edits (engine : Engine) {s : Script} (h : ∀ a ∈ s.acts, Notes a) :
    (s.handler engine).Edits Context.Noted := by
  intro actor payload t ht
  refine (edits_acts engine actor payload h ht).bind fun _ => ?_
  exact Leads.quiet (quiet_finish actor s.ending)

end Script

end Dialogue
