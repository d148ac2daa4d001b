import Dialogue.Proofs.Contexts.Writing

/-! Work that is done on two worlds and cannot tell them apart: it answers the same in both, and
leaves them to each other as it found them. -/
namespace Dialogue

namespace Context

/-- The context without the steps that were entered. -/
def unvisited (c : Context) : Context := { c with history := [] }

/-- A change that keeps the identity and has nothing to do with the steps that were entered. -/
structure Ahistorical (f : Context → Context) : Prop where
  history : ∀ c h, f { c with history := h } = { f c with history := h }
  externalId : ∀ c, (f c).externalId = c.externalId
  humanId : ∀ c, (f c).humanId = c.humanId

namespace Ahistorical
variable {f : Context → Context} (hf : Ahistorical f)
include hf

theorem keeps_history (c : Context) : (f c).history = c.history := by
  have hsame : f c = { f c with history := c.history } := hf.history c c.history
  rw [hsame]

theorem unvisited (c : Context) : (f c).unvisited = f c.unvisited := (hf.history c []).symm

theorem untimed (c : Context) : (f c).untimed = f c.untimed :=
  calc (f c).untimed = { f c with history := c.history.map Visit.untimed } := by
        rw [Context.untimed, hf.keeps_history]
    _ = f c.untimed := (hf.history c _).symm

end Ahistorical

theorem began_ahistorical (flow : String) : Ahistorical (·.began flow) :=
  ⟨fun _ _ => rfl, fun _ => rfl, fun _ => rfl⟩

theorem beganInTopic_ahistorical (flow : String) (topic chat target : Option Int) :
    Ahistorical (·.beganInTopic flow topic chat target) :=
  ⟨fun _ _ => rfl, fun _ => rfl, fun _ => rfl⟩

theorem ended_ahistorical : Ahistorical (·.ended) := ⟨fun _ _ => rfl, fun _ => rfl, fun _ => rfl⟩

theorem relayed_ahistorical (on : Bool) : Ahistorical fun c => { c with forwarding := on } :=
  ⟨fun _ _ => rfl, fun _ => rfl, fun _ => rfl⟩

end Context

namespace Turn
variable {α β : Type} {R : World → World → Prop}

/-- Worlds that are related get the same answer from the work, and are related after it. -/
def Blind (R : World → World → Prop) (work : Turn α) : Prop := InStep R work work (fun _ => R) R

namespace Blind

theorem pure (a : α) : Blind R (pure a) := InStep.pure fun _ _ hw => hw

theorem throw (f : Fault) : Blind R (throw f : Turn α) := InStep.throw fun _ _ hw => hw

theorem bind {work : Turn α} {f : α → Turn β} (hwork : Blind R work) (hf : ∀ a, Blind R (f a)) :
    Blind R (work >>= f) :=
  InStep.bind hwork hf

theorem map {work : Turn α} (h : Blind R work) (f : α → β) : Blind R (f <$> work) := InStep.map h

theorem rescue {work : Turn α} {handle : Fault → Turn α} (hwork : Blind R work)
    (hhandle : ∀ f, Blind R (handle f)) : Blind R (rescue work handle) :=
  InStep.rescue hwork hhandle

/-- What the work answers does not count. -/
theorem discarded {work : Turn β} {k : Turn α} (hwork : Blind R (work >>= fun _ => Pure.pure ()))
    (hk : Blind R k) : Blind R (work >>= fun _ => k) := by
  have hall := hwork.bind fun _ => hk
  simp only [bind_assoc, pure_bind] at hall
  exact hall

end Blind

/-- The parts that work for an actor is made of cannot tell apart the worlds that are related. Times
and places of earlier steps may differ: nothing but the history itself depends on them. -/
structure Veil (R : World → World → Prop) (actor : Int) : Prop where
  still : ∀ {α : Type} {x : Turn α} {r : Except Fault α}, Still x r → Blind R x
  deliver : ∀ dest text keyboard, Blind R (Channel.deliver dest text keyboard)
  read : ∀ {α : Type} {f : Option Context → Turn α},
    (∀ c : Context, f (some c) = f (some c.unvisited)) →
    (∀ o, (∀ c ∈ o, c.externalId = actor) → Blind R (f o)) → Blind R (Contexts.get actor >>= f)
  write : ∀ p v, Blind R (Contexts.setVariable actor p v)
  revise : ∀ {f}, Context.Ahistorical f → Blind R (Contexts.revise actor f)
  enter : ∀ flow step, Blind R (Contexts.recordStep actor flow step >>= fun _ => Pure.pure ())

namespace Veil
variable {actor : Int} (hR : Veil R actor)
include hR

theorem note (n : Notice) : Blind R (note n) := hR.still (still_note n)

theorem noted (r : α × List Notice) : Blind R (noted r) := hR.still (still_noted r)

theorem ofResult (r : Except Fault α) : Blind R (ofResult r) := hR.still (still_ofResult r)

theorem pause (milliseconds : Nat) : Blind R (pause milliseconds) := by
  obtain ⟨r, hr⟩ := still_pause milliseconds
  exact hR.still hr

theorem guarded {neutral : α} {work : Turn α} (h : Blind R work) :
    Blind R (Contexts.guarded neutral work) :=
  h.rescue fun _ => (hR.note _).bind fun _ => .pure _

/-- A change that comes to nothing is blind, whatever it complains about. -/
theorem amend_error {change : Context → Schema.Checked (Context × List Notice)}
    {complaints : List Schema.Complaint} (h : ∀ c, change c = .error complaints) :
    Blind R (Contexts.amend actor change) := by
  obtain rfl : change = fun _ => .error complaints := funext h
  refine hR.guarded (hR.read (fun _ => rfl) fun o _ => ?_)
  cases o with
  | none => exact (hR.note _).bind fun _ => .pure _
  | some c => exact .throw _

/-- A call is recorded, and the handler does what it does. -/
theorem invoke {hs : Handlers} {name : String} (payload : Option Value)
    (hrun : ∀ h taken, Table.value? hs name = some h → Blind R (h.run actor taken)) :
    Blind R (hs.invoke name actor payload) := by
  unfold Handlers.invoke
  split
  · exact .throw _
  · rename_i h hh
    refine (hR.ofResult _).bind fun taken => ?_
    have hcalled : Still (modify fun w =>
        { w with calls := w.calls ++ [⟨name, actor, taken⟩] } : Turn Unit) (.ok ()) :=
      fun _ => ⟨_, rfl, rfl, rfl, rfl⟩
    exact (hR.still hcalled).bind fun _ => hrun h taken hh

theorem attempt {hs : Handlers} {name : String} (payload : Option Value)
    (hrun : ∀ h taken, Table.value? hs name = some h → Blind R (h.run actor taken)) :
    Blind R (hs.attempt name actor payload) := by
  refine .rescue ((hR.invoke payload hrun).bind fun _ => .pure _) fun f => ?_
  split <;> exact hR.note _

end Veil

/-- What the parts of the work rest on: what is read is akin, what is written is akin if what was
read was, and worlds stay related when nothing happens and when contexts are written that are. -/
structure Ground (R : World → World → Prop) (actor : Int) (K K' : Context → Context → Prop) :
    Prop where
  reliable : ∀ {w w'}, R w w' → w.scene.Reliable ∧ w'.scene.Reliable
  reads : ∀ {w w'}, R w w' →
    Option.Rel K (w.store.context? w.now actor) (w'.store.context? w'.now actor)
  unmoved : ∀ {w w' v v'}, R w w' → w.Unmoved v → w'.Unmoved v' → R v v'
  wrote : ∀ {w w' v v' d d'}, R w w' → w.Wrote actor d v → w'.Wrote actor d' v' → K' d d' → R v v'
  deliver : ∀ dest text keyboard, Blind R (Channel.deliver dest text keyboard)
  unvisited : ∀ {c c'}, K c c' → c'.unvisited = c.unvisited
  setData : ∀ {c c'}, K c c' → ∀ p v, K' (c.setData p v) (c'.setData p v)
  revised : ∀ {c c'}, K c c' → ∀ {f}, Context.Ahistorical f → K' (f c).repair.1 (f c').repair.1
  visit : ∀ {c c'}, K c c' → ∀ flow step now now',
    K' (c.visit flow step now) (c'.visit flow step now')

namespace Ground
variable {actor : Int} {K K' : Context → Context → Prop} (hG : Ground R actor K K')
include hG

private theorem blind_rewrite {x : Turn β} {g : String → Context → Context}
    (hknown : ∀ {w c}, w.scene.Reliable → w.store.context? w.now actor = some c →
      ∃ a v, on x w = (.ok a, v) ∧ w.Wrote actor (g w.now c) v)
    (hunknown : ∀ {w}, w.scene.Reliable → w.store.context? w.now actor = none →
      ∃ a v, on x w = (.ok a, v) ∧ w.Unmoved v)
    (hg : ∀ {c c'}, K c c' → ∀ now now', K' (g now c) (g now' c')) :
    Blind R (x >>= fun _ => pure ()) := by
  intro w w' hw
  obtain ⟨hs, hs'⟩ := hG.reliable hw
  have hread := hG.reads hw
  simp only [on_bind]
  cases hc : w.store.context? w.now actor with
  | none =>
    cases hc' : w'.store.context? w'.now actor with
    | some c' => rw [hc, hc'] at hread; nomatch hread
    | none =>
      obtain ⟨_, v, hon, hv⟩ := hunknown hs hc
      obtain ⟨_, v', hon', hv'⟩ := hunknown hs' hc'
      rw [hon, hon']
      exact ⟨.ok (), v, v', rfl, rfl, hG.unmoved hw hv hv'⟩
  | some c =>
    cases hc' : w'.store.context? w'.now actor with
    | none => rw [hc, hc'] at hread; nomatch hread
    | some c' =>
      rw [hc, hc', Option.rel_some_some] at hread
      obtain ⟨_, v, hon, hv⟩ := hknown hs hc
      obtain ⟨_, v', hon', hv'⟩ := hknown hs' hc'
      rw [hon, hon']
      exact ⟨.ok (), v, v', rfl, rfl, hG.wrote hw hv hv' (hg hread _ _)⟩

private theorem blind_read {f : Option Context → Turn α}
    (hunvisited : ∀ c : Context, f (some c) = f (some c.unvisited))
    (hf : ∀ o, (∀ c ∈ o, c.externalId = actor) → Blind R (f o)) :
    Blind R (Contexts.get actor >>= f) := by
  intro w w' hw
  obtain ⟨hs, hs'⟩ := hG.reliable hw
  obtain ⟨v, hon, hv, -⟩ := Contexts.exists_get hs actor
  obtain ⟨v', hon', hv', -⟩ := Contexts.exists_get hs' actor
  have hsame {o o' : Option Context} (h : Option.Rel K o o') : f o' = f o := by
    cases h with
    | none => rfl
    | some hK => rw [hunvisited, hG.unvisited hK, ← hunvisited]
  rw [on_bind, on_bind, hon, hon']
  simp only [hsame (hG.reads hw)]
  exact hf _ (fun c hc => (Store.context?_identity hc).1) v v' (hG.unmoved hw hv hv')

private theorem blind_still {x : Turn α} {r : Except Fault α} (h : Still x r) : Blind R x := by
  intro w w' hw
  obtain ⟨v, hon, hstore, hsent, ho⟩ := h w
  obtain ⟨v', hon', hstore', hsent', ho'⟩ := h w'
  have hnext := hG.unmoved hw ⟨hstore, hsent, ho⟩ ⟨hstore', hsent', ho'⟩
  refine ⟨r, v, v', hon, hon', ?_⟩
  cases r <;> exact hnext

theorem veil : Veil R actor where
  still := hG.blind_still
  deliver := hG.deliver
  read := hG.blind_read
  write p v := by
    have hall := hG.blind_rewrite (g := fun _ c => c.setData p v)
      (fun hs hc => Contexts.exists_setVariable hs hc p v)
      (fun hs hc => Contexts.exists_setVariable_unknown hs hc p v)
      fun hK _ _ => hG.setData hK p v
    rwa [bind_pure_unit] at hall
  revise {f} hf := by
    have hall := hG.blind_rewrite (g := fun _ c => (f c).repair.1)
      (fun hs hc => Contexts.exists_revise hs hc (hf.externalId _) (hf.humanId _))
      (fun hs hc => Contexts.exists_revise_unknown hs hc f) fun hK _ _ => hG.revised hK hf
    rwa [bind_pure_unit] at hall
  enter flow step := hG.blind_rewrite (g := fun now c => c.visit flow step now)
    (fun hs hc => Contexts.exists_recordStep hs hc flow step)
    (fun hs hc => Contexts.exists_recordStep_unknown hs hc flow step)
    fun hK _ _ => hG.visit hK flow step _ _

end Ground

end Turn

end Dialogue
