import Dialogue.Proofs.Contexts.Reading
import Dialogue.Proofs.Turn.Pairing

/-! What a write of a context does to the world in which the store works: a text is kept for the
actor, and nothing else is done. -/
namespace Dialogue

namespace World

/-- Nothing that counts has changed. -/
structure Unmoved (w v : World) : Prop where
  store : v.store = w.store
  sent : v.sent = w.sent
  outages : v.outages = w.outages

/-- The text that is kept for an actor has become that of a context. -/
structure Wrote (actor : Int) (d : Context) (w v : World) : Prop where
  saved : w.store.Saved v.store actor d.encode
  externalId : d.externalId = actor
  resolve : w.store.resolve actor = .ok (some d.humanId)
  sent : v.sent = w.sent
  outages : v.outages = w.outages

variable {actor : Int} {d : Context} {w u v : World}

theorem Unmoved.refl (w : World) : w.Unmoved w := ⟨rfl, rfl, rfl⟩

theorem Unmoved.trans (h : w.Unmoved u) (k : u.Unmoved v) : w.Unmoved v :=
  ⟨k.store.trans h.store, k.sent.trans h.sent, k.outages.trans h.outages⟩

theorem Unmoved.wrote (h : w.Unmoved u) (k : u.Wrote actor d v) : w.Wrote actor d v where
  saved := h.store ▸ k.saved
  externalId := k.externalId
  resolve := h.store ▸ k.resolve
  sent := k.sent.trans h.sent
  outages := k.outages.trans h.outages

theorem Wrote.own (h : w.Wrote actor d v) (now : String) :
    v.store.context? now actor = some d.kept := by
  obtain rfl := h.externalId
  exact h.saved.own h.resolve now

theorem Wrote.others (h : w.Wrote actor d v) (now : String) {j : Int} (hj : j ≠ actor) :
    v.store.context? now j = w.store.context? now j := h.saved.others now hj

end World

namespace Turn
variable {α : Type} {w v : World}

theorem ok_of_noted {r : α × List Notice} {a : α} (h : on (noted r) w = (.ok a, v)) :
    a = r.1 ∧ w.Unmoved v := by
  rw [on_noted] at h
  obtain ⟨ha, rfl⟩ := Prod.mk.inj h
  exact ⟨(Except.ok.inj ha).symm, rfl, rfl, rfl⟩

theorem unmoved_of_note {n : Notice} {a : Unit} (h : on (note n) w = (.ok a, v)) :
    w.Unmoved v := by
  obtain ⟨-, rfl⟩ := Prod.mk.inj h
  exact ⟨rfl, rfl, rfl⟩

end Turn

namespace Contexts
open Turn
variable {s : Scene} {w : World} {actor : Int} {c : Context} {R : Scene → Prop}

private theorem leads_put_text (hs : s.Reliable) {d : Context} (hd : d.externalId = actor)
    (hr : s.store.resolve actor = .ok (some d.humanId)) :
    Leads (· = s) (put d) (fun _ t => s.store.Saved t.store actor d.encode) R := by
  rintro w rfl
  subst hd
  obtain ⟨s', hput, hsaved⟩ := on_put_text hr (hs _ _)
  rw [hput]
  exact hsaved

private theorem leads_recordStep_unknown (hs : s.Reliable) (hc : s.context? actor = none)
    (flow : String) (step : Int) :
    Leads (· = s) (recordStep actor flow step) (fun _ t => t = s) R := by
  refine leads_guarded ((leads_get hs).bind fun o => Leads.given fun ho => ?_)
  rw [ho, hc]
  exact Leads.quiet ((Quiet.note _).bind fun _ => Quiet.pure _)

private theorem unmoved_of_leads {α : Type} {x : Turn α}
    (hx : Leads (· = w.scene) x (fun _ t => t = w.scene) fun _ => False) (hm : Mute x) :
    ∃ a v, on x w = (.ok a, v) ∧ w.Unmoved v := by
  obtain ⟨a, v, hon, hv, hsent, ho⟩ := run_of_leads hx hm
  exact ⟨a, v, hon, congrArg Scene.store hv, hsent, ho⟩

private theorem wrote_of_leads {α : Type} {x : Turn α} {d : Context}
    (hc : w.store.context? w.now actor = some c) (hexternal : d.externalId = c.externalId)
    (hhuman : d.humanId = c.humanId)
    (hx : Leads (· = w.scene) x (fun _ t => w.store.Saved t.store actor d.encode) fun _ => False)
    (hm : Mute x) : ∃ a v, on x w = (.ok a, v) ∧ w.Wrote actor d v := by
  obtain ⟨hactor, hresolve⟩ := Store.context?_identity hc
  obtain ⟨a, v, hon, hsaved, hsent, ho⟩ := run_of_leads hx hm
  exact ⟨a, v, hon, hsaved, hexternal.trans hactor, hhuman ▸ hresolve, hsent, ho⟩

variable (hs : w.scene.Reliable)
include hs

theorem exists_get (actor : Int) :
    ∃ v, on (Contexts.get actor) w = (.ok (w.store.context? w.now actor), v) ∧ w.Unmoved v ∧
      v.now = w.now := by
  obtain ⟨_, v, hon, ⟨hv, rfl⟩, hsent, ho⟩ := run_of_leads (leads_get hs) (mute_get actor)
  exact ⟨v, hon, ⟨congrArg Scene.store hv, hsent, ho⟩, congrArg Scene.now hv⟩

section
variable (hc : w.store.context? w.now actor = none)
include hc

theorem exists_setVariable_unknown (p : Path) (v : Value) :
    ∃ a w', on (setVariable actor p v) w = (.ok a, w') ∧ w.Unmoved w' :=
  unmoved_of_leads (leads_setVariable_unknown hs hc p v) (mute_setVariable actor p v)

theorem exists_revise_unknown (f : Context → Context) :
    ∃ a w', on (revise actor f) w = (.ok a, w') ∧ w.Unmoved w' :=
  unmoved_of_leads (leads_revise_unknown hs hc f) (mute_revise actor f)

theorem exists_recordStep_unknown (flow : String) (step : Int) :
    ∃ a w', on (recordStep actor flow step) w = (.ok a, w') ∧ w.Unmoved w' :=
  unmoved_of_leads (leads_recordStep_unknown hs hc flow step)
    (mute_recordStep actor flow step)

end

variable (hc : w.store.context? w.now actor = some c)
include hc

theorem exists_setVariable (p : Path) (v : Value) :
    ∃ a w', on (setVariable actor p v) w = (.ok a, w') ∧ w.Wrote actor (c.setData p v) w' := by
  obtain ⟨hactor, hresolve⟩ := Store.context?_identity hc
  refine wrote_of_leads hc rfl rfl (leads_guarded ((leads_get hs).bind fun o =>
    Leads.given fun ho => ?_)) (mute_setVariable actor p v)
  obtain rfl : o = some c := ho.trans hc
  exact leads_put_text hs hactor hresolve

theorem exists_revise {f : Context → Context} (hexternal : (f c).externalId = c.externalId)
    (hhuman : (f c).humanId = c.humanId) :
    ∃ a w', on (revise actor f) w = (.ok a, w') ∧ w.Wrote actor (f c).repair.1 w' := by
  obtain ⟨hactor, hresolve⟩ := Store.context?_identity hc
  have hexternal := (f c).repair_identity.1.trans hexternal
  have hhuman := (f c).repair_identity.2.trans hhuman
  refine wrote_of_leads hc hexternal hhuman (Leads.bind (leads_guarded
    ((leads_get hs).bind fun o => Leads.given fun ho => ?_)) fun _ => Leads.pure fun _ ht => ht)
    (mute_revise actor f)
  obtain rfl : o = some c := ho.trans hc
  refine (Leads.noted _).bind fun d => Leads.given fun hd => ?_
  subst hd
  exact (leads_put_text hs (hexternal.trans hactor) (hhuman ▸ hresolve)).bind fun _ =>
    Leads.pure fun _ ht => ht

theorem exists_recordStep (flow : String) (step : Int) :
    ∃ a w', on (recordStep actor flow step) w = (.ok a, w') ∧
      w.Wrote actor (c.visit flow step w.now) w' := by
  obtain ⟨hactor, hresolve⟩ := Store.context?_identity hc
  refine wrote_of_leads hc rfl rfl (leads_guarded ((leads_get hs).bind fun o =>
    Leads.given fun ho => ?_)) (mute_recordStep actor flow step)
  obtain rfl : o = some c := ho.trans hc
  refine Leads.get fun u hu => ?_
  have hnow : u.now = w.now := congrArg Scene.now hu
  rw [hnow]
  exact (leads_put_text hs (d := c.visit flow step w.now) hactor hresolve).bind fun _ =>
    Leads.pure fun _ ht => ht

end Contexts

end Dialogue
