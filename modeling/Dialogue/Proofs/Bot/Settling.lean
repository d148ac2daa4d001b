import Dialogue.Proofs.Contexts.Sanity
import Dialogue.Proofs.Contexts.Writing
import Dialogue.Proofs.Context.Positions

/-! What an event does by itself before it is ignored: it leaves everything as it is, but for the
message that an answer does not meet its rule. -/
namespace Dialogue

namespace Turn
variable {w v : World}

theorem exists_delivered (w : World) (h : ∀ t n, w.outages.channel t n = none)
    (dest : Destination) (text : String) : ∃ v, on (Channel.deliver dest text) w = (.ok (), v) ∧
      v.sent = w.sent ++ [{ destination := dest, text }] := by
  refine ⟨{ w with
    channelTasks := w.channelTasks + 1
    sent := w.sent ++ [{ destination := dest, text }] }, ?_, rfl⟩
  simp only [Channel.deliver, channelTask, on_bind, on_get, on_set, h]
  rfl

theorem ok_of_deliver {dest : Destination} {text : String} {keyboard : Keyboard} {a : Unit}
    (h : on (Channel.deliver dest text keyboard) w = (.ok a, v)) : v.store = w.store ∧
      v.sent = w.sent ++ [{ destination := dest, text, keyboard }] := by
  simp only [Channel.deliver, channelTask, on_bind, on_get, on_set] at h
  cases hfails : w.outages.channel (.send dest.topicId.isSome (!keyboard.isEmpty))
      w.channelTasks with
  | some f =>
    rw [hfails] at h
    cases h
  | none =>
    rw [hfails] at h
    obtain ⟨-, rfl⟩ := Prod.mk.inj h
    exact ⟨rfl, rfl⟩

end Turn

namespace Bot
open Turn

/-- The actor is in a flow. -/
def InFlow (actor : Int) (s : Scene) : Prop :=
  ∃ c, s.context? actor = some c ∧ c.currentFlow ≠ ""

/-- The store works, and the ids of the actor have no more digits than can be read again. -/
structure Sane (actor : Int) (s : Scene) : Prop where
  reliable : s.Reliable
  readable : ∀ n, s.store.resolve actor = .ok (some n) →
    (Decimal.isReadable actor && Decimal.isReadable n) = true

section
variable {actor : Int} {s t : Scene} {c d : Context}

theorem Sane.hasReadableId (h : Sane actor s) (hc : s.context? actor = some c) :
    c.hasReadableId = true := by
  obtain ⟨hexternal, hresolve⟩ := Store.context?_identity hc
  rw [Context.hasReadableId, hexternal]
  exact h.readable _ hresolve

theorem Sane.unmoved {w u : World} (h : Sane actor w.scene) (hu : w.Unmoved u) :
    Sane actor u.scene where
  reliable := (hu.outages ▸ h.reliable : ∀ t n, u.outages.store t n = none)
  readable n hn := by
    change u.store.resolve actor = .ok (some n) at hn
    rw [hu.store] at hn
    exact h.readable n hn

theorem Sane.rewritten (h : Sane actor s) {a : Int} (ht : s.Rewritten t a d) : Sane actor t :=
  ⟨ht.reliable h.reliable, fun n hn => h.readable n (ht.resolve actor ▸ hn)⟩

end

namespace Sequel

/-- A sequel that ends the event as ignored only with an outcome that is allowed, and that may
complete the flow only where that is allowed. -/
def Heeds (T : Outcome → Prop) (C : Prop) : Sequel → Prop
  | .rest o => o.status = .ignored → T o
  | .complete => C
  | _ => True

variable {T : Outcome → Prop} {C : Prop}

/-- A sequel that is no refusal, and does not complete the flow. -/
abbrev Firm (q : Sequel) : Prop := q.Heeds (fun _ => False) False

theorem heeds_ok : (rest .ok).Heeds T C := by
  intro h
  cases h

theorem heeds_failed (r : Reason) : (rest (.failed r)).Heeds T C := by
  intro h
  cases h

theorem heeds_advance (hC : C) (t : Option Target) : (advance t).Heeds T C := by
  rw [advance]
  split
  · trivial
  · exact hC

theorem heeds_follow (flow : Option String) (t : Option Target) : (follow flow t).Heeds T C := by
  rw [follow]
  split
  · trivial
  · trivial
  · exact heeds_ok

theorem heeds_proceed (t : Option Target) : (proceed t).Heeds T C := by
  cases t with
  | some t => trivial
  | none => exact heeds_ok

theorem Heeds.mono {q : Sequel} {T' : Outcome → Prop} {C' : Prop} (h : q.Heeds T C)
    (hT : ∀ o, T o → T' o) (hC : C → C') : q.Heeds T' C' := by
  cases q with
  | rest o => exact fun ho => hT o (h ho)
  | complete => exact hC h
  | _ => trivial

end Sequel

section Steps
variable {b : Bot} {I : Scene → Prop} {actor : Int}

/-- A step ends no event as ignored, and completes the flow only where nothing was written. -/
theorem leads_workAlone_heeds
    (hinvoke : ∀ name, Leads I (b.handlers.invoke name actor) (fun _ => I) I) (c : Context)
    (st : Step) : Leads I (b.workAlone actor c st)
      (fun q t => q.Heeds (fun _ => False) (I t)) fun _ => True := by
  have hrest {x : Turn Unit} {q : Sequel} (hq : ∀ C, q.Heeds (fun _ => False) C) :
      Leads I (x >>= fun _ => pure q) (fun q t => q.Heeds (fun _ => False) (I t))
        fun _ => True :=
    (Leads.anyhow x I).bind fun _ => Leads.pure fun t _ => hq _
  have hquiet {α : Type} {x : Turn α} {f : α → Turn Sequel} (hx : Leads I x (fun _ => I) I)
      (hf : ∀ a, Leads I (f a) (fun q t => q.Heeds (fun _ => False) (I t)) fun _ => True) :
      Leads I (x >>= f) (fun q t => q.Heeds (fun _ => False) (I t)) fun _ => True :=
    Leads.bind (hx.mono (fun _ _ h => h) fun _ _ => trivial) hf
  unfold workAlone
  split
  · refine hquiet (Leads.quiet (quiet_keyboardOf _ _)) fun keyboard =>
      hquiet (Leads.quiet (Quiet.deliver _ _ _)) fun _ => Leads.pure fun t ht => ?_
    split
    · exact Sequel.heeds_advance ht _
    · exact Sequel.heeds_ok
  · refine Leads.map ((Leads.anyhow _ I).bind fun _ => (Leads.anyhow _ _).bind fun _ => ?_)
    exact Leads.pure fun _ _ => Sequel.heeds_ok
  · refine Leads.map ((Leads.anyhow _ I).bind fun _ => (Leads.anyhow _ _).bind fun _ => ?_)
    exact Leads.pure fun _ _ => Sequel.heeds_ok
  · refine hquiet (Leads.quiet (Quiet.noted _)) fun yes => ?_
    split
    · exact Leads.pure fun _ _ => trivial
    split
    · exact Leads.pure fun _ _ => trivial
    · exact hrest fun _ => Sequel.heeds_ok
  · exact hrest fun _ => Sequel.heeds_proceed _
  · exact Leads.pure fun _ _ => trivial
  · exact hrest fun _ => Sequel.heeds_proceed _
  · exact hrest fun _ => Sequel.heeds_proceed _
  · split
    · exact hquiet (leads_reportAlone _ (hinvoke _)) fun _ =>
        Leads.pure fun t ht => Sequel.heeds_advance ht _
    · exact hquiet (Leads.quiet (Quiet.note _)) fun _ => Leads.pure fun t ht => ht
  · split
    · refine hquiet (leads_sendMenu _ _ (hinvoke _)) fun sent => ?_
      split
      · exact Leads.pure fun _ _ => Sequel.heeds_ok
      · exact Leads.pure fun t ht => ht
    · exact hquiet (Leads.quiet (Quiet.note _)) fun _ => Leads.pure fun t ht => ht
  · refine Leads.map ((Leads.anyhow _ I).bind fun _ => ?_)
    exact Leads.pure fun _ _ => Sequel.heeds_failed _

end Steps

/-- All that an ignored event leaves behind: nothing, or the one message that an answer does not
meet its rule. -/
inductive Spared (actor : Int) (w v : World) (o : Outcome) : Prop
  | unmoved (h : w.Unmoved v)
  | refused {c : Context} {m : WaitMarker} {rule : Validation}
    (ho : o.reason = .validationFailed) (hc : w.store.context? w.now actor = some c)
    (hm : c.waitMarker.1 = some m) (hrule : m.validation = some rule)
    (hstore : v.store = w.store) (hsent : v.sent = w.sent ++
      [{ destination := Destination.ofContext c, text := refusal rule }])

/-- What an event does alone for a sequel. -/
abbrev Settles (actor : Int) (w : World) (q : Sequel) (v : World) : Prop :=
  q.Heeds (Spared actor w v) (InFlow actor v.scene)

theorem Spared.unmoved_right {actor : Int} {w u v : World} {o : Outcome} (h : Spared actor w u o)
    (hv : u.Unmoved v) : Spared actor w v o := by
  cases h with
  | unmoved hu => exact .unmoved (hu.trans hv)
  | refused ho hc hm hrule hstore hsent =>
    exact .refused ho hc hm hrule (hv.store.trans hstore) (hv.sent.trans hsent)

section Events
variable {b : Bot} {actor : Int} {w u v : World} {q : Sequel}

private theorem settles_of_firm (h : q.Firm) : Settles actor w q v :=
  h.mono (fun _ => False.elim) False.elim

private theorem settles_rest (o : Outcome) (h : w.Unmoved v) : Settles actor w (.rest o) v :=
  fun _ => .unmoved h

private theorem ok_of_fail {n : Notice} {r : Reason}
    (h : on (Sequel.rest <$> fail n r) w = (.ok q, v)) : q = .rest (.failed r) := by
  obtain ⟨o, hon, rfl⟩ := ok_of_map h
  exact congrArg Sequel.rest (Except.ok.inj (Prod.mk.inj hon).1).symm

private theorem settles_fail {n : Notice} {r : Reason}
    (h : on (Sequel.rest <$> fail n r) w = (.ok q, v)) : Settles actor u q v := by
  rw [ok_of_fail h]
  exact Sequel.heeds_failed _

/-- Work whose end is known: what it does before does not count. -/
private theorem settles_after {x : Turn Unit} {p : Sequel}
    (h : on (x >>= fun _ => pure p) u = (.ok q, v)) (hp : p.Firm) :
    Settles actor w q v := by
  obtain ⟨_, _, -, hpure⟩ := ok_of_bind h
  obtain ⟨rfl, rfl⟩ := ok_of_pure hpure
  exact settles_of_firm hp

private theorem settles_pure {p : Sequel} (h : on (pure p : Turn Sequel) u = (.ok q, v))
    (hp : p.Firm) : Settles actor w q v := by
  obtain ⟨rfl, rfl⟩ := ok_of_pure h
  exact settles_of_firm hp

private theorem settles_ignored {o : Outcome} (hu : w.Unmoved u)
    (h : on (pure (.rest o) : Turn Sequel) u = (.ok q, v)) : Settles actor w q v := by
  obtain ⟨rfl, rfl⟩ := ok_of_pure h
  exact settles_rest o hu

/-- A deed leaves everything as it is and the press to others, or goes on with a sequel. -/
private def Passes (w v : World) (o : Option Sequel) : Prop :=
  (o = none → w.Unmoved v) ∧ ∀ q ∈ o, q.Firm

private theorem passes_some {p : Sequel} {o : Option Sequel}
    (h : on (pure (some p) : Turn (Option Sequel)) u = (.ok o, v)) (hp : p.Firm) :
    Passes w v o := by
  obtain ⟨rfl, -⟩ := ok_of_pure h
  constructor
  · intro hnone
    cases hnone
  · intro q hq
    rwa [← Option.some.inj hq]

private theorem passes_fail {n : Notice} {r : Reason} {o : Option Sequel}
    (h : on ((some ∘ Sequel.rest) <$> fail n r) u = (.ok o, v)) : Passes w v o := by
  obtain ⟨_, hon, rfl⟩ := ok_of_map h
  obtain rfl := Except.ok.inj (Prod.mk.inj hon).1
  constructor
  · intro hnone
    cases hnone
  · intro q hq
    rw [← Option.some.inj hq]
    exact Sequel.heeds_failed _

/-- A registered action is not refused, unless it names no known deed. -/
private theorem carryOutAlone_passes {a : Action} {payload : String} {o : Option Sequel}
    (h : on (b.carryOutAlone actor a payload) w = (.ok o, v)) : Passes w v o := by
  have hfollow : (Sequel.follow a.nextFlow a.next).Firm :=
    Sequel.heeds_follow a.nextFlow a.next
  unfold carryOutAlone at h
  split at h
  · split at h
    · exact passes_some h trivial
    · exact passes_fail h
  · split at h
    · exact passes_some h trivial
    · exact passes_fail h
  · split at h
    · split at h
      · obtain ⟨_, _, -, hpure⟩ := ok_of_bind h
        exact passes_some hpure hfollow
      · exact passes_some h hfollow
    · exact passes_some h hfollow
  · split at h
    · obtain ⟨_, _, -, hpure⟩ := ok_of_bind h
      exact passes_some hpure hfollow
    · obtain ⟨_, _, -, hpure⟩ := ok_of_bind h
      exact passes_some hpure hfollow
  · obtain ⟨_, _, hnote, hpure⟩ := ok_of_bind h
    obtain ⟨rfl, rfl⟩ := ok_of_pure hpure
    refine ⟨fun _ => unmoved_of_note hnote, ?_⟩
    intro q hq
    cases hq

private theorem carryOutGivenAlone_settles {a : Action} (hu : w.Unmoved u)
    (h : on (carryOutGivenAlone actor a) u = (.ok q, v)) : Settles actor w q v := by
  have hfollow : (Sequel.follow a.nextFlow a.next).Firm :=
    Sequel.heeds_follow a.nextFlow a.next
  unfold carryOutGivenAlone at h
  split at h
  · obtain ⟨_, _, hnote, hpure⟩ := ok_of_bind h
    exact settles_ignored (hu.trans (unmoved_of_note hnote)) hpure
  split at h
  · split at h
    · split at h
      · exact settles_after h hfollow
      · exact settles_pure h hfollow
    · exact settles_pure h hfollow
  · split at h
    · exact settles_pure h trivial
    · exact settles_ignored hu h
  · split at h
    · exact settles_pure h trivial
    · exact settles_ignored hu h
  all_goals
    split at h
    · exact settles_after h hfollow
    · exact settles_pure h hfollow

private theorem pickAlone_settles (hs : Sane actor u.scene) {payload : String}
    (h : on (b.pickAlone actor payload) u = (.ok q, v)) : Settles actor w q v := by
  unfold pickAlone at h
  obtain ⟨u₁, hget, hu₁, hnow⟩ := Contexts.exists_get hs.reliable actor
  rw [on_bind, hget] at h
  cases hc : u.store.context? u.now actor with
  | none =>
    rw [hc] at h
    exact settles_fail h
  | some c =>
    rw [hc] at h
    simp only at h
    split at h
    · exact settles_fail h
    · rename_i hidle
      split at h
      · exact settles_fail h
      split at h
      · exact settles_fail h
      · rename_i i m value _
        -- The pick is kept, and the actor is still in the flow.
        have hc₁ : u₁.store.context? u₁.now actor = some c := by rw [hu₁.store, hnow, hc]
        obtain ⟨_, u₂, hset, hwrote⟩ := Contexts.exists_setVariable (hs.unmoved hu₁).reliable hc₁
          (Path.ofString m.saveTo) (.text value)
        obtain ⟨_, u₃, hset₃, hrest⟩ := ok_of_bind h
        obtain rfl : u₂ = u₃ := congrArg Prod.snd (hset.symm.trans hset₃)
        have hsame : (c.written (Path.ofString m.saveTo) (.text value)).currentFlow =
            c.currentFlow := congrArg Position.flow (Context.position_written
              (hs.hasReadableId hc) (Store.context?_tidy hc) _ rfl)
        have hflow : InFlow actor u₂.scene := by
          refine ⟨_, hwrote.own u₂.now, ?_⟩
          change (c.written (Path.ofString m.saveTo) (.text value)).currentFlow ≠ ""
          rw [hsame]
          intro hempty
          rw [Context.isIdle, hempty] at hidle
          exact hidle rfl
        split at hrest
        · exact settles_pure hrest trivial
        · obtain ⟨rfl, rfl⟩ := ok_of_pure hrest
          exact Sequel.heeds_advance hflow _

private theorem pressKeyboardAlone_settles (hs : Sane actor u.scene) (hu : w.Unmoved u)
    {payload : String} (h : on (b.pressKeyboardAlone actor payload) u = (.ok q, v)) :
    Settles actor w q v := by
  unfold pressKeyboardAlone at h
  obtain ⟨u₁, hget, hu₁, -⟩ := Contexts.exists_get hs.reliable actor
  rw [on_bind, hget] at h
  cases hc : u.store.context? u.now actor with
  | none =>
    rw [hc] at h
    exact settles_ignored (hu.trans hu₁) h
  | some c =>
    rw [hc] at h
    simp only at h
    split at h
    · exact settles_ignored (hu.trans hu₁) h
    split at h
    · exact settles_ignored (hu.trans hu₁) h
    · exact settles_after h (Sequel.heeds_proceed _)

private theorem pressByFormAlone_settles (hs : Sane actor u.scene) (hu : w.Unmoved u)
    {payload : String} {p : Press} (h : on (b.pressByFormAlone actor payload p) u = (.ok q, v)) :
    Settles actor w q v := by
  cases p with
  | dynamic => exact pickAlone_settles hs h
  | json a => exact carryOutGivenAlone_settles hu h
  | keyboard | registered => exact pressKeyboardAlone_settles hs hu h

private theorem pressAlone_settles (hs : Sane actor u.scene) (hu : w.Unmoved u)
    {payload : String} (h : on (b.pressAlone actor payload) u = (.ok q, v)) :
    Settles actor w q v := by
  unfold pressAlone at h
  obtain ⟨r, _, hresult, hpress⟩ := ok_of_bind h
  rw [on_ofResult] at hresult
  obtain ⟨-, rfl⟩ := Prod.mk.inj hresult
  obtain ⟨p, u₁, hnoted, hform⟩ := ok_of_bind hpress
  obtain ⟨-, hu₁⟩ := ok_of_noted hnoted
  split at hform
  · obtain ⟨o, u₂, hcarried, hnext⟩ := ok_of_bind hform
    obtain ⟨hnone, hheeds⟩ := carryOutAlone_passes hcarried
    split at hnext
    · exact settles_pure hnext (hheeds _ rfl)
    · obtain ⟨p, u₃, hnoted, hform⟩ := ok_of_bind hnext
      obtain ⟨-, hu₃⟩ := ok_of_noted hnoted
      have hmoved : u.Unmoved u₃ := (hu₁.trans (hnone rfl)).trans hu₃
      exact pressByFormAlone_settles (hs.unmoved hmoved) (hu.trans hmoved) hform
  · exact pressByFormAlone_settles (hs.unmoved hu₁) (hu.trans hu₁) hform

private theorem takeAnswerAlone_settles {c : Context}
    (hc : w.store.context? w.now actor = some c) (hu : w.Unmoved u) {text : String}
    (h : on (takeAnswerAlone actor c text) u = (.ok q, v)) : Settles actor w q v := by
  have hkeep {m : WaitMarker} {u : World}
      (h : on (keepAnswerAlone actor m text) u = (.ok q, v)) : Settles actor w q v := by
    obtain ⟨_, _, -, hdisarm⟩ := ok_of_bind h
    exact settles_after hdisarm (Sequel.heeds_proceed _)
  unfold takeAnswerAlone at h
  obtain ⟨o, u₁, hmarker, hanswer⟩ := ok_of_bind h
  obtain ⟨rfl, hu₁⟩ := ok_of_noted hmarker
  split at hanswer
  · exact settles_ignored (hu.trans hu₁) hanswer
  · rename_i m hm
    split at hanswer
    · exact hkeep hanswer
    · rename_i rule hrule
      obtain ⟨accepted, u₂, haccepted, hend⟩ := ok_of_bind hanswer
      obtain ⟨-, hu₂⟩ := ok_of_noted haccepted
      split at hend
      · exact hkeep hend
      · obtain ⟨_, u₃, hdeliver, hpure⟩ := ok_of_bind hend
        obtain ⟨rfl, rfl⟩ := ok_of_pure hpure
        obtain ⟨hstore, hsent⟩ := ok_of_deliver hdeliver
        have hmoved : w.Unmoved u₂ := (hu.trans hu₁).trans hu₂
        intro _
        exact .refused rfl hc hm hrule (hstore.trans hmoved.store) (hmoved.sent ▸ hsent)

private theorem inTopicFlowAlone_settles {act : Context → Turn Sequel} (hs : Sane actor w.scene)
    (hact : ∀ c u, w.store.context? w.now actor = some c → w.Unmoved u →
      on (act c) u = (.ok q, v) → Settles actor w q v)
    (h : on (inTopicFlowAlone actor act) w = (.ok q, v)) : Settles actor w q v := by
  unfold inTopicFlowAlone at h
  obtain ⟨u, hget, hu, -⟩ := Contexts.exists_get hs.reliable actor
  rw [on_bind, hget] at h
  cases hc : w.store.context? w.now actor with
  | none =>
    rw [hc] at h
    exact settles_ignored hu h
  | some c =>
    rw [hc] at h
    simp only at h
    split at h
    · exact hact c u hc hu h
    · exact settles_ignored hu h

/-- An event ignores what it does not know what to do with before it has done anything. -/
theorem eventAlone_settles (hs : Sane actor w.scene) {e : Event}
    (h : on (b.eventAlone actor e) w = (.ok q, v)) :
    Settles actor w q v ∨ q = .complete ∧ v = w := by
  cases e with
  | startFlow | startTopicFlow | goToStep | executeStep => exact .inl (settles_pure h trivial)
  | completeFlow =>
    obtain ⟨rfl, rfl⟩ := ok_of_pure h
    exact .inr ⟨rfl, rfl⟩
  | message text =>
    obtain ⟨u, hget, hu, -⟩ := Contexts.exists_get hs.reliable actor
    unfold eventAlone at h
    rw [on_bind, hget] at h
    cases hc : w.store.context? w.now actor with
    | none =>
      rw [hc] at h
      exact .inl (settles_ignored hu h)
    | some c =>
      rw [hc] at h
      exact .inl (takeAnswerAlone_settles hc hu h)
  | topicMessage text =>
    exact .inl (inTopicFlowAlone_settles hs
      (fun c u hc hu hon => takeAnswerAlone_settles hc hu hon) h)
  | press payload => exact .inl (pressAlone_settles hs (.refl w) h)
  | topicPress payload =>
    exact .inl (inTopicFlowAlone_settles hs
      (fun c u hc hu hon => pressAlone_settles (hs.unmoved hu) hu hon) h)

end Events

end Bot

end Dialogue
