import Dialogue.Proofs.Bot.Moves

/-! Parts of the work of flows: what leaves everything as it is, and how the context of an actor is
rewritten when a flow begins. -/
namespace Dialogue

theorem Decimal.isReadable_of_lt {m n : Nat} (h : isReadable n = true) (hm : m < n) :
    isReadable m = true := isReadable_of_natAbs_lt h hm

namespace Context

theorem kept_of_unreadableId {c : Context} (h : c.hasReadableId = false) :
    c.kept = fresh c.externalId c.humanId := by
  rw [kept, isReadable_eq, h]
  rfl

end Context

namespace Bot
open Turn

theorem quiet_fail (n : Notice) (r : Reason) : Quiet (fail n r) :=
  (Quiet.note n).bind fun _ => Quiet.pure _

theorem quiet_keyboardOf (b : Bot) (key : Option String) : Quiet (b.keyboardOf key) := by
  unfold keyboardOf
  split
  · exact Quiet.pure _
  split
  · exact Quiet.pure _
  · exact (Quiet.note _).bind fun _ => Quiet.pure _

theorem quiet_offer (dest : Destination) (id : Option String) (k : Step.Choice) :
    Quiet (offer dest id k) :=
  (Quiet.noted _).bind fun _ => (Quiet.deliver _ _ _).bind fun _ => Quiet.pure _

section
variable {actor : Int} {R : Scene → Prop} {s : Scene} {c d : Context}

/-- Work on the context of an actor goes on from where the work before it ended. -/
theorem leads_since {α : Type} {work : Turn α} (hs : s.Reliable)
    (h : ∀ t, t.Reliable → t.context? actor = some c →
      Leads (· = t) work (fun _ u => t.Rewritten u actor d) R) :
    Leads (fun t => s.Rewritten t actor c) work (fun _ u => s.Rewritten u actor d) R :=
  Leads.at_each fun t ht => (h t (ht.reliable hs) ht.context?).post fun _ _ hu => ht.trans hu

theorem leads_clearMarker (hs : s.Reliable) (c d : Context) :
    Leads (fun t => s.Rewritten t actor d) (clearMarker actor c)
      (fun _ t => s.Rewritten t actor (d.disarmed c.rawMarker)) R := by
  rw [clearMarker, Context.disarmed]
  split
  · exact Leads.pure fun _ ht => ht
  · exact leads_since hs fun t ht hd => Contexts.leads_setVariable ht hd _ _

theorem firstGiven_ofOption (o p q : Option Int) :
    firstGiven [Value.ofOption .int o, Value.ofOption .int p, Value.ofOption .int q] =
      Value.ofOption .int ((o.or p).or q) := by
  cases o <;> cases p <;> cases q <;> rfl

theorem all_or {p : Int → Bool} {o q : Option Int} (ho : o.all p = true)
    (hq : q.all p = true) : (o.or q).all p = true := by
  cases o <;> assumption

theorem leads_beginInTopic {name : String} (hs : s.Reliable) (hc : s.context? actor = some c)
    (topic chat : Int) (target : Option Int) :
    Leads (· = s)
      (beginInTopic actor name (.int topic) (.int chat) (Value.ofOption .int target))
      (fun _ t => s.Rewritten t actor
        (c.revised (·.beganInTopic name (some topic) (some chat) target))) R := by
  have hread : Schema.optional Schema.whole (Value.ofOption .int target) = .ok target := by
    cases target <;> rfl
  have hidentity := (c.beganInTopic name (some topic) (some chat) target).repair_identity
  refine (Contexts.leads_amend hs hc
    (r := (c.beganInTopic name (some topic) (some chat) target).repair) ?_ hidentity.1
    hidentity.2).bind fun _ => Leads.pure fun _ ht => ht
  rw [hread]
  rfl

theorem leads_aim {α : Type} {Q : α → Scene → Prop} {work : Unit → Turn α} (hs : s.Reliable)
    {target : Value}
    (hwork : Leads (fun t => s.Rewritten t actor (d.aimed target)) (work ()) Q R) :
    Leads (fun t => s.Rewritten t actor d)
      (if !target.isNull then Contexts.setVariable actor ["target_user_id"] target >>= work
        else work ()) Q R := by
  rw [Context.aimed] at hwork
  cases htarget : target.isNull with
  | true =>
    rw [htarget] at hwork
    exact hwork
  | false =>
    rw [htarget] at hwork
    exact (leads_since hs fun t ht hd => Contexts.leads_setVariable ht hd _ _).bind fun _ => hwork

end

end Bot

end Dialogue
