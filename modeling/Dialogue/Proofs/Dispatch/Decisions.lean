import Dialogue.Dispatch

/-! What is to be done with an event, as it follows from the context of the sender alone. A desk
only reads or makes that context and then decides. -/
namespace Dialogue

/-- The context of someone who runs a flow in a topic. -/
def Context.runsIn (topic : Int) (c : Context) : Bool := c.inTopic && c.topicId == some topic

/-- To carry it out only those are asked whose faults are dealt with. -/
def Errand.IsGuarded : Errand → Prop
  | .refuse _ => False
  | _ => True

namespace Desk
open Turn

/-- What is to be done with an event of a known sender. -/
def errandFor (e : Inbound) : Option Context → Errand
  | none => .drop .dropped
  | some c => match e with
    | .press p => .engage .flowPress p.senderId (.press p.payload)
    | .message m =>
      if c.flowMode then .engage .flowMessage m.senderId (.message m.text)
      else if c.forwarding then .relay
      else .drop .dropped

/-- What is to be done with an event in a topic of the admin chat. -/
def errandInTopic (e : Inbound) (topic : Int) (o : Option Context) : Option Errand :=
  match e with
  | .press p =>
    if o.any (·.runsIn topic) then some (.engage .topicPress p.senderId (.topicPress p.payload))
    else none
  | .message m =>
    some (if o.any (·.runsIn topic) then
      .engage .topicMessage m.senderId (.topicMessage m.text) else .relay)

theorem chooseForActor_eq (e : Inbound) (id : Int) :
    chooseForActor e id = errandFor e <$> Contexts.getOrCreate e.senderId id := by
  rw [chooseForActor, map_eq_pure_bind]
  refine bind_congr fun o => ?_
  cases o with
  | none => rfl
  | some c =>
    cases e with
    | press p => rfl
    | message m =>
      simp only [errandFor]
      split
      · rfl
      · split <;> rfl

theorem chooseInTopic_eq (e : Inbound) (topic : Int) :
    chooseInTopic e topic = (errandInTopic e topic ·) <$> Contexts.get e.senderId := by
  rw [chooseInTopic, map_eq_pure_bind]
  refine bind_congr fun o => ?_
  cases e <;> rfl

section
variable {e : Inbound} {topic : Int} {o : Option Context} {k : Errand}

theorem isGuarded_errandFor (e : Inbound) (o : Option Context) : (errandFor e o).IsGuarded := by
  cases o with
  | none => trivial
  | some c =>
    cases e with
    | press p => trivial
    | message m =>
      rw [errandFor]
      split
      · trivial
      · split <;> trivial

theorem isGuarded_of_errandInTopic (h : errandInTopic e topic o = some k) : k.IsGuarded := by
  cases e with
  | press p =>
    rw [errandInTopic] at h
    split at h
    · rw [← Option.some.inj h]
      trivial
    · cases h
  | message m =>
    rw [← Option.some.inj h]
    split <;> trivial

/-- What is passed on is a message of someone who is in no flow and has messages forwarded. -/
theorem of_errandFor_eq_relay (h : errandFor e o = .relay) :
    ∃ m c, e = .message m ∧ o = some c ∧ c.flowMode = false ∧ c.forwarding = true := by
  cases o with
  | none => cases h
  | some c =>
    cases e with
    | press p => cases h
    | message m =>
      rw [errandFor] at h
      split at h
      · cases h
      · split at h
        · rename_i hmode hforwarding
          exact ⟨m, c, rfl, rfl, (Bool.not_eq_true _).mp hmode, hforwarding⟩
        · cases h

/-- In a topic, it is a message of someone who runs no flow there. -/
theorem of_errandInTopic_eq_relay (h : errandInTopic e topic o = some .relay) :
    ∃ m, e = .message m ∧ o.any (·.runsIn topic) = false := by
  cases e with
  | press p =>
    rw [errandInTopic] at h
    split at h
    · cases h
    · cases h
  | message m =>
    rw [errandInTopic] at h
    split at h
    · cases h
    · rename_i hhere
      exact ⟨m, rfl, (Bool.not_eq_true _).mp hhere⟩

theorem errandFor_eq_relay {m : InboundMessage} {c : Context} (hfree : c.flowMode = false)
    (hforwarding : c.forwarding = true) : errandFor (.message m) (some c) = .relay := by
  simp only [errandFor, hfree, hforwarding, Bool.false_eq_true, if_false, if_true]

theorem errandInTopic_eq_relay {m : InboundMessage} (h : o.any (·.runsIn topic) = false) :
    errandInTopic (.message m) topic o = some .relay := by
  simp only [errandInTopic, h, Bool.false_eq_true, if_false]

/-- Only a press in a topic may be like any other. -/
theorem exists_press_of_errandInTopic_eq_none (h : errandInTopic e topic o = none) :
    ∃ p, e = .press p := by
  cases e with
  | press p => exact ⟨p, rfl⟩
  | message m => cases h

end

end Desk

end Dialogue
