import Dialogue.Proofs.Bot.Runs
import Dialogue.Proofs.Relay.Topics

/-! Conversations between actors and admins. Each actor has one topic, no two share one, and every
message goes where it belongs, whatever relays forget between messages. -/
namespace Dialogue

namespace Relay
open Turn
variable {w v : World}

/-- A message of an actor to the admins, and not one that is written in a topic of theirs. -/
def IsFree (chat : Int) (m : InboundMessage) : Prop := m.topicId = none ∨ m.chatId ≠ chat

/-- The actor has a context, and neither its ids nor that of the next topic are too long to be read
again. -/
def Ready (w : World) (actor : Int) : Prop :=
  Decimal.isReadable (w.topicIds w.topics.length) = true ∧
    ∃ c, w.scene.context? actor = some c ∧ c.hasReadableId = true

/-- A message that a relay was given, what it answered, and the world before and after. -/
structure Passing where
  message : InboundMessage
  answer : Except Fault Bool
  before : World
  after : World

/-- A topic was opened on the way. -/
def Passing.opens (e : Passing) : Bool := e.before.topics.length < e.after.topics.length

/-- A message went where it belongs, and to nobody else, as the owners of topics stand by now. -/
structure Passed (chat : Int) (now : World) (e : Passing) : Prop where
  /-- A message without an id cannot be copied. -/
  declined : e.message.messageId = none → e.answer = .ok false ∧ e.after = e.before
  /-- A topic is opened only for a sender who has none. -/
  opened : e.after.topics = e.before.topics ∨ IsFree chat e.message ∧
    topicOf e.before e.message.senderId = .null ∧
    e.after.topics = e.before.topics ++ [(chat, topicName e.message)]
  toTopic : ∀ id, e.message.messageId = some id → IsFree chat e.message →
    e.answer = .ok true ∧ ∃ t, topicOf now e.message.senderId = .int t ∧
      e.after.copies = e.before.copies ++
        [{ source := e.message.chatId, messageId := id, chatId := chat, topic := .int t }]
  toOwner : ∀ id t, e.message.messageId = some id → e.message.topicId = some t →
    e.message.chatId = chat →
    (∃ a, topicOf e.before a = .int t ∧ topicOf now a = .int t ∧ e.answer = .ok true ∧
      e.after.copies = e.before.copies ++
        [{ source := chat, messageId := id, chatId := a }]) ∨
    (∀ a, topicOf e.before a ≠ .int t) ∧ e.answer = .ok false ∧
      e.after.copies = e.before.copies

theorem Passed.later {chat : Int} {e : Passing} (h : Passed chat w e)
    (hbound : ∀ a t, topicOf w a = .int t → topicOf v a = .int t) : Passed chat v e where
  declined := h.declined
  opened := h.opened
  toTopic id hid hfree := by
    obtain ⟨hanswer, t, ht, hcopies⟩ := h.toTopic id hid hfree
    exact ⟨hanswer, t, hbound _ _ ht, hcopies⟩
  toOwner id t hid ht hchat := by
    refine (h.toOwner id t hid ht hchat).imp_left ?_
    rintro ⟨a, hthen, hnow, h⟩
    exact ⟨a, hthen, hbound _ _ hnow, h⟩

/-- Whose message opens a topic had none before and has one ever since. -/
theorem Passed.topic_of_opens {chat : Int} {e : Passing} (h : Passed chat w e)
    (hopens : e.opens = true) : topicOf e.before e.message.senderId = .null ∧
      ∃ t, topicOf w e.message.senderId = .int t := by
  have hlonger : e.before.topics ≠ e.after.topics := by
    intro hsame
    rw [Passing.opens, hsame] at hopens
    exact absurd (of_decide_eq_true hopens) (lt_irrefl _)
  obtain ⟨hfree, hnull, -⟩ := h.opened.resolve_left (Ne.symm hlonger)
  refine ⟨hnull, ?_⟩
  cases hid : e.message.messageId with
  | none => exact absurd (congrArg World.topics (h.declined hid).2.symm) hlonger
  | some id => exact (h.toTopic id hid hfree).2.imp fun t ht => ht.1

section
variable (r : Relay) {m : InboundMessage} {id : Int}
  (hw : Works w) (hp : Paired w) (hrelays : r.channel.relays = true)
include hw hp hrelays

private theorem exists_toTopic (hid : m.messageId = some id) (hfree : IsFree r.adminChat m)
    (hready : Ready w m.senderId) :
    ∃ v, on (r.toTopic m id) w = (.ok true, v) ∧ Extends w v ∧
      Passed r.adminChat v ⟨m, .ok true, w, v⟩ := by
  obtain ⟨hnext, c, hc, hreadable⟩ := hready
  obtain ⟨t, u, htopic, hu, hsender, hcopies, htopics⟩ :=
    exists_topicFor r hw hp hrelays hc hreadable hnext
  let copy : Copy :=
    { source := m.chatId, messageId := id, chatId := r.adminChat, topic := .int t }
  have hrun : on (r.toTopic m id) w = (.ok true, { u with
      channelTasks := u.channelTasks + 1, copies := u.copies ++ [copy] }) := by
    rw [toTopic, on_bind, htopic]
    simp only [on_bind, on_copy r hu.works hrelays]
    rfl
  refine ⟨_, hrun, hu.copy copy, ?_, ?_, ?_, ?_⟩
  · intro hnone
    exact absurd (hid.symm.trans hnone) (Option.some_ne_none _)
  · exact htopics.imp_right fun ⟨hnull, hopened⟩ => ⟨hfree, hnull, hopened⟩
  · intro id' hid' _
    cases hid.symm.trans hid'
    exact ⟨rfl, t, hsender, congrArg (· ++ [copy]) hcopies⟩
  · intro _ t _ ht hchat
    rcases hfree with hnone | hne
    · exact absurd (ht.symm.trans hnone) (Option.some_ne_none _)
    · exact absurd hchat hne

private theorem exists_toOwner {t : Int} (hid : m.messageId = some id) (ht : m.topicId = some t)
    (hchat : m.chatId = r.adminChat) :
    ∃ answer v, on (r.toOwner m id t) w = (.ok answer, v) ∧ Extends w v ∧
      Passed r.adminChat v ⟨m, .ok answer, w, v⟩ := by
  obtain ⟨o, u, howner, ⟨hu, hcopies, htopics⟩, ho⟩ := exists_ownerOf r hw hp t
  have hnone : m.messageId ≠ none := hid ▸ Option.some_ne_none id
  have hfree : ¬ IsFree r.adminChat m := by
    rintro (hnone | hne)
    · exact absurd (ht.symm.trans hnone) (Option.some_ne_none _)
    · exact hne hchat
  cases o with
  | none =>
    have hrun : on (r.toOwner m id t) w = (.ok false, u) := by
      rw [toOwner, on_bind, howner]
      rfl
    refine ⟨_, _, hrun, hu, fun h => absurd h hnone, .inl htopics, fun _ _ h => absurd h hfree, ?_⟩
    intro _ t' _ ht' _
    cases ht.symm.trans ht'
    exact .inr ⟨ho, rfl, hcopies⟩
  | some a =>
    let copy : Copy := { source := m.chatId, messageId := id, chatId := a }
    have hrun : on (r.toOwner m id t) w = (.ok true, { u with
        channelTasks := u.channelTasks + 1, copies := u.copies ++ [copy] }) := by
      rw [toOwner, on_bind, howner]
      simp only [on_bind, on_copy r hu.works hrelays]
      rfl
    refine ⟨_, _, hrun, hu.copy copy, fun h => absurd h hnone, .inl htopics,
      fun _ _ h => absurd h hfree, ?_⟩
    intro id' t' hid' ht' _
    cases ht.symm.trans ht'
    cases hid.symm.trans hid'
    exact .inl ⟨a, ho, hu.bound a t ho, rfl, by rw [← hchat, ← hcopies]⟩

/-- Every message is passed on as it should be. -/
private theorem exists_pass (hready : IsFree r.adminChat m → Ready w m.senderId) :
    ∃ answer v, on (r.pass (.message m)) w = (.ok answer, v) ∧ Extends w v ∧
      Passed r.adminChat v ⟨m, .ok answer, w, v⟩ := by
  cases hid : m.messageId with
  | none =>
    have hrun : on (r.pass (.message m)) w = (.ok false, w) := by
      rw [pass, hid]
      rfl
    have hnever {id : Int} {P : Prop} (h : m.messageId = some id) : P :=
      absurd (h.symm.trans hid) (Option.some_ne_none _)
    exact ⟨_, _, hrun, ⟨hw, hp, fun _ _ => id⟩, fun _ => ⟨rfl, rfl⟩, .inl rfl,
      fun _ h => hnever h, fun _ _ h => hnever h⟩
  | some id =>
    have hto (hfree : IsFree r.adminChat m) (hrun : r.pass (.message m) = r.toTopic m id) :
        ∃ answer v, on (r.pass (.message m)) w = (.ok answer, v) ∧ Extends w v ∧
          Passed r.adminChat v ⟨m, .ok answer, w, v⟩ := by
      rw [hrun]
      exact ⟨true, exists_toTopic r hw hp hrelays hid hfree (hready hfree)⟩
    cases ht : m.topicId with
    | none => exact hto (.inl ht) (by simp only [pass, hid, ht])
    | some t =>
      by_cases hchat : m.chatId = r.adminChat
      · have hrun : r.pass (.message m) = r.toOwner m id t := by
          simp only [pass, hid, ht, hchat, if_true]
        rw [hrun]
        exact exists_toOwner r hw hp hrelays hid ht hchat
      · exact hto (.inr hchat) (by simp only [pass, hid, ht, hchat, if_false])

end

/-- Nothing is relayed. Relays may forget what they know and be built anew, and the data of actors
may change otherwise, but nobody gets or loses a topic. -/
structure Lull (w v : World) : Prop where
  works : Works v
  topicOf : ∀ a, topicOf v a = topicOf w a
  owners : ∀ slot t a, ownerIn v slot t = some a → ownerIn w slot t = some a
  topics : w.topics <+: v.topics
  topicIds : v.topicIds = w.topicIds

/-- Nobody has a topic, and no relay knows of one. -/
structure Untouched (w : World) : Prop where
  works : Works w
  topicOf : ∀ a, topicOf w a = .null
  owners : ∀ slot t, ownerIn w slot t = none

/-- The world after some messages were given to relays of one channel and chat, with lulls between
them: free messages of actors who are known, and messages of whomever in topics. -/
inductive Relayed (channel : Channel) (chat : Int) : List Passing → World → Prop
  | start {w : World} (h : Untouched w) : Relayed channel chat [] w
  | lull {log : List Passing} {w v : World} (h : Relayed channel chat log w) (hlull : Lull w v) :
    Relayed channel chat log v
  | pass {log : List Passing} {w v : World} (h : Relayed channel chat log w) (slot : Nat)
    {m : InboundMessage} {answer : Except Fault Bool}
    (hready : IsFree chat m → Ready w m.senderId)
    (hpass : on (Relay.pass ⟨slot, channel, chat⟩ (.message m)) w = (answer, v)) :
    Relayed channel chat (log ++ [⟨m, answer, w, v⟩]) v

theorem Relayed.next {channel : Channel} {chat : Int} {log : List Passing}
    (h : Relayed channel chat log w) (slot : Nat) (m : InboundMessage)
    (hready : IsFree chat m → Ready w m.senderId) :
    let done := on (Relay.pass ⟨slot, channel, chat⟩ (.message m)) w
    Relayed channel chat (log ++ [⟨m, done.1, w, done.2⟩]) done.2 :=
  h.pass slot hready rfl

/-- Each actor has one topic at most, no two share one, and every message went where it belongs. -/
structure Conversing (chat : Int) (log : List Passing) (w : World) : Prop where
  apart : ∀ a b t, topicOf w a = .int t → topicOf w b = .int t → a = b
  once : ((log.filter Passing.opens).map (·.message.senderId)).Nodup
  passed : ∀ e ∈ log, Passed chat w e

/-- What holds between two messages. -/
private structure Standing (chat : Int) (log : List Passing) (w : World) : Prop where
  works : Works w
  paired : Paired w
  once : ((log.filter Passing.opens).map (·.message.senderId)).Nodup
  passed : ∀ e ∈ log, Passed chat w e

section
variable {chat : Int} {log : List Passing}

private theorem standing_of_untouched (h : Untouched w) : Standing chat [] w where
  works := h.works
  paired := by
    refine ⟨fun a => .inl (h.topicOf a), fun a b t ha => ?_, fun slot t a ha => ?_⟩
    · exact absurd ((h.topicOf a).symm.trans ha) Value.noConfusion
    · exact absurd (ha.symm.trans (h.owners slot t)) (Option.some_ne_none a)
  once := List.nodup_nil
  passed _ he := absurd he List.not_mem_nil

private theorem Standing.lull (h : Standing chat log w) (hv : Lull w v) : Standing chat log v where
  works := hv.works
  paired := by
    refine ⟨fun a => ?_, fun a b t ha hb => ?_, fun slot t a ha => ?_⟩
    · rw [hv.topicOf, hv.topicIds]
      exact (h.paired.opened a).imp_right fun ⟨i, hi, htopic⟩ =>
        ⟨i, hi.trans_le hv.topics.length_le, htopic⟩
    · exact h.paired.apart a b t (hv.topicOf a ▸ ha) (hv.topicOf b ▸ hb)
    · exact (hv.topicOf a).trans (h.paired.remembered slot t a (hv.owners slot t a ha))
  once := h.once
  passed e he := (h.passed e he).later fun a t ha => (hv.topicOf a).trans ha

/-- A sender for whom a topic is opened had none, so it was never opened before. -/
private theorem Standing.pass (h : Standing chat log w) {m : InboundMessage}
    {answer : Except Fault Bool} (hv : Extends w v) (hpassed : Passed chat v ⟨m, answer, w, v⟩) :
    Standing chat (log ++ [⟨m, answer, w, v⟩]) v where
  works := hv.works
  paired := hv.paired
  once := by
    rw [List.filter_append, List.map_append, List.nodup_append]
    refine ⟨h.once, (List.nodup_singleton _).sublist (List.filter_sublist.map _), ?_⟩
    -- If a topic had been opened for the sender before, it would still be the sender's.
    intro a ha b hb hab
    obtain ⟨e, he, rfl⟩ := List.mem_map.mp ha
    obtain ⟨e', he', rfl⟩ := List.mem_map.mp hb
    obtain ⟨he, hopened⟩ := List.mem_filter.mp he
    obtain ⟨he', hopens⟩ := List.mem_filter.mp he'
    obtain ⟨-, t, ht⟩ := (h.passed e he).topic_of_opens hopened
    rw [List.mem_singleton.mp he'] at hab hopens
    have hnull := (hpassed.topic_of_opens hopens).1
    rw [hab, hnull] at ht
    exact absurd ht Value.noConfusion
  passed e he := by
    rcases List.mem_append.mp he with hold | hnew
    · exact (h.passed e hold).later hv.bound
    · exact List.mem_singleton.mp hnew ▸ hpassed

/-- Conversations stay paired, whatever relays forget between messages. -/
theorem conversing_of_relayed {channel : Channel} (hrelays : channel.relays = true)
    (h : Relayed channel chat log w) : Conversing chat log w := by
  have hstanding : Standing chat log w := by
    induction h with
    | start h => exact standing_of_untouched h
    | lull _ hlull ih => exact ih.lull hlull
    | pass _ slot hready hpass ih =>
      obtain ⟨answer, v, hrun, hv, hpassed⟩ :=
        exists_pass ⟨slot, channel, chat⟩ ih.works ih.paired hrelays hready
      obtain ⟨rfl, rfl⟩ := Prod.mk.inj (hpass.symm.trans hrun)
      exact ih.pass hv hpassed
  exact ⟨hstanding.paired.apart, hstanding.once, hstanding.passed⟩

end

/-- Two actors of whom nothing is kept. -/
def office : World := { store := .memory { actors := [(1, 1), (2, 2)] } }

/-- The relay of a slot at a desk with one telephone. -/
def desk (slot : Nat) : Relay := { slot, channel := {}, adminChat := -100 }

def question : InboundMessage :=
  { senderId := 1, chatId := 1, text := "Hello?", messageId := some 7 }

def request : InboundMessage := { senderId := 2, chatId := 2, text := "Help!", messageId := some 8 }

def reply : InboundMessage :=
  { senderId := 9, chatId := -100, text := "Hi!", topicId := some 1001, messageId := some 9 }

private theorem relayed_office : Relayed {} (-100) [] office := by
  refine .start ⟨⟨fun _ _ => rfl, fun _ _ => rfl, fun i j hij => ?_⟩, fun a => ?_, fun _ _ => rfl⟩
  · change (1001 + i : Int) = 1001 + j at hij
    omega
  · have hblank : office.Blank := nofun
    cases hc : office.scene.context? a with
    | none => rw [topicOf, Scene.valueAt, hc, Option.elim_none]
    | some c =>
      obtain ⟨human, rfl⟩ := Store.context?_blank hblank hc
      rw [topicOf, Scene.valueAt, hc, Option.elim_some]
      rfl

private theorem ready_office : Ready office 1 := ⟨rfl, _, rfl, rfl⟩

/-- Two actors write, and the reply in the first topic is given to a relay that knows nothing. -/
theorem conversing_of_relayed_reply :
    let first := on ((desk 0).pass (.message question)) office
    let second := on ((desk 0).pass (.message request)) first.2
    let third := on ((desk 1).pass (.message reply)) second.2
    Conversing (-100) [⟨question, first.1, office, first.2⟩, ⟨request, second.1, first.2, second.2⟩,
      ⟨reply, third.1, second.2, third.2⟩] third.2 := by
  have hreply : ¬ IsFree (-100) reply := by
    rintro (hnone | hchat)
    · cases hnone
    · exact hchat rfl
  have htwo : Ready (on ((desk 0).pass (.message question)) office).2 2 := ⟨rfl, _, rfl, rfl⟩
  have hrun := (relayed_office.next 0 question fun _ => ready_office).next 0 request fun _ => htwo
  exact conversing_of_relayed rfl (hrun.next 1 reply fun hfree => absurd hfree hreply)

/-- A message without an id, as a channel may hand it on. -/
def remark : InboundMessage := { senderId := 1, chatId := 1, text := "Hello!" }

/-- A free message that has no id reaches no topic. -/
theorem relayed_not_copied : ¬ ∀ log w, Relayed {} (-100) log w →
    ∀ e ∈ log, IsFree (-100) e.message → e.after.copies ≠ e.before.copies := by
  intro hcopied
  exact hcopied _ _ (relayed_office.next 0 remark fun _ => ready_office) _ List.mem_cons_self
    (.inl rfl) rfl

end Relay

end Dialogue
