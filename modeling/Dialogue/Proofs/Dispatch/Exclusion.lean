import Dialogue.Proofs.Contexts.Looking
import Dialogue.Proofs.Contexts.Making
import Dialogue.Proofs.Dispatch.Decisions

/-! Whom a desk puts an event to. The bot, the handlers and the relay are taken as strangers here:
whatever they do, at most one of them is asked, and once. What is relayed is a message that belongs
to no flow. -/
namespace Dialogue

/-- Those whom an event may be put to. -/
structure Parties where
  bot : Int → Event → Turn Outcome
  handlers : String → Int → Option Value → Turn Reply
  relay : Option (Inbound → Turn Bool)

namespace Parties
open Turn

/-- Asks the bot. -/
def engage (p : Parties) (route : Route) (actor : Int) (e : Event) : Turn Routed := do
  return { route, outcome := some (← p.bot actor e) }

/-- Asks the handlers. -/
def serve (p : Parties) (name : String) (actor : Int) (text : String) : Turn Routed := do
  let outcome ← rescue (do
    let _ ← p.handlers name actor (some (.text text))
    return .ok) fun
    | .handlerUnknown => do
      note .handlerNotFound
      return .failed .handlerNotFound
    | f => do
      note .commandHandlerFailed
      return .failed (.fault f)
  return { route := .command, outcome := some outcome }

/-- Asks the relay. -/
def passOn (p : Parties) (e : Inbound) : Turn Routed := do
  match p.relay with
  | none => return { route := .dropped }
  | some relay =>
    rescue (do return { route := if ← relay e then .forwarded else .dropped }) fun _ => do
      note .relayFailed
      return { route := .forwardFailed }

def carryOut (p : Parties) (e : Inbound) : Errand → Turn Routed
  | .drop route => return { route }
  | .refuse dest => do
    Channel.deliver dest Desk.unknownCommandText
    return { route := .unknownCommand }
  | .engage route actor event => p.engage route actor event
  | .serve name actor text => p.serve name actor text
  | .relay => p.passOn e

/-- What becomes of an event at a desk where these are asked. -/
def route (p : Parties) (d : Desk) (e : Inbound) : Turn Routed := do p.carryOut e (← d.choose e)

end Parties

namespace Desk
open Turn

def parties (d : Desk) : Parties where
  bot := d.bot.handle
  handlers name actor payload := d.bot.handlers.invoke name actor payload
  relay := d.relay

theorem route_parties (d : Desk) (e : Inbound) : d.parties.route d e = d.route e := by
  refine congrArg (d.choose e >>= ·) (funext fun k => ?_)
  cases k <;> rfl

/-- Why an event is passed on: it is a message and no command, written in a topic of the admin chat
where the sender runs no flow, or by an actor who is in no flow and whose messages are forwarded.
What is known of the sender is what the store kept before, unless a task of it failed. -/
inductive PassesOn (d : Desk) (w u : World) : Inbound → Prop
  | inTopic (m : InboundMessage) (topic : Int) (hplain : (Inbound.message m).command? = none)
      (htopic : d.adminTopic? (.message m) = some topic)
      (hother : w.scene.ReadsAt w.storeTasks →
        (w.scene.context? m.senderId).any (·.runsIn topic) = false) : PassesOn d w u (.message m)
  | ofActor (m : InboundMessage) (id : Int) (c : Context)
      (hplain : (Inbound.message m).command? = none)
      (htopic : d.adminTopic? (.message m) = none)
      (hknown : w.store.resolve m.senderId = .ok (some id))
      (hc : u.scene.context? m.senderId = some c)
      (hfree : c.flowMode = false) (hforwarding : c.forwarding = true)
      (hbefore : w.scene.ReadsAt (w.storeTasks + 1) → w.scene.context? m.senderId = some c) :
      PassesOn d w u (.message m)

variable {d : Desk} {e : Inbound} {w u : World}

/-- A command is never passed on. -/
private theorem leads_chooseForCommand (m : InboundMessage) :
    Leads (fun _ => True) (d.chooseForCommand m) (fun k _ => k ≠ .relay) fun _ => True := by
  rw [chooseForCommand]
  cases d.bot.catalog.command? (Command.nameIn m.text) with
  | none => exact Leads.pure fun _ _ => nofun
  | some command =>
    refine Leads.bind (Leads.anyhow _ _) fun o => ?_
    cases o with
    | none => exact Leads.pure fun _ _ => nofun
    | some id =>
      refine Leads.bind (Leads.anyhow _ _) fun _ => ?_
      split
      · exact Leads.pure fun _ _ => nofun
      · exact Leads.pure fun _ _ => nofun

/-- What is passed on outside of topics, in terms of what the store keeps. -/
private theorem of_chooseOutside (h : on (chooseOutside e) w = (.ok .relay, u)) :
    ∃ m id c, e = .message m ∧ w.store.resolve m.senderId = .ok (some id) ∧
      u.scene.context? m.senderId = some c ∧ c.flowMode = false ∧ c.forwarding = true ∧
      (w.scene.ReadsAt (w.storeTasks + 1) → w.scene.context? m.senderId = some c) := by
  obtain ⟨found, v, hresolve, hrest⟩ := ok_of_bind h
  rw [on_resolve] at hresolve
  obtain ⟨hfound, rfl⟩ := Prod.mk.inj hresolve
  split at hfound
  · cases hfound
  · cases found with
    | none => cases (ok_of_pure hrest).1
    | some id =>
      simp only [chooseForActor_eq] at hrest
      obtain ⟨o, hget, hrelay⟩ := ok_of_map hrest
      obtain ⟨m, c, rfl, rfl, hfree, hforwarding⟩ := of_errandFor_eq_relay hrelay
      obtain ⟨hc, hbefore⟩ := Contexts.context?_of_getOrCreate
        (w := { w with storeTasks := w.storeTasks + 1 }) hfound hget
      exact ⟨m, id, c, rfl, hfound, hc, hfree, hforwarding, hbefore⟩

theorem passesOn_of_choose (h : on (d.choose e) w = (.ok .relay, u)) : d.PassesOn w u e := by
  rw [choose] at h
  cases hplain : e.command? with
  | some m =>
    rw [hplain] at h
    exact absurd rfl ((leads_chooseForCommand m).of_ok trivial h)
  | none =>
    rw [hplain] at h
    cases htopic : d.adminTopic? e with
    | none =>
      rw [htopic] at h
      obtain ⟨m, id, c, rfl, hknown, hc, hfree, hforwarding, hbefore⟩ := of_chooseOutside h
      exact .ofActor m id c hplain htopic hknown hc hfree hforwarding hbefore
    | some topic =>
      rw [htopic] at h
      obtain ⟨chosen, v, hin, hrest⟩ := ok_of_bind h
      rw [chooseInTopic_eq] at hin
      obtain ⟨o, hget, hchosen⟩ := ok_of_map hin
      cases chosen with
      | some k =>
        obtain ⟨rfl, rfl⟩ := ok_of_pure hrest
        obtain ⟨m, rfl, hother⟩ := of_errandInTopic_eq_relay hchosen
        exact .inTopic m topic hplain htopic fun hreads => Contexts.eq_of_get hreads hget ▸ hother
      | none =>
        -- What is left to the other rules is a press, and they pass on none.
        obtain ⟨p, rfl⟩ := exists_press_of_errandInTopic_eq_none hchosen
        obtain ⟨m, -, -, hm, -⟩ := of_chooseOutside hrest
        cases hm

/-- While the store works, what may be passed on is passed on. -/
private theorem exists_choose_of_passesOn (hs : w.scene.Reliable) (h : d.PassesOn w u e) :
    ∃ v, on (d.choose e) w = (.ok .relay, v) := by
  cases h with
  | inTopic m topic hplain htopic hother =>
    obtain ⟨v, hget, -⟩ := Contexts.exists_looked_get hs m.senderId
    have hin : on (chooseInTopic (.message m) topic) w = (.ok (some .relay), v) := by
      rw [chooseInTopic_eq, ← errandInTopic_eq_relay (hother (hs.writesAt _).1)]
      exact on_map_of_ok hget _
    refine ⟨v, ?_⟩
    simp only [choose, hplain, htopic]
    rw [on_bind_of_ok hin]
    rfl
  | ofActor m id c hplain htopic hknown hc hfree hforwarding hbefore =>
    have hresolve : on (resolve m.senderId) w =
        (.ok (some id), { w with storeTasks := w.storeTasks + 1 }) := by
      have htask : w.outages.store .resolve w.storeTasks = none := hs _ _
      rw [on_resolve, htask, hknown]
    obtain ⟨v, hget, -⟩ := Contexts.exists_getOrCreate_of_readsAt
      (w := { w with storeTasks := w.storeTasks + 1 }) (hbefore (hs.writesAt _).1)
      (hs.writesAt _).1 id
    refine ⟨v, ?_⟩
    simp only [choose, hplain, htopic, chooseOutside]
    rw [← errandFor_eq_relay hfree hforwarding]
    refine (on_bind_of_ok hresolve _).trans ?_
    simp only [chooseForActor_eq]
    exact on_map_of_ok hget _

/-- Of someone who cannot be resolved nothing comes. -/
private theorem exists_route_of_unknown (hplain : e.command? = none)
    (htopic : d.adminTopic? e = none)
    (hunknown : ∀ id, (on (resolve e.senderId) w).1 ≠ .ok (some id)) :
    ∃ r, ∀ p : Parties, on (p.route d e) w = (r, { w with storeTasks := w.storeTasks + 1 }) := by
  have houtside : d.choose e = chooseOutside e := by
    rw [choose, hplain, htopic]
  have hworld : (on (resolve e.senderId) w).2 = { w with storeTasks := w.storeTasks + 1 } := by
    rw [on_resolve]
  have hroute (p : Parties) := on_bind (chooseOutside e) (p.carryOut e) w
  rw [chooseOutside, on_bind] at hroute
  simp only [Parties.route, houtside]
  rcases hresolve : on (resolve e.senderId) w with ⟨f | o, v⟩
  · rw [hresolve] at hworld hroute
    exact ⟨.error f, fun p => hworld ▸ hroute p⟩
  · rw [hresolve] at hworld hroute hunknown
    cases o with
    | none => exact ⟨.ok { route := .unknownActor }, fun p => hworld ▸ hroute p⟩
    | some id => exact absurd rfl (hunknown id)

/-- At most one of the bot, the handlers and the relay is asked about an event, and once, whatever
they do: what comes of the event is what comes of that question, in a world that they had no part
in. The relay is asked only about messages that belong to no flow, and while the store works it is
asked about all of them. Nothing but a task of the store is done for an event of someone who is
unknown, unless it is a command or comes from a topic of the admin chat. -/
theorem route_exclusive (d : Desk) (e : Inbound) (w : World) :
    d.route e = d.parties.route d e ∧
    (∃ u, (∃ r, ∀ p : Parties, on (p.route d e) w = (r, u)) ∨
      (∃ route actor event, ∀ p : Parties,
        on (p.route d e) w = on (p.engage route actor event) u) ∨
      (∃ name actor text, ∀ p : Parties, on (p.route d e) w = on (p.serve name actor text) u) ∨
      (d.PassesOn w u e ∧ ∀ p : Parties, on (p.route d e) w = on (p.passOn e) u)) ∧
    (w.scene.Reliable → ∀ u, d.PassesOn w u e →
      ∃ v, ∀ p : Parties, on (p.route d e) w = on (p.passOn e) v) ∧
    (e.command? = none → d.adminTopic? e = none →
      (∀ id, (on (resolve e.senderId) w).1 ≠ .ok (some id)) →
      ∃ r, ∀ p : Parties, on (p.route d e) w = (r, { w with storeTasks := w.storeTasks + 1 })) := by
  have hroute {k : Errand} {u : World} (hchoose : on (d.choose e) w = (.ok k, u)) (p : Parties) :
      on (p.route d e) w = on (p.carryOut e k) u := on_bind_of_ok hchoose _
  refine ⟨(route_parties d e).symm, ?_, fun hs u hpasses => ?_, exists_route_of_unknown⟩
  · rcases hchoose : on (d.choose e) w with ⟨f | k, u⟩
    · refine ⟨u, .inl ⟨.error f, fun p => ?_⟩⟩
      rw [Parties.route, on_bind, hchoose]
    · cases k with
      | drop route => exact ⟨u, .inl ⟨_, hroute hchoose⟩⟩
      | refuse dest => exact ⟨_, .inl ⟨_, hroute hchoose⟩⟩
      | engage route actor event => exact ⟨u, .inr (.inl ⟨route, actor, event, hroute hchoose⟩)⟩
      | serve name actor text => exact ⟨u, .inr (.inr (.inl ⟨name, actor, text, hroute hchoose⟩))⟩
      | relay => exact ⟨u, .inr (.inr (.inr ⟨passesOn_of_choose hchoose, hroute hchoose⟩))⟩
  · obtain ⟨v, hchoose⟩ := exists_choose_of_passesOn hs hpasses
    exact ⟨v, hroute hchoose⟩

/-- A message that is nothing but a greeting. -/
def greeting : InboundMessage := { senderId := 1, chatId := 1, text := "Hello!" }

def frontDesk : Desk := { bot := { catalog := {} }, relay := some fun _ => pure true }

def acquaintance : World := { store := .memory { actors := [(1, 1)] } }

/-- Of a stranger's greeting nothing comes, and that of an acquaintance is passed on. -/
theorem route_exclusive_greeting :
    (∃ r, ∀ p : Parties,
      on (p.route frontDesk (.message greeting)) {} = (r, { storeTasks := 1 })) ∧
    frontDesk.PassesOn acquaintance acquaintance (.message greeting) ∧
    ∃ v, ∀ p : Parties, on (p.route frontDesk (.message greeting)) acquaintance =
      on (p.passOn (.message greeting)) v := by
  have hpasses : frontDesk.PassesOn acquaintance acquaintance (.message greeting) :=
    .ofActor greeting 1 (.fresh 1 1) rfl rfl rfl rfl rfl rfl fun _ => rfl
  exact ⟨(route_exclusive frontDesk (.message greeting) {}).2.2.2 rfl rfl (by nofun), hpasses,
    (route_exclusive frontDesk (.message greeting) acquaintance).2.2.1 (fun _ _ => rfl) _ hpasses⟩

end Desk

end Dialogue
