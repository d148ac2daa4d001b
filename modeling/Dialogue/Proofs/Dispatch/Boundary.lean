import Dialogue.Application
import Dialogue.Proofs.Bot.Blindness
import Dialogue.Proofs.Dispatch.Decisions
import Dialogue.Proofs.Turn.Returning

/-! What gets past a desk. The bot, the handlers, the relay and the contexts never make it fail;
what it asks of the channel and the store by itself does, and so does whoever takes in someone
new. -/
namespace Dialogue

namespace Desk
open Turn
variable {d : Desk} {e : Inbound} {w u : World} {f : Fault}

/-- Where a fault comes from that ends the routing of an event: from the reply to an unknown
command, from the lookup of the sender, before which nothing is done for an event outside of topics
of the admin chat and only a context is read in one, or from whoever takes in someone new. -/
inductive Escapes (d : Desk) (e : Inbound) (w : World) (f : Fault) (u : World) : Prop
  | reply (m : InboundMessage) (hcommand : e.command? = some m)
      (hunknown : d.bot.catalog.command? (Command.nameIn m.text) = none)
      (hfails : on (Channel.deliver (origin m) unknownCommandText) w = (.error f, u))
  | lookup (m : InboundMessage) (command : Command) (hcommand : e.command? = some m)
      (hknown : d.bot.catalog.command? (Command.nameIn m.text) = some command)
      (hfails : on (resolve m.senderId) w = (.error f, u))
  | registrar (m : InboundMessage) (command : Command) (register : Inbound → Turn Int) (v : World)
      (hcommand : e.command? = some m)
      (hknown : d.bot.catalog.command? (Command.nameIn m.text) = some command)
      (hregister : d.registrar = some register)
      (hnew : on (resolve m.senderId) w = (.ok none, v))
      (hfails : on (register (.message m)) v = (.error f, u))
  | lookupOutside (hplain : e.command? = none) (htopic : d.adminTopic? e = none)
      (hfails : on (resolve e.senderId) w = (.error f, u))
  | lookupInTopic (topic : Int) (v : World) (hplain : e.command? = none)
      (htopic : d.adminTopic? e = some topic)
      (helsewhere : on (chooseInTopic e topic) w = (.ok none, v))
      (hfails : on (resolve e.senderId) v = (.error f, u))

theorem returns_serve (name : String) (actor : Int) (text : String) :
    Returns (d.serve name actor text) fun _ => True := by
  refine Returns.rescue fun f => ?_
  split
  · exact (Returns.note _).bind fun _ _ => .pure trivial
  · exact (Returns.note _).bind fun _ _ => .pure trivial

theorem returns_passOn : Returns (d.passOn e) fun _ => True := by
  rw [passOn]
  split
  · exact .pure trivial
  · exact Returns.rescue fun _ => (Returns.note _).bind fun _ _ => .pure trivial

theorem returns_carryOut {k : Errand} (hk : k.IsGuarded) :
    Returns (d.carryOut e k) fun _ => True := by
  cases k with
  | drop route => exact .pure trivial
  | refuse dest => exact hk.elim
  | engage route actor event =>
    have hhandle : Returns (d.bot.handle actor event) fun _ => True := by
      intro w
      obtain ⟨o, v, hhandled⟩ := d.bot.exists_handled actor event w
      exact ⟨o, v, hhandled, trivial⟩
    exact hhandle.bind fun _ _ => .pure trivial
  | serve name actor text =>
    exact Returns.bind (returns_serve name actor text) fun _ _ => .pure trivial
  | relay => exact returns_passOn

theorem returns_chooseForActor (id : Int) : Returns (chooseForActor e id) Errand.IsGuarded := by
  rw [chooseForActor_eq]
  exact (Contexts.returns_getOrCreate e.senderId id).map fun o _ => isGuarded_errandFor e o

theorem returns_chooseInTopic (topic : Int) :
    Returns (chooseInTopic e topic) fun o => ∀ k, o = some k → k.IsGuarded := by
  rw [chooseInTopic_eq]
  exact (Contexts.returns_guarded _ _).map fun _ _ _ => isGuarded_of_errandInTopic

section
variable {m : InboundMessage} {topic : Int}

/-- Of an unknown command only the reply can go wrong. -/
private theorem on_route_unknown_iff (hcommand : e.command? = some m)
    (hunknown : d.bot.catalog.command? (Command.nameIn m.text) = none) :
    on (d.route e) w = (.error f, u) ↔
      on (Channel.deliver (origin m) unknownCommandText) w = (.error f, u) := by
  simp only [route, choose, hcommand, chooseForCommand, hunknown, pure_bind]
  exact Returns.on_bind_eq_error_iff fun _ => .pure trivial

/-- Finding out who gives a command goes wrong in the lookup or where someone new is taken in. -/
private theorem on_identify_iff :
    on (d.identify m) w = (.error f, u) ↔ on (resolve m.senderId) w = (.error f, u) ∨
      ∃ register v, d.registrar = some register ∧ on (resolve m.senderId) w = (.ok none, v) ∧
        on (register (.message m)) v = (.error f, u) := by
  rw [identify, on_bind_eq_error_iff]
  refine or_congr_right ⟨?_, ?_⟩
  · rintro ⟨o, v, hresolve, hfails⟩
    cases o with
    | some id => nomatch hfails
    | none =>
      cases hregister : d.registrar with
      | none =>
        rw [hregister] at hfails
        nomatch hfails
      | some register =>
        rw [hregister] at hfails
        exact ⟨register, v, rfl, hresolve, on_map_eq_error_iff.mp hfails⟩
  · rintro ⟨register, v, hregister, hresolve, hfails⟩
    refine ⟨none, v, hresolve, ?_⟩
    rw [hregister]
    exact on_map_eq_error_iff.mpr hfails

/-- Of a known command only finding out who gives it can go wrong. -/
private theorem on_route_known_iff {command : Command} (hcommand : e.command? = some m)
    (hknown : d.bot.catalog.command? (Command.nameIn m.text) = some command) :
    on (d.route e) w = (.error f, u) ↔ on (d.identify m) w = (.error f, u) := by
  simp only [route, choose, hcommand, chooseForCommand, hknown, bind_assoc]
  refine Returns.on_bind_eq_error_iff fun o => ?_
  cases o with
  | none => exact .pure trivial
  | some id =>
    simp only [bind_assoc]
    refine (Contexts.returns_getOrCreate m.senderId id).bind fun _ _ => ?_
    split
    · exact (Returns.pure trivial).bind fun _ hk => returns_carryOut hk
    · exact (Returns.pure trivial).bind fun _ hk => returns_carryOut hk

/-- Outside of topics only the lookup of the sender can go wrong. -/
private theorem on_carryOut_outside_iff :
    on (do d.carryOut e (← chooseOutside e)) w = (.error f, u) ↔
      on (resolve e.senderId) w = (.error f, u) := by
  rw [chooseOutside, bind_assoc]
  refine Returns.on_bind_eq_error_iff fun o => ?_
  cases o with
  | none => exact .pure trivial
  | some id => exact (returns_chooseForActor id).bind fun _ hk => returns_carryOut hk

private theorem on_route_outside_iff (hplain : e.command? = none)
    (htopic : d.adminTopic? e = none) :
    on (d.route e) w = (.error f, u) ↔ on (resolve e.senderId) w = (.error f, u) := by
  simp only [route, choose, hplain, htopic]
  exact on_carryOut_outside_iff

/-- In a topic of the admin chat only the lookup of someone who presses a button elsewhere can go
wrong. -/
private theorem on_route_inTopic_iff (hplain : e.command? = none)
    (htopic : d.adminTopic? e = some topic) :
    on (d.route e) w = (.error f, u) ↔
      ∃ v, on (chooseInTopic e topic) w = (.ok none, v) ∧
        on (resolve e.senderId) v = (.error f, u) := by
  obtain ⟨o, v, hin, hguarded⟩ := returns_chooseInTopic (e := e) topic w
  simp only [route, choose, hplain, htopic, bind_assoc]
  rw [on_bind, hin]
  cases o with
  | some k =>
    simp only [pure_bind]
    constructor
    · exact fun h => absurd h ((returns_carryOut (hguarded k rfl)).ne_error v u f)
    · rintro ⟨v', h, -⟩
      nomatch h
  | none =>
    refine on_carryOut_outside_iff.trans ⟨fun h => ⟨v, rfl, h⟩, ?_⟩
    rintro ⟨v', h, hfails⟩
    obtain ⟨-, rfl⟩ := Prod.mk.inj h
    exact hfails

end

/-- The routing of an event ends in just the faults that escape. -/
theorem route_error_iff (d : Desk) (e : Inbound) (w : World) (f : Fault) (u : World) :
    on (d.route e) w = (.error f, u) ↔ d.Escapes e w f u := by
  constructor
  · intro h
    cases hcommand : e.command? with
    | some m =>
      cases hcalled : d.bot.catalog.command? (Command.nameIn m.text) with
      | none => exact .reply m hcommand hcalled ((on_route_unknown_iff hcommand hcalled).mp h)
      | some command =>
        rcases on_identify_iff.mp ((on_route_known_iff hcommand hcalled).mp h) with
          hfails | ⟨register, v, hregister, hnew, hfails⟩
        · exact .lookup m command hcommand hcalled hfails
        · exact .registrar m command register v hcommand hcalled hregister hnew hfails
    | none =>
      cases htopic : d.adminTopic? e with
      | none => exact .lookupOutside hcommand htopic ((on_route_outside_iff hcommand htopic).mp h)
      | some topic =>
        obtain ⟨v, helsewhere, hfails⟩ := (on_route_inTopic_iff hcommand htopic).mp h
        exact .lookupInTopic topic v hcommand htopic helsewhere hfails
  · intro h
    cases h with
    | reply m hcommand hunknown hfails =>
      exact (on_route_unknown_iff hcommand hunknown).mpr hfails
    | lookup m command hcommand hknown hfails =>
      exact (on_route_known_iff hcommand hknown).mpr (on_identify_iff.mpr (.inl hfails))
    | registrar m command register v hcommand hknown hregister hnew hfails =>
      refine (on_route_known_iff hcommand hknown).mpr (on_identify_iff.mpr (.inr ?_))
      exact ⟨register, v, hregister, hnew, hfails⟩
    | lookupOutside hplain htopic hfails => exact (on_route_outside_iff hplain htopic).mpr hfails
    | lookupInTopic topic v hplain htopic helsewhere hfails =>
      exact (on_route_inTopic_iff hplain htopic).mpr ⟨v, helsewhere, hfails⟩

/-- The routing of an event returns unless the desk asks the channel or the store by itself and they
fail, or it lets someone new be taken in and that fails. Whatever fails in the work of the bot, of
handlers, of the relay or on contexts, it returns. -/
theorem route_returns_iff (d : Desk) (e : Inbound) (w : World) :
    (∃ r u, on (d.route e) w = (.ok r, u)) ↔ ∀ f u, ¬ d.Escapes e w f u := by
  simp only [← route_error_iff]
  rcases on (d.route e) w with ⟨f | r, u⟩
  · constructor
    · rintro ⟨r, u', h⟩
      nomatch h
    · exact fun h => absurd rfl (h f u)
  · exact ⟨fun _ _ _ => nofun, fun _ => ⟨r, u, rfl⟩⟩

/-- A desk that nobody stands behind. -/
def plainDesk : Desk := { bot := { catalog := {} } }

/-- An acquaintance whose message comes in while some tasks fail. -/
def meeting (outages : Outages) : World := { store := .memory { actors := [(1, 1)] }, outages }

/-- While the channel is down a message that is an unknown command is not survived, and while the
store is down no message is. -/
theorem route_escapes :
    (∃ u, on (plainDesk.route (.message { senderId := 1, chatId := 1, text := "/nope" }))
      (meeting { channel := fun _ _ => some (.undelivered "down" "recording" false) }) =
        (.error (.undelivered "down" "recording" false), u)) ∧
    ∃ u, on (plainDesk.route (.message { senderId := 1, chatId := 1, text := "Hello!" }))
      (meeting { store := fun _ _ => some (.broken "store down") }) =
        (.error (.broken "store down"), u) :=
  ⟨⟨_, rfl⟩, ⟨_, rfl⟩⟩

end Desk

namespace Application
open Turn

theorem returns_acknowledge (b : Bot) (e : Inbound) :
    Returns (acknowledge b e) fun _ => True := by
  cases e with
  | message m => exact .pure trivial
  | press p =>
    rw [acknowledge]
    split
    · exact Returns.rescue fun _ => .note _
    · exact .pure trivial

/-- What an update ends in a fault for is what it cannot be read for or what routing it ends in a
fault for; that a press is answered adds nothing. -/
theorem handleUpdate_error_iff (d : Desk) (raw : Value) (w : World) (f : Fault) (u : World) :
    on (handleUpdate d raw) w = (.error f, u) ↔
      (Telegram.Update.read raw = .error f ∧ u = w) ∨
      ∃ update, Telegram.Update.read raw = .ok (some update) ∧
        ((Inbound.ofUpdate update = .error f ∧ u = w) ∨
          ∃ e, Inbound.ofUpdate update = .ok e ∧ d.Escapes e w f u) := by
  have hrouted (e : Inbound) : on (do
      let routed ← d.route e
      acknowledge d.bot e
      return routed) w = (.error f, u) ↔ d.Escapes e w f u := by
    rw [← d.route_error_iff e w f u]
    exact Returns.on_bind_eq_error_iff fun _ =>
      (returns_acknowledge d.bot e).bind fun _ _ => .pure trivial
  rw [handleUpdate, on_ofResult_bind_eq_error_iff]
  refine or_congr_right ⟨?_, ?_⟩
  · rintro ⟨o, hread, h⟩
    cases o with
    | none => nomatch h
    | some update =>
      simp only [on_ofResult_bind_eq_error_iff, hrouted] at h
      exact ⟨update, hread, h⟩
  · rintro ⟨update, hread, h⟩
    refine ⟨some update, hread, ?_⟩
    simp only [on_ofResult_bind_eq_error_iff, hrouted]
    exact h

end Application

end Dialogue
