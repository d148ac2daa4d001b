import Dialogue.Application.Flows
import Dialogue.Catalog.Configuration
import Dialogue.Catalog.References
import Dialogue.Dispatch
import Dialogue.Relay

/-! The whole application: a desk built from what an operator has set, fed with the updates of
the messenger. -/
namespace Dialogue.Application
open Turn

/-- What an operator has set. Without definitions the flows that come with the bot are used. -/
structure Plan where
  adminChat : Option Int := none
  chainLimit : Int := 50
  definitions : Option Value := none

/-- The catalog of a plan, with its references checked, and frozen. References that lead nowhere
are reported and stay. -/
def catalogOf (p : Plan) (handlers : List String) : Except Refusal (Catalog × List Notice) := do
  let c ← match p.definitions with
    | none => pure shipped
    | some config => Catalog.ofConfiguration config
  match c.checkReferences (some handlers) with
  | .ok dangling => return (c.freeze, dangling.map fun _ => .referenceUnresolved)
  | .error fault => throw { fault }

/-- The bot of a plan. -/
def botOf (p : Plan) (catalog : Catalog) (handlers : Handlers) (channel : Channel) : Bot :=
  { catalog, handlers, channel, adminChat := p.adminChat, chainLimit := p.chainLimit }

/-- The relay into the topics of the admin chat. -/
def relayOf (b : Bot) (chat : Int) : Relay := { channel := b.channel, adminChat := chat }

/-- Takes in the sender of an event. -/
def register (e : Inbound) : Turn Int := enrol e.senderId

/-- The desk of a bot. Unless someone else passes free messages on, they are relayed when there
is an admin chat; whoever is new is taken in when the store can do that. -/
def deskOf (b : Bot) (relay : Option (Inbound → Turn Bool)) (canEnrol : Bool) : Desk where
  bot := b
  relay := match relay with
    | some r => some r
    | none => b.adminChat.map fun chat => (relayOf b chat).pass
  registrar := if canEnrol then some register else none

/-- Answers a press that can be answered. An answer that fails is reported and that is all. -/
def acknowledge (b : Bot) : Inbound → Turn Unit
  | .press p =>
    if !p.pressId.isEmpty && b.channel.answers then
      rescue (Channel.answer p.pressId) fun _ => note .answerFailed
    else return
  | .message _ => return

/-- Reads and routes an update. -/
def handleUpdate (d : Desk) (raw : Value) : Turn Routed := do
  match ← ofResult (Telegram.Update.read raw) with
  | none => return { route := .skipped }
  | some update =>
    let e ← ofResult (Inbound.ofUpdate update)
    let routed ← d.route e
    acknowledge d.bot e
    return routed

end Dialogue.Application
