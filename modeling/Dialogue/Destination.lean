import Dialogue.Context

/-! Where the output of a flow goes: to a chat, or to a topic inside a chat. -/
namespace Dialogue

structure Destination where
  chatId : Int
  topicId : Option Int := none
  deriving Repr, DecidableEq

namespace Destination

def direct (actorId : Int) : Destination := { chatId := actorId }

/-- The topic of a flow that is run in one; else the actor's own chat. -/
def ofContext (c : Context) : Destination :=
  if c.inTopic then { chatId := c.adminChatId.getD 0, topicId := c.topicId }
  else direct c.externalId

end Destination

end Dialogue
