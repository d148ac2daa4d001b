import Dialogue.Context

/-! How a context changes when a flow begins and when it ends. -/
namespace Dialogue.Context

/-- A flow begins in the actor's own chat. -/
def began (c : Context) (flow : String) : Context :=
  { c with
    flowMode := true, forwarding := false, currentFlow := flow, currentStep := 0
    inTopic := false, topicId := none, adminChatId := none, targetUserId := none }

/-- A flow begins in a topic of a chat, on behalf of someone or of no one. -/
def beganInTopic (c : Context) (flow : String) (topic chat target : Option Int) : Context :=
  { c with
    flowMode := true, forwarding := false, currentFlow := flow, currentStep := 0
    inTopic := true, topicId := topic, adminChatId := chat, targetUserId := target }

/-- The flow is over. -/
def ended (c : Context) : Context :=
  { c with
    flowMode := false, forwarding := true, currentFlow := "", currentStep := 0
    inTopic := false, topicId := none, adminChatId := none, targetUserId := none }

end Dialogue.Context
