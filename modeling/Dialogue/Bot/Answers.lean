import Dialogue.Bot.Steps

/-! Messages as answers to the question that an actor was asked. -/
namespace Dialogue.Bot
open Turn

def refusalText : String := "Invalid input format"

/-- The message for an answer that does not meet a rule. -/
def refusal (v : Validation) : String := if v.message.isEmpty then refusalText else v.message

/-- Keeps an answer, then takes up the flow after the question. -/
def keepAnswer (b : Bot) (actor : Int) (w : WaitMarker) (text : String) : Turn Outcome := do
  Contexts.setVariable actor (Path.ofString w.saveTo) (.text text)
  Contexts.setVariable actor WaitMarker.path .null
  b.proceed (b.runner actor) actor w.next

/-- Takes a message as the answer to the armed question, if there is one and the answer meets
its rule. -/
def takeAnswer (b : Bot) (c : Context) (text : String) : Turn Outcome := do
  match ← noted c.waitMarker with
  | none => return .ignored .notWaiting
  | some w => match w.validation with
    | none => b.keepAnswer c.externalId w text
    | some v =>
      if ← noted (v.accepts text) then b.keepAnswer c.externalId w text
      else
        Channel.deliver (Destination.ofContext c) (refusal v)
        return .ignored .validationFailed

end Dialogue.Bot
