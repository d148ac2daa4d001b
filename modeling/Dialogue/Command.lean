import Dialogue.Flow.Schema
import Dialogue.Text.Blank

/-! Commands: messages that begin with a slash. -/
namespace Dialogue
open Schema

/-- A command starts a flow or calls a handler. -/
structure Command where
  name : String
  flowName : Option String := none
  handler : Option String := none
  description : String := ""
  deriving Repr, DecidableEq

namespace Command

def fieldNames : List String := ["name", "flow_name", "handler_name", "description"]

def read : Reader Command := record fun fs =>
  Command.mk <$> required fs "name" string <*> optionalField fs "flow_name" string
    <*> optionalField fs "handler_name" string <*> fieldOr fs "description" "" string

def toValue (c : Command) : Value :=
  .dict [("name", .text c.name), ("flow_name", optionalText c.flowName),
    ("handler_name", optionalText c.handler), ("description", .text c.description)]

/-- A message is a command when it begins with a slash. -/
def isCommand (s : String) : Bool := s.toList.head? == some '/'

/-- The first word of a message up to an at sign. -/
def nameIn (s : String) : String :=
  String.ofList ((Text.firstWord s).toList.takeWhile (· != '@'))

end Command

end Dialogue
