import Dialogue.Validation
import Dialogue.Value

/-! Conversations as ordered lists of steps. Some steps do their work and go on by themselves;
others wait for the next message or the next press of a button. -/
namespace Dialogue

/-- Where to go next inside a flow: a position, or the id of a step. -/
inductive Target where
  | index (n : Int)
  | label (s : String)
  deriving Repr, DecidableEq

/-- A button whose press carries its own transition. -/
structure ChoiceButton where
  text : String
  value : Value
  saveTo : Option String := none
  next : Option Target := none
  nextFlow : Option String := none

namespace Step

/-- Sends a text; with a keyboard it waits for a press. -/
structure Message where
  text : String
  keyboard : Option String := none
  next : Option Target := none

/-- Asks for a message and keeps the answer. -/
structure Question where
  text : String
  saveTo : String
  validation : Option Validation := none
  next : Option Target := none

structure Choice where
  text : Option String := none
  buttons : List ChoiceButton

/-- Branches on an expression; a flow to go to wins over a step. -/
structure Branch where
  condition : String
  ifTrue : Option Target := none
  ifFalse : Option Target := none
  flowIfTrue : Option String := none
  flowIfFalse : Option String := none

/-- Sends the text that a handler returns. -/
structure Report where
  handler : String
  keyboard : Option String := none
  next : Option Target := none

/-- Sends the menu that a handler returns and keeps the value pressed. -/
structure Menu where
  handler : String
  saveTo : String
  next : Option Target := none
  nextFlow : Option String := none
  callbackPrefix : Option String := none

/-- What a step does. -/
inductive Work where
  | message (m : Message)
  | question (q : Question)
  | choice (c : Choice)
  | branch (b : Branch)
  | call (handler : String) (next : Option Target)
  | flow (name : String)
  | pause (milliseconds : Nat) (next : Option Target)
  | relaying (enable : Bool) (next : Option Target)
  | report (r : Report)
  | menu (m : Menu)
  | unsupported

end Step

structure Step where
  id : Option String := none
  work : Step.Work

structure Flow where
  name : String
  description : String := ""
  steps : List Step := []

/-- What is inside an optional text that is neither missing nor empty. -/
def filled? : Option String → Option String
  | some s => if s.isEmpty then none else some s
  | none => none

namespace Step

/-- The explicit text, or the labels of the buttons put as a question. -/
def Choice.prompt (c : Choice) : String :=
  match filled? c.text with
  | some s => s
  | none => " or ".intercalate (c.buttons.map (·.text)) ++ "?"

/-- What the payloads of a menu begin with, before the low line. -/
def Menu.lead (m : Menu) (id : Option String) : String :=
  match filled? m.callbackPrefix with
  | some s => s
  | none => "dc_" ++ id.getD "None"

end Step

namespace Flow

/-- The position of the first step with the given id, or of the first without one. -/
def find? (f : Flow) (id : Option String) : Option Nat := f.steps.findIdx? (·.id == id)

def resolve (f : Flow) : Target → Option Nat
  | .index n => if 0 ≤ n ∧ n < f.steps.length then some n.toNat else none
  | .label s => f.find? (some s)

/-- The step that any datum stands for: a number is a position, a text an id, and null stands
for the first step without an id. -/
def locate (f : Flow) : Value → Option Nat
  | .int n => f.resolve (.index n)
  | .text s => f.resolve (.label s)
  | .null => f.find? none
  | _ => none

def stepAt? (f : Flow) (i : Int) : Option Step :=
  if 0 ≤ i then f.steps[i.toNat]? else none

end Flow

end Dialogue
