import Dialogue.Catalog
import Dialogue.Text.Quoted

/-! Names and positions by which the parts of a catalog refer to each other, and those among
them that lead nowhere. -/
namespace Dialogue

inductive Reference where
  | step (t : Target)
  | flow (name : String)
  | keyboard (key : String)
  | handler (name : String)
  deriving Repr, DecidableEq

namespace Reference

def shown : Reference → String
  | step (.index n) => "step target " ++ toString n
  | step (.label s) => "step target " ++ Text.quoted s
  | flow name => "flow " ++ Text.quoted name
  | keyboard key => "keyboard " ++ Text.quoted key
  | handler name => "handler " ++ Text.quoted name

def steps (ts : List (Option Target)) : List Reference := ts.filterMap (·.map step)

/-- An empty name refers to nothing. -/
def flows (names : List (Option String)) : List Reference :=
  names.filterMap fun n => (filled? n).map flow

def keyboards (key : Option String) : List Reference := ((filled? key).map keyboard).toList

def handlers (name : Option String) : List Reference := ((filled? name).map handler).toList

end Reference

open Reference

/-- All references of a step. -/
def Step.references (s : Step) : List Reference :=
  match s.work with
  | .message m => steps [m.next] ++ keyboards m.keyboard
  | .question q => steps [q.next]
  | .choice c => c.buttons.flatMap fun b => steps [b.next] ++ flows [b.nextFlow]
  | .branch b => steps [b.ifTrue, b.ifFalse] ++ flows [b.flowIfTrue, b.flowIfFalse]
  | .call name next => steps [next] ++ handlers (some name)
  | .flow name => flows [some name]
  | .pause _ next => steps [next]
  | .relaying _ next => steps [next]
  | .report r => steps [r.next] ++ keyboards r.keyboard ++ handlers (some r.handler)
  | .menu m => steps [m.next] ++ flows [m.nextFlow] ++ handlers (some m.handler)
  | .unsupported => []

def Action.references (a : Action) : List Reference :=
  flows [a.flowName, a.nextFlow] ++ handlers a.handler

def Command.references (c : Command) : List Reference := flows [c.flowName] ++ handlers c.handler

/-- A reference that leads nowhere, and who has it. -/
structure Dangling where
  owner : String
  reference : Reference
  deriving Repr, DecidableEq

def Dangling.shown (d : Dangling) : String := d.owner ++ ": " ++ d.reference.shown

namespace Catalog

/-- Whether a reference leads somewhere. Steps are looked for in the flow given, handlers only
among names that are known. -/
def leads (c : Catalog) (handlers : Option (List String)) (f : Option Flow) : Reference → Bool
  | .step t => match f with
    | some f => (f.resolve t).isSome
    | none => true
  | .flow name => Table.has c.flows name
  | .keyboard key => Table.has c.keyboards key
  | .handler name => match handlers with
    | some names => name ∈ names
    | none => true

def dangling (c : Catalog) (handlers : Option (List String)) (f : Option Flow) (owner : String)
    (rs : List Reference) : List Dangling :=
  (rs.filter fun r => !c.leads handlers f r).map (Dangling.mk owner)

/-- A step goes by its id, or by its position when it has none. -/
def stepOwner (f : Flow) (i : Nat) (s : Step) : String :=
  f.name ++ "." ++ (filled? s.id).getD (toString i)

def danglingSteps (c : Catalog) (handlers : Option (List String)) (f : Flow) : List Dangling :=
  f.steps.zipIdx.flatMap fun (s, i) => c.dangling handlers (some f) (stepOwner f i s) s.references

def danglingAction (c : Catalog) (handlers : Option (List String)) (payload : String) :
    Registered → Except Fault (List Dangling)
  | .action a => .ok (c.dangling handlers none ("callback_action " ++ payload) a.references)
  | .other _ => .error .noParts

/-- All references that lead nowhere: those of steps, of actions and of commands. -/
def checkReferences (c : Catalog) (handlers : Option (List String)) :
    Except Fault (List Dangling) := do
  let actions ← c.actions.mapM fun (payload, r) => c.danglingAction handlers payload r
  return c.flows.flatMap (fun e => c.danglingSteps handlers e.2) ++ actions.flatten
    ++ c.commands.flatMap fun (name, command) =>
      c.dangling handlers none ("command " ++ name) command.references

end Catalog

end Dialogue
