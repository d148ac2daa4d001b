import Dialogue.Context.Codec
import Dialogue.Turn
import Dialogue.Value.Equality

/-! The contexts of all actors. Each operation reads a whole context and writes a whole one
back. Faults of the store end here: they are reported, and the operation answers as if there
were nothing. -/
namespace Dialogue.Contexts
open Turn

/-- Work whose faults are reported and stand for a neutral answer. -/
def guarded {α : Type} (neutral : α) (work : Turn α) : Turn α :=
  rescue work fun _ => do
    note .contextOperationFailed
    return neutral

def put (c : Context) : Turn Unit := save c.externalId c.encode

/-- The context of an actor; none when the actor is unknown. -/
def get (actor : Int) : Turn (Option Context) := guarded none do
  match ← resolve actor with
  | none => return none
  | some human =>
    let blob ← load actor
    return some (← noted (Context.decode (← MonadState.get).now actor human blob))

def create (actor human : Int) : Turn (Option Context) := guarded none do
  let c := Context.fresh actor human
  put c
  return some c

def getOrCreate (actor human : Int) : Turn (Option Context) := do
  match ← get actor with
  | some c => return some c
  | none => create actor human

/-- Changes a context and writes it back, if the change leads to one. -/
def amend (actor : Int) (change : Context → Schema.Checked (Context × List Notice)) :
    Turn (Option Context) := guarded none do
  match ← get actor with
  | none =>
    note .contextUpdateMissing
    return none
  | some c => match change c with
    | .ok r =>
      let c ← noted r
      put c
      return some c
    | .error complaints => throw (.malformed complaints)

/-- Changes a context; what is unsound after the change is repaired. -/
def revise (actor : Int) (f : Context → Context) : Turn Unit := do
  let _ ← amend actor fun c => .ok (f c).repair

/-- The fields that may be set from outside: all but the identity. -/
def mutableFields : List String := Context.fieldNames.drop 2

/-- Sets fields by name. Names that may not be set are dropped and reported in order. -/
def update (actor : Int) (fields : Table String Value) : Turn (Option Context) := do
  let refused := (Table.keys fields).filter fun k => k ∉ mutableFields
  if !refused.isEmpty then
    note (.contextFieldsRejected (refused.mergeSort fun a b => decide (a ≤ b)))
  let accepted := fields.filter fun e => e.1 ∈ mutableFields
  let now := (← MonadState.get).now
  amend actor fun c => Context.read now (.dict (Table.putAll c.toFields accepted))

def setVariable (actor : Int) (p : Path) (v : Value) : Turn Unit := guarded () do
  match ← get actor with
  | none => note .contextVariableMissing
  | some c => put (c.setData p v)

def variableAt (actor : Int) (p : Path) : Turn Value := guarded .null do
  match ← get actor with
  | none => return .null
  | some c => return Path.get (.dict c.data) p

/-- The first of some actors whose data hold a value at a path. -/
def firstHolding (p : Path) (v : Value) : List Int → Turn (Option Int)
  | [] => return none
  | actor :: actors => do
    match ← get actor with
    | some c =>
      if Value.same (Path.get (.dict c.data) p) v then return some actor
      else firstHolding p v actors
    | none => firstHolding p v actors

/-- Looks through the contexts of all actors. -/
def findActor (p : Path) (v : Value) : Turn (Option Int) := guarded none do
  firstHolding p v (← externalIds)

def setForwarding (actor : Int) (on : Bool) : Turn Unit :=
  revise actor fun c => { c with forwarding := on }

def isForwarding (actor : Int) : Turn Bool := guarded true do
  return (← get actor).elim true (·.forwarding)

/-- Flow mode and forwarding are opposites when they are set together. -/
def setFlowMode (actor : Int) (on : Bool) : Turn Unit :=
  revise actor fun c => { c with flowMode := on, forwarding := !on }

def isInFlowMode (actor : Int) : Turn Bool := guarded false do
  return (← get actor).elim false (·.flowMode)

/-- Enters a step of a flow. -/
def recordStep (actor : Int) (flow : String) (step : Int) : Turn (Option Context) := guarded none do
  match ← get actor with
  | none =>
    note .contextStepMissing
    return none
  | some c =>
    let c := c.visit flow step (← MonadState.get).now
    put c
    return some c

end Dialogue.Contexts
