import Dialogue.World

/-! Work on a world. A fault ends the work, but what was done before it stays done. -/
namespace Dialogue

abbrev Turn := ExceptT Fault (StateM World)

namespace Turn

def note (n : Notice) : Turn Unit := modify fun w => { w with notices := w.notices ++ [n] }

def noteAll (ns : List Notice) : Turn Unit := modify fun w => { w with notices := w.notices ++ ns }

/-- A result that comes with notices. -/
def noted {α : Type} (r : α × List Notice) : Turn α := do
  noteAll r.2
  return r.1

def ofResult {α : Type} : Except Fault α → Turn α
  | .ok a => pure a
  | .error f => throw f

/-- Work whose faults are dealt with. -/
def rescue {α : Type} (work : Turn α) (handle : Fault → Turn α) : Turn α := tryCatch work handle

/-- Counts a task of the store, which may be out of order. -/
def storeTask (t : StoreTask) : Turn Unit := do
  let w ← get
  set { w with storeTasks := w.storeTasks + 1 }
  match w.outages.store t w.storeTasks with
  | some f => throw f
  | none => return

/-- Counts a task of the channel, which may be out of order. -/
def channelTask (t : ChannelTask) : Turn Unit := do
  let w ← get
  set { w with channelTasks := w.channelTasks + 1 }
  match w.outages.channel t w.channelTasks with
  | some f => throw f
  | none => return

def resolve (actor : Int) : Turn (Option Int) := do
  storeTask .resolve
  ofResult ((← get).store.resolve actor)

def externalIds : Turn (List Int) := do
  storeTask .list
  return (← get).store.externalIds

def load (actor : Int) : Turn (Option String) := do
  storeTask .load
  ofResult ((← get).store.load actor)

def save (actor : Int) (blob : String) : Turn Unit := do
  storeTask .save
  let (store, notices) ← ofResult ((← get).store.save actor blob)
  modify fun w => { w with store }
  noteAll notices

/-- Takes in someone new, or finds the internal id of someone known. -/
def enrol (actor : Int) : Turn Int := do
  let (store, id) := (← get).store.enrol actor
  modify fun w => { w with store }
  ofResult id

/-- Waits, if the time can be told in seconds. -/
def pause (milliseconds : Nat) : Turn Unit :=
  if (Binary64.ofFloat (Decimal.nearest false milliseconds (-3))).isFinite then
    modify fun w => { w with pauses := w.pauses ++ [milliseconds] }
  else throw .tooLarge

end Turn

end Dialogue
