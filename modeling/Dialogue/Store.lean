import Dialogue.Store.Files
import Dialogue.Store.Rows

/-! Where the bot keeps its records. Every store resolves external ids, lists them, and keeps
one text for each actor; all but a sealed one can take in someone new. -/
namespace Dialogue

inductive Store where
  | memory (r : Records)
  | sealed (r : Records)
  | files (f : FileStore)
  | rows (t : Rows)
  deriving Repr, DecidableEq

namespace Store

/-- The internal id of an actor that the store knows. -/
def resolve (s : Store) (id : Int) : Except Fault (Option Int) :=
  match s with
  | memory r => .ok (r.resolve id)
  | sealed r => .ok (r.resolve id)
  | files f => .ok (f.records.resolve id)
  | rows t => t.resolve id

/-- The actors that can be resolved, in the order in which they came. -/
def externalIds : Store → List Int
  | memory r => r.externalIds
  | sealed r => r.externalIds
  | files f => f.records.externalIds
  | rows t => t.externalIds

/-- All texts that are kept, by the external ids of their actors. -/
def texts : Store → List (Int × String)
  | memory r => r.contexts
  | sealed r => r.contexts
  | files f => f.records.contexts
  | rows t => t.filterMap fun row => row.blob.map fun blob => (row.externalId, blob)

def load (s : Store) (id : Int) : Except Fault (Option String) :=
  match s with
  | memory r => .ok (r.load id)
  | sealed r => .ok (r.load id)
  | files f => .ok (f.records.load id)
  | rows t => t.load id

def save (s : Store) (id : Int) (blob : String) : Except Fault (Store × List Notice) :=
  match s with
  | memory r => .ok (memory (r.save id blob), [])
  | sealed r => .ok (sealed (r.save id blob), [])
  | files f => .ok (files (f.save id blob), [])
  | rows t => (t.save id blob).map fun (t, ns) => (rows t, ns)

/-- How a change of a collection ends; only files have to be written. -/
def recorded (s : Store) (c : Collection) : Except Fault Unit :=
  match s with
  | files f => f.recorded c
  | _ => .ok ()

/-- Puts an actor under an internal id of the caller's choice. What was done before a fault stays
done. -/
def register (s : Store) (id internal : Int) : Store × Except Fault Unit :=
  match s with
  | memory r => (memory (r.register id internal), .ok ())
  | sealed r => (sealed (r.register id internal), .ok ())
  | files f => (files (f.register id internal), (f.register id internal).recorded .actors)
  | rows _ => (s, .error .noParts)

def canEnrol : Store → Bool
  | sealed _ => false
  | _ => true

/-- The internal id of an actor, who is taken in under the next free one if new. -/
def enrol (s : Store) (id : Int) : Store × Except Fault Int :=
  match s with
  | memory r => match r.resolve id with
    | some n => (s, .ok n)
    | none => (memory (r.register id r.freeId), .ok r.freeId)
  | sealed _ => (s, .error .noParts)
  | files f => match f.records.resolve id with
    | some n => (s, .ok n)
    | none =>
      let g := f.register id f.records.freeId
      (files g, (g.recorded .actors).map fun _ => f.records.freeId)
  | rows t => match t.add id with
    | .ok (t, n) => (rows t, .ok n)
    | .error f => (s, .error f)

/-- How many actors and texts there are; a database does not count them. -/
def sizes : Store → Except Fault (Nat × Nat)
  | memory r => .ok (r.actors.length, r.contexts.length)
  | sealed r => .ok (r.actors.length, r.contexts.length)
  | files f => .ok (f.records.actors.length, f.records.contexts.length)
  | rows _ => .error .noParts

/-- Writes all files; other stores have none. -/
def flush (s : Store) : Store × Except Fault Unit :=
  match s with
  | files f => (files f.flush, f.written [.actors, .contexts])
  | _ => (s, .error .noParts)

end Store

end Dialogue
