import Dialogue.Store

/-! Calls to a store with ids as they come from outside: numbers, or texts that read as numbers. -/
namespace Dialogue.Store

inductive Call where
  | register (id internal : Value)
  | enrol (id : Value)
  | resolve (id : Value)
  | list
  | load (id : Value)
  | save (id : Value) (blob : String)
  | sizes
  | flush

namespace Call

/-- Goes on with what was read, if it could be read. -/
def given {α β : Type} (s : Store) (r : Except Fault α) (f : α → Store × Except Fault β) :
    Store × Except Fault β :=
  match r with
  | .ok a => f a
  | .error e => (s, .error e)

/-- Carries out a call: the store after it, and its answer with what is reported. What was done
before a fault stays done. -/
def carryOut (s : Store) : Call → Store × Except Fault (Value × List Notice)
  | .register id internal =>
    given s (do return (← internal.toInt, ← id.toInt)) fun (internal, id) =>
      ((s.register id internal).1, (s.register id internal).2.map fun _ => (.null, []))
  | .enrol id => given s id.toInt fun id =>
      ((s.enrol id).1, (s.enrol id).2.map fun n => (.int n, []))
  | .resolve id => (s, do return (Value.ofOption .int (← s.resolve (← id.toInt)), []))
  | .list => (s, .ok (.list (s.externalIds.map .int), []))
  | .load id => (s, do return (Value.ofOption .text (← s.load (← id.toInt)), []))
  | .save id blob => given s (do s.save (← id.toInt) blob) fun (t, ns) =>
      (t, (t.recorded .contexts).map fun _ => (.null, ns))
  | .sizes => (s, do
      let (actors, contexts) ← s.sizes
      return (.dict [("actors", .int actors), ("contexts", .int contexts)], []))
  | .flush => (s.flush.1, s.flush.2.map fun _ => (.null, []))

/-- A call that is completed: the store after it, its answer and what is reported. -/
def apply (s : Store) (c : Call) : Except Fault (Store × Value × List Notice) :=
  (c.carryOut s).2.map fun (answer, ns) => ((c.carryOut s).1, answer, ns)

end Call

end Dialogue.Store
