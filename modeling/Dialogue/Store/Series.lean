import Dialogue.Store

/-! Stores that are opened one after another, each on what the one before left on disk. A file
store that was left keeps its timer. -/
namespace Dialogue

structure StoreSeries where
  current : Store
  /-- The file stores that were left. -/
  left : List FileStore := []
  deriving Repr, DecidableEq

namespace StoreSeries

/-- Opens a store. Only a file store can find a directory that it cannot open. -/
def openStore (backend : String) (deferred : Bool) (d : Directory) :
    Except Fault (Store × List Notice) :=
  match backend with
  | "file" => (FileStore.openOn deferred d).map fun (f, ns) => (.files f, ns)
  | "sql" => .ok (.rows [], [])
  | _ => .ok (.memory {}, [])

/-- Opens the next store of the same kind. -/
def reopen (s : StoreSeries) : Except Fault (StoreSeries × List Notice) :=
  match s.current with
  | .files f => (FileStore.openOn f.deferred f.directory).map fun (g, ns) =>
      ({ current := .files g, left := s.left ++ [f] }, ns)
  | .rows _ => .ok (s, [])
  | _ => .ok ({ s with current := .memory {} }, [])

/-- Waits for the timer of the current store, if one was ever set. The timers of the stores
that were left fire first. -/
def awaitFlush (s : StoreSeries) : StoreSeries × Bool :=
  match s.current with
  | .files f => match f.timer with
    | .never => (s, false)
    | .fired => (s, true)
    | .running =>
      let directory := s.left.foldl
        (fun d (g : FileStore) => { g with directory := d }.fire.directory) f.directory
      ({ current := .files { f with directory }.fire, left := [] }, true)
  | _ => (s, false)

def directory (s : StoreSeries) : Directory :=
  match s.current with
  | .files f => f.directory
  | _ => []

end StoreSeries

end Dialogue
