import Dialogue.Json.Reader
import Dialogue.Json.Writer
import Dialogue.Notice
import Dialogue.Store.Records
import Dialogue.Value.Conversion
import Dialogue.Value.Rendering

/-! Records kept in two files of a directory, one for the actors and one for their texts. Each
write replaces a whole file. Writes may be deferred: then the files that have to be written are
remembered until a timer fires. -/
namespace Dialogue

/-- The texts of the files in a directory, by name. -/
abbrev Directory := Table String String

inductive Collection where
  | actors
  | contexts
  deriving Repr, DecidableEq

namespace Collection

def fileName : Collection → String
  | actors => "actors.json"
  | contexts => "contexts.json"

/-- A file is written under this name first and then takes its own. -/
def draftName : Collection → String
  | actors => "actors.tmp"
  | contexts => "contexts.tmp"

/-- The text in which a collection is kept. -/
def sheet (r : Records) : Collection → String
  | actors => Json.sheet (r.actors.map fun (k, n) => (toString k, .int n))
  | contexts => Json.sheet (r.contexts.map fun (k, s) => (toString k, .text s))

/-- Whether a collection can be written: no number in it has too many digits. -/
def isWritable (r : Records) : Collection → Bool
  | actors => r.actors.all fun e => Decimal.isReadable e.1 && Decimal.isReadable e.2
  | contexts => r.contexts.all fun e => Decimal.isReadable e.1

end Collection

inductive Timer where
  | never
  | running
  | fired
  deriving Repr, DecidableEq

structure FileStore where
  records : Records := {}
  directory : Directory := []
  deferred : Bool := false
  pending : List Collection := []
  timer : Timer := .never
  deriving Repr, DecidableEq

namespace FileStore

/-- The entries of a file, one after another; the first that cannot be read decides. -/
def entries {α : Type} (decode : Value → Except Fault α) :
    List (String × Value) → Except Fault (List (Int × α))
  | [] => .ok []
  | (k, v) :: fs => do
    let k ← Value.toInt (.text k)
    let v ← decode v
    return (k, v) :: (← entries decode fs)

/-- The table that a file holds, all of it or nothing. A file that cannot be read is reported;
only a number that is too large stops the opening. -/
def restored {α : Type} (decode : Value → Except Fault α) (file : Option String) :
    Except Fault (Table Int α × List Notice) :=
  match file with
  | none => .ok ([], [])
  | some s => match Json.read? s with
    | some (.dict fs) => match entries decode fs with
      | .ok es => .ok (Table.ofEntries es, [])
      | .error .tooLarge => .error .tooLarge
      | .error _ => .ok ([], [.fileLoadFailed])
    | _ => .ok ([], [.fileLoadFailed])

/-- Internal ids are read as whole numbers; texts that are no texts are kept as they are shown. -/
def openOn (deferred : Bool) (d : Directory) : Except Fault (FileStore × List Notice) := do
  let (actors, first) ← restored Value.toInt (Table.value? d Collection.actors.fileName)
  let (contexts, second) ←
    restored (fun v => .ok v.display) (Table.value? d Collection.contexts.fileName)
  return ({ records := { actors, contexts }, directory := d, deferred }, first ++ second)

/-- Replaces the file of a collection. -/
def write (s : FileStore) (c : Collection) : FileStore :=
  let d := s.directory.filter fun e => e.1 != c.draftName
  { s with directory := Table.put d c.fileName (c.sheet s.records) }

/-- Writes collections one after another, up to the first that cannot be written. -/
def writeAll (s : FileStore) (cs : List Collection) : FileStore :=
  (cs.takeWhile (·.isWritable s.records)).foldl write s

/-- Writes a collection that has changed, or remembers it and sees to it that a timer runs. -/
def changed (s : FileStore) (c : Collection) : FileStore :=
  if s.deferred then
    { s with pending := if c ∈ s.pending then s.pending else s.pending ++ [c], timer := .running }
  else s.writeAll [c]

/-- Writes what is pending when the timer fires. -/
def fire (s : FileStore) : FileStore :=
  match s.timer with
  | .running => { s.writeAll s.pending with pending := [], timer := .fired }
  | _ => s

/-- Writes everything, pending or not. -/
def flush (s : FileStore) : FileStore := { s with pending := [] }.writeAll [.actors, .contexts]

/-- How the writing of some collections ends. -/
def written (s : FileStore) (cs : List Collection) : Except Fault Unit :=
  if cs.all (·.isWritable s.records) then .ok () else .error .unwritable

/-- How a change of a collection ends: it has to be written only where nothing is deferred. -/
def recorded (s : FileStore) (c : Collection) : Except Fault Unit :=
  if s.deferred then .ok () else s.written [c]

def register (s : FileStore) (id internal : Int) : FileStore :=
  { s with records := s.records.register id internal }.changed .actors

def save (s : FileStore) (id : Int) (blob : String) : FileStore :=
  { s with records := s.records.save id blob }.changed .contexts

private theorem foldl_write_frame (s : FileStore) (cs : List Collection) :
    ∃ d, cs.foldl write s = { s with directory := d } := by
  induction cs generalizing s with
  | nil => exact ⟨s.directory, rfl⟩
  | cons c cs ih => exact ih (s.write c)

/-- Writing changes nothing but files. -/
theorem writeAll_frame (s : FileStore) (cs : List Collection) :
    ∃ d, s.writeAll cs = { s with directory := d } := foldl_write_frame s _

theorem changed_frame (s : FileStore) (c : Collection) :
    (s.changed c).records = s.records ∧ (s.changed c).deferred = s.deferred := by
  unfold changed
  split
  · exact ⟨rfl, rfl⟩
  · obtain ⟨d, hd⟩ := s.writeAll_frame [c]
    rw [hd]
    exact ⟨rfl, rfl⟩

theorem records_register (s : FileStore) (id internal : Int) :
    (s.register id internal).records = s.records.register id internal :=
  (changed_frame ..).1

theorem records_save (s : FileStore) (id : Int) (blob : String) :
    (s.save id blob).records = s.records.save id blob :=
  (changed_frame ..).1

end FileStore

end Dialogue
