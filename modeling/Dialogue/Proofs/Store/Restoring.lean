import Dialogue.Proofs.Decimal.Numerals
import Dialogue.Proofs.Json.Sheets
import Dialogue.Proofs.Tables
import Dialogue.Store.Files
import Mathlib.Data.List.Nodup

/-! What a file store finds in its files. A table that was written is found again as it was, with
its entries in the same order. -/
namespace Dialogue

namespace Records

/-- No id stands twice in a table. -/
structure Distinct (r : Records) : Prop where
  actors : (Table.keys r.actors).Nodup
  contexts : (Table.keys r.contexts).Nodup

/-- No id has more digits than can be written as a text and read again. -/
structure Writable (r : Records) : Prop where
  actors : ∀ e ∈ r.actors, Decimal.isReadable e.1 = true ∧ Decimal.isReadable e.2 = true
  contexts : ∀ e ∈ r.contexts, Decimal.isReadable e.1 = true

theorem Writable.isWritable {r : Records} (h : r.Writable) (c : Collection) :
    c.isWritable r = true := by
  cases c with
  | actors => exact List.all_eq_true.mpr fun e he => (Bool.and_eq_true ..).mpr (h.actors e he)
  | contexts => exact List.all_eq_true.mpr h.contexts

theorem Distinct.register {r : Records} (h : r.Distinct) (id internal : Int) :
    (r.register id internal).Distinct :=
  ⟨Table.nodup_keys_put h.actors id internal, h.contexts⟩

theorem Distinct.save {r : Records} (h : r.Distinct) (id : Int) (blob : String) :
    (r.save id blob).Distinct :=
  ⟨h.actors, Table.nodup_keys_put h.contexts id blob⟩

end Records

/-- A collection has the same table in both. -/
def Collection.Same (r r' : Records) : Collection → Prop
  | actors => r'.actors = r.actors
  | contexts => r'.contexts = r.contexts

namespace Collection

theorem same_refl (c : Collection) (r : Records) : c.Same r r := by
  cases c <;> rfl

theorem same_register {c : Collection} (hc : c ≠ actors) {r : Records} {id internal : Int} :
    c.Same r (r.register id internal) := by
  cases c with
  | actors => exact absurd rfl hc
  | contexts => rfl

theorem same_save {c : Collection} (hc : c ≠ contexts) {r : Records} {id : Int} {blob : String} :
    c.Same r (r.save id blob) := by
  cases c with
  | actors => rfl
  | contexts => exact absurd rfl hc

end Collection

namespace FileStore

section
variable {α : Type} {decode : Value → Except Fault α} {encode : α → Value} {t : Table Int α}

/-- A table as the dictionary that is written for it. -/
private def numbered (encode : α → Value) (t : Table Int α) : Table String Value :=
  t.map fun e => (toString e.1, encode e.2)

private theorem nodup_numbered (hkeys : ∀ e ∈ t, Decimal.isReadable e.1 = true)
    (ht : (Table.keys t).Nodup) : (Table.keys (numbered encode t)).Nodup := by
  have hnames : Table.keys (numbered encode t) = (Table.keys t).map toString := by
    simp [Table.keys, numbered]
  rw [hnames]
  refine ht.map_on fun i hi j hj hij => ?_
  have hread (k : Int) (hk : k ∈ Table.keys t) : Decimal.readInt? (toString k) = some k := by
    obtain ⟨e, he, rfl⟩ := List.mem_map.mp hk
    exact Decimal.readInt?_toString (hkeys e he)
  have hsame := hread i hi
  rw [hij, hread j hj] at hsame
  exact (Option.some.inj hsame).symm

private theorem entries_numbered (hkeys : ∀ e ∈ t, Decimal.isReadable e.1 = true)
    (hdecode : ∀ e ∈ t, decode (encode e.2) = .ok e.2) :
    entries decode (numbered encode t) = .ok t := by
  induction t with
  | nil => rfl
  | cons e t ih =>
    obtain ⟨hkey, hkeys⟩ := List.forall_mem_cons.mp hkeys
    obtain ⟨hvalue, hdecode⟩ := List.forall_mem_cons.mp hdecode
    have hid : Value.toInt (.text (toString e.1)) = .ok e.1 := by
      rw [Value.toInt, Decimal.readInt?_toString hkey]
    have hrest := ih hkeys hdecode
    have hcons : numbered encode (e :: t) = (toString e.1, encode e.2) :: numbered encode t := rfl
    rw [hcons, entries, hid, hvalue, hrest]
    rfl

variable (encode) in
/-- A table that was written on a sheet is found again as it was. -/
private theorem restored_numbered (ht : (Table.keys t).Nodup)
    (hkeys : ∀ e ∈ t, Decimal.isReadable e.1 = true)
    (hscalar : ∀ e ∈ t, Json.IsScalar (encode e.2))
    (hdecode : ∀ e ∈ t, decode (encode e.2) = .ok e.2) :
    restored decode (some (Json.sheet (numbered encode t))) = .ok (t, []) := by
  have hscalars : ∀ e ∈ numbered encode t, Json.IsScalar e.2 := by
    intro e he
    obtain ⟨d, hd, rfl⟩ := List.mem_map.mp he
    exact hscalar d hd
  have hread := Json.read?_sheet hscalars
  rw [Table.ofEntries_of_nodup (nodup_numbered hkeys ht)] at hread
  simp only [restored, hread, entries_numbered hkeys hdecode, Table.ofEntries_of_nodup ht]

/-- In a table that is found no id stands twice. -/
theorem nodup_restored {file : Option String} {ns : List Notice}
    (h : restored decode file = .ok (t, ns)) : (Table.keys t).Nodup := by
  have hempty {ns' : List Notice} (h : (.ok ([], ns') : Except Fault (Table Int α × List Notice)) =
      .ok (t, ns)) : (Table.keys t).Nodup := by
    obtain rfl : [] = t := congrArg Prod.fst (Except.ok.inj h)
    exact List.nodup_nil
  unfold restored at h
  split at h
  · exact hempty h
  · split at h
    · split at h
      · have ht : Table.ofEntries _ = t := congrArg Prod.fst (Except.ok.inj h)
        rw [← ht]
        exact Table.nodup_keys_ofEntries _
      · cases h
      · exact hempty h
    · exact hempty h

end

theorem restored_actors {r : Records} (h : r.Distinct) (hw : r.Writable) :
    restored Value.toInt (some (Collection.actors.sheet r)) = .ok (r.actors, []) :=
  restored_numbered .int h.actors (fun e he => (hw.actors e he).1)
    (fun e he => (hw.actors e he).2) fun _ _ => rfl

theorem restored_contexts {r : Records} (h : r.Distinct) (hw : r.Writable) :
    restored (fun v => .ok v.display) (some (Collection.contexts.sheet r)) = .ok (r.contexts, []) :=
  restored_numbered .text h.contexts hw.contexts (fun _ _ => trivial) fun _ _ => rfl

variable {s : FileStore}

/-- A file holds the table that the store has in memory. -/
def Mirrors (s : FileStore) : Collection → Prop
  | .actors => ∃ ns, restored Value.toInt (Table.value? s.directory Collection.actors.fileName) =
      .ok (s.records.actors, ns)
  | .contexts => ∃ ns, restored (fun v => .ok v.display)
      (Table.value? s.directory Collection.contexts.fileName) = .ok (s.records.contexts, ns)

/-- What is found depends on the file and the table alone. -/
theorem Mirrors.transfer {t : FileStore} {c : Collection} (h : s.Mirrors c)
    (hfile : Table.value? t.directory c.fileName = Table.value? s.directory c.fileName)
    (htable : c.Same s.records t.records) : t.Mirrors c := by
  cases c with
  | actors | contexts => rwa [Mirrors, hfile, htable]

/-- A directory that a store opens on, taken apart. -/
theorem parts_of_openOn {deferred : Bool} {d : Directory} {ns : List Notice}
    (h : openOn deferred d = .ok (s, ns)) : ∃ actors first contexts second,
      restored Value.toInt (Table.value? d Collection.actors.fileName) = .ok (actors, first) ∧
      restored (fun v => .ok v.display) (Table.value? d Collection.contexts.fileName) =
        .ok (contexts, second) ∧
      s = { records := { actors, contexts }, directory := d, deferred } ∧ ns = first ++ second := by
  rw [openOn] at h
  cases hactors : restored Value.toInt (Table.value? d Collection.actors.fileName) with
  | error f =>
    rw [hactors] at h
    cases h
  | ok p =>
    obtain ⟨actors, first⟩ := p
    rw [hactors] at h
    cases hcontexts : restored (fun v => .ok v.display)
        (Table.value? d Collection.contexts.fileName) with
    | error f =>
      simp only [hcontexts] at h
      cases h
    | ok p =>
      obtain ⟨contexts, second⟩ := p
      simp only [hcontexts] at h
      obtain ⟨rfl, rfl⟩ := Prod.mk.inj (Except.ok.inj h)
      exact ⟨actors, first, contexts, second, rfl, rfl, rfl, rfl⟩

/-- A store that was just opened has in memory what its files hold. -/
theorem mirrors_openOn {deferred : Bool} {d : Directory} {ns : List Notice}
    (h : openOn deferred d = .ok (s, ns)) (c : Collection) : s.Mirrors c := by
  obtain ⟨actors, first, contexts, second, hactors, hcontexts, rfl, -⟩ := parts_of_openOn h
  cases c with
  | actors => exact ⟨first, hactors⟩
  | contexts => exact ⟨second, hcontexts⟩

theorem distinct_openOn {deferred : Bool} {d : Directory} {ns : List Notice}
    (h : openOn deferred d = .ok (s, ns)) : s.records.Distinct := by
  obtain ⟨_, hactors⟩ := mirrors_openOn h .actors
  obtain ⟨_, hcontexts⟩ := mirrors_openOn h .contexts
  exact ⟨nodup_restored hactors, nodup_restored hcontexts⟩

/-- A store that is opened on files that mirror another one has the same tables. -/
theorem openOn_of_mirrors (h : ∀ c, s.Mirrors c) (deferred : Bool) :
    ∃ t ns, openOn deferred s.directory = .ok (t, ns) ∧ t.records = s.records := by
  obtain ⟨first, hactors⟩ := h .actors
  obtain ⟨second, hcontexts⟩ := h .contexts
  refine ⟨{ records := s.records, directory := s.directory, deferred }, first ++ second, ?_, rfl⟩
  rw [openOn, hactors]
  simp only [bind, Except.bind, hcontexts]
  rfl

/-- Where all ids can be written, no change fails. -/
theorem recorded_of_writable (h : s.records.Writable) (c : Collection) : s.recorded c = .ok () := by
  rw [recorded, written, List.all_cons, h.isWritable]
  exact ite_self _

/-- Writing leaves all files but one as they are, apart from a draft. -/
theorem value?_write (c d : Collection) : Table.value? (s.write c).directory d.fileName =
    if d = c then some (c.sheet s.records) else Table.value? s.directory d.fileName := by
  have hfile : c.fileName = d.fileName ↔ d = c := by cases c <;> cases d <;> decide
  have hdraft : d.fileName ≠ c.draftName := by cases c <;> cases d <;> decide
  rw [write]
  split
  · rename_i heq
    rw [heq, Table.value?_put_self]
  · rename_i hne
    rw [Table.value?_put_of_ne _ _ (mt hfile.mp hne), Table.value?_filter_of_ne _ hdraft]

/-- Right after it was written, a file mirrors its table. -/
theorem mirrors_write (h : s.records.Distinct) (hw : s.records.Writable) (c : Collection) :
    (s.write c).Mirrors c := by
  cases c with
  | actors =>
    refine ⟨[], ?_⟩
    rw [value?_write, if_pos rfl]
    exact restored_actors h hw
  | contexts =>
    refine ⟨[], ?_⟩
    rw [value?_write, if_pos rfl]
    exact restored_contexts h hw

/-- The other file is left alone. -/
theorem mirrors_write_of_ne {c d : Collection} (hne : c ≠ d) (h : s.Mirrors c) :
    (s.write d).Mirrors c :=
  h.transfer (by rw [value?_write, if_neg hne]) (c.same_refl _)

end FileStore

end Dialogue
