import Dialogue.Proofs.Decimal.Packing
import Dialogue.Proofs.Store.Restoring
import Mathlib.Data.List.Forall2

/-! Opening a file store on whatever stands in its files. Each file gives all of its table or
nothing of it, whatever the other one holds, and one that is there but not legible is reported. One
kind of content is not caught: where a number is expected, an infinite one stops the opening. -/
namespace Dialogue

namespace Value

/-- Only infinite numbers are too large to be made whole. -/
theorem toInt_eq_tooLarge_iff {v : Value} :
    v.toInt = .error .tooLarge ↔ ∃ negative, v = .float (Binary64.infinity negative) := by
  constructor
  · intro h
    cases v with
    | float x =>
      simp only [toInt, wholePart?] at h
      cases hx : Binary64.ofFloat x with
      | nan => simp only [hx, if_true] at h; cases h
      | infinite negative => exact ⟨negative, congrArg float (Binary64.eq_infinity hx)⟩
      | finite => simp only [hx] at h; cases h
    | text s =>
      rw [toInt] at h
      split at h <;> cases h
    | null | bool | int | list | dict => cases h
  · rintro ⟨negative, rfl⟩
    cases negative <;> decide +kernel

end Value

namespace FileStore

section
variable {α : Type} {decode : Value → Except Fault α}

/-- What an entry of a file is read as. -/
def Reads (decode : Value → Except Fault α) (f : String × Value) (e : Int × α) : Prop :=
  Decimal.readInt? f.1 = some e.1 ∧ decode f.2 = .ok e.2

/-- Why an entry of a file cannot be read. The key is looked at first. -/
inductive Fails (decode : Value → Except Fault α) : String × Value → Fault → Prop
  | key {k : String} {v : Value} (hk : Decimal.readInt? k = none) : Fails decode (k, v) .unreadable
  | value {k : String} {v : Value} {n : Int} {f : Fault} (hk : Decimal.readInt? k = some n)
    (hv : decode v = .error f) : Fails decode (k, v) f

/-- A text is a dictionary whose keys are whole numbers and whose values can all be decoded. -/
def Legible (decode : Value → Except Fault α) (s : String) (t : Table Int α) : Prop :=
  ∃ fs es, Json.read? s = some (.dict fs) ∧ List.Forall₂ (Reads decode) fs es ∧
    t = Table.ofEntries es

/-- What becomes of a file: the table that it holds and the reports about it. -/
inductive Restores (decode : Value → Except Fault α) :
    Option String → Table Int α → List Notice → Prop
  | missing : Restores decode none [] []
  | legible {s : String} {t : Table Int α} (h : Legible decode s t) : Restores decode (some s) t []
  | illegible {s : String} (h : ∀ t, ¬ Legible decode s t) :
    Restores decode (some s) [] [.fileLoadFailed]

/-- The first entry of a file that cannot be read holds a number that is too large. -/
def Overflows (decode : Value → Except Fault α) (file : Option String) : Prop :=
  ∃ s before e rest es, file = some s ∧ Json.read? s = some (.dict (before ++ e :: rest)) ∧
    List.Forall₂ (Reads decode) before es ∧ Fails decode e .tooLarge

private theorem toInt_key (k : String) : Value.toInt (.text k) =
    match Decimal.readInt? k with
    | some n => .ok n
    | none => .error .unreadable := rfl

private theorem entries_of_reads {fs : List (String × Value)} {es : List (Int × α)}
    (h : List.Forall₂ (Reads decode) fs es) : entries decode fs = .ok es := by
  induction h with
  | nil => rfl
  | cons hread _ ih =>
    rw [entries, toInt_key, hread.1]
    simp only [bind, Except.bind, hread.2, ih]
    rfl

private theorem entries_of_fails {before rest : List (String × Value)} {es : List (Int × α)}
    {e : String × Value} {f : Fault} (h : List.Forall₂ (Reads decode) before es)
    (he : Fails decode e f) : entries decode (before ++ e :: rest) = .error f := by
  induction h with
  | nil =>
    rw [List.nil_append, entries, toInt_key]
    cases he with
    | key hk => rw [hk]; rfl
    | value hk hv => rw [hk]; simp only [bind, Except.bind, hv]
  | cons hread _ ih =>
    rw [List.cons_append, entries, toInt_key, hread.1]
    simp only [bind, Except.bind, hread.2, ih]

/-- Either all entries are read, or there is a first one that cannot be. -/
private theorem reads_or_fails (decode : Value → Except Fault α) (fs : List (String × Value)) :
    (∃ es, List.Forall₂ (Reads decode) fs es) ∨
      ∃ before e rest es f, fs = before ++ e :: rest ∧ List.Forall₂ (Reads decode) before es ∧
        Fails decode e f := by
  induction fs with
  | nil => exact .inl ⟨[], .nil⟩
  | cons e fs ih =>
    obtain ⟨k, v⟩ := e
    cases hk : Decimal.readInt? k with
    | none => exact .inr ⟨[], (k, v), fs, [], _, rfl, .nil, .key hk⟩
    | some n =>
      cases hv : decode v with
      | error f => exact .inr ⟨[], (k, v), fs, [], f, rfl, .nil, .value hk hv⟩
      | ok a =>
        have hread : Reads decode (k, v) (n, a) := ⟨hk, hv⟩
        rcases ih with ⟨es, h⟩ | ⟨before, d, rest, es, f, rfl, h, hd⟩
        · exact .inl ⟨(n, a) :: es, .cons hread h⟩
        · exact .inr ⟨(k, v) :: before, d, rest, (n, a) :: es, f, rfl, .cons hread h, hd⟩

private theorem restored_of_legible {s : String} {t : Table Int α} (h : Legible decode s t) :
    restored decode (some s) = .ok (t, []) := by
  obtain ⟨fs, es, hread, hes, rfl⟩ := h
  simp only [restored, hread, entries_of_reads hes]

private theorem restored_of_overflows {file : Option String} (h : Overflows decode file) :
    restored decode file = .error .tooLarge := by
  obtain ⟨s, before, e, rest, es, rfl, hread, hes, he⟩ := h
  simp only [restored, hread, entries_of_fails hes he]

private theorem restored_cases (decode : Value → Except Fault α) (s : String) :
    (∃ t, Legible decode s t) ∨ Overflows decode (some s) ∨
      restored decode (some s) = .ok ([], [.fileLoadFailed]) := by
  cases hread : Json.read? s with
  | none => exact .inr (.inr (by simp only [restored, hread]))
  | some v =>
    cases v with
    | dict fs =>
      rcases reads_or_fails decode fs with ⟨es, h⟩ | ⟨before, e, rest, es, f, rfl, h, he⟩
      · exact .inl ⟨_, fs, es, hread, h, rfl⟩
      · by_cases hf : f = .tooLarge
        · exact .inr (.inl ⟨s, before, e, rest, es, rfl, hread, h, hf ▸ he⟩)
        · refine .inr (.inr ?_)
          simp only [restored, hread, entries_of_fails h he]
    | null | bool | int | float | text | list =>
      exact .inr (.inr (by simp only [restored, hread]))

/-- A file that does not overflow gives its table, and there is only one that it gives. -/
theorem restored_eq_ok_iff {file : Option String} {t : Table Int α} {ns : List Notice} :
    restored decode file = .ok (t, ns) ↔ ¬ Overflows decode file ∧ Restores decode file t ns := by
  constructor
  · intro h
    have hfits : ¬ Overflows decode file := fun hover => by
      rw [restored_of_overflows hover] at h
      cases h
    refine ⟨hfits, ?_⟩
    cases file with
    | none =>
      obtain ⟨rfl, rfl⟩ := Prod.mk.inj (Except.ok.inj h)
      exact .missing
    | some s =>
      rcases restored_cases decode s with ⟨u, hu⟩ | hover | hfailed
      · rw [restored_of_legible hu] at h
        obtain ⟨rfl, rfl⟩ := Prod.mk.inj (Except.ok.inj h)
        exact .legible hu
      · exact absurd hover hfits
      · have hblank : ∀ u, ¬ Legible decode s u := fun u hu => by
          rw [restored_of_legible hu] at hfailed
          cases hfailed
        rw [hfailed] at h
        obtain ⟨rfl, rfl⟩ := Prod.mk.inj (Except.ok.inj h)
        exact .illegible hblank
  · rintro ⟨hfits, h⟩
    cases h with
    | missing => rfl
    | legible h => exact restored_of_legible h
    | @illegible s h =>
      rcases restored_cases decode s with ⟨u, hu⟩ | hover | hfailed
      · exact absurd hu (h u)
      · exact absurd hover hfits
      · exact hfailed

theorem restored_eq_error_iff {file : Option String} {f : Fault} :
    restored decode file = .error f ↔ f = .tooLarge ∧ Overflows decode file := by
  constructor
  · intro h
    by_cases hover : Overflows decode file
    · rw [restored_of_overflows hover] at h
      exact ⟨(Except.error.inj h).symm, hover⟩
    · cases file with
      | none => cases h
      | some s =>
        rcases restored_cases decode s with ⟨u, hu⟩ | hover' | hfailed
        · rw [restored_of_legible hu] at h
          cases h
        · exact absurd hover' hover
        · rw [hfailed] at h
          cases h
  · rintro ⟨rfl, hover⟩
    exact restored_of_overflows hover

end

/-- An infinite number stands in the file of actors as an internal id, under a key that is a whole
number, and all entries before it can be read. -/
def Endless (d : Directory) : Prop :=
  ∃ s before k n negative rest es, Table.value? d Collection.actors.fileName = some s ∧
    Json.read? s = some (.dict (before ++ (k, .float (Binary64.infinity negative)) :: rest)) ∧
    List.Forall₂ (Reads Value.toInt) before es ∧ Decimal.readInt? k = some n

private theorem overflows_actors_iff {d : Directory} :
    Overflows Value.toInt (Table.value? d Collection.actors.fileName) ↔ Endless d := by
  constructor
  · rintro ⟨s, before, e, rest, es, hfile, hread, hes, he⟩
    cases he with
    | @value k v n _ hk hv =>
      obtain ⟨negative, rfl⟩ := Value.toInt_eq_tooLarge_iff.mp hv
      exact ⟨s, before, k, n, negative, rest, es, hfile, hread, hes, hk⟩
  · rintro ⟨s, before, k, n, negative, rest, es, hfile, hread, hes, hk⟩
    have hv := Value.toInt_eq_tooLarge_iff.mpr ⟨negative, rfl⟩
    exact ⟨s, before, _, rest, es, hfile, hread, hes, .value hk hv⟩

private theorem openOn_of_endless {deferred : Bool} {d : Directory} (h : Endless d) :
    openOn deferred d = .error .tooLarge := by
  rw [openOn, restored_eq_error_iff.mpr ⟨rfl, overflows_actors_iff.mpr h⟩]
  rfl

/-- Whatever stands in the file of contexts, it has a form in which it can be kept. -/
private theorem not_overflows_contexts (file : Option String) :
    ¬ Overflows (fun v => .ok v.display) file := by
  rintro ⟨s, before, e, rest, es, -, -, -, he⟩
  cases he with
  | value _ hv => cases hv

/-- The only content on which a store cannot be opened is an infinite number as an internal id. On
any other content it opens, with all of what is legible in either file and nothing of what is not:
what one file holds has no part in what is made of the other. -/
theorem openOn_all_or_nothing (deferred : Bool) (d : Directory) :
    (∀ f, openOn deferred d = .error f ↔ f = .tooLarge ∧ Endless d) ∧
    ∀ s ns, openOn deferred d = .ok (s, ns) ↔ ¬ Endless d ∧ ∃ actors first contexts second,
      Restores Value.toInt (Table.value? d Collection.actors.fileName) actors first ∧
      Restores (fun v => .ok v.display) (Table.value? d Collection.contexts.fileName) contexts
        second ∧
      s = { records := { actors, contexts }, directory := d, deferred } ∧ ns = first ++ second := by
  have hcontexts (file : Option String) :
      ∃ p, restored (fun v => .ok v.display) file = .ok p := by
    cases h : restored (fun v => .ok v.display) file with
    | ok p => exact ⟨p, rfl⟩
    | error f => exact absurd (restored_eq_error_iff.mp h).2 (not_overflows_contexts file)
  obtain ⟨p, hp⟩ := hcontexts (Table.value? d Collection.contexts.fileName)
  refine ⟨fun f => ?_, fun s ns => ⟨fun h => ?_, ?_⟩⟩
  · constructor
    · intro h
      cases hactors : restored Value.toInt (Table.value? d Collection.actors.fileName) with
      | error g =>
        obtain ⟨rfl, hover⟩ := restored_eq_error_iff.mp hactors
        have hendless := overflows_actors_iff.mp hover
        rw [openOn_of_endless hendless] at h
        exact ⟨(Except.error.inj h).symm, hendless⟩
      | ok q =>
        rw [openOn, hactors] at h
        simp only [bind, Except.bind, hp] at h
        cases h
    · rintro ⟨rfl, hendless⟩
      exact openOn_of_endless hendless
  · obtain ⟨actors, first, contexts, second, hactors, hcontexts, rfl, rfl⟩ := parts_of_openOn h
    obtain ⟨hfits, hactors⟩ := restored_eq_ok_iff.mp hactors
    obtain ⟨-, hcontexts⟩ := restored_eq_ok_iff.mp hcontexts
    exact ⟨overflows_actors_iff.not.mp hfits, actors, first, contexts, second, hactors, hcontexts,
      rfl, rfl⟩
  · rintro ⟨hfits, actors, first, contexts, second, hactors, hcontexts, rfl, rfl⟩
    have hactors := restored_eq_ok_iff.mpr ⟨overflows_actors_iff.not.mpr hfits, hactors⟩
    have hcontexts := restored_eq_ok_iff.mpr ⟨not_overflows_contexts _, hcontexts⟩
    rw [openOn, hactors]
    simp only [bind, Except.bind, hcontexts]
    rfl

/-- An infinite id in the file of actors: the store is not opened. -/
theorem openOn_fails : ¬ ∀ deferred d, ∃ s ns, openOn deferred d = .ok (s, ns) := by
  intro h
  obtain ⟨s, ns, hopen⟩ := h false [("actors.json", "\x7b\"1\": Infinity\x7d")]
  have hread : Json.read? "\x7b\"1\": Infinity\x7d" =
      some (.dict [("1", .float (Binary64.infinity false))]) := by cbv
  have hendless : Endless [("actors.json", "\x7b\"1\": Infinity\x7d")] :=
    ⟨_, [], "1", 1, false, [], [], rfl, hread, .nil, by decide⟩
  rw [openOn_of_endless hendless] at hopen
  cases hopen

end FileStore

end Dialogue
