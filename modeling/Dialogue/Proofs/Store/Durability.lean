import Dialogue.Proofs.Store.Deferral
import Dialogue.Proofs.Store.Limits

/-! A file store that writes at once. Its files always hold what it has in memory, so another store
that is opened on the directory cannot be told apart from it. This ends where an id is too long to
be written: then memory has changed and the file has not. -/
namespace Dialogue

namespace Store

/-- Two stores resolve, list and load the same. -/
structure Alike (s t : Store) : Prop where
  resolve : ∀ id, t.resolve id = s.resolve id
  externalIds : t.externalIds = s.externalIds
  load : ∀ id, t.load id = s.load id

namespace Call

/-- The calls that change records, with numbers as ids. -/
inductive Changes : Call → Prop
  | register (id internal : Int) : Changes (.register (.int id) (.int internal))
  | enrol (id : Int) : Changes (.enrol (.int id))
  | save (id : Int) (blob : String) : Changes (.save (.int id) blob)

/-- A call that changes records and puts no id into them that is too long to be written, not even
the one that someone new is given. -/
inductive Short (r : Records) : Call → Prop
  | register {id internal : Int} (hid : Decimal.isReadable id = true)
      (hinternal : Decimal.isReadable internal = true) :
      Short r (.register (.int id) (.int internal))
  | enrol {id : Int} (hid : Decimal.isReadable id = true)
      (hfree : r.resolve id = none → Decimal.isReadable r.freeId = true) :
      Short r (.enrol (.int id))
  | save {id : Int} (hid : Decimal.isReadable id = true) (blob : String) :
      Short r (.save (.int id) blob)

end Call

end Store

namespace FileStore
open Store

/-- What becomes of a store that is opened on some directory and writes at once, by calls of some
kind. What a call did before it failed stays done. -/
inductive Grows (allowed : Records → Call → Prop) : FileStore → Prop
  | opened {d : Directory} {s : FileStore} {ns : List Notice} (h : openOn false d = .ok (s, ns)) :
    Grows allowed s
  | call {s t : FileStore} {c : Call} (h : Grows allowed s) (hc : allowed s.records c)
    (hst : (c.carryOut (.files s)).1 = .files t) : Grows allowed t

/-- Another store that is opened on the directory cannot be told apart from this one. -/
def Durable (s : FileStore) : Prop :=
  ∀ deferred, ∃ t ns, openOn deferred s.directory = .ok (t, ns) ∧ Alike (.files s) (.files t)

/-- Every file holds what is in memory, and could be written again. -/
structure Kept (s : FileStore) : Prop where
  immediate : s.deferred = false
  distinct : s.records.Distinct
  writable : s.records.Writable
  mirrors : ∀ c, s.Mirrors c

variable {s : FileStore}

theorem durable_of_mirrors (h : ∀ c, s.Mirrors c) : s.Durable := by
  intro deferred
  obtain ⟨t, ns, hopen, hrecords⟩ := openOn_of_mirrors h deferred
  refine ⟨t, ns, hopen, ?_, ?_, ?_⟩
  · intro id
    exact congrArg (fun r => Except.ok (r.resolve id)) hrecords
  · exact congrArg Records.externalIds hrecords
  · intro id
    exact congrArg (fun r => Except.ok (r.load id)) hrecords

theorem kept_openOn {d : Directory} {ns : List Notice} (h : openOn false d = .ok (s, ns)) :
    s.Kept := by
  have hmirrors := mirrors_openOn h
  have hdistinct := distinct_openOn h
  have hwritable := writable_openOn h
  obtain ⟨_, _, _, _, -, -, rfl, -⟩ := parts_of_openOn h
  exact ⟨rfl, hdistinct, hwritable, hmirrors⟩

namespace Kept

/-- A table that changes is written, if all its ids can be. -/
theorem changed (h : s.Kept) {r : Records} (hr : r.Distinct) (hw : r.Writable) (c : Collection)
    (hsame : ∀ d, d ≠ c → d.Same s.records r) : ({ s with records := r }.changed c).Kept := by
  have hchanged : { s with records := r }.changed c = { s with records := r }.writeAll [c] := by
    rw [FileStore.changed, h.immediate]
    rfl
  have hmirrors (d : Collection) : ({ s with records := r }.writeAll [c]).Mirrors d := by
    apply mirrors_writeAll hr hw
    by_cases hd : d = c
    · exact .inr (List.mem_singleton.mpr hd)
    · exact .inl ((h.mirrors d).transfer rfl (hsame d hd))
  obtain ⟨directory, hframe⟩ := writeAll_frame { s with records := r } [c]
  rw [hchanged]
  rw [hframe] at hmirrors ⊢
  exact ⟨h.immediate, hr, hw, hmirrors⟩

theorem register (h : s.Kept) {id internal : Int} (hid : Decimal.isReadable id = true)
    (hinternal : Decimal.isReadable internal = true) : (s.register id internal).Kept :=
  h.changed (h.distinct.register id internal) (h.writable.register hid hinternal) .actors
    fun _ hd => Collection.same_register hd

theorem save (h : s.Kept) {id : Int} (hid : Decimal.isReadable id = true) (blob : String) :
    (s.save id blob).Kept :=
  h.changed (h.distinct.save id blob) (h.writable.save hid blob) .contexts
    fun _ hd => Collection.same_save hd

/-- A call with short ids is completed, and the files hold all that it changed. -/
theorem carryOut (h : s.Kept) {c : Call} (hc : c.Short s.records) :
    ∃ t answer, c.carryOut (.files s) = (.files t, .ok (answer, [])) ∧ t.Kept := by
  cases hc with
  | @register id internal hid hinternal =>
    have hkept := h.register hid hinternal
    have hrecorded := recorded_of_writable hkept.writable .actors
    refine ⟨s.register id internal, .null, ?_, hkept⟩
    change (Store.files (s.register id internal), _) = _
    rw [Store.register, hrecorded]
    rfl
  | @enrol id hid hfree =>
    cases hknown : s.records.resolve id with
    | some n =>
      refine ⟨s, .int n, ?_, h⟩
      simp only [Call.carryOut, Value.toInt, Call.given, Store.enrol, hknown]
      rfl
    | none =>
      have hkept := h.register hid (hfree hknown)
      have hrecorded := recorded_of_writable hkept.writable .actors
      refine ⟨s.register id s.records.freeId, .int s.records.freeId, ?_, hkept⟩
      simp only [Call.carryOut, Value.toInt, Call.given, Store.enrol, hknown, hrecorded]
      rfl
  | @save id hid blob =>
    have hkept := h.save hid blob
    have hrecorded := recorded_of_writable hkept.writable .contexts
    refine ⟨s.save id blob, .null, ?_, hkept⟩
    change (Store.files (s.save id blob), _) = _
    rw [Store.recorded, hrecorded]
    rfl

end Kept

theorem kept_of_grows (h : s.Grows Call.Short) : s.Kept := by
  induction h with
  | opened h => exact kept_openOn h
  | call _ hc hst ih =>
    obtain ⟨t, _, hcall, hkept⟩ := ih.carryOut hc
    rw [hcall] at hst
    exact Store.files.inj hst ▸ hkept

/-- As long as every id is short enough to be written, each call is completed, and at any time
another store that is opened on the directory resolves, lists and loads the same. -/
theorem durable_of_grows (h : s.Grows Call.Short) : s.Durable ∧
    ∀ c : Call, c.Short s.records →
      ∃ t answer, c.carryOut (.files s) = (.files t, .ok (answer, [])) := by
  have hkept := kept_of_grows h
  refine ⟨durable_of_mirrors hkept.mirrors, ?_⟩
  intro c hc
  obtain ⟨t, answer, hcall, -⟩ := hkept.carryOut hc
  exact ⟨t, answer, hcall⟩

/-- A store that found one actor in its files. -/
def found : FileStore :=
  { records := { actors := [(5, 70)] }, directory := [("actors.json", "\x7b\"5\": 70\x7d")] }

/-- Someone was taken in whose text is not plain. -/
def joined : FileStore :=
  (found.register (-3) 71).save (-3) "\x7b\"name\": \"Zoë 😀\"\x7d\n"

theorem durable_of_grows_joined : joined.Grows Call.Short ∧
    joined.records.externalIds = [5, -3] ∧ joined.Durable ∧ ∃ t answer,
      (Call.enrol (.int 8)).carryOut (.files joined) = (.files t, .ok (answer, [])) := by
  have hopened : openOn false found.directory = .ok (found, []) := by cbv
  have henrol : Call.Short found.records (.enrol (.int (-3))) :=
    .enrol (by decide) fun _ => by decide
  have henrolled : (found.register (-3) 71).Grows Call.Short :=
    (Grows.opened hopened).call henrol rfl
  have hjoined : joined.Grows Call.Short := henrolled.call (.save (by decide) _) rfl
  obtain ⟨hdurable, hcalls⟩ := durable_of_grows hjoined
  exact ⟨hjoined, rfl, hdurable, hcalls _ (.enrol (by decide) fun _ => by decide)⟩

/-- An actor under an id that is too long is in memory and in no file. -/
theorem register_of_not_isReadable (h : s.deferred = false) (id : Int) {internal : Int}
    (hinternal : Decimal.isReadable internal = false) :
    s.register id internal = { s with records := s.records.register id internal } := by
  have hmem : (id, internal) ∈ (s.records.register id internal).actors :=
    Table.mem_of_value? (Table.value?_put_self ..)
  have hactors : Collection.actors.isWritable (s.records.register id internal) = false := by
    rw [Collection.isWritable, List.all_eq_false]
    exact ⟨_, hmem, by rw [hinternal, Bool.and_false]; decide⟩
  rw [register, changed, if_neg (by rw [h]; decide), writeAll]
  simp only [List.takeWhile, hactors, List.foldl_nil]

section
variable {n : Int}

/-- Someone is known under an internal id. -/
def sole (n : Int) : FileStore := ({} : FileStore).register 1 n

private theorem records_sole : (sole n).records = { actors := [(1, n)] } :=
  records_register ..

/-- If that is the largest of the ids that can be written, whoever is taken in next is not found
again. -/
private theorem not_durable_sole (hn : Decimal.isReadable n = true)
    (hnext : Decimal.isReadable (n + 1) = false) :
    ∃ s : FileStore, s.Grows (fun _ c => c.Changes) ∧ ¬ s.Durable := by
  have hopened : openOn false [] = .ok ({}, []) := rfl
  have hkept : (sole n).Kept := (kept_openOn hopened).register (by decide) hn
  have hsole : (sole n).Grows fun _ c => c.Changes :=
    (Grows.opened hopened).call (.register 1 n) rfl
  have hknown : (sole n).records.resolve 2 = none := by rw [records_sole]; rfl
  have hfree : (sole n).records.freeId = n + 1 := by rw [records_sole]; rfl
  refine ⟨(sole n).register 2 (n + 1), hsole.call (.enrol 2) ?_, ?_⟩
  · simp only [Call.carryOut, Value.toInt, Call.given, Store.enrol, hknown, hfree]
  · intro h
    obtain ⟨t, ns, hopen, halike⟩ := h false
    obtain ⟨u, ns', hopen', hrecords⟩ := openOn_of_mirrors hkept.mirrors false
    rw [register_of_not_isReadable hkept.immediate 2 hnext] at hopen halike
    obtain rfl : u = t := congrArg Prod.fst (Except.ok.inj (hopen'.symm.trans hopen))
    have hresolve : u.records.resolve 2 = ((sole n).records.register 2 (n + 1)).resolve 2 :=
      Except.ok.inj (halike.resolve 2)
    rw [hrecords, hknown, Records.resolve, Records.register, Table.value?_put_self] at hresolve
    cases hresolve

end

/-- With an id that is too long to be written the files fall behind: a store in which someone has
the longest id that can be written takes in one more actor, and another store that is opened on the
directory does not know the actor. -/
theorem not_durable_of_grows : ¬ ∀ s : FileStore, s.Grows (fun _ c => c.Changes) → s.Durable := by
  intro h
  let longest : Int := (10 ^ Decimal.digitLimit - 1 : Nat)
  have hpos : 0 < 10 ^ Decimal.digitLimit := Nat.pow_pos (by decide)
  have hlongest : Decimal.isReadable longest = true := Decimal.isReadable_iff.mpr (by omega)
  have hnext : Decimal.isReadable (longest + 1) = false :=
    Bool.eq_false_iff.mpr (mt Decimal.isReadable_iff.mp (by omega))
  obtain ⟨s, hgrows, hlost⟩ := not_durable_sole hlongest hnext
  exact hlost (h s hgrows)

end FileStore

end Dialogue
