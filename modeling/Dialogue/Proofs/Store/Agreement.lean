import Dialogue.Proofs.Store.Limits
import Dialogue.Proofs.Store.Saving
import Dialogue.Store.Backend
import Dialogue.Store.Call
import Dialogue.Store.Series
import Mathlib.Data.Int.Interval
import Mathlib.Data.List.Nodup

/-! Whether records are kept in memory, in files or in a database, they are the same records: the
same calls, one after another, get the same answers. -/
namespace Dialogue

theorem Rows.isReadable_of_fits {n : Int} (h : fits n = true) : Decimal.isReadable n = true := by
  simp only [fits, Bool.and_eq_true, decide_eq_true_eq] at h
  rw [Decimal.isReadable_iff]
  calc n.natAbs < 10 ^ 19 := by omega
    _ ≤ 10 ^ Decimal.digitLimit := Nat.pow_le_pow_right (by decide) (by decide)

private theorem nextId_concat (ns : List Int) {n : Int} (hn : 0 ≤ n) :
    nextId (ns ++ [n]) = max (nextId ns) (n + 1) := by
  cases ns with
  | nil =>
    change n + 1 = max 1 (n + 1)
    omega
  | cons m ns =>
    change (ns ++ [n]).foldl max m + 1 = max (ns.foldl max m + 1) (n + 1)
    rw [List.foldl_append, List.foldl_cons, List.foldl_nil]
    omega

/-- The internal ids of some actors who were taken in one after another. -/
def firstIds (n : Nat) : List Int := (List.range n).map fun k : Nat => (k : Int) + 1

private theorem firstIds_succ (n : Nat) : firstIds (n + 1) = firstIds n ++ [(n : Int) + 1] := by
  rw [firstIds, List.range_succ, List.map_append]
  rfl

private theorem nextId_firstIds (n : Nat) : nextId (firstIds n) = n + 1 := by
  induction n with
  | zero => rfl
  | succ n ih =>
    rw [firstIds_succ, nextId_concat _ (by omega), ih]
    omega

namespace Records

/-- Each actor got the next number as internal id, and all external ids fit a database. -/
structure Consecutive (r : Records) : Prop where
  ids : r.actors.map (·.2) = firstIds r.actors.length
  distinct : (Table.keys r.actors).Nodup
  actors : ∀ e ∈ r.actors, Rows.fits e.1 = true
  contexts : ∀ e ∈ r.contexts, Rows.fits e.1 = true

theorem consecutive_empty : Consecutive {} where
  ids := rfl
  distinct := List.nodup_nil
  actors _ he := absurd he List.not_mem_nil
  contexts _ he := absurd he List.not_mem_nil

/-- Every one of some actors can be resolved. -/
def Knows (r : Records) (ids : List Int) : Prop := ∀ id ∈ ids, ∃ n, r.resolve id = some n

theorem Knows.register {r : Records} {ids : List Int} (h : r.Knows ids) (id n : Int) :
    (r.register id n).Knows (id :: ids) := by
  intro j hj
  by_cases hid : id = j
  · exact ⟨n, by rw [hid]; exact Table.value?_put_self ..⟩
  · obtain ⟨m, hm⟩ := h j ((List.mem_cons.mp hj).resolve_left (Ne.symm hid))
    exact ⟨m, (Table.value?_put_of_ne _ _ hid).trans hm⟩

namespace Consecutive
variable {r : Records}

theorem freeId_eq (h : r.Consecutive) : r.freeId = r.actors.length + 1 := by
  rw [freeId, h.ids, nextId_firstIds]

/-- There are no more actors than numbers of 64 bits. -/
theorem length_le (h : r.Consecutive) : r.actors.length ≤ 2 ^ 64 := by
  have hsub : (Table.keys r.actors).toFinset ⊆ Finset.Ico (-2 ^ 63 : Int) (2 ^ 63) := by
    intro id hid
    obtain ⟨e, he, rfl⟩ := List.mem_map.mp (List.mem_toFinset.mp hid)
    have hfits := h.actors e he
    simp only [Rows.fits, Bool.and_eq_true, decide_eq_true_eq] at hfits
    exact Finset.mem_Ico.mpr hfits
  have hcard := Finset.card_le_card hsub
  rw [List.toFinset_card_of_nodup h.distinct, Int.card_Ico, Table.keys, List.length_map] at hcard
  exact hcard

theorem writable (h : r.Consecutive) : r.Writable where
  actors e he := by
    refine ⟨Rows.isReadable_of_fits (h.actors e he), ?_⟩
    have hid : e.2 ∈ firstIds r.actors.length := h.ids ▸ List.mem_map_of_mem he
    obtain ⟨k, hk, heq⟩ := List.mem_map.mp hid
    have hlength := h.length_le
    have hlt := List.mem_range.mp hk
    rw [Decimal.isReadable_iff, ← heq]
    calc ((k : Int) + 1).natAbs < 10 ^ 20 := by omega
      _ ≤ 10 ^ Decimal.digitLimit := Nat.pow_le_pow_right (by decide) (by decide)
  contexts e he := Rows.isReadable_of_fits (h.contexts e he)

/-- Different actors have different internal ids. -/
theorem eq_of_resolve (h : r.Consecutive) {i j n : Int} (hi : r.resolve i = some n)
    (hj : r.resolve j = some n) : i = j := by
  have hnodup : (r.actors.map (·.2)).Nodup := by
    rw [h.ids]
    exact List.nodup_range.map fun k l hkl => by omega
  have heq := List.inj_on_of_nodup_map hnodup (Table.mem_of_value? hi) (Table.mem_of_value? hj) rfl
  exact congrArg Prod.fst heq

/-- Someone new is put last and gets the next number. -/
theorem register (h : r.Consecutive) {id : Int} (hid : Rows.fits id = true)
    (hnew : r.resolve id = none) : (r.register id r.freeId).Consecutive where
  ids := by
    have hput := Table.put_of_not_mem (Table.not_mem_keys_of_value? hnew) r.freeId
    rw [Records.register, hput, List.map_append, h.ids, List.length_append, List.length_singleton,
      firstIds_succ, h.freeId_eq]
    rfl
  distinct := Table.nodup_keys_put h.distinct id r.freeId
  actors := Table.forall_put h.actors hid
  contexts := h.contexts

theorem save (h : r.Consecutive) {id : Int} (hid : Rows.fits id = true) (blob : String) :
    (r.save id blob).Consecutive where
  ids := h.ids
  distinct := h.distinct
  actors := h.actors
  contexts := Table.forall_put h.contexts hid

end Consecutive

end Records

namespace Rows

/-- A database carries some records: a row for each actor, in the same order, and in each row the
text of its actor. -/
structure Carries (t : Rows) (r : Records) : Prop where
  actors : r.actors = t.map fun row => (row.externalId, row.id)
  texts : ∀ id, fits id = true → t.load id = .ok (r.load id)

theorem carries_empty : Carries [] {} where
  actors := rfl
  texts id hid := by
    rw [load, find, if_pos hid]
    rfl

variable {t : Rows} {r : Records} {id : Int}

private theorem value?_map (t : Rows) (id : Int) :
    Table.value? (t.map fun row => (row.externalId, row.id)) id =
      (t.find? (·.externalId == id)).map (·.id) := by
  induction t with
  | nil => rfl
  | cons row t ih =>
    rw [List.map_cons, Table.value?_cons, List.find?_cons]
    by_cases h : row.externalId = id
    · rw [if_pos h, beq_iff_eq.mpr h]
      rfl
    · rw [if_neg h, beq_false_of_ne h, ih]

namespace Carries

theorem resolve_eq (h : t.Carries r) :
    r.resolve id = (t.find? (·.externalId == id)).map (·.id) := by
  rw [Records.resolve, h.actors, value?_map]

theorem resolve (h : t.Carries r) (hid : fits id = true) : t.resolve id = .ok (r.resolve id) := by
  rw [Rows.resolve, find, if_pos hid, h.resolve_eq]
  rfl

theorem externalIds (h : t.Carries r) : t.externalIds = r.externalIds := by
  rw [Rows.externalIds, Records.externalIds, Table.keys, h.actors, List.map_map]
  rfl

theorem nextId_eq (h : t.Carries r) : nextId (t.map (·.id)) = r.freeId := by
  rw [Records.freeId, h.actors, List.map_map]
  rfl

theorem add_known (h : t.Carries r) (hid : fits id = true) {n : Int} (hn : r.resolve id = some n) :
    t.add id = .ok (t, n) := by
  obtain ⟨row, hrow, rfl⟩ := Option.map_eq_some_iff.mp (h.resolve_eq.symm.trans hn)
  rw [Rows.add, find, if_pos hid, hrow]
  rfl

/-- Someone new gets a row at the end, without a text. -/
theorem add_new (h : t.Carries r) (hid : fits id = true) (hnew : r.resolve id = none) :
    ∃ t', t.add id = .ok (t', r.freeId) ∧ t'.Carries (r.register id r.freeId) := by
  have hnone : t.find? (·.externalId == id) = none := by
    rw [h.resolve_eq] at hnew
    exact Option.map_eq_none_iff.mp hnew
  let row : Row := { id := r.freeId, externalId := id }
  refine ⟨t ++ [row], ?_, ?_, ?_⟩
  · rw [Rows.add, find, if_pos hid, hnone]
    change Except.ok (t ++ [_], nextId (t.map (·.id))) = _
    rw [h.nextId_eq]
  · rw [Records.register, Table.put_of_not_mem (Table.not_mem_keys_of_value? hnew), h.actors,
      List.map_append]
    rfl
  · intro j hj
    have hsame := h.texts j hj
    rw [Rows.load, find, if_pos hj] at hsame ⊢
    rw [List.find?_append, List.find?_singleton]
    cases hfound : t.find? (·.externalId == j) with
    | some _ =>
      rw [hfound] at hsame
      exact hsame
    | none =>
      rw [hfound] at hsame
      rw [Option.none_or]
      split <;> exact hsame

theorem save (h : t.Carries r) {n : Int} (hknown : t.resolve id = .ok (some n)) (blob : String) :
    ∃ t', t.save id blob = .ok (t', []) ∧ t'.Carries (r.save id blob) := by
  obtain ⟨row, hrow⟩ := Store.accepts_of_resolve (s := .rows t) hknown
  obtain ⟨t', hsave, hsaved⟩ := Store.saved_rows hrow blob
  refine ⟨t', hsave, h.actors.trans (ids_save hsave).symm, ?_⟩
  intro j hj
  by_cases hid : id = j
  · subst hid
    rw [Records.load, Records.save, Table.value?_put_self]
    exact hsaved.load_self
  · rw [Records.load, Records.save, Table.value?_put_of_ne _ _ hid]
    exact (hsaved.load_of_ne j (Ne.symm hid)).trans (h.texts j hj)

end Carries

end Rows

namespace Store

/-- A store carries some records, whatever it keeps them in, and takes in new actors. -/
def Carries (s : Store) (r : Records) : Prop :=
  match s with
  | memory q => q = r
  | sealed _ => False
  | files f => f.records = r
  | rows t => t.Carries r

theorem carries_openStore (b : Backend) (deferred : Bool) :
    ∃ s, StoreSeries.openStore b.name deferred [] = .ok (s, []) ∧ s.Carries {} := by
  cases b with
  | memory => exact ⟨.memory {}, rfl, rfl⟩
  | file => exact ⟨.files { deferred }, rfl, rfl⟩
  | sql => exact ⟨.rows [], rfl, Rows.carries_empty⟩

namespace Carries
variable {s : Store} {r : Records} {id n : Int}

theorem resolve_eq (h : s.Carries r) (hid : Rows.fits id = true) :
    s.resolve id = .ok (r.resolve id) := by
  cases s with
  | memory q | files f => exact congrArg (fun r : Records => Except.ok (r.resolve id)) h
  | sealed q => exact absurd h not_false
  | rows t => exact Rows.Carries.resolve h hid

theorem load_eq (h : s.Carries r) (hid : Rows.fits id = true) : s.load id = .ok (r.load id) := by
  cases s with
  | memory q | files f => exact congrArg (fun r : Records => Except.ok (r.load id)) h
  | sealed q => exact absurd h not_false
  | rows t => exact Rows.Carries.texts h id hid

theorem externalIds_eq (h : s.Carries r) : s.externalIds = r.externalIds := by
  cases s with
  | memory q | files f => exact congrArg Records.externalIds h
  | sealed q => exact absurd h not_false
  | rows t => exact Rows.Carries.externalIds h

/-- Whom a store resolves is an actor of the records it carries. -/
theorem resolve_of_resolve (h : s.Carries r) (hn : s.resolve id = .ok (some n)) :
    r.resolve id = some n := by
  cases s with
  | memory q | files f =>
    obtain rfl := h
    exact Except.ok.inj hn
  | sealed q => exact absurd h not_false
  | rows t =>
    change t.resolve id = .ok (some n) at hn
    by_cases hid : Rows.fits id = true
    · exact Except.ok.inj ((Rows.Carries.resolve h hid).symm.trans hn)
    · rw [Rows.resolve, Rows.find, if_neg hid] at hn
      cases hn

theorem enrol_known (h : s.Carries r) (hid : Rows.fits id = true) (hn : r.resolve id = some n) :
    s.enrol id = (s, .ok n) := by
  cases s with
  | memory q =>
    obtain rfl : q = r := h
    simp only [enrol, hn]
  | sealed q => exact absurd h not_false
  | files f =>
    obtain rfl : f.records = r := h
    simp only [enrol, hn]
  | rows t =>
    simp only [enrol, Rows.Carries.add_known h hid hn]

/-- Someone new gets the next free id, provided that it can be written. -/
theorem enrol_new (h : s.Carries r) (hid : Rows.fits id = true) (hnew : r.resolve id = none)
    (hw : (r.register id r.freeId).Writable) :
    ∃ t, s.enrol id = (t, .ok r.freeId) ∧ t.Carries (r.register id r.freeId) := by
  cases s with
  | memory q =>
    obtain rfl : q = r := h
    exact ⟨.memory (q.register id q.freeId), by simp only [enrol, hnew], rfl⟩
  | sealed q => exact absurd h not_false
  | files f =>
    obtain rfl : f.records = r := h
    have hrecords : (f.register id f.records.freeId).records = _ := f.records_register ..
    refine ⟨.files (f.register id f.records.freeId), ?_, hrecords⟩
    simp only [enrol, hnew, FileStore.recorded_of_writable (hrecords ▸ hw) .actors]
    rfl
  | rows t =>
    obtain ⟨t', hadd, ht'⟩ := Rows.Carries.add_new h hid hnew
    exact ⟨.rows t', by simp only [enrol, hadd], ht'⟩

theorem save (h : s.Carries r) (hid : Rows.fits id = true) (hn : r.resolve id = some n)
    (blob : String) (hw : (r.save id blob).Writable) :
    ∃ t, s.save id blob = .ok (t, []) ∧ t.recorded .contexts = .ok () ∧
      t.Carries (r.save id blob) := by
  cases s with
  | memory q =>
    obtain rfl : q = r := h
    exact ⟨.memory (q.save id blob), rfl, rfl, rfl⟩
  | sealed q => exact absurd h not_false
  | files f =>
    obtain rfl : f.records = r := h
    have hrecords : (f.save id blob).records = _ := f.records_save ..
    exact ⟨.files (f.save id blob), rfl, FileStore.recorded_of_writable (hrecords ▸ hw) .contexts,
      hrecords⟩
  | rows t =>
    obtain ⟨t', hsave, ht'⟩ := Rows.Carries.save h (hn ▸ Rows.Carries.resolve h hid) blob
    exact ⟨.rows t', by rw [Store.save, hsave]; rfl, rfl, ht'⟩

end Carries

/-- Carries out calls one after another: the store after them, and the answers. -/
def serve (s : Store) : List Call → Store × List (Except Fault (Value × List Notice))
  | [] => (s, [])
  | c :: cs =>
    (((c.carryOut s).1.serve cs).1, (c.carryOut s).2 :: ((c.carryOut s).1.serve cs).2)

/-- One call leads from records to records, with the same answer from every store that carries
them. -/
def Agrees (c : Call) (r r' : Records) (answer : Value) : Prop :=
  ∀ s : Store, s.Carries r → ∃ t, c.carryOut s = (t, .ok (answer, [])) ∧ t.Carries r'

section
variable {r r' : Records} {id n : Int}

theorem agrees_resolve (hid : Rows.fits id = true) :
    Agrees (.resolve (.int id)) r r (Value.ofOption .int (r.resolve id)) := by
  intro s hs
  refine ⟨s, ?_, hs⟩
  simp only [Call.carryOut, Value.toInt, bind, Except.bind, hs.resolve_eq hid]
  rfl

theorem agrees_load (hid : Rows.fits id = true) :
    Agrees (.load (.int id)) r r (Value.ofOption .text (r.load id)) := by
  intro s hs
  refine ⟨s, ?_, hs⟩
  simp only [Call.carryOut, Value.toInt, bind, Except.bind, hs.load_eq hid]
  rfl

theorem agrees_list : Agrees .list r r (.list (r.externalIds.map .int)) := by
  intro s hs
  exact ⟨s, by rw [Call.carryOut, hs.externalIds_eq], hs⟩

theorem agrees_enrol_known (hid : Rows.fits id = true) (hn : r.resolve id = some n) :
    Agrees (.enrol (.int id)) r r (.int n) := by
  intro s hs
  refine ⟨s, ?_, hs⟩
  simp only [Call.carryOut, Value.toInt, Call.given, hs.enrol_known hid hn]
  rfl

theorem agrees_enrol_new (hid : Rows.fits id = true) (hnew : r.resolve id = none)
    (hw : (r.register id r.freeId).Writable) :
    Agrees (.enrol (.int id)) r (r.register id r.freeId) (.int r.freeId) := by
  intro s hs
  obtain ⟨t, henrol, ht⟩ := hs.enrol_new hid hnew hw
  refine ⟨t, ?_, ht⟩
  simp only [Call.carryOut, Value.toInt, Call.given, henrol]
  rfl

theorem agrees_save (hid : Rows.fits id = true) (hn : r.resolve id = some n) (blob : String)
    (hw : (r.save id blob).Writable) : Agrees (.save (.int id) blob) r (r.save id blob) .null := by
  intro s hs
  obtain ⟨t, hsave, hrecorded, ht⟩ := hs.save hid hn blob hw
  refine ⟨t, ?_, ht⟩
  simp only [Call.carryOut, Value.toInt, bind, Except.bind, Call.given, hsave, hrecorded]
  rfl

end

/-- A call of a history in which every external id fits a database and a text is only saved for
someone who is known. Whom a call takes in is known from then on. -/
inductive Call.Orderly (known : List Int) : Call → List Int → Prop
  | enrol {id : Int} (hid : Rows.fits id = true) : Orderly known (.enrol (.int id)) (id :: known)
  | resolve {id : Int} (hid : Rows.fits id = true) : Orderly known (.resolve (.int id)) known
  | list : Orderly known .list known
  | load {id : Int} (hid : Rows.fits id = true) : Orderly known (.load (.int id)) known
  | save {id : Int} (hid : Rows.fits id = true) (hknown : id ∈ known) (blob : String) :
      Orderly known (.save (.int id) blob) known

inductive Orderly : List Int → List Call → Prop
  | nil {known : List Int} : Orderly known []
  | cons {known known' : List Int} {c : Call} {cs : List Call} (hc : c.Orderly known known')
      (hcs : Orderly known' cs) : Orderly known (c :: cs)

/-- An orderly call leads from records to records, with one answer from every store. -/
theorem exists_agrees {known known' : List Int} {c : Call} (hc : c.Orderly known known')
    {r : Records} (hr : r.Consecutive) (hknown : r.Knows known) :
    ∃ r' a, Agrees c r r' a ∧ r'.Consecutive ∧ r'.Knows known' := by
  cases hc with
  | resolve hid => exact ⟨r, _, agrees_resolve hid, hr, hknown⟩
  | list => exact ⟨r, _, agrees_list, hr, hknown⟩
  | load hid => exact ⟨r, _, agrees_load hid, hr, hknown⟩
  | @save id hid hmem blob =>
    obtain ⟨n, hn⟩ := hknown id hmem
    have hr' := hr.save hid blob
    exact ⟨r.save id blob, _, agrees_save hid hn blob hr'.writable, hr', hknown⟩
  | @enrol id hid =>
    cases hfound : r.resolve id with
    | some n =>
      refine ⟨r, _, agrees_enrol_known hid hfound, hr, ?_⟩
      exact List.forall_mem_cons.mpr ⟨⟨n, hfound⟩, hknown⟩
    | none =>
      have hr' := hr.register hid hfound
      exact ⟨_, _, agrees_enrol_new hid hfound hr'.writable, hr', hknown.register id r.freeId⟩

/-- So do orderly calls one after another: by induction on the history, as long as the records are
consecutive and hold everyone who is known. -/
theorem exists_serve {known : List Int} {cs : List Call} (h : Orderly known cs) {r : Records}
    (hr : r.Consecutive) (hknown : r.Knows known) :
    ∃ (r' : Records) (answers : List Value), r'.Consecutive ∧ ∀ s : Store, s.Carries r →
      ∃ t, s.serve cs = (t, answers.map fun a => .ok (a, [])) ∧ t.Carries r' := by
  induction h generalizing r with
  | nil => exact ⟨r, [], hr, fun s hs => ⟨s, rfl, hs⟩⟩
  | cons hc _ ih =>
    obtain ⟨r', a, hagrees, hr', hknown'⟩ := exists_agrees hc hr hknown
    obtain ⟨r'', answers, hr'', hserve⟩ := ih hr' hknown'
    refine ⟨r'', a :: answers, hr'', ?_⟩
    intro s hs
    obtain ⟨t, hcall, ht⟩ := hagrees s hs
    obtain ⟨u, hcalls, hu⟩ := hserve t ht
    exact ⟨u, by rw [serve, hcall, hcalls, List.map_cons], hu⟩

/-- An orderly history gets the same answers from every backend, whether files are written at once
or later, and different actors have different internal ids. -/
theorem agree_of_orderly {cs : List Call} (h : Orderly [] cs) :
    ∃ answers : List Value, ∀ (b : Backend) (deferred : Bool), ∃ s t,
      StoreSeries.openStore b.name deferred [] = .ok (s, []) ∧
      s.serve cs = (t, answers.map fun a => .ok (a, [])) ∧
      ∀ i j n, t.resolve i = .ok (some n) → t.resolve j = .ok (some n) → i = j := by
  obtain ⟨r, answers, hr, hserve⟩ :=
    exists_serve h Records.consecutive_empty fun _ hid => absurd hid List.not_mem_nil
  refine ⟨answers, fun b deferred => ?_⟩
  obtain ⟨s, hopen, hs⟩ := carries_openStore b deferred
  obtain ⟨t, hcalls, ht⟩ := hserve s hs
  refine ⟨s, t, hopen, hcalls, ?_⟩
  intro i j n hi hj
  exact hr.eq_of_resolve (ht.resolve_of_resolve hi) (ht.resolve_of_resolve hj)

/-- Two actors, one of them with the smallest external id that fits a database. -/
def history : List Call :=
  [.enrol (.int 7), .enrol (.int (-2 ^ 63)), .save (.int (-2 ^ 63)) "\x7b\x7d", .enrol (.int 7),
    .list, .load (.int (-2 ^ 63)), .resolve (.int 8)]

theorem agree_of_orderly_history : Orderly [] history ∧ ∃ answers : List Value,
    ∀ (b : Backend) (deferred : Bool), ∃ s t,
      StoreSeries.openStore b.name deferred [] = .ok (s, []) ∧
      s.serve history = (t, answers.map fun a => .ok (a, [])) ∧
      ∀ i j n, t.resolve i = .ok (some n) → t.resolve j = .ok (some n) → i = j := by
  have hhistory : Orderly [] history :=
    .cons (.enrol (by decide)) (.cons (.enrol (by decide))
      (.cons (.save (by decide) (by decide) _) (.cons (.enrol (by decide)) (.cons .list
        (.cons (.load (by decide)) (.cons (.resolve (by decide)) .nil))))))
  exact ⟨hhistory, agree_of_orderly hhistory⟩

end Store

end Dialogue
