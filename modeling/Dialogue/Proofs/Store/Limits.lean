import Dialogue.Proofs.Decimal.Packing
import Dialogue.Proofs.Json.Legibility
import Dialogue.Proofs.Store.Restoring

/-! Whatever an id is read from, it is not too long to be written again. So a store can write all
its tables right after it was opened. -/
namespace Dialogue

namespace Decimal

theorem isReadable_of_readInt? {s : String} {n : Int} (h : readInt? s = some n) :
    isReadable n = true := by
  rw [readInt?] at h
  obtain ⟨cs, -, h⟩ := Option.bind_eq_some_iff.mp h
  simp only at h
  split at h
  · cases h
  · rename_i hdigits
    simp only [Bool.or_eq_true, decide_eq_true_eq, not_or] at hdigits
    rw [← Option.some.inj h]
    exact isReadable_numeral (Nat.le_of_not_lt hdigits.2) _

end Decimal

namespace Value

private theorem natAbs_wholePart (negative : Bool) (m : Nat) (e : Int) :
    (if negative then -(if 0 ≤ e then m * Nat.pow 2 e.toNat else m / Nat.pow 2 (-e).toNat : Int)
      else (if 0 ≤ e then m * Nat.pow 2 e.toNat else m / Nat.pow 2 (-e).toNat : Int)).natAbs ≤
      m * 2 ^ e.toNat := by
  have habs : (if 0 ≤ e then m * Nat.pow 2 e.toNat else m / Nat.pow 2 (-e).toNat : Int).natAbs ≤
      m * 2 ^ e.toNat := by
    split
    · rw [Int.natAbs_mul, Int.natAbs_natCast, Int.natAbs_natCast]
      exact Nat.le_refl _
    · rename_i he
      have hzero : e.toNat = 0 := by omega
      rw [hzero, Nat.pow_zero, Nat.mul_one, ← Int.natCast_ediv, Int.natAbs_natCast]
      exact Nat.div_le_self ..
  cases negative with
  | true => simpa using habs
  | false => simpa using habs

/-- Even the largest floating-point number has only some hundred digits. -/
theorem isReadable_wholePart {x : Float} {n : Int} (h : wholePart? x = some n) :
    Decimal.isReadable n = true := by
  rw [wholePart?] at h
  split at h
  · rename_i negative m e hx
    have habs : n.natAbs ≤ m * 2 ^ e.toNat := Option.some.inj h ▸ natAbs_wholePart negative m e
    by_cases hm : m = 0
    · have hzero : n = 0 := by simpa [hm] using habs
      rw [hzero]
      decide
    · obtain ⟨hcanonical, he⟩ := Binary64.canonical_of_finite hx hm
      have hexponent : 53 + e.toNat ≤ Decimal.digitLimit := by
        rw [Decimal.digitLimit]
        omega
      rw [Decimal.isReadable_iff]
      calc n.natAbs ≤ m * 2 ^ e.toNat := habs
        _ < 2 ^ 53 * 2 ^ e.toNat := Nat.mul_lt_mul_of_pos_right hcanonical.lt (Nat.two_pow_pos _)
        _ = 2 ^ (53 + e.toNat) := (Nat.pow_add ..).symm
        _ ≤ 10 ^ (53 + e.toNat) := Nat.pow_le_pow_left (by decide) _
        _ ≤ 10 ^ Decimal.digitLimit := Nat.pow_le_pow_right (by decide) hexponent
  · cases h

theorem isReadable_toInt {v : Value} {n : Int} (hv : v.isReadable = true) (h : v.toInt = .ok n) :
    Decimal.isReadable n = true := by
  cases v with
  | int m => rwa [← Except.ok.inj h]
  | bool b =>
    rw [← Except.ok.inj h]
    cases b <;> decide
  | float x =>
    rw [toInt] at h
    split at h
    · rename_i hx
      exact Except.ok.inj h ▸ isReadable_wholePart hx
    · cases h
  | text s =>
    rw [toInt] at h
    split at h
    · rename_i hs
      exact Except.ok.inj h ▸ Decimal.isReadable_of_readInt? hs
    · cases h
  | null | list | dict => cases h

end Value

theorem Records.Writable.register {r : Records} (h : r.Writable) {id internal : Int}
    (hid : Decimal.isReadable id = true) (hinternal : Decimal.isReadable internal = true) :
    (r.register id internal).Writable where
  actors := Table.forall_put h.actors ⟨hid, hinternal⟩
  contexts := h.contexts

theorem Records.Writable.save {r : Records} (h : r.Writable) {id : Int}
    (hid : Decimal.isReadable id = true) (blob : String) : (r.save id blob).Writable where
  actors := h.actors
  contexts := Table.forall_put h.contexts hid

namespace FileStore

section
variable {α : Type} {decode : Value → Except Fault α}

private theorem mem_of_entries {fs : List (String × Value)} {es : List (Int × α)}
    (h : entries decode fs = .ok es) {e : Int × α} (he : e ∈ es) :
    ∃ f ∈ fs, Value.toInt (.text f.1) = .ok e.1 ∧ decode f.2 = .ok e.2 := by
  induction fs generalizing es with
  | nil => cases Except.ok.inj h ▸ he
  | cons f fs ih =>
    obtain ⟨k, v⟩ := f
    rw [entries] at h
    rcases hk : Value.toInt (.text k) with _ | id
    · rw [hk] at h
      cases h
    rcases hv : decode v with _ | a
    · simp only [hk, hv] at h
      cases h
    rcases hrest : entries decode fs with _ | rest
    · simp only [hk, hv, hrest] at h
      cases h
    simp only [hk, hv, hrest] at h
    obtain rfl : (id, a) :: rest = es := Except.ok.inj h
    rcases List.mem_cons.mp he with rfl | he
    · exact ⟨(k, v), List.mem_cons_self .., hk, hv⟩
    · obtain ⟨f, hf, hread⟩ := ih hrest he
      exact ⟨f, List.mem_cons_of_mem _ hf, hread⟩

/-- Whatever is found in a file was read as an id, and from a value that can be read. -/
theorem of_mem_restored {file : Option String} {t : Table Int α} {ns : List Notice}
    (h : restored decode file = .ok (t, ns)) {e : Int × α} (he : e ∈ t) :
    Decimal.isReadable e.1 = true ∧ ∃ v, v.isReadable = true ∧ decode v = .ok e.2 := by
  have hempty {ns' : List Notice} (h : (.ok ([], ns') : Except Fault (Table Int α × List Notice)) =
      .ok (t, ns)) : e ∈ ([] : Table Int α) := by
    rwa [show [] = t from congrArg Prod.fst (Except.ok.inj h)]
  unfold restored at h
  split at h
  · cases hempty h
  · split at h
    · rename_i fs hread
      split at h
      · rename_i es hentries
        obtain rfl : Table.ofEntries es = t := congrArg Prod.fst (Except.ok.inj h)
        obtain ⟨f, hf, hid, hvalue⟩ := mem_of_entries hentries (Table.mem_of_mem_ofEntries he)
        have hfields := (Value.readableFields_iff fs).mp (Json.isReadable_of_read? hread)
        exact ⟨Value.isReadable_toInt rfl hid, f.2, hfields f hf, hvalue⟩
      · cases h
      · cases hempty h
    · cases hempty h

end

/-- A store that was just opened can write all its tables. -/
theorem writable_openOn {deferred : Bool} {d : Directory} {s : FileStore} {ns : List Notice}
    (h : openOn deferred d = .ok (s, ns)) : s.records.Writable := by
  obtain ⟨_, hactors⟩ := mirrors_openOn h .actors
  obtain ⟨_, hcontexts⟩ := mirrors_openOn h .contexts
  refine ⟨fun e he => ?_, fun e he => (of_mem_restored hcontexts he).1⟩
  obtain ⟨hid, v, hv, hread⟩ := of_mem_restored hactors he
  exact ⟨hid, Value.isReadable_toInt hv hread⟩

end FileStore

end Dialogue
