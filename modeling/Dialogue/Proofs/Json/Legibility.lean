import Dialogue.Proofs.Json.Rereading
import Dialogue.Proofs.Tables
import Mathlib.Algebra.Group.Nat.Defs

/-! Numbers that come from a text are never too long to be read again, so whatever is read from one
can be kept. -/
namespace Dialogue

namespace Text

private theorem digit?_le (c : Char) : (digit? c).getD 0 ≤ 9 := by
  rw [digit?]
  split
  · split
    · rename_i h
      have hc : c.toNat ≤ '9'.toNat := h.2
      simp only [Option.getD_some]
      have hnine : '9'.toNat = 57 := rfl
      omega
    · exact Nat.zero_le 9
  · cases digits.offset? c with
    | none => exact Nat.zero_le 9
    | some n =>
      have hmod : n % 10 < 10 := Nat.mod_lt n (by decide)
      exact Nat.le_of_lt_succ hmod

private theorem foldl_lt (cs : List Char) (n : Nat) :
    cs.foldl (fun n c => 10 * n + (digit? c).getD 0) n <
      (n + 1) * Nat.pow 10 cs.length := by
  induction cs generalizing n with
  | nil => simp
  | cons c cs ih =>
    have hdigit := digit?_le c
    have hstep : 10 * n + (digit? c).getD 0 + 1 ≤ (n + 1) * 10 := by omega
    calc (c :: cs).foldl (fun n c => 10 * n + (digit? c).getD 0) n
        < (10 * n + (digit? c).getD 0 + 1) * Nat.pow 10 cs.length := ih _
      _ ≤ (n + 1) * 10 * Nat.pow 10 cs.length := Nat.mul_le_mul_right _ hstep
      _ = (n + 1) * Nat.pow 10 (c :: cs).length := by
        change _ = (n + 1) * (Nat.pow 10 cs.length * 10)
        rw [Nat.mul_assoc, Nat.mul_comm 10]

theorem numeral_lt (cs : List Char) : numeral cs < Nat.pow 10 cs.length := by
  have h := foldl_lt cs 0
  rwa [Nat.zero_add, Nat.one_mul] at h

theorem length_toDigits_numeral_le {cs : List Char} {n : Nat} (hn : 0 < n) (h : cs.length ≤ n) :
    (Nat.toDigits 10 (numeral cs)).length ≤ n := by
  rw [Nat.length_toDigits_le_iff (by decide) hn]
  exact Nat.lt_of_lt_of_le (numeral_lt cs) (Nat.pow_le_pow_right (by decide) h)

end Text

theorem Decimal.isReadable_iff {n : Int} : isReadable n = true ↔ n.natAbs < 10 ^ digitLimit := by
  rw [isReadable, decide_eq_true_eq, Nat.length_toDigits_le_iff (by omega) (by decide)]

theorem Decimal.isReadable_numeral {cs : List Char} (h : cs.length ≤ digitLimit) (negative : Bool) :
    isReadable (if negative then -(Text.numeral cs : Int) else Text.numeral cs) = true := by
  have habs : (if negative then -(Text.numeral cs : Int) else Text.numeral cs).natAbs =
      Text.numeral cs := by
    split <;> omega
  rw [isReadable, habs, decide_eq_true_eq]
  exact Text.length_toDigits_numeral_le (by decide) h

namespace Json

/-- A property that a text cannot but yield: what has no parts has it, and lists and dictionaries
have it when their parts do. -/
structure Inherited (P : Value → Prop) : Prop where
  null : P .null
  bool : ∀ b, P (.bool b)
  int : ∀ n, Decimal.isReadable n = true → P (.int n)
  float : ∀ x, P (.float x)
  text : ∀ s, P (.text s)
  list : ∀ {xs : List Value}, (∀ x ∈ xs, P x) → P (.list xs)
  dict : ∀ {es : List (String × Value)}, (∀ e ∈ es, P e.2) → P (.dict (Table.ofEntries es))

variable {P : Value → Prop}

private theorem of_number? (hP : Inherited P) {negative : Bool} {cs rest : List Char} {v : Value}
    (h : number? negative cs = some (v, rest)) : P v := by
  rw [number?] at h
  obtain ⟨⟨whole, rest'⟩, -, h⟩ := Option.bind_eq_some_iff.mp h
  simp only at h
  split at h
  · split at h
    · cases h
    · rename_i hshort
      rw [← (Prod.mk.inj (Option.some.inj h)).1]
      exact hP.int _ (Decimal.isReadable_numeral (Nat.le_of_not_lt hshort) negative)
  · rw [← (Prod.mk.inj (Option.some.inj h)).1]
    exact hP.float _

private theorem of_scalar? (hP : Inherited P) {cs rest : List Char} {v : Value}
    (h : scalar? cs = some (v, rest)) : P v := by
  have hword {w : Value} {o : Option (List Char)} (hw : P w)
      (ho : o.map (w, ·) = some (v, rest)) : P v := by
    obtain ⟨_, -, he⟩ := Option.map_eq_some_iff.mp ho
    exact (Prod.mk.inj he).1 ▸ hw
  rw [scalar?.eq_def] at h
  split at h
  all_goals first
    | exact hword hP.null h
    | exact hword (hP.bool _) h
    | exact hword (hP.float _) h
    | exact of_number? hP h

/-- What a text yields at one depth has a property, be it a value, items or entries. -/
def Yields (P : Value → Prop) (fuel : Nat) : Prop :=
  (∀ cs v rest, value? fuel cs = some (v, rest) → P v) ∧
  (∀ cs xs rest, items? fuel cs = some (xs, rest) → ∀ x ∈ xs, P x) ∧
  ∀ cs es rest, entries? fuel cs = some (es, rest) → ∀ e ∈ es, P e.2

private theorem yields_value (hP : Inherited P) {fuel : Nat} (ih : Yields P fuel)
    {cs rest : List Char} {v : Value} (h : value? (fuel + 1) cs = some (v, rest)) : P v := by
  rw [value?.eq_def] at h
  simp only at h
  split at h
  · obtain ⟨_, -, he⟩ := Option.map_eq_some_iff.mp h
    rw [← (Prod.mk.inj he).1]
    exact hP.text _
  · split at h
    · rw [← (Prod.mk.inj (Option.some.inj h)).1]
      exact hP.list (List.forall_mem_nil _)
    · obtain ⟨⟨xs, _⟩, hxs, he⟩ := Option.map_eq_some_iff.mp h
      rw [← (Prod.mk.inj he).1]
      exact hP.list (ih.2.1 _ xs _ hxs)
  · split at h
    · rw [← (Prod.mk.inj (Option.some.inj h)).1]
      exact hP.dict (List.forall_mem_nil _)
    · obtain ⟨⟨es, _⟩, hes, he⟩ := Option.map_eq_some_iff.mp h
      rw [← (Prod.mk.inj he).1]
      exact hP.dict (ih.2.2 _ es _ hes)
  · exact of_scalar? hP h

private theorem yields_items {fuel : Nat} (ih : Yields P fuel) {cs rest : List Char}
    {xs : List Value} (h : items? (fuel + 1) cs = some (xs, rest)) : ∀ x ∈ xs, P x := by
  rw [items?] at h
  split at h
  · cases h
  · rename_i x _ hx
    have hx := ih.1 _ x _ hx
    split at h
    · obtain ⟨⟨ys, _⟩, hys, he⟩ := Option.map_eq_some_iff.mp h
      rw [← (Prod.mk.inj he).1]
      exact List.forall_mem_cons.mpr ⟨hx, ih.2.1 _ ys _ hys⟩
    · rw [← (Prod.mk.inj (Option.some.inj h)).1]
      exact List.forall_mem_singleton.mpr hx
    · cases h

private theorem yields_entries {fuel : Nat} (ih : Yields P fuel) {cs rest : List Char}
    {es : List (String × Value)} (h : entries? (fuel + 1) cs = some (es, rest)) :
    ∀ e ∈ es, P e.2 := by
  rw [entries?.eq_def] at h
  simp only at h
  split at h
  · split at h
    · cases h
    · split at h
      · split at h
        · cases h
        · rename_i x _ hx
          have hx := ih.1 _ x _ hx
          split at h
          · obtain ⟨⟨ds, _⟩, hds, he⟩ := Option.map_eq_some_iff.mp h
            rw [← (Prod.mk.inj he).1]
            exact List.forall_mem_cons.mpr ⟨hx, ih.2.2 _ ds _ hds⟩
          · rw [← (Prod.mk.inj (Option.some.inj h)).1]
            exact List.forall_mem_singleton.mpr hx
          · cases h
      · cases h
  · cases h

private theorem yields (hP : Inherited P) (fuel : Nat) : Yields P fuel := by
  induction fuel with
  | zero => simp [Yields, value?, items?, entries?]
  | succ fuel ih =>
    exact ⟨fun _ _ _ h => yields_value hP ih h, fun _ _ _ h => yields_items ih h,
      fun _ _ _ h => yields_entries ih h⟩

theorem of_read? (hP : Inherited P) {s : String} {v : Value} (h : read? s = some v) : P v := by
  rw [read?] at h
  split at h
  · rename_i w rest hw
    split at h
    · rw [← Option.some.inj h]
      exact (yields hP _).1 _ w rest hw
    · cases h
  · cases h

private theorem inherited_isReadable : Inherited fun v => v.isReadable = true where
  null := rfl
  bool _ := rfl
  int _ h := h
  float _ := rfl
  text _ := rfl
  list h := (Value.readableItems_iff _).mpr h
  dict h := (Value.readableFields_iff _).mpr fun e he => h e (Table.mem_of_mem_ofEntries he)

/-- Whatever is read from a text can be written and read again. -/
theorem isReadable_of_read? {s : String} {v : Value} (h : read? s = some v) :
    v.isReadable = true :=
  of_read? inherited_isReadable h

end Json

end Dialogue
