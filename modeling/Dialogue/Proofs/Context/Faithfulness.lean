import Dialogue.Proofs.Context.Decoding
import Dialogue.Proofs.Decimal.Roundtrip

/-! Values in which no key stands twice are read back from their texts as they were, and only such
values are read from texts. So what a context holds stays as it is when the context is written and
read again, as long as every floating-point number in it is finite. -/
namespace Dialogue

namespace Value

theorem allWellFormed_iff (xs : List Value) : AllWellFormed xs ↔ ∀ x ∈ xs, x.WellFormed := by
  induction xs with
  | nil => simp [AllWellFormed]
  | cons x xs ih => simp [AllWellFormed, ih]

theorem fieldsWellFormed_iff (fs : List (String × Value)) :
    FieldsWellFormed fs ↔ ∀ e ∈ fs, e.2.WellFormed := by
  induction fs with
  | nil => simp [FieldsWellFormed]
  | cons e fs ih => obtain ⟨k, x⟩ := e; simp [FieldsWellFormed, ih]

mutual

/-- Reading the text of a value. -/
theorem reread_of_wellFormed : ∀ v : Value, v.WellFormed → v.reread = v
  | null, _ | bool _, _ | int _, _ | text _, _ => rfl
  | float x, _ => rereadFloat_eq x
  | list xs, h => by rw [reread, rereadItems_of_wellFormed xs h]
  | dict fs, h => by
    rw [reread, rereadFields_of_wellFormed fs h.2, Table.ofEntries_of_nodup h.1]

theorem rereadItems_of_wellFormed : ∀ xs : List Value, AllWellFormed xs → rereadItems xs = xs
  | [], _ => rfl
  | x :: xs, h => by
    rw [rereadItems, reread_of_wellFormed x h.1, rereadItems_of_wellFormed xs h.2]

theorem rereadFields_of_wellFormed : ∀ fs : List (String × Value),
    FieldsWellFormed fs → rereadFields fs = fs
  | [], _ => rfl
  | (k, x) :: fs, h => by
    rw [rereadFields, reread_of_wellFormed x h.1, rereadFields_of_wellFormed fs h.2]

end

mutual

/-- Every floating-point number in the tree is finite. -/
def isFinite : Value → Bool
  | float x => (Binary64.ofFloat x).isFinite
  | list xs => areFinite xs
  | dict fs => haveFinite fs
  | _ => true

def areFinite : List Value → Bool
  | [] => true
  | x :: xs => isFinite x && areFinite xs

def haveFinite : List (String × Value) → Bool
  | [] => true
  | (_, x) :: fs => isFinite x && haveFinite fs

end

mutual

private theorem finiteOnly_of_isFinite : ∀ v : Value, v.isFinite = true → v.finiteOnly = v
  | null, _ | bool _, _ | int _, _ | text _, _ => rfl
  | float x, h => by
    have h : (Binary64.ofFloat x).isFinite = true := h
    rw [finiteOnly, if_pos h]
  | list xs, h => by rw [finiteOnly, finiteItems_of_areFinite xs h]
  | dict fs, h => by rw [finiteOnly, finiteFields_of_haveFinite fs h]

private theorem finiteItems_of_areFinite : ∀ xs : List Value, areFinite xs = true →
    finiteItems xs = xs
  | [], _ => rfl
  | x :: xs, h => by
    rw [areFinite, Bool.and_eq_true] at h
    rw [finiteItems, finiteOnly_of_isFinite x h.1, finiteItems_of_areFinite xs h.2]

theorem finiteFields_of_haveFinite : ∀ fs : List (String × Value), haveFinite fs = true →
    finiteFields fs = fs
  | [], _ => rfl
  | (k, x) :: fs, h => by
    rw [haveFinite, Bool.and_eq_true] at h
    rw [finiteFields, finiteOnly_of_isFinite x h.1, finiteFields_of_haveFinite fs h.2]

end

/-- What is kept of a value is the value. -/
theorem kept_of_isFinite {v : Value} (hv : v.WellFormed) (h : v.isFinite = true) : v.kept = v := by
  rw [kept, finiteOnly_of_isFinite v h, reread_of_wellFormed v hv]

theorem haveFinite_iff (fs : List (String × Value)) :
    haveFinite fs = true ↔ ∀ e ∈ fs, e.2.isFinite = true := by
  induction fs with
  | nil => simp [haveFinite]
  | cons e fs ih => obtain ⟨k, x⟩ := e; simp [haveFinite, ih]

theorem wellFormed_of_value? {fs : Table String Value} (h : FieldsWellFormed fs) {k : String}
    {v : Value} (hv : Table.value? fs k = some v) : v.WellFormed :=
  (fieldsWellFormed_iff fs).mp h (k, v) (Table.mem_of_value? hv)

theorem isFinite_of_value? {fs : Table String Value} (h : haveFinite fs = true) {k : String}
    {v : Value} (hv : Table.value? fs k = some v) : v.isFinite = true :=
  (haveFinite_iff fs).mp h (k, v) (Table.mem_of_value? hv)

end Value

namespace Json

private theorem inherited_wellFormed : Inherited Value.WellFormed where
  null := trivial
  bool _ := trivial
  int _ _ := trivial
  float _ := trivial
  text _ := trivial
  list h := (Value.allWellFormed_iff _).mpr h
  dict h := ⟨Table.nodup_keys_ofEntries _, (Value.fieldsWellFormed_iff _).mpr fun e he =>
    h e (Table.mem_of_mem_ofEntries he)⟩

/-- In what is read from a text no key stands twice. -/
theorem wellFormed_of_read? {s : String} {v : Value} (h : read? s = some v) : v.WellFormed :=
  of_read? inherited_wellFormed h

end Json

namespace Context

private theorem wellFormed_data {now : String} {fs : Table String Value} {c : Context}
    (h : ReadFrom now fs c)
    (hfs : ∀ v, Table.value? fs "data" = some v → v.WellFormed) :
    (Value.dict c.data).WellFormed := by
  have hdata := h.data
  rw [Schema.fieldOr] at hdata
  split at hdata
  · rename_i v hv
    have hread := Schema.Checked.under_eq_ok.mp hdata
    cases v with
    | dict gs => exact Except.ok.inj hread ▸ hfs _ hv
    | _ => cases hread
  · rw [← Except.ok.inj hdata]
    exact ⟨List.nodup_nil, trivial⟩

/-- The data of a context that was read, be it from what it may, are well-formed. -/
theorem decode_wellFormed (now : String) (externalId humanId : Int) (blob : Option String) :
    (Value.dict (decode now externalId humanId blob).1.data).WellFormed := by
  have hfresh : (Value.dict (fresh externalId humanId).data).WellFormed := ⟨List.nodup_nil, trivial⟩
  cases blob with
  | none => exact hfresh
  | some s =>
    simp only [decode]
    split
    · exact hfresh
    split
    · rename_i fs hfs
      split
      · rename_i r hr
        obtain ⟨c, hc, rfl⟩ := Schema.Checked.map_eq_ok hr
        have hdata : (Value.dict c.data).WellFormed :=
          wellFormed_data (readFields_iff.mp hc) fun v hv => by
            rw [Table.value?_put_of_ne _ _ (by decide),
              Table.value?_put_of_ne _ _ (by decide)] at hv
            exact Value.wellFormed_of_value? (Json.wellFormed_of_read? hfs).2 hv
        rw [repair_eq]
        exact hdata
      · exact hfresh
    · exact hfresh

/-- Whatever text a context is read from, it is sound, and no key of its data stands twice. -/
theorem decode_tidy (now : String) (externalId humanId : Int) (blob : Option String) :
    (decode now externalId humanId blob).1.Tidy := by
  refine ⟨decode_legible .., (decode_wellFormed now externalId humanId blob).1, ?_⟩
  have hfresh := (fresh_tidy externalId humanId).sound
  cases blob with
  | none => exact hfresh
  | some s =>
    simp only [decode]
    split
    · exact hfresh
    split
    · split
      · rename_i r hr
        obtain ⟨c, -, rfl⟩ := Schema.Checked.map_eq_ok hr
        exact repair_sound c
      · exact hfresh
    · exact hfresh

end Context

end Dialogue
