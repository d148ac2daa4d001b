import Dialogue.Store

/-! What a save changes in a store: the text of one actor, and nothing else that can be asked. -/
namespace Dialogue

namespace Rows

private theorem find_map (t : Rows) {put : Row → Row}
    (hput : ∀ row, (put row).externalId = row.externalId) (j : Int) :
    find (t.map put) j = (t.find j).map (·.map put) := by
  have hsame : ((·.externalId == j) : Row → Bool) ∘ put = (·.externalId == j) :=
    funext fun row => by rw [Function.comp_apply, hput]
  rw [find, find]
  split
  · exact congrArg Except.ok (by rw [List.find?_map, hsame])
  · rfl

theorem externalId_of_find {t : Rows} {id : Int} {row : Row}
    (h : t.find id = .ok (some row)) : row.externalId = id := by
  rw [find] at h
  split at h
  · have hrow := List.find?_some (Except.ok.inj h)
    exact eq_of_beq hrow
  · cases h

/-- A save changes nothing but texts. -/
theorem ids_save {t t' : Rows} {id : Int} {blob : String} {ns : List Notice}
    (h : t.save id blob = .ok (t', ns)) :
    t'.map (fun row => (row.externalId, row.id)) = t.map fun row => (row.externalId, row.id) := by
  rw [save] at h
  rcases hf : t.find id with f | _ | row
  · rw [hf] at h
    cases h
  · rw [hf] at h
    obtain ⟨rfl, -⟩ := Prod.mk.inj (Except.ok.inj h)
    rfl
  · rw [hf] at h
    obtain ⟨rfl, -⟩ := Prod.mk.inj (Except.ok.inj h)
    rw [List.map_map]
    refine List.map_congr_left fun row _ => ?_
    rw [Function.comp_apply]
    split <;> rfl

end Rows

namespace Store

/-- A text for the actor finds a place: only a database asks for a row. -/
def Accepts (s : Store) (id : Int) : Prop :=
  match s with
  | rows t => ∃ row, t.find id = .ok (some row)
  | _ => True

/-- Another text is kept for one actor, and nothing else has changed. -/
structure Saved (s s' : Store) (id : Int) (blob : String) : Prop where
  load_self : s'.load id = .ok (some blob)
  load_of_ne : ∀ j, j ≠ id → s'.load j = s.load j
  resolve : ∀ j, s'.resolve j = s.resolve j

theorem accepts_of_resolve {s : Store} {id n : Int} (h : s.resolve id = .ok (some n)) :
    s.Accepts id := by
  cases s with
  | rows t =>
    change t.resolve id = .ok (some n) at h
    rw [Rows.resolve] at h
    cases hf : t.find id with
    | error f => rw [hf] at h; cases h
    | ok row =>
      cases row with
      | none => rw [hf] at h; cases h
      | some row => exact ⟨row, hf⟩
  | _ => trivial

theorem accepts_of_load {s : Store} {id : Int} {blob : String}
    (h : s.load id = .ok (some blob)) : s.Accepts id := by
  cases s with
  | rows t =>
    change t.load id = .ok (some blob) at h
    rw [Rows.load] at h
    cases hf : t.find id with
    | error f => rw [hf] at h; cases h
    | ok row =>
      cases row with
      | none => rw [hf] at h; cases h
      | some row => exact ⟨row, hf⟩
  | _ => trivial

private theorem saved_records (r : Records) (id : Int) (blob : String) :
    (r.save id blob).load id = some blob ∧
      (∀ j, j ≠ id → (r.save id blob).load j = r.load j) ∧
      ∀ j, (r.save id blob).resolve j = r.resolve j :=
  ⟨Table.value?_put_self .., fun _ hj => Table.value?_put_of_ne _ _ (Ne.symm hj), fun _ => rfl⟩

theorem saved_rows {t : Rows} {id : Int} {row : Row} (h : t.find id = .ok (some row))
    (blob : String) : ∃ t', t.save id blob = .ok (t', []) ∧ Saved (rows t) (rows t') id blob := by
  let put := fun (row : Row) =>
    if row.externalId == id then { row with blob := some blob } else row
  have hfind : ∀ j, Rows.find (t.map put) j = (t.find j).map (·.map put) :=
    Rows.find_map t fun row => by
      simp only [put]
      split <;> rfl
  refine ⟨t.map put, by rw [Rows.save, h]; rfl, ?_, ?_, ?_⟩
  · have hput : put row = { row with blob := some blob } := by
      simp only [put, Rows.externalId_of_find h, BEq.rfl, if_true]
    change Rows.load (t.map put) id = .ok (some blob)
    rw [Rows.load, hfind, h]
    exact congrArg (fun r => Except.ok r.blob) hput
  · intro j hj
    change Rows.load (t.map put) j = Rows.load t j
    rw [Rows.load, Rows.load, hfind]
    cases hf : t.find j with
    | error f => rfl
    | ok found =>
      cases found with
      | none => rfl
      | some other =>
        have hne : (other.externalId == id) = false := by
          rw [Rows.externalId_of_find hf]
          exact beq_false_of_ne hj
        have hput : put other = other := by simp only [put, hne, if_false, Bool.false_eq_true]
        exact congrArg (fun r => Except.ok r.blob) hput
  · intro j
    change Rows.resolve (t.map put) j = Rows.resolve t j
    rw [Rows.resolve, Rows.resolve, hfind]
    cases hf : t.find j with
    | error f => rfl
    | ok found =>
      cases found with
      | none => rfl
      | some other =>
        have hput : (put other).id = other.id := by
          simp only [put]
          split <;> rfl
        exact congrArg (fun n => Except.ok (some n)) hput

/-- A text that finds a place is kept without further ado. -/
theorem save_of_accepts {s : Store} {id : Int} (h : s.Accepts id) (blob : String) :
    ∃ s', s.save id blob = .ok (s', []) ∧ Saved s s' id blob := by
  cases s with
  | memory r =>
    obtain ⟨hself, hne, hresolve⟩ := saved_records r id blob
    exact ⟨_, rfl, congrArg Except.ok hself, fun j hj => congrArg Except.ok (hne j hj),
      fun j => congrArg Except.ok (hresolve j)⟩
  | sealed r =>
    obtain ⟨hself, hne, hresolve⟩ := saved_records r id blob
    exact ⟨_, rfl, congrArg Except.ok hself, fun j hj => congrArg Except.ok (hne j hj),
      fun j => congrArg Except.ok (hresolve j)⟩
  | files f =>
    obtain ⟨hself, hne, hresolve⟩ := saved_records f.records id blob
    rw [← f.records_save] at hself hne hresolve
    exact ⟨_, rfl, congrArg Except.ok hself, fun j hj => congrArg Except.ok (hne j hj),
      fun j => congrArg Except.ok (hresolve j)⟩
  | rows t =>
    obtain ⟨row, hrow⟩ := h
    obtain ⟨t', hsave, hsaved⟩ := saved_rows hrow blob
    exact ⟨.rows t', by simp only [save, hsave, Except.map], hsaved⟩

/-- A text that finds no place is dropped. -/
theorem saved_or_eq_of_save {s s' : Store} {id : Int} {blob : String} {ns : List Notice}
    (h : s.save id blob = .ok (s', ns)) : s.Saved s' id blob ∨ s' = s := by
  by_cases haccepts : s.Accepts id
  · obtain ⟨t, hsave, hsaved⟩ := save_of_accepts haccepts blob
    obtain ⟨rfl, -⟩ := Prod.mk.inj (Except.ok.inj (h.symm.trans hsave))
    exact .inl hsaved
  · cases s with
    | rows t =>
      rw [save, Rows.save] at h
      rcases hf : t.find id with f | _ | row
      · rw [hf] at h
        cases h
      · rw [hf] at h
        obtain ⟨rfl, -⟩ := Prod.mk.inj (Except.ok.inj h)
        exact .inr rfl
      · exact absurd ⟨row, hf⟩ haccepts
    | _ => exact absurd trivial haccepts

end Store

end Dialogue
