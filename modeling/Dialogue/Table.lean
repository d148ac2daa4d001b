/-! Finite tables that keep the order in which their keys were first put. -/
namespace Dialogue

abbrev Table (κ : Type) (α : Type) := List (κ × α)

namespace Table
variable {κ α β : Type} [DecidableEq κ]

def value? (t : Table κ α) (k : κ) : Option α :=
  match t with
  | [] => none
  | (j, v) :: t => if j = k then some v else value? t k

/-- A key already present keeps its place and takes the new value; a new key goes last. -/
def put (t : Table κ α) (k : κ) (v : α) : Table κ α :=
  match t with
  | [] => [(k, v)]
  | (j, w) :: t => if j = k then (j, v) :: t else (j, w) :: put t k v

def keys (t : Table κ α) : List κ := t.map Prod.fst

def has (t : Table κ α) (k : κ) : Bool := (value? t k).isSome

/-- Puts the entries of the second table, one after another. -/
def putAll (t u : Table κ α) : Table κ α := u.foldl (fun t e => put t e.1 e.2) t

/-- The table of a list of entries; of two entries under one key the later value counts. -/
def ofEntries (es : List (κ × α)) : Table κ α := putAll [] es

@[simp] theorem value?_nil (k : κ) : value? ([] : Table κ α) k = none := rfl

theorem value?_cons (j k : κ) (v : α) (t : Table κ α) :
    value? ((j, v) :: t) k = if j = k then some v else value? t k := rfl

@[simp] theorem value?_put_self (t : Table κ α) (k : κ) (v : α) :
    value? (put t k v) k = some v := by
  induction t with
  | nil => simp [put, value?]
  | cons e t ih => obtain ⟨j, w⟩ := e; by_cases h : j = k <;> simp [put, value?, h, ih]

theorem value?_put_of_ne (t : Table κ α) {j k : κ} (v : α) (h : k ≠ j) :
    value? (put t k v) j = value? t j := by
  induction t with
  | nil => simp [put, value?, h]
  | cons e t ih =>
    obtain ⟨i, w⟩ := e
    by_cases hi : i = k
    · subst hi; simp [put, value?, h]
    · by_cases hj : i = j
      · subst hj; simp [put, value?, hi]
      · simp [put, value?, hi, hj, ih]

@[simp] theorem put_put (t : Table κ α) (k : κ) (v w : α) :
    put (put t k v) k w = put t k w := by
  induction t with
  | nil => simp [put]
  | cons e t ih => obtain ⟨j, u⟩ := e; by_cases h : j = k <;> simp [put, h, ih]

theorem mem_keys_iff (t : Table κ α) (k : κ) : k ∈ keys t ↔ has t k = true := by
  induction t with
  | nil => simp [keys, has]
  | cons e t ih =>
    obtain ⟨j, w⟩ := e
    by_cases h : j = k
    · simp [keys, has, value?, h]
    · have hk : ¬ k = j := fun e => h e.symm
      simpa [keys, has, value?, h, hk] using ih

end Table

end Dialogue
