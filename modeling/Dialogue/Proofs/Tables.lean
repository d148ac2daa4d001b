import Dialogue.Table

/-! Tables in which no key stands twice. -/
namespace Dialogue.Table
variable {κ α β : Type} [DecidableEq κ]

theorem keys_put (t : Table κ α) (k : κ) (v : α) :
    keys (put t k v) = if k ∈ keys t then keys t else keys t ++ [k] := by
  induction t with
  | nil => rfl
  | cons e t ih =>
    obtain ⟨j, w⟩ := e
    have hkeys : keys ((j, w) :: t) = j :: keys t := rfl
    by_cases h : j = k
    · subst h
      simp [put, keys]
    · have hput : put ((j, w) :: t) k v = (j, w) :: put t k v := by simp [put, h]
      have htail : keys ((j, w) :: put t k v) = j :: keys (put t k v) := rfl
      have hk : ¬ k = j := fun e => h e.symm
      rw [hput, htail, ih, hkeys]
      simp only [List.mem_cons, hk, false_or]
      split <;> rfl

theorem nodup_keys_put {t : Table κ α} (h : (keys t).Nodup) (k : κ) (v : α) :
    (keys (put t k v)).Nodup := by
  rw [keys_put]
  split
  · exact h
  · rename_i hk
    rw [List.nodup_append]
    exact ⟨h, by simp, fun a ha b hb e => hk (by rw [← List.mem_singleton.mp hb, ← e]; exact ha)⟩

theorem nodup_keys_putAll {t : Table κ α} (h : (keys t).Nodup) (u : Table κ α) :
    (keys (putAll t u)).Nodup := by
  induction u generalizing t with
  | nil => exact h
  | cons e u ih => exact ih (nodup_keys_put h e.1 e.2)

theorem nodup_keys_ofEntries (es : List (κ × α)) : (keys (ofEntries es)).Nodup :=
  nodup_keys_putAll (t := []) List.nodup_nil es

theorem not_mem_keys_of_value? {t : Table κ α} {k : κ} (h : value? t k = none) : k ∉ keys t := by
  rw [mem_keys_iff, has, h]
  exact Bool.false_ne_true

theorem put_of_not_mem {t : Table κ α} {k : κ} (h : k ∉ keys t) (v : α) :
    put t k v = t ++ [(k, v)] := by
  induction t with
  | nil => rfl
  | cons e t ih =>
    obtain ⟨j, w⟩ := e
    obtain ⟨hj, ht⟩ := not_or.mp (mt List.mem_cons.mpr h)
    have hj : ¬ j = k := fun e => hj e.symm
    simp [put, hj, ih ht]

private theorem putAll_of_disjoint {t u : Table κ α} (h : (keys (t ++ u)).Nodup) :
    putAll t u = t ++ u := by
  induction u generalizing t with
  | nil => exact (List.append_nil t).symm
  | cons e u ih =>
    obtain ⟨k, v⟩ := e
    have hsplit : t ++ (k, v) :: u = (t ++ [(k, v)]) ++ u := by simp
    have hk : k ∉ keys t := by
      intro hk
      simp only [keys, List.map_append, List.map_cons] at h
      exact (List.nodup_append.mp h).2.2 k hk k (List.mem_cons_self ..) rfl
    rw [hsplit] at h ⊢
    rw [← ih h, ← put_of_not_mem hk v]
    rfl

/-- Nothing is lost from entries with different keys. -/
theorem ofEntries_of_nodup {es : List (κ × α)} (h : (keys es).Nodup) : ofEntries es = es :=
  putAll_of_disjoint h

/-- In a table of one entry nothing else is found. -/
theorem eq_of_value?_singleton {j k : κ} {v w : α} (h : value? [(k, v)] j = some w) :
    j = k ∧ w = v := by
  rw [value?_cons] at h
  split at h
  · rename_i hk
    exact ⟨hk.symm, (Option.some.inj h).symm⟩
  · cases h

theorem mem_of_value? {t : Table κ α} {k : κ} {v : α} (h : value? t k = some v) : (k, v) ∈ t := by
  induction t with
  | nil => cases h
  | cons e t ih =>
    obtain ⟨j, w⟩ := e
    rw [value?_cons] at h
    split at h
    · rename_i hj
      rw [hj, Option.some.inj h]
      exact List.mem_cons_self ..
    · exact List.mem_cons_of_mem _ (ih h)

/-- Where no key stands twice, every entry is found. -/
theorem value?_of_mem {t : Table κ α} (h : (keys t).Nodup) {e : κ × α} (he : e ∈ t) :
    value? t e.1 = some e.2 := by
  induction t with
  | nil => exact absurd he List.not_mem_nil
  | cons d t ih =>
    obtain ⟨hd, ht⟩ := List.nodup_cons.mp h
    rw [value?_cons]
    rcases List.mem_cons.mp he with rfl | he
    · exact if_pos rfl
    · rw [if_neg, ih ht he]
      intro hkey
      exact hd (hkey ▸ List.mem_map_of_mem he)

theorem mem_put {t : Table κ α} {k : κ} {v : α} {e : κ × α} (h : e ∈ put t k v) :
    e ∈ t ∨ e = (k, v) := by
  induction t with
  | nil => exact .inr (List.mem_singleton.mp h)
  | cons d t ih =>
    obtain ⟨j, w⟩ := d
    by_cases hj : j = k
    · simp only [put, hj, if_true, List.mem_cons] at h ⊢
      exact h.symm.imp_left .inr
    · simp only [put, hj, if_false, List.mem_cons] at h ⊢
      obtain rfl | h := h
      · exact .inl (.inl rfl)
      · exact (ih h).imp_left .inr

/-- What holds of all entries and of another one still holds of all after that one was put. -/
theorem forall_put {t : Table κ α} {k : κ} {v : α} {P : κ × α → Prop} (h : ∀ e ∈ t, P e)
    (hkv : P (k, v)) : ∀ e ∈ put t k v, P e := by
  intro e he
  obtain he | rfl := mem_put he
  · exact h e he
  · exact hkv

/-- Without one key the others are found as before. -/
theorem value?_filter_of_ne (t : Table κ α) {j k : κ} (h : j ≠ k) :
    value? (t.filter fun e => e.1 != k) j = value? t j := by
  induction t with
  | nil => rfl
  | cons e t ih =>
    obtain ⟨i, v⟩ := e
    by_cases hi : i = k
    · have hij : ¬ i = j := fun e => h (e.symm.trans hi)
      simp [value?, hi, ih, hi ▸ hij]
    · simp [value?, hi, ih]

/-- What stands in a table that others were put into was there before, or is one of the others. -/
theorem value?_putAll {t u : Table κ α} {k : κ} {v : α} (h : value? (putAll t u) k = some v) :
    value? t k = some v ∨ (k, v) ∈ u := by
  induction u generalizing t with
  | nil => exact .inl h
  | cons d u ih =>
    obtain ⟨j, w⟩ := d
    obtain h | h := ih h
    · by_cases hk : j = k
      · subst hk
        rw [value?_put_self] at h
        exact .inr (Option.some.inj h ▸ List.mem_cons_self ..)
      · rw [value?_put_of_ne _ _ hk] at h
        exact .inl h
    · exact .inr (List.mem_cons_of_mem _ h)

theorem value?_filter_key (t : Table κ α) (p : κ → Bool) (k : κ) :
    value? (t.filter fun e => p e.1) k = if p k then value? t k else none := by
  induction t with
  | nil => simp
  | cons e t ih =>
    obtain ⟨j, v⟩ := e
    by_cases hj : j = k
    · subst hj
      cases hp : p j <;> simp [hp, value?, ih]
    · cases hp : p j <;> simp [hp, value?, ih, hj]

/-- The table that is put into another wins. -/
theorem value?_putAll_of_nodup (t : Table κ α) {u : Table κ α} (h : (keys u).Nodup) (k : κ) :
    value? (putAll t u) k = (value? u k).or (value? t k) := by
  induction u generalizing t with
  | nil => rfl
  | cons e u ih =>
    obtain ⟨j, v⟩ := e
    obtain ⟨hj, hu⟩ := List.nodup_cons.mp h
    change value? (putAll (put t j v) u) k = _
    rw [ih _ hu, value?_cons]
    by_cases hk : j = k
    · subst hk
      have hnone : value? u j = none := by
        rw [← Option.not_isSome_iff_eq_none]
        exact fun hsome => hj ((mem_keys_iff u j).mpr hsome)
      rw [if_pos rfl, hnone, value?_put_self]
      rfl
    · rw [if_neg hk, value?_put_of_ne _ _ hk]

private theorem mem_of_mem_putAll {t u : Table κ α} {e : κ × α} (h : e ∈ putAll t u) :
    e ∈ t ∨ e ∈ u := by
  induction u generalizing t with
  | nil => exact .inl h
  | cons d u ih =>
    obtain h | h := ih h
    · exact (mem_put h).imp_right fun he => List.mem_cons.mpr (.inl he)
    · exact .inr (List.mem_cons_of_mem d h)

theorem mem_of_mem_ofEntries {es : List (κ × α)} {e : κ × α} (h : e ∈ ofEntries es) : e ∈ es :=
  (mem_of_mem_putAll h).resolve_left List.not_mem_nil

end Dialogue.Table
