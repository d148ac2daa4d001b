import Dialogue.Proofs.Tables
import Dialogue.Path

/-! Writes at places of nested dictionaries. What was put at a place is found there with all its
parts, what lies apart from the place stays, and the dictionaries on the way to it lose nothing but
what stood under the key that was followed. The later of two writes at one place counts, and writes
at places apart can be made in either order. -/
namespace Dialogue

namespace Value

/-- The same value, whatever the order of keys in dictionaries. -/
inductive Alike : Value → Value → Prop
  | refl (v : Value) : Alike v v
  | dict {fs gs : List (String × Value)} (keys : ∀ k, Table.has fs k = Table.has gs k)
      (parts : ∀ k x y, Table.value? fs k = some x → Table.value? gs k = some y → Alike x y) :
      Alike (.dict fs) (.dict gs)

/-- Dictionaries in which the same is found are alike. -/
theorem Alike.of_value? {fs gs : Table String Value}
    (h : ∀ k, Table.value? fs k = Table.value? gs k) : Alike (.dict fs) (.dict gs) := by
  refine .dict (fun k => by rw [Table.has, Table.has, h]) fun k x y hx hy => ?_
  obtain rfl : x = y := Option.some.inj (hx.symm.trans ((h k).trans hy))
  exact .refl x

/-- Alike values may be put under a key. -/
theorem Alike.put {v w : Value} (h : Alike v w) (fs : Table String Value) (k : String) :
    Alike (.dict (Table.put fs k v)) (.dict (Table.put fs k w)) := by
  refine .dict (fun j => ?_) fun j x y hx hy => ?_
  · rw [Table.has, Table.has]
    by_cases hj : k = j
    · subst hj
      rw [Table.value?_put_self, Table.value?_put_self]
      rfl
    · rw [Table.value?_put_of_ne _ _ hj, Table.value?_put_of_ne _ _ hj]
  · by_cases hj : k = j
    · subst hj
      rw [Table.value?_put_self] at hx hy
      rw [← Option.some.inj hx, ← Option.some.inj hy]
      exact h
    · rw [Table.value?_put_of_ne _ _ hj] at hx hy
      rw [← Option.some.inj (hx.symm.trans hy)]
      exact .refl x

/-- Under two keys it does not matter which value is put first. -/
theorem Alike.put_put (fs : Table String Value) {j k : String} (h : j ≠ k) (v w : Value) :
    Alike (.dict (Table.put (Table.put fs j v) k w))
      (.dict (Table.put (Table.put fs k w) j v)) := by
  refine Alike.of_value? fun i => ?_
  by_cases hk : k = i
  · subst hk
    rw [Table.value?_put_self, Table.value?_put_of_ne _ _ h, Table.value?_put_self]
  · rw [Table.value?_put_of_ne _ _ hk]
    by_cases hj : j = i
    · subst hj
      rw [Table.value?_put_self, Table.value?_put_self]
    · rw [Table.value?_put_of_ne _ _ hj, Table.value?_put_of_ne _ _ hj,
        Table.value?_put_of_ne _ _ hk]

end Value

namespace Path

theorem Incomparable.symm {p q : Path} (h : p.Incomparable q) : q.Incomparable p := ⟨h.2, h.1⟩

theorem Incomparable.tail {p q : Path} {k : String}
    (h : Incomparable (k :: p) (k :: q)) : p.Incomparable q :=
  ⟨fun e => h.1 (List.cons_prefix_cons.mpr ⟨rfl, e⟩),
    fun e => h.2 (List.cons_prefix_cons.mpr ⟨rfl, e⟩)⟩

theorem Incomparable.ne_nil {p q : Path} (h : p.Incomparable q) : p ≠ [] := by
  rintro rfl
  exact h.1 List.nil_prefix

/-- Paths that begin with different keys. -/
theorem incomparable_of_head {p q : Path} {j k : String} (hp : p.head? = some j)
    (hq : q.head? = some k) (h : j ≠ k) : p.Incomparable q := by
  obtain ⟨p, rfl⟩ := List.head?_eq_some_iff.mp hp
  obtain ⟨q, rfl⟩ := List.head?_eq_some_iff.mp hq
  exact ⟨fun e => h (List.cons_prefix_cons.mp e).1, fun e => h (List.cons_prefix_cons.mp e).1.symm⟩

theorem get_null (p : Path) : get .null p = .null := by
  cases p <;> rfl

/-- A path is followed key by key, as long as the dictionaries have the keys. -/
theorem get_eq_foldlM (v : Value) (p : Path) :
    get v p = Value.orNull (p.foldlM Value.field? v) := by
  induction p generalizing v with
  | nil => exact get_nil v
  | cons k p ih =>
    rw [List.foldlM_cons]
    cases v with
    | dict fs =>
      rw [get_dict_cons, Value.field?, Value.fields?, Option.bind_some]
      cases Table.value? fs k with
      | none => exact get_null p
      | some w => exact ih w
    | _ => rfl

theorem get_append (v : Value) (p q : Path) : get v (p ++ q) = get (get v p) q := by
  induction p generalizing v with
  | nil => rw [get_nil, List.nil_append]
  | cons k p ih => cases v with
    | dict fs => exact ih _
    | _ => exact (get_null q).symm

/-- Behind a value that is no dictionary there is nothing to be found. -/
private theorem get_entries {q : Path} (hq : q ≠ []) (o : Option Value) :
    get (.dict (entries o)) q = get (Value.orNull o) q := by
  obtain ⟨k, q, rfl⟩ := List.exists_cons_of_ne_nil hq
  rcases o with _ | v
  · exact get_null q
  · cases v with
    | dict fs => rfl
    | _ => exact get_null q

theorem value?_entries (v : Value) (k : String) :
    Table.value? (entries (some v)) k = v.field? k := by
  cases v <;> rfl

/-- What a write leaves under the first key of its path. -/
private def placed (o : Option Value) : Path → Value → Value
  | [], v => v
  | p, v => .dict (set (entries o) p v)

private theorem set_cons (fs : Table String Value) (k : String) (p : Path) (v : Value) :
    set fs (k :: p) v = Table.put fs k (placed (Table.value? fs k) p v) := by
  cases p <;> rfl

private theorem placed_of_ne_nil (o : Option Value) {p : Path} (hp : p ≠ []) (v : Value) :
    placed o p v = .dict (set (entries o) p v) := by
  cases p with
  | nil => exact absurd rfl hp
  | cons => rfl

theorem get_set_self (fs : Table String Value) {p : Path} (hp : p ≠ []) (v : Value) :
    get (.dict (set fs p v)) p = v := by
  induction p generalizing fs with
  | nil => exact absurd rfl hp
  | cons k p ih =>
    rw [set_cons, get_dict_cons, Table.value?_put_self]
    cases p with
    | nil => exact get_nil v
    | cons j p => exact ih _ (List.cons_ne_nil j p)

theorem get_set_append (fs : Table String Value) {p : Path} (hp : p ≠ []) (r : Path) (v : Value) :
    get (.dict (set fs p v)) (p ++ r) = get v r := by
  rw [get_append, get_set_self fs hp]

theorem get_set_of_incomparable (fs : Table String Value) {p q : Path} (h : Incomparable p q)
    (v : Value) : get (.dict (set fs p v)) q = get (.dict fs) q := by
  induction p generalizing fs q with
  | nil => exact absurd rfl h.ne_nil
  | cons k p ih => cases q with
    | nil => exact absurd rfl h.symm.ne_nil
    | cons j q =>
      rw [set_cons, get_dict_cons, get_dict_cons]
      by_cases hkj : k = j
      · subst hkj
        have htails := h.tail
        rw [Table.value?_put_self, placed_of_ne_nil _ htails.ne_nil]
        exact (ih _ htails).trans (get_entries htails.symm.ne_nil _)
      · rw [Table.value?_put_of_ne _ _ hkj]

/-- What is written behind a place is written into the dictionary there, or into an empty one. -/
theorem get_set_of_append (fs : Table String Value) (q : Path) (k : String) (r : Path) (v : Value) :
    get (.dict (set fs (q ++ k :: r) v)) q =
      .dict (set (entries (some (get (.dict fs) q))) (k :: r) v) := by
  induction q generalizing fs with
  | nil => rw [List.nil_append, get_nil, get_nil, entries]
  | cons j q ih =>
    rw [List.cons_append, set_cons, get_dict_cons, Table.value?_put_self,
      placed_of_ne_nil _ (List.append_ne_nil_of_right_ne_nil q (List.cons_ne_nil k r))]
    refine (ih (entries (Table.value? fs j))).trans ?_
    rw [get_dict_cons]
    cases q with
    | nil => cases Table.value? fs j <;> simp [entries, Value.orNull]
    | cons i q => rw [get_entries (List.cons_ne_nil i q)]

/-- The keys beside the first one of a path are left alone. -/
theorem value?_set_of_ne (fs : Table String Value) {j k : String} (h : j ≠ k) (r : Path)
    (v : Value) : Table.value? (set fs (k :: r) v) j = Table.value? fs j := by
  rw [set_cons, Table.value?_put_of_ne _ _ h.symm]

/-- The later write counts. -/
theorem set_set_self (fs : Table String Value) (p : Path) (v w : Value) :
    set (set fs p v) p w = set fs p w := by
  induction p generalizing fs with
  | nil => rfl
  | cons k p ih =>
    have hplaced (o : Option Value) : placed (some (placed o p v)) p w = placed o p w := by
      cases p with
      | nil => rfl
      | cons j p => exact congrArg Value.dict (ih (entries o))
    rw [set_cons, set_cons, set_cons, Table.value?_put_self, hplaced, Table.put_put]

/-- Writes at places apart from each other can be made in either order. -/
theorem alike_set_set (fs : Table String Value) {p q : Path} (h : Incomparable p q) (v w : Value) :
    Value.Alike (.dict (set (set fs p v) q w)) (.dict (set (set fs q w) p v)) := by
  induction p generalizing fs q with
  | nil => exact absurd rfl h.ne_nil
  | cons k p ih => cases q with
    | nil => exact absurd rfl h.symm.ne_nil
    | cons j q =>
      simp only [set_cons]
      by_cases hkj : k = j
      · subst hkj
        have htails := h.tail
        simp only [Table.value?_put_self, Table.put_put, placed_of_ne_nil _ htails.ne_nil,
          placed_of_ne_nil _ htails.symm.ne_nil]
        exact (ih _ htails).put fs k
      · rw [Table.value?_put_of_ne _ _ hkj, Table.value?_put_of_ne _ _ (Ne.symm hkj)]
        exact Value.Alike.put_put fs hkj _ _

/-- What a write at one place means for a read at another, wherever the two places lie: behind it
stands the value that was written, apart from it nothing has changed, and the dictionaries around it
differ under one key alone. Of two writes the later counts if they are made at one place, and the
order does not matter if the places are apart. -/
theorem set_ofString_lawful (fs : Table String Value) (p q : String) (v w : Value) :
    (∀ r, ofString q = ofString p ++ r → get (.dict (set fs (ofString p) v)) (ofString q) =
      Value.orNull (r.foldlM Value.field? v)) ∧
    ((ofString p).Incomparable (ofString q) →
      get (.dict (set fs (ofString p) v)) (ofString q) = get (.dict fs) (ofString q)) ∧
    (∀ k r, ofString p = ofString q ++ k :: r →
      ∃ gs, get (.dict (set fs (ofString p) v)) (ofString q) = .dict gs ∧
        ∀ j ≠ k, Table.value? gs j = (get (.dict fs) (ofString q)).field? j) ∧
    set (set fs (ofString p) v) (ofString p) w = set fs (ofString p) w ∧
    ((ofString p).Incomparable (ofString q) →
      Value.Alike (.dict (set (set fs (ofString p) v) (ofString q) w))
        (.dict (set (set fs (ofString q) w) (ofString p) v))) := by
  refine ⟨fun r hr => ?_, fun h => get_set_of_incomparable fs h v, fun k r hr => ?_,
    set_set_self fs _ v w, fun h => alike_set_set fs h v w⟩
  · rw [hr, get_set_append fs (ofString_ne_nil p), get_eq_foldlM]
  · refine ⟨_, hr ▸ get_set_of_append fs _ k r v, fun j hj => ?_⟩
    rw [value?_set_of_ne _ hj, value?_entries]

/-- Data with a text where a dictionary is about to be written. -/
def legacy : Table String Value :=
  [("human", .text "Ann Lee"), ("offer", .dict [("price", .int 3)])]

def fullName : Value := .dict [("first", .text "Ann"), ("last", .text "Lee")]

theorem set_ofString_lawful_legacy :
    get (.dict (set legacy (ofString "human.name") fullName)) (ofString "human.name.last") =
      .text "Lee" ∧
    get (.dict (set legacy (ofString "human.name") fullName)) (ofString "offer.price") = .int 3 ∧
    (∃ gs, get (.dict (set legacy (ofString "human.name") fullName)) (ofString "human") =
      .dict gs ∧ Table.value? gs "email" = none) ∧
    Value.Alike
      (.dict (set (set legacy (ofString "human.name") fullName) (ofString "human.age") (.int 30)))
      (.dict (set (set legacy (ofString "human.age") (.int 30)) (ofString "human.name")
        fullName)) := by
  refine ⟨?_, ?_, ?_, ?_⟩
  · exact (set_ofString_lawful legacy "human.name" "human.name.last" fullName .null).1 ["last"]
      (by decide)
  · exact (set_ofString_lawful legacy "human.name" "offer.price" fullName .null).2.1 (by decide)
  · obtain ⟨gs, hgs, hothers⟩ :=
      (set_ofString_lawful legacy "human.name" "human" fullName .null).2.2.1 "name" [] (by decide)
    exact ⟨gs, hgs, hothers "email" (by decide)⟩
  · exact (set_ofString_lawful legacy "human.name" "human.age" fullName (.int 30)).2.2.2.2
      (by decide)

end Path

end Dialogue
