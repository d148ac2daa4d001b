import Mathlib.Data.List.Perm.Subperm
import Dialogue.Proofs.Context.Faithfulness
import Dialogue.Value.Ordering

/-! Equality and order of values. For values in which no key stands twice, both are the same from
either side. All questions about the order of two values are answered by one order, which is that of
equals exactly if the values are equal. -/
namespace Dialogue

/-- Two places seen from the other side. -/
theorem Magnitude.compare_swap (p q : Magnitude) :
    q.compare p = (p.compare q).map Ordering.swap := by
  cases p <;> cases q <;> simp only [compare, Option.map_none, Option.map_some]
  case finite.finite => rw [min_comm, Int.compare_swap]
  all_goals rfl

namespace Value

theorem sameMagnitude_comm (a b : Value) : a.sameMagnitude b = b.sameMagnitude a := by
  rw [sameMagnitude, sameMagnitude]
  cases a.magnitude? with
  | none => cases b.magnitude? <;> rfl
  | some p =>
    cases b.magnitude? with
    | none => rfl
    | some q =>
      simp only [Magnitude.equal, Magnitude.compare_swap p q]
      cases p.compare q with
      | none => rfl
      | some o => cases o <;> rfl

theorem relateMagnitude_swap (r : Ordering → Bool) (a b : Value) :
    b.relateMagnitude r a = a.relateMagnitude (fun o => r o.swap) b := by
  rw [relateMagnitude, relateMagnitude]
  cases a.magnitude? with
  | none => cases b.magnitude? <;> rfl
  | some p =>
    cases b.magnitude? with
    | none => rfl
    | some q =>
      simp only [Magnitude.compare_swap p q]
      cases p.compare q <;> rfl

section
variable {a : Value} {p : Magnitude} (h : a.magnitude? = some p)
include h

theorem isNull_of_magnitude? : a.isNull = false := by
  cases a with
  | bool | int | float => rfl
  | null | text | list | dict => cases h

theorem same_of_magnitude? (b : Value) : a.same b = a.sameMagnitude b := by
  cases a with
  | bool | int | float => rw [same]
  | null | text | list | dict => cases h

theorem same_magnitude? (b : Value) : b.same a = b.sameMagnitude a := by
  cases a with
  | bool | int | float => cases b <;> rfl
  | null | text | list | dict => cases h

theorem relate_of_magnitude? (r : Ordering → Bool) (b : Value) :
    a.relate r b = a.relateMagnitude r b := by
  cases a with
  | bool | int | float => rw [relate]
  | null | text | list | dict => cases h

theorem relate_magnitude? (r : Ordering → Bool) (b : Value) :
    b.relate r a = b.relateMagnitude r a := by
  cases a with
  | bool | int | float => cases b <;> rfl
  | null | text | list | dict => cases h

end

theorem sameFields_iff {fs gs : Table String Value} : sameFields fs gs = true ↔
    ∀ e ∈ fs, ∃ y, Table.value? gs e.1 = some y ∧ e.2.same y = true := by
  induction fs with
  | nil => simp [sameFields]
  | cons e fs ih =>
    obtain ⟨k, x⟩ := e
    rw [sameFields, Bool.and_eq_true, ih, List.forall_mem_cons]
    cases Table.value? gs k <;> simp

/-- For two tables of one size in which no key stands twice: if each entry of the one has its like
in the other, each entry of the other has it too. -/
private theorem sameFields_turn {fs gs : Table String Value} (hfs : (Table.keys fs).Nodup)
    (hgs : (Table.keys gs).Nodup) (hlength : fs.length = gs.length)
    (hturn : ∀ e ∈ fs, ∀ d ∈ gs, e.2.same d.2 = true → d.2.same e.2 = true)
    (h : sameFields fs gs = true) : sameFields gs fs = true := by
  rw [sameFields_iff] at h ⊢
  have hsubset : Table.keys fs ⊆ Table.keys gs := by
    intro k hk
    obtain ⟨e, he, rfl⟩ := List.mem_map.mp hk
    obtain ⟨y, hy, -⟩ := h e he
    rw [Table.mem_keys_iff, Table.has, hy]
    rfl
  have hperm : (Table.keys fs).Perm (Table.keys gs) := by
    refine (hfs.subperm hsubset).perm_of_length_le ?_
    rw [Table.keys, Table.keys, List.length_map, List.length_map, hlength]
  intro d hd
  have hk : d.1 ∈ Table.keys fs := hperm.mem_iff.mpr (List.mem_map_of_mem hd)
  obtain ⟨e, he, hkey⟩ := List.mem_map.mp hk
  obtain ⟨y, hy, hsame⟩ := h e he
  rw [hkey, Table.value?_of_mem hgs hd] at hy
  obtain rfl := Option.some.inj hy
  exact ⟨e.2, hkey ▸ Table.value?_of_mem hfs he, hturn e he d hd hsame⟩

mutual

theorem same_comm : ∀ {a b : Value}, a.WellFormed → b.WellFormed → a.same b = b.same a
  | null, b, _, _ => by cases b <;> rfl
  | bool _, b, _, _ | int _, b, _, _ | float _, b, _, _ => by
    rw [same_of_magnitude? rfl, same_magnitude? rfl, sameMagnitude_comm]
  | text s, b, _, _ => by
    cases b with
    | text t => exact Bool.beq_comm
    | null | bool | int | float | list | dict => rfl
  | list xs, b, ha, hb => by
    cases b with
    | list ys => exact sameItems_comm ha hb
    | null | bool | int | float | text | dict => rfl
  | dict fs, b, ha, hb => by
    cases b with
    | dict gs =>
      -- What is known of the entries on the left, which are smaller, serves both directions.
      have hcomm (e) (he : e ∈ fs) (d) (hd : d ∈ gs) : e.2.same d.2 = d.2.same e.2 :=
        sameFields_comm fs ha.2 e he ((fieldsWellFormed_iff gs).mp hb.2 d hd)
      rw [same, same, Bool.eq_iff_iff]
      simp only [Bool.and_eq_true, beq_iff_eq]
      constructor
      · rintro ⟨hlength, h⟩
        refine ⟨hlength.symm, sameFields_turn ha.1 hb.1 hlength (fun e he d hd hsame => ?_) h⟩
        rwa [← hcomm e he d hd]
      · rintro ⟨hlength, h⟩
        refine ⟨hlength.symm, sameFields_turn hb.1 ha.1 hlength (fun d hd e he hsame => ?_) h⟩
        rwa [hcomm e he d hd]
    | null | bool | int | float | text | list => rfl

theorem sameItems_comm : ∀ {xs ys : List Value}, AllWellFormed xs → AllWellFormed ys →
    sameItems xs ys = sameItems ys xs
  | [], ys, _, _ => by cases ys <;> rfl
  | x :: xs, ys, ha, hb => by
    cases ys with
    | nil => rfl
    | cons y ys => rw [sameItems, sameItems, same_comm ha.1 hb.1, sameItems_comm ha.2 hb.2]

private theorem sameFields_comm : ∀ fs : List (String × Value), FieldsWellFormed fs →
    ∀ e ∈ fs, ∀ {y : Value}, y.WellFormed → e.2.same y = y.same e.2
  | [], _, _, he, _, _ => nomatch he
  | (k, x) :: fs, h, e, he, y, hy => by
    rcases List.mem_cons.mp he with rfl | he
    · exact same_comm h.1 hy
    · exact sameFields_comm fs h.2 e he hy

end

mutual

/-- The order of two values seen from the other side. -/
theorem relate_swap (r : Ordering → Bool) : ∀ {a b : Value}, a.WellFormed → b.WellFormed →
    b.relate r a = a.relate (fun o => r o.swap) b
  | null, b, _, _ | dict _, b, _, _ => by cases b <;> rfl
  | bool _, b, _, _ | int _, b, _, _ | float _, b, _, _ => by
    rw [relate_magnitude? rfl, relate_of_magnitude? rfl, relateMagnitude_swap]
  | text s, b, _, _ => by
    cases b with
    | text t =>
      have hturned : compare t s = (compare s t).swap := Std.OrientedCmp.eq_swap
      rw [relate, relate, hturned]
    | null | bool | int | float | list | dict => rfl
  | list xs, b, ha, hb => by
    cases b with
    | list ys => exact relateItems_swap r ha hb
    | null | bool | int | float | text | dict => rfl

theorem relateItems_swap (r : Ordering → Bool) : ∀ {xs ys : List Value}, AllWellFormed xs →
    AllWellFormed ys → relateItems r ys xs = relateItems (fun o => r o.swap) xs ys
  | [], ys, _, _ => by cases ys <;> rfl
  | x :: xs, ys, ha, hb => by
    cases ys with
    | nil => rfl
    | cons y ys =>
      rw [relateItems, relateItems, same_comm ha.1 hb.1, relate_swap r ha.1 hb.1,
        relateItems_swap r ha.2 hb.2]

end

/-- Questions about the order of two things have no answer, or each has the answer that one order
gives. The order is missing too where not-a-number decides, and then every answer is no. -/
inductive Decided (same : Bool) (relate : (Ordering → Bool) → Option Bool) : Prop
  | apart (h : ∀ r, relate r = none)
  | placed (o : Option Ordering) (hsame : same = (o == some .eq))
      (h : ∀ r, relate r = some (o.any r))

private theorem decidedMagnitude (a b : Value) :
    Decided (a.sameMagnitude b) (a.relateMagnitude · b) := by
  simp only [sameMagnitude, relateMagnitude]
  cases a.magnitude? with
  | none => exact .apart fun _ => rfl
  | some p =>
    cases b.magnitude? with
    | none => exact .apart fun _ => rfl
    | some q => exact .placed (p.compare q) rfl fun _ => rfl

mutual

theorem decided : ∀ a b : Value, Decided (a.same b) (a.relate · b)
  | null, _ | dict _, _ => .apart fun _ => rfl
  | bool p, b => decidedMagnitude (bool p) b
  | int n, b => decidedMagnitude (int n) b
  | float x, b => decidedMagnitude (float x) b
  | text s, b => by
    cases b with
    | text t =>
      have hsame : (s == t) = (some (compare s t) == some .eq) := by
        rw [Bool.eq_iff_iff]
        simp
      exact .placed (some (compare s t)) hsame fun _ => rfl
    | null | bool | int | float | list | dict => exact .apart fun _ => rfl
  | list xs, b => by
    cases b with
    | list ys => exact decidedItems xs ys
    | null | bool | int | float | text | dict => exact .apart fun _ => rfl

theorem decidedItems : ∀ xs ys : List Value, Decided (sameItems xs ys) (relateItems · xs ys)
  | [], [] => .placed (some .eq) rfl fun _ => rfl
  | [], _ :: _ => .placed (some .lt) rfl fun _ => rfl
  | _ :: _, [] => .placed (some .gt) rfl fun _ => rfl
  | x :: xs, y :: ys => by
    simp only [sameItems, relateItems]
    cases h : x.same y with
    | true => exact decidedItems xs ys
    | false =>
      have hfirst := decided x y
      rw [h] at hfirst
      exact hfirst

end

end Value

end Dialogue
