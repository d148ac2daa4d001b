import Dialogue.Proofs.Context.Faithfulness
import Dialogue.Proofs.Paths

/-! What a write at one place of nested data leaves alone, and what becomes of it when the data are
written back and read again: the place holds what was put there, and nothing beside it moves. -/
namespace Dialogue

namespace Path

/-- A property of trees that goes over to their parts, and is kept when a part is put in. -/
structure Nests (P : Value → Prop) : Prop where
  empty : P (.dict [])
  part : ∀ {fs : Table String Value} {k : String} {v : Value}, P (.dict fs) →
    Table.value? fs k = some v → P v
  put : ∀ {fs : Table String Value} {v : Value} (k : String), P (.dict fs) → P v →
    P (.dict (Table.put fs k v))

theorem Nests.set {P : Value → Prop} (hP : Nests P) {fs : Table String Value} {v : Value}
    (hfs : P (.dict fs)) (p : Path) (hv : P v) : P (.dict (Path.set fs p v)) := by
  fun_induction Path.set fs p v with
  | case1 => exact hfs
  | case2 fs k v => exact hP.put k hfs hv
  | case3 fs k p v _ ih =>
    refine hP.put k hfs (ih ?_ hv)
    cases hold : Table.value? fs k with
    | none => exact hP.empty
    | some w => cases w with
      | dict gs => exact hP.part hfs hold
      | _ => exact hP.empty

theorem Nests.get {P : Value → Prop} (hP : Nests P) (hnull : P .null) {v : Value} (hv : P v)
    (p : Path) : P (Path.get v p) := by
  induction p generalizing v with
  | nil => rwa [Path.get_nil]
  | cons k p ih => cases v with
    | dict fs =>
      rw [Path.get_dict_cons]
      cases hold : Table.value? fs k with
      | none => rwa [Value.orNull, Option.getD_none, Path.get_null]
      | some w => exact ih (hP.part hv hold)
    | _ => exact hnull

end Path

namespace Value

theorem nests_wellFormed : Path.Nests WellFormed where
  empty := ⟨List.nodup_nil, trivial⟩
  part h hv := wellFormed_of_value? h.2 hv
  put k hfs hv := ⟨Table.nodup_keys_put hfs.1 k _,
    (fieldsWellFormed_iff _).mpr (Table.forall_put ((fieldsWellFormed_iff _).mp hfs.2) hv)⟩

theorem nests_isFinite : Path.Nests fun v => v.isFinite = true where
  empty := rfl
  part h hv := isFinite_of_value? h hv
  put _ hfs hv := (haveFinite_iff _).mpr (Table.forall_put ((haveFinite_iff _).mp hfs) hv)

/-- What is kept of a tree holds at every place what is kept of the value there. -/
theorem get_kept {v : Value} (hv : v.WellFormed) (p : Path) :
    Path.get v.kept p = (Path.get v p).kept := by
  induction p generalizing v with
  | nil => rw [Path.get_nil, Path.get_nil]
  | cons k p ih =>
    cases v with
    | dict fs =>
      have hkeys : (Table.keys (keptFields fs)).Nodup := by
        rw [keys_keptFields]
        exact hv.1
      rw [kept_dict, Table.ofEntries_of_nodup hkeys, Path.get_dict_cons, Path.get_dict_cons,
        value?_keptFields]
      cases hold : Table.value? fs k with
      | none => rw [Option.map_none, orNull, Option.getD_none, Path.get_null, kept_null]
      | some w => exact ih (wellFormed_of_value? hv.2 hold)
    | float x =>
      rw [kept, finiteOnly]
      split
      · rw [reread, rereadFloat_eq]
        rfl
      · rfl
    | list xs => rw [kept_list]; rfl
    | _ => rfl

end Value

namespace Context
variable {c : Context}

theorem dict_data_kept (hid : c.hasReadableId = true) (hc : c.isLegible = true) :
    Value.dict c.kept.data = (Value.dict c.data).kept := by
  rw [kept_of_legible hid hc, repair_eq, Value.kept_dict]
  rfl

/-- Data in which all is finite stay as they are. -/
theorem data_kept_of_isFinite (hid : c.hasReadableId = true) (hc : c.isLegible = true)
    (hwell : (Value.dict c.data).WellFormed) (hfinite : (Value.dict c.data).isFinite = true) :
    c.kept.data = c.data := by
  have hkept := dict_data_kept hid hc
  rw [Value.kept_of_isFinite hwell hfinite] at hkept
  exact Value.dict.inj hkept

end Context

end Dialogue
