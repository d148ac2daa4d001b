import Dialogue.Proofs.Context.Rules
import Dialogue.Proofs.Contexts.Sanity

/-! Fields that are set by name. Either all that may be set are taken and the context is written
with them, or one is turned down and nothing is written. Names that may not be set make no
difference but for a warning. -/
namespace Dialogue

namespace Notice

/-- The names that a warning about rejected fields lists. -/
def rejected? : Notice → Option (List String)
  | contextFieldsRejected names => some names
  | _ => none

end Notice

namespace Context

theorem not_rejected_of_mem_repair (c : Context) : ∀ n ∈ c.repair.2, n.rejected? = none := by
  intro n hn
  rw [eq_of_mem_repair hn]
  rfl

theorem not_rejected_of_mem_decode (now : String) (externalId humanId : Int)
    (blob : Option String) : ∀ n ∈ (decode now externalId humanId blob).2, n.rejected? = none := by
  intro n hn
  rcases eq_of_mem_decode hn with rfl | rfl <;> rfl

end Context

namespace Contexts
open Turn Schema

/-- Each value that is given for a field that may be set is taken by its rule. -/
def Taken (now : String) (fields : Table String Value) : Prop :=
  ∀ name ∈ mutableFields, ∀ v, Table.value? fields name = some v →
    ∃ u, Context.rule now name v = .ok u

/-- `d` is `c` but for the fields that are given and may be set: these are as their rules take
them. -/
structure Merged (now : String) (fields : Table String Value) (c d : Context) : Prop where
  given : ∀ name ∈ mutableFields, ∀ v, Table.value? fields name = some v →
    ∃ u, Context.rule now name v = .ok u ∧ Table.value? d.toFields name = some u
  other : ∀ name, (name ∈ mutableFields → Table.value? fields name = none) →
    Table.value? d.toFields name = Table.value? c.toFields name

/-- One warning lists the names that may not be set, in order, unless there are none. -/
def Warned (fields : Table String Value) (ns : List Notice) : Prop :=
  ∃ names : List String, names.Perm ((Table.keys fields).filter fun k => k ∉ mutableFields) ∧
    names.Pairwise (· ≤ ·) ∧ ns.filterMap Notice.rejected? = if names = [] then [] else [names]

/-- The fields of a context with those that are given and may be set. -/
def overlaid (c : Context) (fields : Table String Value) : Table String Value :=
  Table.putAll c.toFields (fields.filter fun e => e.1 ∈ mutableFields)

section
variable {now : String} {fields : Table String Value} {c d : Context}

theorem mem_fieldNames_of_mem_mutableFields {name : String} (h : name ∈ mutableFields) :
    name ∈ Context.fieldNames := List.mem_of_mem_drop h

theorem Merged.externalId (h : Merged now fields c d) : d.externalId = c.externalId := by
  have hsame := h.other "external_id" fun hname => absurd hname (by decide)
  exact Value.int.inj (Option.some.inj hsame)

theorem Merged.humanId (h : Merged now fields c d) : d.humanId = c.humanId := by
  have hsame := h.other "human_id" fun hname => absurd hname (by decide)
  exact Value.int.inj (Option.some.inj hsame)

variable (hfields : (Table.keys fields).Nodup)
include hfields

theorem value?_overlaid (name : String) : Table.value? (overlaid c fields) name =
    (if name ∈ mutableFields then Table.value? fields name else none).or
      (Table.value? c.toFields name) := by
  have hnodup : (Table.keys (fields.filter fun e => decide (e.1 ∈ mutableFields))).Nodup :=
    hfields.sublist (List.filter_sublist.map _)
  rw [overlaid, Table.value?_putAll_of_nodup _ hnodup,
    Table.value?_filter_key fields (fun k => decide (k ∈ mutableFields))]
  simp only [decide_eq_true_eq]

theorem value?_overlaid_of_given {name : String} (hname : name ∈ mutableFields) {v : Value}
    (hv : Table.value? fields name = some v) :
    Table.value? (overlaid c fields) name = some v := by
  rw [value?_overlaid hfields, if_pos hname, hv]
  rfl

theorem value?_overlaid_of_not_given {name : String}
    (h : name ∈ mutableFields → Table.value? fields name = none) :
    Table.value? (overlaid c fields) name = Table.value? c.toFields name := by
  rw [value?_overlaid hfields]
  split
  · rename_i hname
    rw [h hname]
    rfl
  · rfl

theorem taken_of_readFields (h : Context.readFields now (.dict (overlaid c fields)) = .ok d) :
    Taken now fields := by
  intro name hname v hv
  obtain ⟨u, hu, -⟩ := Context.rule_of_readFields h (mem_fieldNames_of_mem_mutableFields hname)
    (value?_overlaid_of_given hfields hname hv)
  exact ⟨u, hu⟩

theorem merged_of_readFields (h : Context.readFields now (.dict (overlaid c fields)) = .ok d) :
    Merged now fields c d where
  given name hname v hv := Context.rule_of_readFields h
    (mem_fieldNames_of_mem_mutableFields hname) (value?_overlaid_of_given hfields hname hv)
  other name hname := by
    by_cases hfield : name ∈ Context.fieldNames
    · obtain ⟨v, hv, hown⟩ := Context.exists_own now c hfield
      obtain ⟨u, hu, hsame⟩ := Context.rule_of_readFields h hfield
        ((value?_overlaid_of_not_given hfields hname).trans hv)
      rw [hv, hsame, Except.ok.inj (hu.symm.trans hown)]
    · have hnone (e : Context) : Table.value? e.toFields name = none := by
        rw [← Option.not_isSome_iff_eq_none]
        exact fun hsome => hfield ((Table.mem_keys_iff e.toFields name).mpr hsome)
      rw [hnone, hnone]

/-- What is given or own stands in the fields that are read. -/
private theorem of_value?_overlaid {name : String} {v : Value}
    (hv : Table.value? (overlaid c fields) name = some v) :
    Table.value? fields name = some v ∨ Table.value? c.toFields name = some v := by
  rw [value?_overlaid hfields, Option.or_eq_some_iff] at hv
  rcases hv with hgiven | ⟨-, hown⟩
  · split at hgiven
    · exact .inl hgiven
    · cases hgiven
  · exact .inr hown

theorem legible_of_readFields (h : Context.readFields now (.dict (overlaid c fields)) = .ok d)
    (hreadable : Value.readableFields fields = true) (hc : c.isReadable = true) :
    d.isLegible = true := by
  refine (Context.readFields_iff.mp h).legible fun name v _ _ hv => ?_
  rcases of_value?_overlaid hfields hv with hgiven | hown
  · exact Value.isReadable_of_value? hreadable hgiven
  · exact Value.isReadable_of_value? hc hown

theorem wellFormed_of_readFields (h : Context.readFields now (.dict (overlaid c fields)) = .ok d)
    (hwell : (Value.dict fields).WellFormed) (hc : (Value.dict c.data).WellFormed) :
    (Value.dict d.data).WellFormed := by
  have hown : Table.value? c.toFields "data" = some (.dict c.data) := rfl
  obtain ⟨v, hv⟩ : ∃ v, Table.value? (overlaid c fields) "data" = some v := by
    rw [value?_overlaid hfields, hown]
    cases (if "data" ∈ mutableFields then Table.value? fields "data" else none) with
    | none => exact ⟨_, rfl⟩
    | some v => exact ⟨v, rfl⟩
  have hdata := (Context.readFields_iff.mp h).data
  rw [fieldOr, hv] at hdata
  have hread : dict v = .ok d.data := Checked.under_eq_ok.mp hdata
  have hsame : v = .dict d.data := by
    cases v with
    | dict gs => rw [Except.ok.inj hread]
    | _ => cases hread
  rw [← hsame]
  rcases of_value?_overlaid hfields hv with hgiven | hown'
  · exact Value.wellFormed_of_value? hwell.2 hgiven
  · rw [← Option.some.inj (hown.symm.trans hown')]
    exact hc

theorem exists_readFields_of_taken (c : Context) (h : Taken now fields) :
    ∃ d, Context.readFields now (.dict (overlaid c fields)) = .ok d := by
  refine Context.exists_readFields fun name hname => ?_
  by_cases hgiven : name ∈ mutableFields ∧ ∃ v, Table.value? fields name = some v
  · obtain ⟨hmutable, v, hv⟩ := hgiven
    obtain ⟨u, hu⟩ := h name hmutable v hv
    exact ⟨v, u, value?_overlaid_of_given hfields hmutable hv, hu⟩
  · obtain ⟨v, hv, hown⟩ := Context.exists_own now c hname
    refine ⟨v, v, (value?_overlaid_of_not_given hfields fun hmutable => ?_).trans hv, hown⟩
    rw [Option.eq_none_iff_forall_ne_some]
    exact fun w hw => hgiven ⟨hmutable, w, hw⟩

end

section
variable {w : World} {actor : Int} {c : Context} (hs : w.scene.Reliable)
  (hc : w.store.context? w.now actor = some c)
  {change : Context → Checked (Context × List Notice)}
include hs hc

/-- No read of a context reports rejected fields. -/
private theorem exists_get_reporting : ∃ ns, (∀ n ∈ ns, n.rejected? = none) ∧
    on (Contexts.get actor) w = (.ok (some c), { w with
      storeTasks := w.storeTasks + 2
      notices := w.notices ++ ns }) := by
  obtain ⟨-, hresolve⟩ := Store.context?_identity hc
  obtain ⟨blob, hload⟩ := Store.load_of_resolve hresolve
  have hget := on_get_of_resolve (hs.writesAt _).1 hresolve hload
  have hread : c = (Context.decode w.now actor c.humanId blob).1 := by
    rw [Store.context?, hresolve] at hc
    simp only [hload] at hc
    exact (Option.some.inj hc).symm
  rw [← hread] at hget
  exact ⟨_, Context.not_rejected_of_mem_decode w.now actor c.humanId blob, hget⟩

/-- A change that is turned down is not written. -/
theorem exists_amend_of_error {complaints : List Complaint}
    (hchange : change c = .error complaints) :
    ∃ v ns, on (amend actor change) w = (.ok none, v) ∧ v.store = w.store ∧
      v.notices = w.notices ++ ns ∧ ∀ n ∈ ns, n.rejected? = none := by
  obtain ⟨ns, hns, hget⟩ := exists_get_reporting hs hc
  rw [amend, guarded, on_rescue, on_bind, hget]
  simp only [hchange]
  refine ⟨_, ns ++ [.contextOperationFailed], rfl, rfl, List.append_assoc .., ?_⟩
  intro n hn
  rcases List.mem_append.mp hn with hn | hn
  · exact hns n hn
  · rw [List.mem_singleton.mp hn]
    rfl

theorem exists_amend_of_ok {r : Context × List Notice} (hchange : change c = .ok r)
    (hexternal : r.1.externalId = c.externalId) (hhuman : r.1.humanId = c.humanId)
    (hr : ∀ n ∈ r.2, n.rejected? = none) :
    ∃ v ns, on (amend actor change) w = (.ok (some r.1), v) ∧
      w.store.Saved v.store actor r.1.encode ∧
      v.notices = w.notices ++ ns ∧ ∀ n ∈ ns, n.rejected? = none := by
  obtain ⟨hactor, hresolve⟩ := Store.context?_identity hc
  obtain ⟨ns, hns, hget⟩ := exists_get_reporting hs hc
  have hactor' : r.1.externalId = actor := hexternal.trans hactor
  let u : World := { w with
    storeTasks := w.storeTasks + 2
    notices := w.notices ++ ns ++ r.2 }
  have hknown : u.store.resolve r.1.externalId = .ok (some r.1.humanId) := by
    rw [hactor', hhuman]
    exact hresolve
  obtain ⟨s, hput, hsaved⟩ := on_put_text (w := u) hknown (hs _ _)
  have hchange : change c = Except.ok r := hchange
  refine ⟨{ u with store := s, storeTasks := u.storeTasks + 1 }, ns ++ r.2, ?_, hactor' ▸ hsaved,
    List.append_assoc .., ?_⟩
  · rw [amend, guarded, on_rescue, on_bind, hget]
    simp only [hchange, on_bind, on_noted]
    rw [hput]
    rfl
  · intro n hn
    exact (List.mem_append.mp hn).elim (hns n) (hr n)

end

/-- A sound context that was written is read as it is, but for numbers that are not finite. -/
private theorem context?_of_saved {s t : Store} {d : Context}
    (h : s.Saved t d.externalId d.encode)
    (hresolve : s.resolve d.externalId = .ok (some d.humanId)) (hsound : d.Sound)
    (hdata : (Value.dict d.data).WellFormed) (hreadable : d.isReadable = true) (now : String) :
    t.context? now d.externalId = some { d with data := Value.finiteFields d.data } := by
  rw [h.own hresolve now, ← Context.decode_encode_fst now,
    (Context.decode_encode_of_sound now hsound hdata hreadable).1]

section
variable {w : World} {actor : Int} {c : Context} {fields : Table String Value}

/-- Before anything else it is reported what is dropped. -/
private theorem on_update (actor : Int) (fields : Table String Value) (w : World) :
    ∃ ns, Warned fields ns ∧ on (update actor fields) w =
      on (amend actor fun c => Context.read w.now (.dict (overlaid c fields)))
        { w with notices := w.notices ++ ns } := by
  let refused := (Table.keys fields).filter fun k => k ∉ mutableFields
  let names := refused.mergeSort fun a b => decide (a ≤ b)
  have hperm : names.Perm refused := List.mergeSort_perm ..
  have hordered : names.Pairwise (· ≤ ·) := by
    refine (List.pairwise_mergeSort ?_ ?_ refused).imp of_decide_eq_true
    · intro a b d hab hbd
      exact decide_eq_true (String.le_trans (of_decide_eq_true hab) (of_decide_eq_true hbd))
    · intro a b
      rw [Bool.or_eq_true, decide_eq_true_eq, decide_eq_true_eq]
      exact String.le_total a b
  by_cases hnone : refused = []
  · refine ⟨[], ⟨names, hperm, hordered, ?_⟩, ?_⟩
    · have hnames : names = [] := by
        rw [← List.perm_nil, ← hnone]
        exact hperm
      rw [if_pos hnames]
      rfl
    · have hempty : refused.isEmpty = true := List.isEmpty_iff.mpr hnone
      simp only [update, refused] at hempty ⊢
      rw [hempty, if_neg (by decide), List.append_nil]
      rfl
  · refine ⟨[.contextFieldsRejected names], ⟨names, hperm, hordered, ?_⟩, ?_⟩
    · have hnames : names ≠ [] := by
        intro hnames
        rw [hnames] at hperm
        exact hnone (List.nil_perm.mp hperm)
      rw [if_neg hnames]
      rfl
    · have hsome : refused.isEmpty = false := List.isEmpty_eq_false_iff.mpr hnone
      simp only [update, refused] at hsome ⊢
      rw [hsome, if_pos (by decide)]
      rfl

private theorem Warned.append {ns ms : List Notice} (h : Warned fields ns)
    (hms : ∀ n ∈ ms, n.rejected? = none) : Warned fields (ns ++ ms) := by
  obtain ⟨names, hperm, hordered, hns⟩ := h
  refine ⟨names, hperm, hordered, ?_⟩
  rw [List.filterMap_append, List.filterMap_eq_nil_iff.mpr hms, List.append_nil, hns]

variable (hc : w.store.context? w.now actor = some c)
include hc

private theorem context?_of_merged {t : Store} {d : Context}
    (hfields : (Value.dict fields).WellFormed)
    (hd : Context.readFields w.now (.dict (overlaid c fields)) = .ok d)
    (hsaved : w.store.Saved t actor d.repair.1.encode)
    (hreadable : Value.readableFields fields = true) (hid : c.hasReadableId = true)
    (now : String) :
    t.context? now actor = some { d.repair.1 with data := Value.finiteFields d.data } ∧
      (Value.haveFinite d.data = true → t.context? now actor = some d.repair.1) := by
  obtain ⟨hactor, hresolve⟩ := Store.context?_identity hc
  have hmerged := merged_of_readFields hfields.1 hd
  have hexternal := d.repair_identity.1.trans hmerged.externalId
  have hhuman := d.repair_identity.2.trans hmerged.humanId
  have hreadable' : c.isReadable = true := by
    rw [Context.isReadable_eq, hid, Store.context?_legible hc]
    rfl
  have hlegible := Context.repair_legible
    (legible_of_readFields hfields.1 hd hreadable hreadable')
  have hid' : d.repair.1.hasReadableId = true := by
    rw [Context.hasReadableId, hexternal, hhuman]
    exact hid
  have hdata : d.repair.1.data = d.data := by rw [Context.repair_eq]
  have hwell : (Value.dict d.repair.1.data).WellFormed := by
    rw [hdata]
    exact wellFormed_of_readFields hfields.1 hd hfields (Store.context?_wellFormed hc)
  have hknown : w.store.resolve d.repair.1.externalId = .ok (some d.repair.1.humanId) := by
    rw [hexternal, hactor, hhuman, hresolve]
  have hagain : t.context? now d.repair.1.externalId =
      some { d.repair.1 with data := Value.finiteFields d.repair.1.data } := by
    refine context?_of_saved ?_ hknown d.repair_sound hwell ?_ now
    · rw [hexternal, hactor]
      exact hsaved
    · rw [Context.isReadable_eq, hid', hlegible]
      rfl
  rw [hexternal, hactor, hdata] at hagain
  refine ⟨hagain, fun hfinite => ?_⟩
  rw [hagain, Value.finiteFields_of_haveFinite _ hfinite, ← hdata]

variable (hs : w.scene.Reliable)
include hs

end

/-- An actor of whom nothing is kept. -/
def newcomer : World := { store := .memory { actors := [(1, 4)] } }

/-- Fields to be set, two of which may not be. -/
def wishes : Table String Value :=
  [("human_id", .int 9), ("current_flow", .text "offer"), ("bogus", .null),
    ("current_step", .text "2"), ("flow_mode", .int 1)]

/-- Data with a number that is not finite. -/
def blurred : Value := .dict [("x", .float Binary64.quietNaN)]

end Contexts

end Dialogue
