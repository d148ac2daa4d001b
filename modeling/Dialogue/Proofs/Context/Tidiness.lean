import Dialogue.Context.Progress
import Dialogue.Proofs.Context.Keeping

/-! What holds of every context that was read after it was written: it is sound, no key of its
data stands twice, and all that it holds beside the identity can be read again. -/
namespace Dialogue

theorem Decimal.isReadable_zero : isReadable 0 = true := by decide

namespace Value

theorem readable_put {fs : Table String Value} (h : readableFields fs = true) (k : String)
    {v : Value} (hv : v.isReadable = true) : readableFields (Table.put fs k v) = true := by
  rw [readableFields_iff] at h ⊢
  exact Table.forall_put h hv

theorem isReadable_of_value? {fs : Table String Value} (h : readableFields fs = true) {k : String}
    {v : Value} (hv : Table.value? fs k = some v) : v.isReadable = true :=
  (readableFields_iff fs).mp h (k, v) (Table.mem_of_value? hv)

private theorem readable_entries {fs : Table String Value} (h : readableFields fs = true)
    (k : String) : readableFields (Path.entries (Table.value? fs k)) = true := by
  cases hv : Table.value? fs k with
  | none => rfl
  | some v =>
    have hread := isReadable_of_value? h hv
    cases v with
    | dict gs => exact hread
    | _ => rfl

theorem readable_set {fs : Table String Value} (h : readableFields fs = true) (p : Path) {v : Value}
    (hv : v.isReadable = true) : readableFields (Path.set fs p v) = true := by
  fun_induction Path.set fs p v with
  | case1 => exact h
  | case2 fs k v => exact readable_put h k hv
  | case3 fs k p v _ ih => exact readable_put h k (ih (readable_entries h k) hv)

end Value

namespace Context

/-- Both numbers of the identity can be read. -/
def hasReadableId (c : Context) : Bool :=
  Decimal.isReadable c.externalId && Decimal.isReadable c.humanId

/-- All other numbers can be read. -/
def isLegible (c : Context) : Bool :=
  Decimal.isReadable c.currentStep && Value.readableFields c.data
    && c.history.all (Decimal.isReadable ·.step) && c.topicId.all Decimal.isReadable
    && c.adminChatId.all Decimal.isReadable && c.targetUserId.all Decimal.isReadable

private theorem isReadable_ofOption (o : Option Int) :
    (Value.ofOption .int o).isReadable = o.all Decimal.isReadable := by
  cases o <;> rfl

private theorem readableItems_history (vs : List Visit) :
    Value.readableItems (vs.map (·.toValue)) = vs.all (Decimal.isReadable ·.step) := by
  induction vs with
  | nil => rfl
  | cons v vs ih =>
    have hv : v.toValue.isReadable = Decimal.isReadable v.step := by
      simp [Visit.toValue, Value.isReadable, Value.readableFields]
    rw [List.map_cons, Value.readableItems, ih, hv, List.all_cons]

theorem isReadable_eq (c : Context) : c.isReadable = (c.hasReadableId && c.isLegible) := by
  simp only [isReadable, toFields, Value.readableFields, isReadable_ofOption, Value.isReadable,
    readableItems_history, hasReadableId, isLegible, Bool.true_and, Bool.and_true, Bool.and_assoc]

theorem isLegible_iff {c : Context} : c.isLegible = true ↔
    Decimal.isReadable c.currentStep = true ∧ Value.readableFields c.data = true ∧
      c.history.all (Decimal.isReadable ·.step) = true ∧
      c.topicId.all Decimal.isReadable = true ∧ c.adminChatId.all Decimal.isReadable = true ∧
      c.targetUserId.all Decimal.isReadable = true := by
  simp only [isLegible, Bool.and_eq_true, and_assoc]

structure Tidy (c : Context) : Prop where
  legible : c.isLegible = true
  nodup : (Table.keys c.data).Nodup
  sound : c.Sound

theorem fresh_tidy (externalId humanId : Int) : (fresh externalId humanId).Tidy := by
  refine ⟨?_, List.nodup_nil, rfl, rfl⟩
  simp only [isLegible, fresh]
  decide

theorem adminChat_legible {c : Context} (h : c.isLegible = true) :
    c.adminChatId.all Decimal.isReadable = true := by
  obtain ⟨-, -, -, -, hchat, -⟩ := isLegible_iff.mp h
  exact hchat

theorem repair_eq (c : Context) : c.repair.1 =
    { c with
      inTopic := c.inTopic && c.topicSound
      currentStep := if c.stepSound then c.currentStep else 0 } := by
  have hsame : ({ c with inTopic := false } : Context).stepSound = c.stepSound := rfl
  cases htopic : c.topicSound <;> cases hstep : c.stepSound <;>
    simp [repair, htopic, hstep, hsame]

/-- Where nothing is broken, nothing is repaired or reported. -/
theorem repair_eq_self {c : Context} (h : c.Sound) : c.repair = (c, []) := by
  simp only [repair, h.1, h.2, if_true]
  rfl

theorem repair_of_sound {c : Context} (h : c.Sound) : c.repair.1 = c :=
  congrArg Prod.fst (repair_eq_self h)

theorem repair_sound (c : Context) : c.repair.1.Sound := by
  rw [repair_eq]
  refine ⟨?_, ?_⟩
  · cases h : c.topicSound with
    | true => simpa [topicSound] using h
    | false => simp [topicSound]
  · cases h : c.stepSound with
    | true => simpa [stepSound, isIdle] using h
    | false => simp [stepSound]

theorem repair_legible {c : Context} (h : c.isLegible = true) : c.repair.1.isLegible = true := by
  obtain ⟨hstep, hdata, hhistory, htopic, hchat, htarget⟩ := isLegible_iff.mp h
  rw [repair_eq]
  refine isLegible_iff.mpr ⟨?_, hdata, hhistory, htopic, hchat, htarget⟩
  change Decimal.isReadable (if c.stepSound then c.currentStep else 0) = true
  split
  · exact hstep
  · exact Decimal.isReadable_zero

theorem settled_legible {c : Context} (h : c.isLegible = true) : c.settled.isLegible = true := by
  obtain ⟨hstep, hdata, hhistory, htopic, hchat, htarget⟩ := isLegible_iff.mp h
  have hkept := Value.isReadable_kept (v := .dict c.data) hdata
  rw [Value.kept_dict] at hkept
  exact isLegible_iff.mpr ⟨hstep, hkept, hhistory, htopic, hchat, htarget⟩

theorem kept_tidy (c : Context) : c.kept.Tidy := by
  rw [kept]
  split
  · rename_i h
    rw [isReadable_eq, Bool.and_eq_true] at h
    have hnodup : (Table.keys c.settled.repair.1.data).Nodup := by
      rw [repair_eq]
      exact Table.nodup_keys_ofEntries _
    exact ⟨repair_legible (settled_legible h.2), hnodup, repair_sound _⟩
  · exact fresh_tidy ..

theorem setData_legible {c : Context} (h : c.isLegible = true) (p : Path) {v : Value}
    (hv : v.isReadable = true) : (c.setData p v).isLegible = true := by
  obtain ⟨hstep, hdata, hrest⟩ := isLegible_iff.mp h
  exact isLegible_iff.mpr ⟨hstep, Value.readable_set hdata p hv, hrest⟩

theorem visit_legible {c : Context} (h : c.isLegible = true) (flow : String) {step : Int}
    (hs : Decimal.isReadable step = true) (now : String) :
    (c.visit flow step now).isLegible = true := by
  obtain ⟨-, hdata, hhistory, hids⟩ := isLegible_iff.mp h
  refine isLegible_iff.mpr ⟨hs, hdata, ?_, hids⟩
  rw [List.all_eq_true] at hhistory ⊢
  intro v hv
  obtain hv | hv := List.mem_append.mp (List.mem_of_mem_drop hv)
  · exact hhistory v hv
  · rw [List.mem_singleton.mp hv]
    exact hs

theorem began_legible {c : Context} (h : c.isLegible = true) (flow : String) :
    (c.began flow).isLegible = true := by
  obtain ⟨-, hdata, hhistory, -⟩ := isLegible_iff.mp h
  exact isLegible_iff.mpr ⟨Decimal.isReadable_zero, hdata, hhistory, rfl, rfl, rfl⟩

theorem beganInTopic_legible {c : Context} (h : c.isLegible = true) (flow : String)
    {topic chat target : Option Int} (ht : topic.all Decimal.isReadable = true)
    (ha : chat.all Decimal.isReadable = true) (hu : target.all Decimal.isReadable = true) :
    (c.beganInTopic flow topic chat target).isLegible = true := by
  obtain ⟨-, hdata, hhistory, -⟩ := isLegible_iff.mp h
  exact isLegible_iff.mpr ⟨Decimal.isReadable_zero, hdata, hhistory, ht, ha, hu⟩

theorem ended_legible {c : Context} (h : c.isLegible = true) : c.ended.isLegible = true := by
  obtain ⟨-, hdata, hhistory, -⟩ := isLegible_iff.mp h
  exact isLegible_iff.mpr ⟨Decimal.isReadable_zero, hdata, hhistory, rfl, rfl, rfl⟩

/-- As long as it can be read, a context that is kept only changes by the repair and in the
floating-point numbers of its data. -/
theorem kept_of_legible {c : Context} (hid : c.hasReadableId = true) (h : c.isLegible = true) :
    c.kept = c.settled.repair.1 := by
  rw [kept, isReadable_eq, hid, h]
  rfl

theorem currentFlow_kept {c : Context} (hid : c.hasReadableId = true) (h : c.isLegible = true) :
    c.kept.currentFlow = c.currentFlow := by
  rw [kept_of_legible hid h, repair_eq]
  rfl

theorem hasReadableId_kept (c : Context) : c.kept.hasReadableId = c.hasReadableId := by
  rw [kept]
  split
  · rw [repair_eq]
    rfl
  · rfl

end Context

end Dialogue
