import Dialogue.Proofs.Context.Losslessness

/-! The fields of contexts one by one. Each has a rule, which takes some values and turns down
others; a context is read from its fields exactly where all rules take theirs. -/
namespace Dialogue

namespace Context
open Schema

/-- What the rule of a field makes of a value that is given for it. -/
def rule (now name : String) (v : Value) : Checked Value :=
  match name with
  | "external_id" | "human_id" | "current_step" => (whole v).map .int
  | "current_flow" => (string v).map .text
  | "data" => (dict v).map .dict
  | "step_history" => (list (Visit.read now) v).map fun vs => .list (vs.map (·.toValue))
  | "message_forwarding_enabled" | "flow_mode" | "flow_in_topic" => (truth v).map .bool
  | "topic_id" | "admin_chat_id" | "target_user_id" =>
    (Schema.optional whole v).map (Value.ofOption .int)
  | _ => .ok v

section
variable {now : String} {fs : Table String Value} {c d : Context}

private theorem map_of_fieldOr {α : Type} {name : String} {default a : α} {read : Reader α}
    {v : Value} (h : fieldOr fs name default read = .ok a) (hv : Table.value? fs name = some v)
    (wrap : α → Value) : (read v).map wrap = .ok (wrap a) := by
  rw [fieldOr, hv] at h
  rw [Checked.under_eq_ok.mp h]
  rfl

private theorem map_of_required {α : Type} {name : String} {a : α} {read : Reader α} {v : Value}
    (h : required fs name read = .ok a) (hv : Table.value? fs name = some v)
    (wrap : α → Value) : (read v).map wrap = .ok (wrap a) := by
  rw [required, hv] at h
  have hread : read v = .ok a := Checked.under_eq_ok.mp h
  rw [hread]
  rfl

/-- What was read has each field as its rule takes it. -/
theorem rule_of_readFields (h : readFields now (.dict fs) = .ok d) {name : String} {v : Value}
    (hname : name ∈ fieldNames) (hv : Table.value? fs name = some v) :
    ∃ u, rule now name v = .ok u ∧ Table.value? d.toFields name = some u := by
  have hread := readFields_iff.mp h
  simp only [fieldNames, List.mem_cons, List.not_mem_nil, or_false] at hname
  rcases hname with rfl | rfl | rfl | rfl | rfl | rfl | rfl | rfl | rfl | rfl | rfl | rfl
  · exact ⟨_, map_of_required hread.externalId hv _, rfl⟩
  · exact ⟨_, map_of_required hread.humanId hv _, rfl⟩
  · exact ⟨_, map_of_fieldOr hread.currentFlow hv _, rfl⟩
  · exact ⟨_, map_of_fieldOr hread.currentStep hv _, rfl⟩
  · exact ⟨_, map_of_fieldOr hread.data hv _, rfl⟩
  · exact ⟨_, map_of_fieldOr hread.history hv _, rfl⟩
  · exact ⟨_, map_of_fieldOr hread.forwarding hv _, rfl⟩
  · exact ⟨_, map_of_fieldOr hread.flowMode hv _, rfl⟩
  · exact ⟨_, map_of_fieldOr hread.inTopic hv _, rfl⟩
  · exact ⟨_, map_of_fieldOr hread.topicId hv _, rfl⟩
  · exact ⟨_, map_of_fieldOr hread.adminChatId hv _, rfl⟩
  · exact ⟨_, map_of_fieldOr hread.targetUserId hv _, rfl⟩

private theorem exists_fieldOr {α : Type} {name : String} (default : α) {read : Reader α}
    {wrap : α → Value} {v u : Value} (hv : Table.value? fs name = some v)
    (hu : (read v).map wrap = .ok u) : ∃ a, fieldOr fs name default read = .ok a := by
  obtain ⟨a, ha, -⟩ := Checked.map_eq_ok hu
  rw [fieldOr, hv]
  exact ⟨a, Checked.under_eq_ok.mpr ha⟩

private theorem exists_required {α : Type} {name : String} {read : Reader α}
    {wrap : α → Value} {v u : Value} (hv : Table.value? fs name = some v)
    (hu : (read v).map wrap = .ok u) : ∃ a, required fs name read = .ok a := by
  obtain ⟨a, ha, -⟩ := Checked.map_eq_ok hu
  rw [required, hv]
  exact ⟨a, Checked.under_eq_ok.mpr ha⟩

/-- Where each field is there and its rule takes it, a context is read. -/
theorem exists_readFields (h : ∀ name ∈ fieldNames, ∃ v u, Table.value? fs name = some v ∧
    rule now name v = .ok u) : ∃ d, readFields now (.dict fs) = .ok d := by
  simp only [fieldNames, List.forall_mem_cons] at h
  obtain ⟨⟨_, _, hv₁, hu₁⟩, ⟨_, _, hv₂, hu₂⟩, ⟨_, _, hv₃, hu₃⟩, ⟨_, _, hv₄, hu₄⟩, ⟨_, _, hv₅, hu₅⟩,
    ⟨_, _, hv₆, hu₆⟩, ⟨_, _, hv₇, hu₇⟩, ⟨_, _, hv₈, hu₈⟩, ⟨_, _, hv₉, hu₉⟩, ⟨_, _, hv₁₀, hu₁₀⟩,
    ⟨_, _, hv₁₁, hu₁₁⟩, ⟨_, _, hv₁₂, hu₁₂⟩, -⟩ := h
  obtain ⟨externalId, h₁⟩ := exists_required hv₁ hu₁
  obtain ⟨humanId, h₂⟩ := exists_required hv₂ hu₂
  obtain ⟨currentFlow, h₃⟩ := exists_fieldOr "" hv₃ hu₃
  obtain ⟨currentStep, h₄⟩ := exists_fieldOr 0 hv₄ hu₄
  obtain ⟨data, h₅⟩ := exists_fieldOr [] hv₅ hu₅
  obtain ⟨history, h₆⟩ := exists_fieldOr [] hv₆ hu₆
  obtain ⟨forwarding, h₇⟩ := exists_fieldOr true hv₇ hu₇
  obtain ⟨flowMode, h₈⟩ := exists_fieldOr false hv₈ hu₈
  obtain ⟨inTopic, h₉⟩ := exists_fieldOr false hv₉ hu₉
  obtain ⟨topicId, h₁₀⟩ := exists_fieldOr none hv₁₀ hu₁₀
  obtain ⟨adminChatId, h₁₁⟩ := exists_fieldOr none hv₁₁ hu₁₁
  obtain ⟨targetUserId, h₁₂⟩ := exists_fieldOr none hv₁₂ hu₁₂
  let d : Context := ⟨externalId, humanId, currentFlow, currentStep, data, history, forwarding,
    flowMode, inTopic, topicId, adminChatId, targetUserId⟩
  have hd : ReadFrom now fs d := ⟨h₁, h₂, h₃, h₄, h₅, h₆, h₇, h₈, h₉, h₁₀, h₁₁, h₁₂⟩
  exact ⟨d, readFields_iff.mpr hd⟩

/-- What a context has for its fields is what their rules leave as it is. -/
theorem exists_own (now : String) (c : Context) {name : String} (hname : name ∈ fieldNames) :
    ∃ v, Table.value? c.toFields name = some v ∧ rule now name v = .ok v := by
  have hfields : ∃ v, Table.value? c.toFields name = some v := by
    have hkeys : name ∈ Table.keys c.toFields := hname
    exact Option.isSome_iff_exists.mp ((Table.mem_keys_iff ..).mp hkeys)
  obtain ⟨v, hv⟩ := hfields
  obtain ⟨u, hu, hsame⟩ := rule_of_readFields (readFields_toFields now c) hname hv
  rw [hv] at hsame
  exact ⟨v, hv, Option.some.inj hsame ▸ hu⟩

end

end Context

end Dialogue
