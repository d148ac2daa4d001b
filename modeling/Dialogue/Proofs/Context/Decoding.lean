import Dialogue.Proofs.Context.Tidiness
import Dialogue.Proofs.Json.Legibility

/-! Contexts as they are read from any text, be it one that was written or not: what is read is
sound, its numbers can be read again, and the time of reading only stands in for the times of
visits. -/
namespace Dialogue

theorem Decimal.isReadable_of_natAbs_lt {m : Int} {n : Nat} (h : isReadable n = true)
    (hm : m.natAbs < n) : isReadable m = true := by
  simp only [isReadable, Int.natAbs_natCast, decide_eq_true_eq] at h ⊢
  have hlimit : 0 < digitLimit := by decide
  rw [Nat.length_toDigits_le_iff (by decide) hlimit] at h ⊢
  exact Nat.lt_trans hm h

namespace Schema

namespace Checked

theorem apply_eq_ok {α β : Type} {f : Checked (α → β)} {a : Checked α} {b : β}
    (h : f.apply a = .ok b) : ∃ g x, f = .ok g ∧ a = .ok x ∧ g x = b := by
  match f, a with
  | .ok g, .ok x => exact ⟨g, x, rfl, rfl, Except.ok.inj h⟩
  | .ok _, .error _ => cases h
  | .error _, .ok _ => cases h
  | .error _, .error _ => cases h

theorem map_eq_ok {α β : Type} {f : α → β} {a : Checked α} {b : β} (h : a.map f = .ok b) :
    ∃ x, a = .ok x ∧ f x = b := by
  match a with
  | .ok x => exact ⟨x, rfl, Except.ok.inj h⟩
  | .error _ => cases h

theorem under_eq_ok {α : Type} {s : Spot} {a : Checked α} {x : α} :
    a.under s = .ok x ↔ a = .ok x := by
  match a with
  | .ok _ => exact Iff.rfl
  | .error _ => exact iff_of_false nofun nofun

end Checked

theorem readable_wholeFloat {x : Float} {n : Int} (h : wholeFloat x = .ok n) :
    Decimal.isReadable n = true := by
  rw [wholeFloat] at h
  split at h
  · cases h
  split at h
  · cases h
  split at h
  · cases h
  · rename_i hword
    obtain rfl := Except.ok.inj h
    exact Decimal.isReadable_of_natAbs_lt (n := wordBound) (by decide) (Nat.lt_of_not_le hword)

private theorem readable_ofDigits {negative : Bool} {cs : List Char} {n : Int}
    (h : Numeral.ofDigits negative cs = .value n) : Decimal.isReadable n = true := by
  rw [Numeral.ofDigits] at h
  split at h
  · cases h
  · simp only at h
    split at h
    · cases h
    · rename_i hlong
      split at h
      · rw [← Numeral.value.inj h]
        exact Decimal.isReadable_numeral (by omega) negative
      · cases h

theorem readable_wholeText {s : String} {n : Int} (h : wholeText s = .ok n) :
    Decimal.isReadable n = true := by
  rw [wholeText] at h
  split at h
  · rename_i m hm
    obtain rfl := Except.ok.inj h
    rw [Numeral.ofString] at hm
    split at hm
    · unfold Numeral.ofPlain at hm
      split at hm <;> exact readable_ofDigits hm
    · cases hm
  · cases h
  · cases h

/-- A whole number that is read from something readable is readable, whatever it is read from. -/
theorem readable_whole {v : Value} {n : Int} (hv : v.isReadable = true) (h : whole v = .ok n) :
    Decimal.isReadable n = true := by
  cases v with
  | int m => rwa [← Except.ok.inj h]
  | bool b =>
    rw [← Except.ok.inj h]
    cases b <;> decide
  | float x => exact readable_wholeFloat h
  | text s => exact readable_wholeText h
  | null | list | dict => cases h

end Schema

/-- The visit without its time. -/
def Visit.untimed (v : Visit) : Visit := { v with timestamp := "" }

namespace Visit
open Schema

private theorem step_of_read {now : String} {v : Value} {e : Visit} (hv : v.isReadable = true)
    (h : read now v = .ok e) : Decimal.isReadable e.step = true := by
  cases v with
  | dict fs =>
    obtain ⟨_, time, h₁, -, rfl⟩ := Checked.apply_eq_ok h
    obtain ⟨mk, n, h₂, hstep, rfl⟩ := Checked.apply_eq_ok h₁
    obtain ⟨flow, -, rfl⟩ := Checked.map_eq_ok h₂
    change Decimal.isReadable n = true
    rw [required, Checked.under_eq_ok] at hstep
    split at hstep
    · rename_i w hw
      exact readable_whole (Value.isReadable_of_value? hv hw) hstep
    · cases hstep
  | _ => cases h

/-- The time of reading makes no difference but for the time of the visit. -/
private theorem read_at_any_time {now : String} {v : Value} {e : Visit} (h : read now v = .ok e)
    (now' : String) : ∃ e', read now' v = .ok e' ∧ e'.untimed = e.untimed := by
  cases v with
  | dict fs =>
    obtain ⟨_, time, h₁, htime, rfl⟩ := Checked.apply_eq_ok h
    obtain ⟨_, n, h₂, hstep, rfl⟩ := Checked.apply_eq_ok h₁
    obtain ⟨flow, hflow, rfl⟩ := Checked.map_eq_ok h₂
    have hstep : required fs "step" whole = .ok n := hstep
    have htime : fieldOr fs "timestamp" now string = .ok time := htime
    have htime' : ∃ time', fieldOr fs "timestamp" now' string = .ok time' := by
      rw [fieldOr] at htime ⊢
      split at htime
      · exact ⟨time, htime⟩
      · exact ⟨now', rfl⟩
    obtain ⟨time', htime'⟩ := htime'
    refine ⟨⟨flow, n, time'⟩, ?_, rfl⟩
    rw [read, record, hflow, hstep, htime']
    rfl
  | _ => cases h

theorem steps_of_each {now : String} {xs : List Value} {i : Nat} {es : List Visit}
    (hxs : Value.readableItems xs = true) (h : each (read now) i xs = .ok es) :
    es.all (Decimal.isReadable ·.step) = true := by
  induction xs generalizing i es with
  | nil => rw [← Except.ok.inj h]; rfl
  | cons x xs ih =>
    rw [Value.readableItems, Bool.and_eq_true] at hxs
    obtain ⟨_, rest, h₁, hrest, rfl⟩ := Checked.apply_eq_ok h
    obtain ⟨e, he, rfl⟩ := Checked.map_eq_ok h₁
    rw [List.all_cons, step_of_read hxs.1 (Checked.under_eq_ok.mp he), ih hxs.2 hrest]
    rfl

theorem each_at_any_time {now : String} {xs : List Value} {i : Nat} {es : List Visit}
    (h : each (read now) i xs = .ok es) (now' : String) :
    ∃ es', each (read now') i xs = .ok es' ∧ es'.map untimed = es.map untimed := by
  induction xs generalizing i es with
  | nil =>
    refine ⟨[], rfl, ?_⟩
    rw [← Except.ok.inj h]
  | cons x xs ih =>
    obtain ⟨_, rest, h₁, hrest, rfl⟩ := Checked.apply_eq_ok h
    obtain ⟨e, he, rfl⟩ := Checked.map_eq_ok h₁
    obtain ⟨e', he', hsame⟩ := read_at_any_time (Checked.under_eq_ok.mp he) now'
    obtain ⟨rest', hrest', hrests⟩ := ih hrest
    refine ⟨e' :: rest', ?_, ?_⟩
    · have hhead : (read now' x).under (.item i) = .ok e' := Checked.under_eq_ok.mpr he'
      rw [each, hhead, hrest']
      rfl
    · rw [List.map_cons, List.map_cons, hsame, hrests]

end Visit

namespace Context
open Schema

/-- The context without the times of its visits. -/
def untimed (c : Context) : Context := { c with history := c.history.map Visit.untimed }

/-- The fields of a context as they are read one by one. -/
structure ReadFrom (now : String) (fs : Table String Value) (c : Context) : Prop where
  externalId : required fs "external_id" whole = .ok c.externalId
  humanId : required fs "human_id" whole = .ok c.humanId
  currentFlow : fieldOr fs "current_flow" "" string = .ok c.currentFlow
  currentStep : fieldOr fs "current_step" 0 whole = .ok c.currentStep
  data : fieldOr fs "data" [] dict = .ok c.data
  history : fieldOr fs "step_history" [] (list (Visit.read now)) = .ok c.history
  forwarding : fieldOr fs "message_forwarding_enabled" true truth = .ok c.forwarding
  flowMode : fieldOr fs "flow_mode" false truth = .ok c.flowMode
  inTopic : fieldOr fs "flow_in_topic" false truth = .ok c.inTopic
  topicId : optionalField fs "topic_id" whole = .ok c.topicId
  adminChatId : optionalField fs "admin_chat_id" whole = .ok c.adminChatId
  targetUserId : optionalField fs "target_user_id" whole = .ok c.targetUserId

theorem readFields_iff {now : String} {fs : Table String Value} {c : Context} :
    readFields now (.dict fs) = .ok c ↔ ReadFrom now fs c := by
  refine ⟨fun h => ?_, fun h => ?_⟩
  · obtain ⟨_, _, h₁, htarget, rfl⟩ := Checked.apply_eq_ok h
    obtain ⟨_, _, h₂, hchat, rfl⟩ := Checked.apply_eq_ok h₁
    obtain ⟨_, _, h₃, htopic, rfl⟩ := Checked.apply_eq_ok h₂
    obtain ⟨_, _, h₄, hin, rfl⟩ := Checked.apply_eq_ok h₃
    obtain ⟨_, _, h₅, hmode, rfl⟩ := Checked.apply_eq_ok h₄
    obtain ⟨_, _, h₆, hforwarding, rfl⟩ := Checked.apply_eq_ok h₅
    obtain ⟨_, _, h₇, hhistory, rfl⟩ := Checked.apply_eq_ok h₆
    obtain ⟨_, _, h₈, hdata, rfl⟩ := Checked.apply_eq_ok h₇
    obtain ⟨_, _, h₉, hstep, rfl⟩ := Checked.apply_eq_ok h₈
    obtain ⟨_, _, h₁₀, hflow, rfl⟩ := Checked.apply_eq_ok h₉
    obtain ⟨_, _, h₁₁, hhuman, rfl⟩ := Checked.apply_eq_ok h₁₀
    obtain ⟨_, hexternal, rfl⟩ := Checked.map_eq_ok h₁₁
    exact ⟨hexternal, hhuman, hflow, hstep, hdata, hhistory, hforwarding, hmode, hin, htopic,
      hchat, htarget⟩
  · rw [readFields, record, h.externalId, h.humanId, h.currentFlow, h.currentStep, h.data,
      h.history, h.forwarding, h.flowMode, h.inTopic, h.topicId, h.adminChatId, h.targetUserId]
    rfl

theorem eq_of_mem_repair {c : Context} {n : Notice} (hn : n ∈ c.repair.2) :
    n = .contextRepaired := by
  simp only [repair] at hn
  split at hn <;> split at hn <;> simp_all

/-- All that a read reports is that there was nothing to be read, or that it was repaired. -/
theorem eq_of_mem_decode {now : String} {externalId humanId : Int} {blob : Option String}
    {n : Notice} (hn : n ∈ (decode now externalId humanId blob).2) :
    n = .contextBlobInvalid ∨ n = .contextRepaired := by
  cases blob with
  | none => cases hn
  | some s =>
    simp only [decode] at hn
    split at hn
    · cases hn
    split at hn
    · split at hn
      · rename_i hread
        obtain ⟨c, -, rfl⟩ := Checked.map_eq_ok hread
        exact .inr (eq_of_mem_repair hn)
      · exact .inl (List.mem_singleton.mp hn)
    · exact .inl (List.mem_singleton.mp hn)

theorem untimed_repair (c : Context) : c.repair.1.untimed = c.untimed.repair.1 := by
  rw [repair_eq, repair_eq]
  rfl

section
variable {now : String} {fs : Table String Value} {c : Context}

private theorem readable_optional {v : Value} {o : Option Int} (hv : v.isReadable = true)
    (h : optional whole v = .ok o) : o.all Decimal.isReadable = true := by
  unfold Schema.optional at h
  split at h
  · rw [← Except.ok.inj h]
    rfl
  · obtain ⟨n, hn, rfl⟩ := Checked.map_eq_ok h
    exact readable_whole hv hn

/-- A field is read from what stands for it, or it is its default. -/
private theorem of_fieldOr {α : Type} {name : String} {default a : α} {read : Reader α}
    (h : fieldOr fs name default read = .ok a) :
    a = default ∨ ∃ v, Table.value? fs name = some v ∧ read v = .ok a := by
  rw [fieldOr] at h
  split at h
  · rename_i v hv
    exact .inr ⟨v, hv, Checked.under_eq_ok.mp h⟩
  · exact .inl (Except.ok.inj h).symm

/-- What is read from readable fields can be read again; the identity does not come from them. -/
theorem ReadFrom.legible (h : ReadFrom now fs c)
    (hfs : ∀ name v, name ≠ "external_id" → name ≠ "human_id" →
      Table.value? fs name = some v → v.isReadable = true) : c.isLegible = true := by
  have hid {name : String} {o : Option Int} (hexternal : name ≠ "external_id")
      (hhuman : name ≠ "human_id") (ho : optionalField fs name whole = .ok o) :
      o.all Decimal.isReadable = true := by
    rcases of_fieldOr ho with rfl | ⟨v, hv, hread⟩
    · rfl
    · exact readable_optional (hfs name v hexternal hhuman hv) hread
  refine isLegible_iff.mpr ⟨?_, ?_, ?_, hid (by decide) (by decide) h.topicId,
    hid (by decide) (by decide) h.adminChatId, hid (by decide) (by decide) h.targetUserId⟩
  · rcases of_fieldOr h.currentStep with hzero | ⟨v, hv, hread⟩
    · rw [hzero]
      exact Decimal.isReadable_zero
    · exact readable_whole (hfs _ v (by decide) (by decide) hv) hread
  · rcases of_fieldOr h.data with hnil | ⟨v, hv, hread⟩
    · rw [hnil]
      rfl
    · have hv' := hfs _ v (by decide) (by decide) hv
      cases v with
      | dict gs => rwa [← Except.ok.inj hread]
      | _ => cases hread
  · rcases of_fieldOr h.history with hnil | ⟨v, hv, hread⟩
    · rw [hnil]
      rfl
    · have hv' := hfs _ v (by decide) (by decide) hv
      cases v with
      | list xs => exact Visit.steps_of_each hv' hread
      | _ => cases hread

private theorem ReadFrom.at_any_time (h : ReadFrom now fs c) (now' : String) :
    ∃ c', ReadFrom now' fs c' ∧ c'.untimed = c.untimed := by
  have hhistory : ∃ vs, fieldOr fs "step_history" [] (list (Visit.read now')) = .ok vs ∧
      vs.map Visit.untimed = c.history.map Visit.untimed := by
    have hread := h.history
    rw [fieldOr] at hread ⊢
    split at hread
    · rename_i v hv
      have hlist := Checked.under_eq_ok.mp hread
      cases v with
      | list xs =>
        obtain ⟨vs, hvs, hsame⟩ := Visit.each_at_any_time hlist now'
        exact ⟨vs, Checked.under_eq_ok.mpr hvs, hsame⟩
      | _ => cases hlist
    · refine ⟨[], rfl, ?_⟩
      rw [← Except.ok.inj hread]
  obtain ⟨vs, hvs, hsame⟩ := hhistory
  refine ⟨{ c with history := vs }, ⟨h.externalId, h.humanId, h.currentFlow, h.currentStep, h.data,
    hvs, h.forwarding, h.flowMode, h.inTopic, h.topicId, h.adminChatId, h.targetUserId⟩, ?_⟩
  rw [untimed, untimed]
  simp only [hsame]

end

/-- Reading fails at any time or at none. -/
private theorem read_at_any_time {now : String} {fs : Table String Value}
    {r : Context × List Notice} (h : read now (.dict fs) = .ok r) (now' : String) :
    ∃ r', read now' (.dict fs) = Except.ok r' ∧ r'.1.untimed = r.1.untimed := by
  obtain ⟨c, hc, rfl⟩ := Checked.map_eq_ok h
  obtain ⟨c', hc', hsame⟩ := (readFields_iff.mp hc).at_any_time now'
  refine ⟨c'.repair, ?_, ?_⟩
  · rw [read, readFields_iff.mpr hc']
    rfl
  · rw [untimed_repair, untimed_repair, hsame]

/-- The time of reading only stands in for the times of visits. -/
theorem untimed_decode (now now' : String) (externalId humanId : Int) (blob : Option String) :
    (decode now externalId humanId blob).1.untimed =
      (decode now' externalId humanId blob).1.untimed := by
  cases blob with
  | none => rfl
  | some s =>
    simp only [decode]
    split
    · rfl
    split
    · rename_i fs _
      cases hread : read now _ with
      | ok r =>
        obtain ⟨r', hr', hsame⟩ := read_at_any_time hread now'
        simp only [hr', hsame]
      | error complaints =>
        cases hread' : read now' _ with
        | ok r' =>
          obtain ⟨r, hr, -⟩ := read_at_any_time hread' now
          rw [hr] at hread
          cases hread
        | error complaints' => rfl
    · rfl

theorem decode_legible (now : String) (externalId humanId : Int) (blob : Option String) :
    (decode now externalId humanId blob).1.isLegible = true := by
  have hfresh := (fresh_tidy externalId humanId).legible
  cases blob with
  | none => exact hfresh
  | some s =>
    simp only [decode]
    split
    · exact hfresh
    split
    · rename_i fs hfs
      split
      · rename_i r hr
        obtain ⟨c, hc, rfl⟩ := Checked.map_eq_ok hr
        refine repair_legible ((readFields_iff.mp hc).legible fun name v hexternal hhuman hv => ?_)
        rw [Table.value?_put_of_ne _ _ hhuman.symm, Table.value?_put_of_ne _ _ hexternal.symm] at hv
        exact Value.isReadable_of_value? (Json.isReadable_of_read? hfs) hv
      · exact hfresh
    · exact hfresh

end Context

end Dialogue
