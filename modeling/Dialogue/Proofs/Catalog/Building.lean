import Dialogue.Catalog.Configuration

/-! Catalogs as they come about: from nothing, by registrations that are not refused. -/
namespace Dialogue.Catalog

/-- Catalogs that registrations lead to. -/
inductive Built : Catalog → Prop
  | empty : Built {}
  | flow {k l : Catalog} {f : Flow} (h : Built k) (hl : k.register f = .ok l) : Built l
  | keyboard {k l : Catalog} {key : String} {rows : Keyboard} (h : Built k)
    (hl : k.registerKeyboard key rows = .ok l) : Built l
  | action {k l : Catalog} {payload : String} {r : Registered} (h : Built k)
    (hl : k.registerAction payload r = .ok l) : Built l
  | command {k l : Catalog} {command : Command} (h : Built k)
    (hl : k.registerCommand command = .ok l) : Built l
  | freeze {k : Catalog} (h : Built k) : Built k.freeze

theorem change_eq_ok {k l : Catalog} {r : Except Refusal Catalog} (h : k.change r = .ok l) :
    r = .ok l := by
  rw [change] at h
  split at h
  · cases h
  · exact h

theorem entered_eq_ok {α : Type} {k l : Catalog} {read : Except Fault α}
    {put : Catalog → α → Except Refusal Catalog} (h : k.entered read put = .ok l) :
    ∃ a, put k a = .ok l := by
  cases read with
  | ok a => exact ⟨a, h⟩
  | error f => cases h

private theorem flows_register {k l : Catalog} {f : Flow} (h : k.register f = .ok l) :
    f.name ≠ "" ∧ l.flows = Table.put k.flows f.name f := by
  have hr := change_eq_ok h
  split at hr
  · rename_i hnone
    obtain rfl := Except.ok.inj hr
    refine ⟨fun hname => ?_, rfl⟩
    rw [flowErrors, hname] at hnone
    cases hnone
  · cases hr

/-- No id stands twice in a flow that is registered. -/
theorem repeatedIds_register {k l : Catalog} {f : Flow} (h : k.register f = .ok l) :
    repeatedIds [] f.steps = [] := by
  have hr := change_eq_ok h
  split at hr
  · rename_i hnone
    rw [flowErrors, List.append_eq_nil_iff, List.append_eq_nil_iff] at hnone
    exact List.map_eq_nil_iff.mp hnone.1.2
  · cases hr

private theorem flows_registerCommand {k l : Catalog} {command : Command}
    (h : k.registerCommand command = .ok l) : l.flows = k.flows := by
  have hr := change_eq_ok h
  simp only at hr
  split at hr
  · cases hr
  · rw [← Except.ok.inj hr]

/-- No flow goes without a name. -/
theorem Built.flow?_empty {k : Catalog} (h : k.Built) : k.flow? "" = none := by
  induction h with
  | empty => rfl
  | flow _ hl ih =>
    obtain ⟨hname, hflows⟩ := flows_register hl
    rw [flow?, hflows, Table.value?_put_of_ne _ _ hname]
    exact ih
  | keyboard _ hl ih | action _ hl ih =>
    obtain rfl := Except.ok.inj (change_eq_ok hl)
    exact ih
  | command _ hl ih =>
    rw [flow?, flows_registerCommand hl]
    exact ih
  | freeze _ ih => exact ih

/-- A flow is registered under its own name. -/
theorem Built.name_eq {k : Catalog} (h : k.Built) {name : String} {f : Flow}
    (hf : k.flow? name = some f) : f.name = name := by
  induction h with
  | empty => cases hf
  | @flow k l g _ hl ih =>
    obtain ⟨-, hflows⟩ := flows_register hl
    rw [flow?, hflows] at hf
    by_cases hname : name = g.name
    · subst hname
      rw [Table.value?_put_self] at hf
      rw [← Option.some.inj hf]
    · rw [Table.value?_put_of_ne _ _ (Ne.symm hname)] at hf
      exact ih hf
  | keyboard _ hl ih | action _ hl ih =>
    obtain rfl := Except.ok.inj (change_eq_ok hl)
    exact ih hf
  | command _ hl ih =>
    rw [flow?, flows_registerCommand hl] at hf
    exact ih hf
  | freeze _ ih => exact ih hf

private theorem Built.enter {k l : Catalog} (h : k.Built) {e : Entry} (hl : k.enter e = .ok l) :
    l.Built := by
  cases e with
  | keyboard =>
    obtain ⟨rows, hrows⟩ := entered_eq_ok (change_eq_ok hl)
    exact h.keyboard hrows
  | action =>
    obtain ⟨r, hr⟩ := entered_eq_ok (change_eq_ok hl)
    exact h.action hr
  | command =>
    obtain ⟨command, hcommand⟩ := entered_eq_ok (change_eq_ok hl)
    exact h.command hcommand
  | flow =>
    obtain ⟨f, hf⟩ := entered_eq_ok hl
    exact h.flow hf
  | broken => cases hl

theorem Built.enterAll {k : Catalog} (h : k.Built) (es : List Entry) : (k.enterAll es).1.Built := by
  induction es generalizing k with
  | nil => exact h
  | cons e es ih =>
    rw [Catalog.enterAll]
    split
    · exact ih (h.enter ‹_›)
    · exact h

/-- So are all catalogs that a configuration is read as. -/
theorem built_of_configuration {config : Value} {k : Catalog}
    (h : ofConfiguration config = .ok k) : k.Built := by
  have hbuilt : (({} : Catalog).configure config).1.Built := Built.empty.enterAll _
  rw [ofConfiguration] at h
  split at h
  · rename_i hk
    rw [hk] at hbuilt
    exact Except.ok.inj h ▸ hbuilt
  · cases h

end Dialogue.Catalog
