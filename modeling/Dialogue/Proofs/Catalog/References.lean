import Dialogue.Catalog.References
import Dialogue.Proofs.Bot.Moves

/-! What a catalog without complaints about its references promises: every reference of a step leads
somewhere, in the flow of the step, and so does every reference of an action. -/
namespace Dialogue

private theorem mem_of_mapM {α β ε : Type} {g : α → Except ε β} {xs : List α} {ys : List β}
    (h : xs.mapM g = .ok ys) : ∀ x ∈ xs, ∃ y ∈ ys, g x = .ok y := by
  induction xs generalizing ys with
  | nil => exact fun _ hx => absurd hx List.not_mem_nil
  | cons x xs ih =>
    rw [List.mapM_cons] at h
    rcases hx : g x with f | y
    · rw [hx] at h
      cases h
    · rw [hx] at h
      rcases hrest : xs.mapM g with f | zs
      · rw [hrest] at h
        cases h
      · rw [hrest] at h
        have hys : y :: zs = ys := Except.ok.inj h
        subst hys
        refine List.forall_mem_cons.mpr ⟨⟨y, List.mem_cons_self, hx⟩, fun z hz => ?_⟩
        obtain ⟨v, hv, hgz⟩ := ih hrest z hz
        exact ⟨v, List.mem_cons_of_mem _ hv, hgz⟩

/-- An id or a position that is found is the place of a step. -/
theorem Flow.exists_step_of_resolve {f : Flow} {t : Target} {i : Nat} (h : f.resolve t = some i) :
    ∃ s, f.steps[i]? = some s := by
  cases t with
  | index n =>
    rw [resolve] at h
    split at h
    · rename_i hn
      have hi : n.toNat = i := Option.some.inj h
      exact ⟨_, List.getElem?_eq_getElem (by omega)⟩
    · cases h
  | label s =>
    obtain ⟨hi, -⟩ := List.findIdx?_eq_some_iff_getElem.mp h
    exact ⟨_, List.getElem?_eq_getElem hi⟩

namespace Reference

theorem mem_steps {ts : List (Option Target)} {t : Target} (h : some t ∈ ts) :
    step t ∈ steps ts :=
  List.mem_filterMap.mpr ⟨some t, h, rfl⟩

theorem mem_flows {names : List (Option String)} {o : Option String} {name : String}
    (h : o ∈ names) (hname : filled? o = some name) : flow name ∈ flows names :=
  List.mem_filterMap.mpr ⟨o, h, by rw [hname]; rfl⟩

theorem mem_keyboards {o : Option String} {key : String} (h : filled? o = some key) :
    keyboard key ∈ keyboards o := by
  rw [keyboards, h]
  exact List.mem_cons_self

theorem mem_handlers {o : Option String} {name : String} (h : filled? o = some name) :
    handler name ∈ handlers o := by
  rw [handlers, h]
  exact List.mem_cons_self

end Reference

namespace Catalog
variable {k : Catalog} {handlers : Option (List String)} {f : Flow} {s : Step}

private theorem leads_of_dangling {f : Option Flow} {owner : String} {rs : List Reference}
    (h : k.dangling handlers f owner rs = []) : ∀ r ∈ rs, k.leads handlers f r = true := by
  intro r hr
  have hkept := List.filter_eq_nil_iff.mp (List.map_eq_nil_iff.mp h) r hr
  rw [Bool.not_eq_true, Bool.not_eq_false'] at hkept
  exact hkept

private theorem value?_of_registered {payload : String} {a : Action}
    (h : k.registered? payload = some (.action a)) :
    Table.value? k.actions payload = some (.action a) := by
  rw [registered?] at h
  split at h
  · cases h
  · exact h

/-- Every reference of a step of a flow, and of a registered action, leads somewhere. -/
structure Checked (k : Catalog) (handlers : Option (List String)) : Prop where
  step : ∀ {name f s r}, k.flow? name = some f → s ∈ f.steps → r ∈ s.references →
    k.leads handlers (some f) r = true
  action : ∀ {payload a r}, k.registered? payload = some (.action a) → r ∈ a.references →
    k.leads handlers none r = true

theorem checked_of_checkReferences (h : k.checkReferences handlers = .ok []) :
    k.Checked handlers := by
  simp only [checkReferences, bind, Except.bind] at h
  split at h
  · cases h
  · rename_i ds hactions
    have hall := Except.ok.inj h
    obtain ⟨hboth, -⟩ := List.append_eq_nil_iff.mp hall
    obtain ⟨hflows, hnone⟩ := List.append_eq_nil_iff.mp hboth
    refine ⟨fun {name f s r} hf hs hr => ?_, fun {payload a r} ha hr => ?_⟩
    · obtain ⟨i, hi, rfl⟩ := List.getElem_of_mem hs
      have hflow := List.flatMap_eq_nil_iff.mp hflows (name, f) (Table.mem_of_value? hf)
      have hstep := List.flatMap_eq_nil_iff.mp hflow (f.steps[i], i)
        (List.mk_mem_zipIdx_iff_getElem?.mpr (List.getElem?_eq_getElem hi))
      exact leads_of_dangling hstep r hr
    · have hmem := Table.mem_of_value? (value?_of_registered ha)
      obtain ⟨d, hd, hresult⟩ := mem_of_mapM hactions _ hmem
      have hnil := List.flatten_eq_nil_iff.mp hnone d hd
      rw [hnil] at hresult
      exact leads_of_dangling (Except.ok.inj hresult) r hr

namespace Checked
variable {names : List String} {name : String}

section
variable (h : k.Checked handlers) (hf : k.flow? name = some f) (hs : s ∈ f.steps)
include h hf hs

theorem exists_step {t : Target} (ht : Reference.step t ∈ s.references) :
    ∃ i st, f.resolve t = some i ∧ f.steps[i]? = some st := by
  obtain ⟨i, hi⟩ := Option.isSome_iff_exists.mp (h.step hf hs ht)
  obtain ⟨st, hst⟩ := Flow.exists_step_of_resolve hi
  exact ⟨i, st, hi, hst⟩

theorem exists_next {t : Option Target} (ht : Reference.steps [t] ⊆ s.references) :
    ∀ u, t = some u → ∃ i st, f.resolve u = some i ∧ f.steps[i]? = some st :=
  fun _ hu => h.exists_step hf hs (ht (Reference.mem_steps (hu ▸ List.mem_cons_self)))

theorem exists_flow {flow : String} (hflow : Reference.flow flow ∈ s.references) :
    ∃ g, k.flow? flow = some g :=
  Option.isSome_iff_exists.mp (h.step hf hs hflow)

theorem exists_keyboard {key : String} (hkey : Reference.keyboard key ∈ s.references) :
    ∃ rows, k.keyboard? key = some rows :=
  Option.isSome_iff_exists.mp (h.step hf hs hkey)

end

theorem mem_names (h : k.Checked (some names)) (hf : k.flow? name = some f) (hs : s ∈ f.steps)
    {handler : String} (hhandler : Reference.handler handler ∈ s.references) : handler ∈ names :=
  of_decide_eq_true (h.step hf hs hhandler)

theorem mem_names_of_action (h : k.Checked (some names)) {payload : String} {a : Action}
    (ha : k.registered? payload = some (.action a)) {handler : String}
    (hhandler : filled? a.handler = some handler) : handler ∈ names := by
  exact of_decide_eq_true
    (h.action ha (List.mem_append_right _ (Reference.mem_handlers hhandler)))

end Checked

end Catalog

end Dialogue
