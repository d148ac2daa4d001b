import Dialogue.Proofs.Catalog.Building
import Dialogue.Proofs.Tables
import Mathlib.Data.List.Pairwise

/-! What calls do to a catalog. Whatever is called, and whether it is refused or not, every flow and
every command stands under its own name; no flow makes room for another one; what is refused leaves
nothing behind; and once the catalog is frozen nothing changes any more. -/
namespace Dialogue

/-- No id stands twice in a flow, so that each is resolved to the step that has it. -/
structure Flow.Labelled (f : Flow) : Prop where
  distinct : (f.steps.filterMap (·.id)).Nodup
  resolve : ∀ {i s id}, f.steps[i]? = some s → s.id = some id → f.resolve (.label id) = some i

theorem Flow.labelled_of_nodup {f : Flow} (h : (f.steps.filterMap (·.id)).Nodup) : f.Labelled where
  distinct := h
  resolve := by
    intro i s id hi hid
    obtain ⟨hlt, rfl⟩ := List.getElem?_eq_some_iff.mp hi
    have hpairs := List.pairwise_iff_getElem.mp (List.pairwise_filterMap.mp h)
    refine List.findIdx?_eq_some_iff_getElem.mpr ⟨hlt, beq_iff_eq.mpr hid, fun j hj hsame => ?_⟩
    exact hpairs j i (by omega) hlt hj id (beq_iff_eq.mp hsame) id hid rfl

namespace Catalog

/-- Every flow and every command stands under its own name. A flow has a name, and each of its ids
leads to its own step; the name of a command begins with a slash, and there is something to do. -/
structure Indexed (k : Catalog) : Prop where
  flow : ∀ {name f}, (name, f) ∈ k.flows → f.name = name ∧ name ≠ "" ∧ f.Labelled
  command : ∀ {name c}, (name, c) ∈ k.commands → c.name = name ∧ Command.isCommand name = true ∧
    ((filled? c.flowName).isSome = true ∨ (filled? c.handler).isSome = true)

/-- An accepted registration puts an entry into one of the four tables. -/
inductive Registers (k l : Catalog) : Prop
  | flow {f : Flow} (h : k.register f = .ok l)
  | keyboard {key : String} {rows : Keyboard} (h : k.registerKeyboard key rows = .ok l)
  | action {payload : String} {r : Registered} (h : k.registerAction payload r = .ok l)
  | command {c : Command} (h : k.registerCommand c = .ok l)

variable {k l : Catalog}

private theorem nodup_of_repeatedIds {seen : List String} {steps : List Step}
    (h : repeatedIds seen steps = []) :
    (steps.filterMap (·.id)).Nodup ∧ ∀ id ∈ steps.filterMap (·.id), id ∉ seen := by
  induction steps generalizing seen with
  | nil => exact ⟨List.nodup_nil, fun _ h => absurd h List.not_mem_nil⟩
  | cons s steps ih =>
    cases hid : s.id with
    | none =>
      simp only [repeatedIds, hid] at h
      rw [List.filterMap_cons_none hid]
      exact ih h
    | some id =>
      simp only [repeatedIds, hid] at h
      split at h
      · cases h
      · rename_i hnew
        obtain ⟨hnodup, hseen⟩ := ih h
        rw [List.filterMap_cons_some hid]
        refine ⟨List.nodup_cons.mpr ⟨fun hmem => hseen id hmem (List.mem_cons_self ..), hnodup⟩, ?_⟩
        intro i hi
        rcases List.mem_cons.mp hi with rfl | hi
        · exact hnew
        · exact fun hmem => hseen i hi (List.mem_cons_of_mem _ hmem)

private theorem labelled_of_register {f : Flow} (h : k.register f = .ok l) : f.Labelled :=
  Flow.labelled_of_nodup (nodup_of_repeatedIds (repeatedIds_register h)).1

/-- A flow that is accepted has a name that is new, and goes last. -/
private theorem eq_of_register {f : Flow} (h : k.register f = .ok l) :
    f.name ≠ "" ∧ l = { k with flows := k.flows ++ [(f.name, f)] } := by
  have hr := change_eq_ok h
  split at hr
  · rename_i hnone
    rw [flowErrors, List.append_eq_nil_iff, List.append_eq_nil_iff] at hnone
    obtain ⟨⟨hname, -⟩, hknown⟩ := hnone
    have hname : f.name ≠ "" := fun hempty => by
      rw [hempty] at hname
      cases hname
    have hempty : f.name.isEmpty = false := by
      rw [Bool.eq_false_iff]
      exact fun h => hname (String.isEmpty_iff.mp h)
    have hnew : f.name ∉ Table.keys k.flows := by
      rw [Table.mem_keys_iff]
      intro hhas
      simp [hempty, hhas] at hknown
    refine ⟨hname, ?_⟩
    rw [← Except.ok.inj hr, Table.put_of_not_mem hnew]
  · cases hr

private theorem eq_of_registerCommand {c : Command} (h : k.registerCommand c = .ok l) :
    ((filled? c.flowName).isSome = true ∨ (filled? c.handler).isSome = true) ∧
      l = { k with
        commands := Table.put k.commands (slashed c.name) { c with name := slashed c.name } } := by
  have hr := change_eq_ok h
  simp only at hr
  split at hr
  · cases hr
  · rename_i hidle
    refine ⟨?_, (Except.ok.inj hr).symm⟩
    cases hflow : filled? c.flowName <;> cases hhandler : filled? c.handler <;>
      simp_all

private theorem isCommand_slashed (name : String) : Command.isCommand (slashed name) = true := by
  rw [slashed]
  split
  · assumption
  · rw [Command.isCommand, String.toList_append]
    rfl

namespace Registers

theorem indexed (h : Registers k l) (hk : k.Indexed) : l.Indexed := by
  cases h with
  | @flow f h =>
    obtain ⟨hname, rfl⟩ := eq_of_register h
    refine ⟨fun {name g} hg => ?_, hk.command⟩
    rcases List.mem_append.mp hg with hg | hg
    · exact hk.flow hg
    · obtain ⟨rfl, rfl⟩ := Prod.mk.inj (List.mem_singleton.mp hg)
      exact ⟨rfl, hname, labelled_of_register h⟩
  | keyboard h | action h =>
    obtain rfl := Except.ok.inj (change_eq_ok h)
    exact ⟨hk.flow, hk.command⟩
  | @command c h =>
    obtain ⟨htarget, rfl⟩ := eq_of_registerCommand h
    refine ⟨hk.flow, fun {name d} hd => ?_⟩
    rcases Table.mem_put hd with hd | hd
    · exact hk.command hd
    · obtain ⟨rfl, rfl⟩ := Prod.mk.inj hd
      exact ⟨rfl, isCommand_slashed _, htarget⟩

/-- All flows stay where they are. -/
theorem flows (h : Registers k l) : k.flows <+: l.flows := by
  cases h with
  | flow h =>
    obtain ⟨-, rfl⟩ := eq_of_register h
    exact List.prefix_append ..
  | keyboard h | action h =>
    obtain rfl := Except.ok.inj (change_eq_ok h)
    exact List.prefix_refl _
  | command h =>
    obtain ⟨-, rfl⟩ := eq_of_registerCommand h
    exact List.prefix_refl _

private theorem frozen_of_change {r : Except Refusal Catalog} (h : k.change r = .ok l) :
    k.frozen = false := by
  rw [change] at h
  split at h
  · cases h
  · rename_i hfrozen
    exact Bool.eq_false_iff.mpr hfrozen

theorem thawed (h : Registers k l) : k.frozen = false := by
  cases h with
  | flow h | keyboard h | action h | command h => exact frozen_of_change h

end Registers

/-- One registration, of something made already or of data that have to be read. The buttons of a
keyboard may be of either kind. -/
inductive Registration where
  | flow (f : Flow)
  | keyboard (key : String) (rows : List (List (Button ⊕ Value)))
  | action (payload : String) (r : Registered)
  | command (c : Command)
  | entry (e : Entry)

namespace Registration

def carryOut (k : Catalog) : Registration → Except Refusal Catalog
  | flow f => k.register f
  | keyboard key rows => k.change <|
      k.entered (rows.mapM fun row => row.mapM (Sum.elim .ok button)) (·.registerKeyboard key)
  | action payload r => k.registerAction payload r
  | command c => k.registerCommand c
  | entry e => k.enter e

end Registration

private theorem registers_of_enter {e : Entry} (h : k.enter e = .ok l) : Registers k l := by
  cases e with
  | keyboard =>
    obtain ⟨_, h⟩ := entered_eq_ok (change_eq_ok h)
    exact .keyboard h
  | action =>
    obtain ⟨_, h⟩ := entered_eq_ok (change_eq_ok h)
    exact .action h
  | command =>
    obtain ⟨_, h⟩ := entered_eq_ok (change_eq_ok h)
    exact .command h
  | flow =>
    obtain ⟨_, h⟩ := entered_eq_ok h
    exact .flow h
  | broken => cases h

private theorem registers_of_carryOut {r : Registration} (h : r.carryOut k = .ok l) :
    Registers k l := by
  cases r with
  | flow => exact .flow h
  | keyboard =>
    obtain ⟨_, h⟩ := entered_eq_ok (change_eq_ok h)
    exact .keyboard h
  | action => exact .action h
  | command => exact .command h
  | entry => exact registers_of_enter h

/-- A call, which may be refused. -/
inductive Call where
  | one (r : Registration)
  | configuration (config : Value)
  | freeze

/-- The catalog after a call, and why the call was refused if it was. -/
def Call.carryOut (k : Catalog) : Call → Catalog × Option Refusal
  | one r => match r.carryOut k with
    | .ok l => (l, none)
    | .error refusal => (k, some refusal)
  | configuration config => k.configure config
  | freeze => (k.freeze, none)

/-- The catalog after some calls. -/
def after (k : Catalog) (calls : List Call) : Catalog := calls.foldl (fun k c => (c.carryOut k).1) k

/-- Entries that are accepted one after another. -/
inductive Accepts : Catalog → List Entry → Catalog → Prop
  | nil {k : Catalog} : Accepts k [] k
  | cons {k m l : Catalog} {e : Entry} {es : List Entry} (h : k.enter e = .ok m)
    (hl : Accepts m es l) : Accepts k (e :: es) l

/-- What a call can do. A registration that is refused leaves all as it was; a configuration that is
refused leaves what was registered before the entry that is to blame. -/
inductive Call.Does (k : Catalog) : Call → Catalog × Option Refusal → Prop
  | accepted {r : Registration} {l : Catalog} (h : r.carryOut k = .ok l) : Does k (one r) (l, none)
  | refused {r : Registration} {refusal : Refusal} (h : r.carryOut k = .error refusal) :
    Does k (one r) (k, some refusal)
  | configured {config : Value} {l : Catalog} (h : Accepts k (entries config) l) :
    Does k (configuration config) (l, none)
  | stopped {config : Value} {before rest : List Entry} {e : Entry} {l : Catalog}
    {refusal : Refusal} (hsplit : entries config = before ++ e :: rest) (h : Accepts k before l)
    (hr : l.enter e = .error refusal) : Does k (configuration config) (l, some refusal)
  | frozen : Does k freeze (k.freeze, none)

private theorem enterAll_cases (k : Catalog) (es : List Entry) :
    (∃ l, k.enterAll es = (l, none) ∧ Accepts k es l) ∨
      ∃ before e rest l refusal, k.enterAll es = (l, some refusal) ∧ es = before ++ e :: rest ∧
        Accepts k before l ∧ l.enter e = .error refusal := by
  induction es generalizing k with
  | nil => exact .inl ⟨k, rfl, .nil⟩
  | cons e es ih =>
    rw [enterAll]
    cases he : k.enter e with
    | error refusal => exact .inr ⟨[], e, es, k, refusal, rfl, rfl, .nil, he⟩
    | ok m =>
      rcases ih m with ⟨l, hall, h⟩ | ⟨before, d, rest, l, refusal, hall, rfl, h, hd⟩
      · exact .inl ⟨l, hall, .cons he h⟩
      · exact .inr ⟨e :: before, d, rest, l, refusal, hall, rfl, .cons he h, hd⟩

theorem does_carryOut (k : Catalog) (call : Call) : call.Does k (call.carryOut k) := by
  cases call with
  | one r =>
    rw [Call.carryOut]
    split
    · exact .accepted ‹_›
    · exact .refused ‹_›
  | configuration config =>
    rw [Call.carryOut, configure]
    rcases enterAll_cases k (entries config) with
      ⟨l, hall, h⟩ | ⟨before, e, rest, l, refusal, hall, hsplit, h, he⟩
    · rw [hall]
      exact .configured h
    · rw [hall]
      exact .stopped hsplit h he
  | freeze => exact .frozen

private theorem keeps_of_accepts {P : Catalog → Prop}
    (hr : ∀ {k l}, Registers k l → P k → P l) {es : List Entry} (h : Accepts k es l) (hk : P k) :
    P l := by
  induction h with
  | nil => exact hk
  | cons he _ ih => exact ih (hr (registers_of_enter he) hk)

/-- What every accepted registration keeps, and freezing too, is kept by any calls. -/
theorem keeps_after {P : Catalog → Prop} (hr : ∀ {k l}, Registers k l → P k → P l)
    (hf : ∀ {k}, P k → P k.freeze) (hk : P k) (calls : List Call) : P (k.after calls) := by
  induction calls generalizing k with
  | nil => exact hk
  | cons call calls ih =>
    have hdoes := does_carryOut k call
    rw [after, List.foldl_cons]
    refine ih ?_
    generalize call.carryOut k = out at hdoes ⊢
    cases hdoes with
    | accepted h => exact hr (registers_of_carryOut h) hk
    | refused => exact hk
    | configured h | stopped _ h => exact keeps_of_accepts hr h hk
    | frozen => exact hf hk

theorem after_append (k : Catalog) (calls more : List Call) :
    k.after (calls ++ more) = (k.after calls).after more :=
  List.foldl_append ..

theorem flows_after (k : Catalog) (calls : List Call) : k.flows <+: (k.after calls).flows :=
  keeps_after (P := fun l => k.flows <+: l.flows) (fun h hk => hk.trans h.flows) id
    (List.prefix_refl _) calls

/-- A frozen catalog accepts nothing. -/
theorem after_freeze (k : Catalog) (calls : List Call) : k.freeze.after calls = k.freeze := by
  refine keeps_after (P := (· = k.freeze)) (fun {m l} h hm => ?_) (fun {m} hm => ?_) rfl calls
  · have hfrozen := h.thawed
    rw [hm] at hfrozen
    cases hfrozen
  · rw [hm]
    rfl

/-- Whatever was called, accepted or refused, all flows and commands stand under their own names. A
further call that is refused leaves what there was, or what a configuration had registered before
the entry that is to blame. No further calls take the place of a flow, and after a freeze none of
them changes anything. -/
theorem indexed_after (calls : List Call) : (after {} calls).Indexed ∧
    (∀ call : Call, call.Does (after {} calls) (call.carryOut (after {} calls))) ∧
    ∀ more : List Call, (after {} calls).flows <+: (after {} (calls ++ more)).flows ∧
      after {} (calls ++ .freeze :: more) = (after {} calls).freeze := by
  refine ⟨?_, does_carryOut _, fun more => ⟨?_, ?_⟩⟩
  · refine keeps_after Registers.indexed (fun h => ⟨h.flow, h.command⟩) ⟨?_, ?_⟩ calls
    · exact fun h => absurd h List.not_mem_nil
    · exact fun h => absurd h List.not_mem_nil
  · rw [after_append]
    exact flows_after _ more
  · rw [after_append]
    exact after_freeze _ more

/-- Of two flows under one name the first one stays, and nothing comes after a freeze. -/
example : (after {} [.one (.flow { name := "tour", description := "first" }),
    .one (.flow { name := "tour", description := "second" }), .freeze,
    .one (.flow { name := "late" })]).flows.map (·.2.description) = ["first"] := by cbv

end Catalog

end Dialogue
