import Dialogue.Bot.Events
import Dialogue.Proofs.Bot.Presses
import Dialogue.Proofs.Context.Faithfulness
import Dialogue.Proofs.Turn.Running

/-! The buttons of choices. What a button is to do is written into its payload, and the press of the
button does just that: nothing is lost on the way, and nothing is added. -/
namespace Dialogue

/-- Entries that are picked by their values are found as before. -/
theorem Table.value?_filter {κ α : Type} [DecidableEq κ] {t : Table κ α} (h : (keys t).Nodup)
    (p : α → Bool) (k : κ) : value? (t.filter fun e => p e.2) k = (value? t k).filter p := by
  induction t with
  | nil => rfl
  | cons e t ih =>
    obtain ⟨j, v⟩ := e
    obtain ⟨hj, ht⟩ := List.nodup_cons.mp h
    rw [value?_cons]
    by_cases hk : j = k
    · subst hk
      have hnone : value? t j = none := by
        rw [← keys, mem_keys_iff, has] at hj
        exact Option.not_isSome_iff_eq_none.mp hj
      cases hv : p v with
      | true => simp [hv, value?_cons, Option.filter_some]
      | false => simp [hv, ih ht, hnone, Option.filter_some]
    · cases hv : p v with
      | true => simp [hv, value?_cons, hk, ih ht]
      | false => simp [hv, hk, ih ht]

namespace Schema
variable {fs : Table String Value} {name : String}

theorem optionalField_eq {α : Type} (read : Reader α) : optionalField fs name read =
    (optional read (Value.orNull (Table.value? fs name))).under (.key name) := by
  rw [optionalField, fieldOr]
  cases Table.value? fs name <;> rfl

theorem fieldOr_anything :
    fieldOr fs name .null anything = .ok (Value.orNull (Table.value? fs name)) := by
  rw [fieldOr]
  cases Table.value? fs name <;> rfl

theorem optional_optionalText (o : Option String) : optional string (optionalText o) = .ok o := by
  cases o <;> rfl

theorem optional_target (o : Option Target) :
    optional Target.read (Value.ofOption Target.toValue o) = .ok o := by
  rcases o with _ | _ | _ <;> rfl

end Schema

/-- The action that a button of a choice stands for. -/
def ChoiceButton.action (k : ChoiceButton) (id : Option String) : Action where
  stepId := id
  value := k.value
  saveTo := k.saveTo
  next := k.next
  nextFlow := k.nextFlow
  given := Action.fieldNames.filter fun
    | "step_id" => id.isSome
    | "value" => !k.value.isNull
    | "save_to_variable" => k.saveTo.isSome
    | "next_step_id" => k.next.isSome
    | "next_flow" => k.nextFlow.isSome
    | _ => false

namespace Value

theorem isNull_reread (v : Value) : v.reread.isNull = v.isNull := by
  cases v with
  | float x =>
    obtain ⟨y, hy⟩ := Json.rereadFloat_eq_float x
    rw [reread, hy]
    rfl
  | _ => rfl

theorem rereadFields_filter (fs : Table String Value) :
    rereadFields (fs.filter fun e => !e.2.isNull) =
      (rereadFields fs).filter fun e => !e.2.isNull := by
  induction fs with
  | nil => rfl
  | cons e fs ih =>
    obtain ⟨name, v⟩ := e
    cases hv : v.isNull <;> simp [rereadFields, isNull_reread, hv, ih]

end Value

namespace Keyboard
variable (id : Option String) (k : ChoiceButton)

/-- A transition as data, with null for what is missing. -/
private def fullTransition : Table String Value :=
  [("step_id", Dialogue.optionalText id), ("value", k.value),
    ("save_to_variable", Dialogue.optionalText k.saveTo),
    ("next_step_id", Value.ofOption Target.toValue k.next),
    ("next_flow", Dialogue.optionalText k.nextFlow)]

private theorem transition_eq :
    transition id k = (fullTransition id k).filter fun e => !e.2.isNull := by
  obtain ⟨text, value, saveTo, next, nextFlow⟩ := k
  rcases next with _ | _ | _ <;> rfl

private theorem nodup_fullTransition : (Table.keys (fullTransition id k)).Nodup :=
  (by decide : ["step_id", "value", "save_to_variable", "next_step_id", "next_flow"].Nodup)

/-- What a transition leaves out is null. -/
private theorem orNull_transition (name : String) :
    Value.orNull (Table.value? (transition id k) name) =
      Value.orNull (Table.value? (fullTransition id k) name) := by
  rw [transition_eq, Table.value?_filter (nodup_fullTransition id k) (fun v => !v.isNull)]
  rcases Table.value? (fullTransition id k) name with _ | v
  · rfl
  · cases v <;> rfl

private theorem has_transition (name : String) : Table.has (transition id k) name =
    !(Value.orNull (Table.value? (fullTransition id k) name)).isNull := by
  rw [Table.has, transition_eq,
    Table.value?_filter (nodup_fullTransition id k) (fun v => !v.isNull)]
  rcases Table.value? (fullTransition id k) name with _ | v
  · rfl
  · cases v <;> rfl

private theorem given_transition :
    Action.fieldNames.filter (Table.has (transition id k)) = (k.action id).given := by
  have htext (o : Option String) : (!(Dialogue.optionalText o).isNull) = o.isSome := by
    cases o <;> rfl
  have htarget (o : Option Target) :
      (!(Value.ofOption Target.toValue o).isNull) = o.isSome := by
    rcases o with _ | _ | _ <;> rfl
  simp only [ChoiceButton.action]
  refine List.filter_congr fun name hname => ?_
  rw [has_transition]
  simp only [Action.fieldNames, List.mem_cons, List.not_mem_nil, or_false] at hname
  rcases hname with rfl | rfl | rfl | rfl | rfl | rfl | rfl | rfl | rfl
  · rfl
  · rfl
  · exact htarget k.next
  · exact htext k.nextFlow
  · rfl
  · rfl
  · rfl
  · exact htext k.saveTo
  · exact htext id

/-- Of a transition the action is read that its button stands for. -/
theorem read_transition : Action.read (.dict (transition id k)) = .ok (k.action id) := by
  have htext (name : String) (o : Option String)
      (ho : Value.orNull (Table.value? (fullTransition id k) name) = Dialogue.optionalText o) :
      Schema.optionalField (transition id k) name Schema.string = .ok o := by
    rw [Schema.optionalField_eq, orNull_transition, ho, Schema.optional_optionalText]
    rfl
  have htarget :
      Schema.optionalField (transition id k) "next_step_id" Target.read = .ok k.next := by
    rw [Schema.optionalField_eq, orNull_transition]
    exact congrArg (Schema.Checked.under _) (Schema.optional_target k.next)
  rw [Action.read, Schema.record, htarget, htext "action" none rfl, htext "flow_name" none rfl,
    htext "next_flow" k.nextFlow rfl, htext "variable" none rfl, htext "handler_name" none rfl,
    htext "save_to_variable" k.saveTo rfl, htext "step_id" id rfl, Schema.fieldOr_anything,
    orNull_transition, given_transition]
  rfl

/-- What a transition holds is the value of its button, or a scalar. -/
private theorem forall_transition {P : Value → Prop} (hvalue : P k.value)
    (htext : ∀ o, P (Dialogue.optionalText o)) (hnext : P (Value.ofOption Target.toValue k.next)) :
    ∀ e ∈ transition id k, P e.2 := by
  intro e he
  rw [transition_eq] at he
  have hmem := List.mem_of_mem_filter he
  simp only [fullTransition, List.mem_cons, List.not_mem_nil, or_false] at hmem
  rcases hmem with rfl | rfl | rfl | rfl | rfl
  · exact htext id
  · exact hvalue
  · exact htext k.saveTo
  · exact hnext
  · exact htext k.nextFlow

private theorem reread_transition : Value.rereadFields (transition id k) =
    transition id { k with value := k.value.reread } := by
  have htext (o : Option String) :
      (Dialogue.optionalText o).reread = Dialogue.optionalText o := by
    cases o <;> rfl
  have htarget : (Value.ofOption Target.toValue k.next).reread =
      Value.ofOption Target.toValue k.next := by
    rcases k.next with _ | _ | _ <;> rfl
  rw [transition_eq, transition_eq, Value.rereadFields_filter]
  simp only [fullTransition, Value.rereadFields, htext, htarget]

/-- The payload of a button reads as the action of the button whose value is read back, unless a
number in it is too long; then it is no more than the key of a keyboard. -/
theorem byForm_choicePayload : Press.byForm (choicePayload id k) =
    if (Value.dict (transition id k)).isReadable then
      (.json (({ k with value := k.value.reread } : ChoiceButton).action id), [])
    else (.keyboard, []) := by
  have hmark : Press.menuMark.toList.isPrefixOf (choicePayload id k).toList = false := by
    rw [choicePayload, Json.write, String.toList_ofList, Json.compact]
    rfl
  have hnodup : (Table.keys (Value.rereadFields (transition id k))).Nodup := by
    rw [reread_transition, transition_eq]
    exact (nodup_fullTransition id _).sublist (List.filter_sublist.map _)
  have htree : Json.read? (choicePayload id k) =
      if (Value.dict (transition id k)).isReadable then
        some (.dict (transition id { k with value := k.value.reread })) else none := by
    rw [choicePayload, Json.read?_write, Value.reread, Table.ofEntries_of_nodup hnodup,
      reread_transition]
  have haction : Action.read (.dict (transition id { k with value := k.value.reread })) =
      Except.ok (({ k with value := k.value.reread } : ChoiceButton).action id) :=
    read_transition id _
  rw [Press.byForm, hmark, htree]
  by_cases hread : (Value.dict (transition id k)).isReadable = true
  · simp only [if_pos hread, haction, Bool.false_eq_true, if_false]
  · simp only [if_neg hread, Bool.false_eq_true, if_false]

variable {id k}

private theorem readable_transition (hread : k.toValue.isReadable = true) :
    (Value.dict (transition id k)).isReadable = true := by
  have hfields := (Value.readableFields_iff _).mp hread
  have hvalue : k.value.isReadable = true :=
    hfields ("value", k.value) (List.mem_of_getElem? (i := 1) rfl)
  have hnext : (Value.ofOption Target.toValue k.next).isReadable = true :=
    hfields ("next_step_id", _) (List.mem_of_getElem? (i := 3) rfl)
  refine (Value.readableFields_iff _).mpr
    (forall_transition (P := fun v => v.isReadable = true) id k hvalue ?_ hnext)
  rintro (_ | _) <;> rfl

/-- The payload of a button reads as its action, unless something else was registered for it. -/
theorem press_choicePayload {c : Catalog} (hvalue : k.value.WellFormed)
    (hread : k.toValue.isReadable = true)
    (hfree : c.registered? (choicePayload id k) = none) :
    c.press (choicePayload id k) = .ok (.json (k.action id), []) := by
  have hform : Press.byForm (choicePayload id k) = (.json (k.action id), []) := by
    rw [byForm_choicePayload, if_pos (readable_transition hread),
      Value.reread_of_wellFormed _ hvalue]
  rw [Catalog.press, hfree]
  exact congrArg Except.ok hform

end Keyboard

namespace Bot
open Turn

/-- What the press of a button of a choice is to do: keep the button's value, if it says where;
then start its flow, or go to its step, or stay. -/
def followButton (b : Bot) (actor : Int) (k : ChoiceButton) : Turn Outcome := do
  let path := k.saveTo.getD ""
  let flow := k.nextFlow.getD ""
  if path ≠ "" then Contexts.setVariable actor (Path.ofString path) k.value
  if flow ≠ "" then b.start (b.runner actor) actor flow
  else match k.next with
    | none | some (.label "") => return .ok
    | some t => b.goToTarget (b.runner actor) actor t

theorem noted_nil {α : Type} (a : α) : noted (a, []) = pure a := by
  apply ext_on
  intro w
  change (Except.ok a, { w with notices := w.notices ++ [] }) = (Except.ok a, w)
  rw [List.append_nil]

variable {b : Bot} {actor : Int} {id : Option String} {k : ChoiceButton}

theorem filled?_eq (o : Option String) :
    filled? o = if o.getD "" = "" then none else some (o.getD "") := by
  cases o with
  | none => rfl
  | some s => simp [filled?]

private theorem follow_eq (run : Runner) : b.follow run actor k.nextFlow k.next =
    if k.nextFlow.getD "" ≠ "" then b.start run actor (k.nextFlow.getD "")
    else match k.next with
      | none | some (.label "") => return .ok
      | some t => b.goToTarget run actor t := by
  rw [follow, filled?_eq]
  by_cases hflow : k.nextFlow.getD "" = ""
  · simp only [hflow, if_true, ne_eq, not_true, if_false]
    rcases k.next with _ | n | s
    · rfl
    · rfl
    · by_cases hs : s = ""
      · rw [hs]
        rfl
      · simp [given?, hs]
  · simp only [hflow, if_false, ne_eq, not_false_eq_true, if_true]

theorem carryOutGiven_action (hpath : isSystemPath (k.saveTo.getD "") = false) :
    b.carryOutGiven (b.runner actor) actor (k.action id) = b.followButton actor k := by
  have hallowed : (writtenPath (k.action id)).any isSystemPath = false := by
    change (filled? k.saveTo).any isSystemPath = false
    rw [filled?_eq]
    split
    · rfl
    · exact hpath
  have hdeed : Deed.ofAction (k.action id) = .unnamed := rfl
  rw [carryOutGiven, hallowed, hdeed, followButton]
  simp only [Bool.false_eq_true, if_false, ← follow_eq]
  have hsave : filled? (k.action id).saveTo =
      if k.saveTo.getD "" = "" then none else some (k.saveTo.getD "") := filled?_eq _
  by_cases hnone : k.saveTo.getD "" = ""
  · rw [if_pos hnone] at hsave
    simp only [hsave, hnone, ne_eq, not_true, if_false]
    rfl
  · rw [if_neg hnone] at hsave
    simp only [hsave, hnone, ne_eq, not_false_eq_true, if_true]
    rfl

/-- A payload that is not registered is dealt with by its form. -/
theorem react_of_form {payload : String} {p : Press} (h : b.catalog.press payload = .ok (p, []))
    (hp : ∀ a, p ≠ .registered a) :
    b.react actor (.press payload) = b.pressByForm (b.runner actor) actor payload p := by
  rw [react, press, h]
  simp only [ofResult, pure_bind, noted_nil]

theorem react_of_press {payload : String} {a : Action}
    (h : b.catalog.press payload = .ok (.json a, [])) :
    b.react actor (.press payload) = b.carryOutGiven (b.runner actor) actor a :=
  react_of_form h (by simp)

/-- A press of a button of a choice does what the button says, however its value is built. -/
theorem handle_press_button {c : Step.Choice} {i : Nat} {key : Button}
    (hk : c.buttons[i]? = some k)
    (hkey : (Keyboard.ofChoice id c).1[0]?.bind (·[i]?) = some key)
    (hvalue : k.value.WellFormed) (hread : k.toValue.isReadable = true)
    (hfree : b.catalog.registered? key.payload = none) :
    key.text = k.text ∧ b.catalog.press key.payload = .ok (.json (k.action id), []) ∧
      (isSystemPath (k.saveTo.getD "") = false → b.handle actor (.press key.payload) =
        rescue (b.followButton actor k) fun f => do
          note .entryPointFailed
          return .failed (.fault f)) := by
  have hrow : (Keyboard.ofChoice id c).1[0]?.bind (·[i]?) =
      some (Button.mk k.text (Keyboard.choicePayload id k)) := by
    change (c.buttons.map fun b => Button.mk b.text (Keyboard.choicePayload id b))[i]? = _
    rw [List.getElem?_map, hk]
    rfl
  rw [hrow] at hkey
  obtain rfl := Option.some.inj hkey
  have hpress := Keyboard.press_choicePayload hvalue hread hfree
  refine ⟨rfl, hpress, fun hpath => ?_⟩
  rw [handle, react_of_press hpress, carryOutGiven_action hpath]

/-- A button whose value is a tree. -/
def smallButton : ChoiceButton where
  text := "Small"
  value := .dict [("code", .text "s"), ("prices", .list [.float 0.5, .int 12, .null])]
  saveTo := some "order.size"
  next := some (.index 0)

def sizes : Step.Choice := { buttons := [smallButton] }

/-- A bot that asks for a size. -/
def sizer : Bot where
  catalog := {
    flows := [("order", { name := "order", steps := [⟨some "size", .choice sizes⟩] })]
    frozen := true }

theorem handle_press_button_small : ∃ key, (Keyboard.ofChoice (some "size") sizes).1 = [[key]] ∧
    key.text = "Small" ∧
    sizer.catalog.press key.payload = .ok (.json (smallButton.action (some "size")), []) ∧
    sizer.handle 1 (.press key.payload) = rescue (sizer.followButton 1 smallButton) fun f => do
      note .entryPointFailed
      return .failed (.fault f) := by
  have hk : sizes.buttons[0]? = some smallButton := rfl
  have hvalue : smallButton.value.WellFormed := by
    refine ⟨by decide, ?_, ?_, ?_⟩ <;> trivial
  obtain ⟨htext, hpress, hhandle⟩ := @handle_press_button sizer 1 (some "size") _ _ _ _ hk rfl
    hvalue (by decide +kernel) rfl
  exact ⟨_, rfl, htext, hpress, hhandle (by decide +kernel)⟩

end Bot

end Dialogue
