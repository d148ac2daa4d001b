import Dialogue.Proofs.Bot.Capture
import Dialogue.Proofs.Bot.Choices
import Dialogue.Proofs.Catalog.Menus
import Dialogue.Proofs.Contexts.Looking

/-! Picks from the only menu of a flow. The press of an item keeps its value and goes on as the menu
says, as long as the payload begins with the mark of menus; a lead of its own can take that mark
away, and then the press is no pick at all. -/
namespace Dialogue

/-- What payloads of menus begin with is never empty. -/
theorem Step.Menu.lead_ne_empty (m : Step.Menu) (id : Option String) : m.lead id ≠ "" := by
  rw [Step.Menu.lead]
  split
  · rename_i s hs
    rw [Bot.filled?_eq] at hs
    split at hs
    · cases hs
    · rename_i hne
      rwa [← Option.some.inj hs]
  · intro h
    have hlist := congrArg String.toList h
    rw [String.toList_append] at hlist
    exact absurd hlist (List.append_ne_nil_of_left_ne_nil (by decide) _)

namespace Press

/-- The mark decides before anything else about a payload. -/
theorem byForm_eq_dynamic_iff (payload : String) :
    byForm payload = (.dynamic, []) ↔ menuMark.toList <+: payload.toList := by
  rw [byForm, ← List.isPrefixOf_iff_prefix]
  constructor
  · intro h
    split at h
    · assumption
    · split at h
      · split at h <;> cases h
      · cases h
  · intro h
    rw [if_pos h]

/-- Whether a payload has the mark is up to its lead. -/
theorem menuMark_prefix_iff {lead : String} (h : lead ≠ "") (s : String) :
    menuMark.toList <+: (lead ++ "_" ++ s).toList ↔ menuMark.toList <+: (lead ++ "_").toList := by
  have hmark : menuMark.toList = ['d', 'c', '_'] := by decide
  have hline : "_".toList = ['_'] := by decide
  have hlead : lead.toList ≠ [] := fun e => h (String.toList_inj.mp e)
  rw [hmark, String.toList_append, String.toList_append, hline]
  match lead.toList, hlead with
  | [a], _ => simp [List.cons_prefix_cons]
  | [a, b], _ => simp [List.cons_prefix_cons]
  | a :: b :: c :: as, _ => simp [List.cons_prefix_cons]

end Press

namespace Flow
variable {f : Flow} {id : Option String} {m : Step.Menu} {i : Nat}

/-- The only menu of a flow takes all that begins with its lead. -/
theorem matchMenu_of_only (hs : f.steps[i]? = some ⟨id, .menu m⟩)
    (honly : ∀ j s m', f.steps[j]? = some s → s.work = .menu m' → j = i) (value : String) :
    f.matchMenu (m.lead id ++ "_" ++ value) = some (i, m, value) := by
  refine matchMenu_of_first hs rfl String.toList_append fun j hj t ht hclaims => ?_
  obtain ⟨m', hm', -⟩ := hclaims
  exact Nat.ne_of_lt hj (honly j t m' ht hm')

end Flow

namespace Bot
open Turn

/-- What is to follow a pick from a menu: its flow is started, or its step is gone to, or else the
flow is over. -/
def followMenu (b : Bot) (actor : Int) (m : Step.Menu) : Turn Outcome :=
  let flow := m.nextFlow.getD ""
  if flow ≠ "" then b.start (b.runner actor) actor flow
  else match m.next with
    | none | some (.label "") => complete actor
    | some t => b.goToTarget (b.runner actor) actor t

variable {b : Bot} {actor : Int} {m : Step.Menu}

private theorem followMenu_eq : (match filled? m.nextFlow with
    | some name => b.start (b.runner actor) actor name
    | none => b.advance (b.runner actor) actor m.next) = b.followMenu actor m := by
  rw [filled?_eq, followMenu]
  by_cases hflow : m.nextFlow.getD "" = ""
  · simp only [hflow, if_true, ne_eq, not_true, if_false]
    rcases m.next with _ | n | s
    · rfl
    · rfl
    · by_cases hs : s = ""
      · rw [hs]
        rfl
      · simp [advance, given?, hs]
  · simp only [hflow, if_false, ne_eq, not_false_eq_true, if_true]

variable {w u : World} {c : Context} {f : Flow} {i : Nat} {id : Option String}

/-- What is picked in a flow that the actor is in is kept before the flow goes on. -/
private theorem on_pickFromMenu {payload value : String}
    (hget : on (Contexts.get actor) w = (.ok (some c), u)) (hrun : c.isIdle = false)
    (hf : b.catalog.flow? c.currentFlow = some f)
    (hmatch : f.matchMenu payload = some (i, m, value)) :
    on (b.pickFromMenu (b.runner actor) actor payload) w = on (do
      Contexts.setVariable actor (Path.ofString m.saveTo) (.text value)
      b.followMenu actor m) u := by
  rw [pickFromMenu, on_bind, hget]
  simp only [hrun, hf, hmatch, Bool.false_eq_true, if_false]
  rw [setAt, on_bind, on_bind]
  rcases on (Contexts.setVariable actor (Path.ofString m.saveTo) (.text value)) u with ⟨f | x, v⟩
  · rfl
  · exact congrArg (on · v) followMenu_eq

/-- The press of an item of the only menu of a flow is a pick exactly if the lead of the menu begins
with the mark. Then the text of the item's value is kept, which a working store does not fail to do,
and the flow goes on as the menu says. -/
theorem handle_press_item (hget : on (Contexts.get actor) w = (.ok (some c), u))
    (hrun : c.isIdle = false) (hf : b.catalog.flow? c.currentFlow = some f)
    (hat : f.steps[i]? = some ⟨id, .menu m⟩)
    (honly : ∀ j s m', f.steps[j]? = some s → s.work = .menu m' → j = i)
    {menu : Menu} {n : Nat} {text : String} {v : Value} {key : Button}
    (hv : menu.items[n]? = some (text, v))
    (hkey : (Keyboard.ofMenu (m.lead id) menu).1[0]?.bind (·[n]?) = some key)
    (hfits : Text.byteSize (m.lead id ++ "_" ++ v.display).toList ≤ Keyboard.payloadLimit)
    (hfree : b.catalog.registered? key.payload = none) :
    (b.catalog.press key.payload = .ok (.dynamic, []) ↔
      Press.menuMark.toList <+: (m.lead id ++ "_").toList) ∧
    (Press.menuMark.toList <+: (m.lead id ++ "_").toList →
      on (b.handle actor (.press key.payload)) w = on (rescue (do
        Contexts.setVariable actor (Path.ofString m.saveTo) (.text v.display)
        b.followMenu actor m) fun e => do
          note .entryPointFailed
          return .failed (.fault e)) u ∧
      (w.scene.Reliable → ∃ s x,
        on (Contexts.setVariable actor (Path.ofString m.saveTo) (.text v.display)) u =
          (.ok (), { x with store := s }) ∧ u.Looked x ∧
        u.store.Saved s actor (c.setData (Path.ofString m.saveTo) (.text v.display)).encode)) := by
  have hpayload : key.payload = m.lead id ++ "_" ++ v.display :=
    Flow.payload_of_fits hv hkey hfits
  have hpress : b.catalog.press key.payload = .ok (Press.byForm key.payload) := by
    rw [Catalog.press, hfree]
  have hpick : b.catalog.press key.payload = .ok (.dynamic, []) ↔
      Press.menuMark.toList <+: (m.lead id ++ "_").toList := by
    rw [hpress, Except.ok.injEq, Press.byForm_eq_dynamic_iff, hpayload,
      Press.menuMark_prefix_iff (m.lead_ne_empty id)]
  refine ⟨hpick, fun hmark => ⟨?_, fun hs => ?_⟩⟩
  · have hmatch := Flow.matchMenu_of_only hat honly v.display
    rw [handle, react_of_form (hpick.mpr hmark) (by simp), on_rescue, on_rescue,
      pressByForm, on_pickFromMenu hget hrun hf (hpayload ▸ hmatch)]
  · obtain ⟨u', hread, hu⟩ := Contexts.exists_looked_get hs actor
    obtain ⟨hfound, rfl⟩ := Prod.mk.inj (hread.symm.trans hget)
    exact Contexts.exists_looked_setVariable (by rwa [hu.scene])
      (by rw [hu.scene]; exact Except.ok.inj hfound) _ _

/-- Where there is no keyboard, what is taken for a press of one is ignored. -/
theorem on_handle_of_keyboard {payload : String}
    (hget : on (Contexts.get actor) w = (.ok (some c), u)) (hrun : c.isIdle = false)
    (hpress : b.catalog.press payload = .ok (.keyboard, [])) (hstep : b.keyboardStep? c = none) :
    on (b.handle actor (.press payload)) w = (.ok (.ignored .noKeyboardStep), u) := by
  rw [handle, on_rescue, react_of_form hpress (by simp), pressByForm, pressKeyboard,
    on_bind, hget]
  simp only [hrun, hstep, Bool.false_eq_true, if_false]
  rfl

/-- A menu with a lead of its own. -/
def towns (lead : String) : Step.Menu :=
  { handler := "towns", saveTo := "trip.town", callbackPrefix := some lead }

def townMenu : Menu := ⟨"Which town?", [("Paris, 15th", .text "Paris_15")]⟩

def porter (lead : String) : Bot where
  catalog := {
    flows := [("trip", { name := "trip", steps := [⟨some "town", .menu (towns lead)⟩] })]
    frozen := true }

/-- An actor who was sent the menu. -/
def choosing : Context :=
  { Context.fresh 1 1 with currentFlow := "trip", flowMode := true, forwarding := false }

private theorem kept_choosing : choosing.kept = choosing.settled.repair.1 :=
  Context.kept_of_legible (hasReadableId_first rfl rfl)
    (Context.isLegible_iff.mpr ⟨Decimal.isReadable_zero, rfl, rfl, rfl, rfl, rfl⟩)

private theorem currentFlow_choosing : choosing.kept.currentFlow = "trip" := by
  rw [kept_choosing, Context.repair_eq]
  rfl

private theorem currentStep_choosing : choosing.kept.currentStep = 0 := by
  rw [kept_choosing, Context.repair_eq]
  rfl

private theorem isIdle_choosing : choosing.kept.isIdle = false := by
  rw [Context.isIdle, currentFlow_choosing]
  rfl

private theorem flow?_choosing (lead : String) :
    (porter lead).catalog.flow? choosing.kept.currentFlow =
      some { name := "trip", steps := [⟨some "town", .menu (towns lead)⟩] } := by
  rw [currentFlow_choosing]
  rfl

/-- The value of an item may hold what ends the lead. -/
theorem handle_press_item_town : ∃ v w, on (Contexts.get 1) (keeping choosing) =
      (.ok (some choosing.kept), v) ∧
    (porter "dc_town").catalog.press "dc_town_Paris_15" = .ok (.dynamic, []) ∧
    on ((porter "dc_town").handle 1 (.press "dc_town_Paris_15")) (keeping choosing) =
      on (rescue (complete 1) fun e => do
        note .entryPointFailed
        return .failed (.fault e)) w ∧
    v.store.Saved w.store 1
      (choosing.kept.setData (Path.ofString "trip.town") (.text "Paris_15")).encode := by
  have hreliable : (keeping choosing).scene.Reliable := fun _ _ => rfl
  obtain ⟨v, hget, -⟩ := Contexts.exists_looked_get hreliable 1
  rw [show (keeping choosing).scene.context? 1 = some choosing.kept from context?_keeping choosing]
    at hget
  have honly : ∀ j s m', [(⟨some "town", .menu (towns "dc_town")⟩ : Step)][j]? = some s →
      s.work = .menu m' → j = 0 := by
    intro j s m' hj _
    exact Nat.lt_one_iff.mp (List.getElem?_eq_some_iff.mp hj).1
  have hitem : townMenu.items[0]? = some ("Paris, 15th", .text "Paris_15") := rfl
  have hkey : (Keyboard.ofMenu ((towns "dc_town").lead (some "town")) townMenu).1[0]?.bind (·[0]?) =
      some ⟨"Paris, 15th", "dc_town_Paris_15"⟩ := rfl
  obtain ⟨hpick, hkeeps⟩ := handle_press_item (b := porter "dc_town") hget isIdle_choosing
    (flow?_choosing _) rfl honly hitem hkey (by decide) rfl
  have hmark : Press.menuMark.toList <+: ((towns "dc_town").lead (some "town") ++ "_").toList := by
    decide
  obtain ⟨hrun, hsaves⟩ := hkeeps hmark
  obtain ⟨s, x, hset, -, hsaved⟩ := hsaves hreliable
  refine ⟨v, { x with store := s }, hget, hpick.mpr hmark, ?_, hsaved⟩
  rw [on_rescue, on_bind, hset] at hrun
  rw [on_rescue]
  exact hrun

/-- The press of an item whose payload lacks the mark is ignored, and nothing is kept of it. -/
theorem handle_press_item_unmarked : ∃ key v,
    (Keyboard.ofMenu ((towns "city").lead (some "town")) townMenu).1 = [[key]] ∧
    Text.byteSize key.payload.toList ≤ Keyboard.payloadLimit ∧
    (porter "city").catalog.registered? key.payload = none ∧
    (keeping choosing).scene.context? 1 = some choosing.kept ∧
    (porter "city").catalog.flow? choosing.kept.currentFlow =
      some { name := "trip", steps := [⟨some "town", .menu (towns "city")⟩] } ∧
    choosing.kept.currentStep = 0 ∧
    on ((porter "city").handle 1 (.press key.payload)) (keeping choosing) =
      (.ok (.ignored .noKeyboardStep), v) ∧ v.store = (keeping choosing).store := by
  have hreliable : (keeping choosing).scene.Reliable := fun _ _ => rfl
  obtain ⟨v, hget, hlooked⟩ := Contexts.exists_looked_get hreliable 1
  have hknown : (keeping choosing).scene.context? 1 = some choosing.kept :=
    context?_keeping choosing
  have hpress : (porter "city").catalog.press "city_Paris_15" = .ok (.keyboard, []) := rfl
  have hkeyboard : (porter "city").keyboardStep? choosing.kept = none := by
    rw [keyboardStep?, flow?_choosing, currentStep_choosing]
    rfl
  rw [hknown] at hget
  exact ⟨⟨"Paris, 15th", "city_Paris_15"⟩, v, rfl, by decide, rfl, hknown, flow?_choosing _,
    currentStep_choosing, on_handle_of_keyboard hget isIdle_choosing hpress hkeyboard,
    congrArg Scene.store hlooked.scene⟩

end Bot

end Dialogue
