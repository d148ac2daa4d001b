import Dialogue.Bot.Presses
import Dialogue.Proofs.Bot.Moves

/-! What presses point at: the paths that they may write to, the menus that they pick from, and the
actions that were registered for them. -/
namespace Dialogue

namespace Path

private theorem pieces_append {sep : Char} {cs : List Char} (h : sep ∉ cs) (ds : List Char) :
    pieces sep (cs ++ sep :: ds) = cs :: pieces sep ds := by
  induction cs with
  | nil => simp [pieces]
  | cons c cs ih =>
    obtain ⟨hc, hcs⟩ := not_or.mp (mt List.mem_cons.mpr h)
    have hne : (c == sep) = false := beq_eq_false_iff_ne.mpr fun e => hc e.symm
    rw [List.cons_append, pieces, hne, ih hcs]
    rfl

end Path

namespace Bot
open Turn

theorem not_isSystem {path : String} (h : isSystemPath path = false) :
    ¬ (Path.ofString path).IsSystem := by
  intro hsystem
  rw [isSystemPath, hsystem] at h
  exact absurd h (by decide)

/-- Presses are kept under a key of their own, each where its payload says. -/
theorem ofString_pressPath (payload : String) :
    Path.ofString (pressPath payload) = "keyboard" :: Path.ofString payload := by
  have hsplit : (pressPath payload).toList = "keyboard".toList ++ '.' :: payload.toList := by
    rw [pressPath, String.toList_append]
    rfl
  rw [Path.ofString, hsplit, Path.pieces_append (by decide), List.map_cons, String.ofList_toList,
    Path.ofString]

theorem head?_pressPath (payload : String) :
    (Path.ofString (pressPath payload)).head? = some "keyboard" := by
  rw [ofString_pressPath, List.head?_cons]

theorem isSystemPath_pressPath (payload : String) : isSystemPath (pressPath payload) = false := by
  rw [isSystemPath, head?_pressPath]
  decide

theorem filled?_eq_some {o : Option String} {s : String} (h : filled? o = some s) :
    o = some s := by
  cases o with
  | none => cases h
  | some t =>
    rw [filled?] at h
    split at h
    · cases h
    · exact h

/-- Where an action of a payload writes, if it does. -/
def writtenBy (a : Action) : Option String :=
  match Deed.ofAction a with
  | .setVariable => if "value" ∈ a.given then filled? a.target else none
  | .startFlow | .goToStep => none
  | .callHandler | .unnamed => filled? a.saveTo

/-- What is written was looked at before. -/
theorem writtenPath_of_writtenBy {a : Action} {path : String} (h : writtenBy a = some path) :
    writtenPath a = some path := by
  rw [writtenBy] at h
  rw [writtenPath]
  cases hdeed : Deed.ofAction a with
  | setVariable =>
    simp only [hdeed] at h
    split at h
    · simpa using h
    · cases h
  | startFlow | goToStep =>
    simp only [hdeed] at h
    cases h
  | callHandler | unnamed =>
    simp only [hdeed] at h
    simpa using h

/-- The menu that a payload picks from belongs to a step of the flow. -/
theorem matchMenu_mem {f : Flow} {payload value : String} {i : Nat} {m : Step.Menu}
    (h : f.matchMenu payload = some (i, m, value)) : ∃ s ∈ f.steps, s.work = .menu m := by
  obtain ⟨⟨s, j⟩, hs, hmatch⟩ := List.exists_of_findSome?_eq_some h
  have hmem : s ∈ f.steps := (List.mem_zipIdx_iff_getElem?.mp hs) |> List.mem_of_getElem?
  refine ⟨s, hmem, ?_⟩
  simp only at hmatch
  split at hmatch
  · rename_i n hwork
    split at hmatch
    · rw [hwork, (Prod.mk.inj (Prod.mk.inj (Option.some.inj hmatch)).2).1]
    · cases hmatch
  · cases hmatch

theorem byForm_ne_registered (payload : String) (a : Action) :
    (Press.byForm payload).1 ≠ .registered a := by
  unfold Press.byForm
  split
  · nofun
  split
  · split <;> nofun
  · nofun

theorem registered_of_press {k : Catalog} {payload : String} {a : Action} {ns : List Notice}
    (h : k.press payload = .ok (.registered a, ns)) :
    k.registered? payload = some (.action a) := by
  rw [Catalog.press] at h
  split at h
  · rename_i c hc
    rw [hc, Press.registered.inj (Prod.mk.inj (Except.ok.inj h)).1]
  · cases h
  · exact absurd (congrArg Prod.fst (Except.ok.inj h)) (byForm_ne_registered payload a)

end Bot

end Dialogue
