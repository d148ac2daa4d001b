import Dialogue.Proofs.Bot.Capture

/-! Answers while tasks of the store fail. An answer and the emptying of its marker are two writes,
and neither knows what became of the other: only if the first succeeds is the answer safe. -/
namespace Dialogue.Bot
open Turn

section
variable {b : Bot} {w : World} {actor : Int} {c : Context} {m : WaitMarker} {text : String}
variable (hl : b.Lucid) (hc : w.scene.context? actor = some c) (hid : c.hasReadableId = true)
  (hm : c.waitMarker.1 = some m)
include hl hc hid hm

/-- The data still hold an answer where it was kept. -/
def AnswerKept (actor : Int) (p : Path) (text : String) : Scene → Prop :=
  Holds actor (fun _ => True) fun fs => Path.get (.dict fs) p = .text text

end

/-- A world in which the store is lost once the name is written and its question disarmed. -/
def faltering : World :=
  { interviewed with outages := {
    store := fun _ n => if 8 ≤ n then some (.broken "store down") else none } }

section
variable {b : Bot} {w : World} {actor : Int} {c : Context} {m : WaitMarker} {text : String}
variable (hc : w.scene.context? actor = some c) (hm : c.waitMarker.1 = some m)
  (hnext : m.next = none) (htakes : m.Takes text)
include hc hm hnext htakes

omit hc hm htakes in
private theorem scene_handle_of_kept {u w' : World}
    (hmessage : on (b.eventAlone actor (.message text)) w = on (keepAnswerAlone actor m text) u)
    (hkept : on (keepAnswerAlone actor m text) u = (.ok (.proceed m.next), w')) :
    (on (b.handle actor (.message text)) w).2.scene = w'.scene := by
  refine scene_handle_of_rest ?_
  rw [hmessage, hkept, hnext]
  exact ⟨rfl, _, rfl⟩

/-- An answer that nothing follows, while the store works. -/
theorem rewritten_handle_answer (hs : w.scene.Reliable) :
    w.scene.Rewritten (on (b.handle actor (.message text)) w).2.scene actor
      ((c.written (Path.ofString m.saveTo) (.text text)).written WaitMarker.path .null) := by
  obtain ⟨u, hscene, -, hmessage⟩ := @on_message b _ _ _ _ _ hc hm (hs.writesAt _).1 htakes
  rw [← hscene] at hs hc ⊢
  obtain ⟨u', hanswer, hu'⟩ := Contexts.on_setVariable (p := Path.ofString m.saveTo)
    (v := .text text) hc (hs.writesAt _)
  obtain ⟨w', hdisarm, hw'⟩ := Contexts.on_setVariable (p := WaitMarker.path) (v := .null)
    hu'.context? ((hu'.reliable hs).writesAt _)
  have hkept : on (keepAnswerAlone actor m text) u = (.ok (.proceed m.next), w') := by
    simp only [keepAnswerAlone, on_bind, hanswer, hdisarm, on_pure]
  rw [scene_handle_of_kept hnext hmessage hkept]
  exact hu'.trans hw'

/-- An answer whose own write fails is lost: the question is disarmed all the same. -/
theorem rewritten_handle_answer_lost (hreads : w.scene.ReadsAt w.storeTasks)
    (hreads' : w.scene.ReadsAt (w.storeTasks + 2)) {f : Fault}
    (hsave : w.scene.failing .save (w.storeTasks + 4) = some f)
    (hwrites : w.scene.WritesAt (w.storeTasks + 5)) :
    w.scene.Rewritten (on (b.handle actor (.message text)) w).2.scene actor
      (c.written WaitMarker.path .null) := by
  obtain ⟨u, hscene, htasks, hmessage⟩ := @on_message b _ _ _ _ _ hc hm hreads htakes
  have hfails : u.scene.failing .save (u.storeTasks + 2) = some f := by
    rw [hscene, htasks]
    exact hsave
  rw [← hscene] at hc hreads' hwrites ⊢
  rw [← htasks] at hreads'
  obtain ⟨u', hanswer, hscene', htasks'⟩ := Contexts.on_setVariable_lost
    (p := Path.ofString m.saveTo) (v := .text text) hc hreads' hfails
  have hcount : w.storeTasks + 5 = u'.storeTasks := by rw [htasks', htasks]
  rw [← hscene', hcount] at hwrites
  rw [← hscene'] at hc ⊢
  obtain ⟨w', hdisarm, hw'⟩ := Contexts.on_setVariable (p := WaitMarker.path) (v := .null) hc
    hwrites
  have hkept : on (keepAnswerAlone actor m text) u = (.ok (.proceed m.next), w') := by
    simp only [keepAnswerAlone, on_bind, hanswer, hdisarm, on_pure]
  rw [scene_handle_of_kept hnext hmessage hkept]
  exact hw'

end

/-- A world in which just the write of the answer fails. -/
def forgetful : World :=
  { keeping (awaiting "survey" nameMarker) with outages := {
    store := fun t n => if t = .save ∧ n = 4 then some (.broken "store down") else none } }

/-- A question whose answers go where the marker is kept. -/
def misplaced : WaitMarker := { stepId := some "name", saveTo := "_system" }

private theorem data_written_awaiting {m : WaitMarker} (flow : String)
    (h : m.stored.isReadable = true) (p : Path) {v : Value} (hv : v.isReadable = true)
    (hv' : v.WellFormed) (hv'' : v.isFinite = true) :
    ((awaiting flow m).kept.written p v).data = Path.set (awaiting flow m).data p v := by
  have hdata := data_awaiting flow h
  rw [← hdata]
  exact Context.data_written (hasReadableId_awaiting flow) (Context.kept_tidy _).legible
    (hdata ▸ wellFormed_awaiting flow) (hdata ▸ isFinite_awaiting flow) p hv hv' hv''

private theorem rawMarker_ne_null {c : Context} {m : WaitMarker} (h : c.waitMarker.1 = some m) :
    c.rawMarker ≠ .null := by
  intro hnull
  rw [Context.waitMarker, hnull] at h
  cases h

private theorem rawMarker_ne_of_emptied {c d : Context} {m : WaitMarker}
    (h : c.waitMarker.1 = some m) {fs : Table String Value}
    (hd : d.data = Path.set fs WaitMarker.path .null) : d.rawMarker ≠ c.rawMarker := by
  rw [Context.rawMarker, hd, Path.get_set_self _ (by decide)]
  exact (rawMarker_ne_null h).symm

end Dialogue.Bot
