import Dialogue.Contexts
import Dialogue.Proofs.Store.Saving
import Dialogue.Proofs.Turn.Running

/-! What becomes of a context that is kept already when it is asked for or made. To the maker a
context that could not be read is the same as one that is not there. -/
namespace Dialogue.Contexts
open Turn

variable {w : World} {actor : Int}

/-- The store answers who the actor is. -/
def finds (w : World) (actor : Int) : Bool :=
  (w.outages.store .resolve w.storeTasks).isNone &&
    match w.store.resolve actor with
    | .ok (some _) => true
    | _ => false

/-- The store gives out the text of the actor. -/
def reads (w : World) (actor : Int) : Bool :=
  finds w actor && (w.outages.store .load (w.storeTasks + 1)).isNone

/-- The number of the task after those of a read. -/
def nextTask (w : World) (actor : Int) : Nat :=
  if finds w actor then w.storeTasks + 2 else w.storeTasks + 1

private theorem on_guarded {α : Type} (neutral : α) (work : Turn α) (w : World) :
    on (guarded neutral work) w = match on work w with
      | (.ok a, w') => (.ok a, w')
      | (.error _, w') =>
        (.ok neutral, { w' with notices := w'.notices ++ [.contextOperationFailed] }) := by
  rw [guarded, on_rescue]
  rcases on work w with ⟨a | a, w'⟩ <;> rfl

/-- A read that goes wrong answers like one that finds nothing. -/
theorem on_get_of_not_reads (h : reads w actor = false) :
    ∃ ns, (∀ n ∈ ns, n = .contextOperationFailed) ∧ on (Contexts.get actor) w =
      (.ok none, { w with storeTasks := nextTask w actor, notices := w.notices ++ ns }) := by
  simp only [Contexts.get, resolve, load, on_guarded, on_bind, on_get, on_storeTask, on_ofResult]
  rcases hr : w.outages.store .resolve w.storeTasks with _ | f
  · rcases hs : w.store.resolve actor with f | _ | n
    · have hf : finds w actor = false := by simp [finds, hs]
      exact ⟨[.contextOperationFailed], by simp, by simp [nextTask, hf, hs]⟩
    · have hf : finds w actor = false := by simp [finds, hs]
      exact ⟨[], by simp, by simp [nextTask, hf, hs]⟩
    · have hf : finds w actor = true := by simp [finds, hr, hs]
      rcases hl : w.outages.store .load (w.storeTasks + 1) with _ | f
      · simp [reads, hf, hl] at h
      · exact ⟨[.contextOperationFailed], by simp,
          by simp [nextTask, hf, hs, hl, on_bind, on_storeTask]⟩
  · have hf : finds w actor = false := by simp [finds, hr]
    exact ⟨[.contextOperationFailed], by simp, by simp [nextTask, hf]⟩

private theorem on_get_of_reads {blob : Option String} (h : reads w actor = true)
    (stored : w.store.load actor = .ok blob) :
    ∃ c w', on (Contexts.get actor) w = (.ok (some c), w') ∧ w'.store = w.store := by
  obtain ⟨hf, hl⟩ := (Bool.and_eq_true ..).mp h
  obtain ⟨hr, hs⟩ := (Bool.and_eq_true ..).mp hf
  simp only [Option.isNone_iff_eq_none] at hr hl
  simp only [Contexts.get, resolve, load, on_guarded, on_bind, on_get, on_storeTask, on_ofResult,
    hr]
  rcases hn : w.store.resolve actor with f | _ | n
  · simp [hn] at hs
  · simp [hn] at hs
  · simp only [on_bind, on_storeTask, hl, on_get, on_ofResult, stored]
    exact ⟨_, _, rfl, rfl⟩

private theorem on_create (human : Int) {blob : String}
    (stored : w.store.load actor = .ok (some blob)) :
    (on (create actor human) w).2.store.load actor =
      .ok (some (if (w.outages.store .save w.storeTasks).isNone
        then (Context.fresh actor human).encode else blob)) := by
  obtain ⟨s, hs, hsaved⟩ :=
    Store.save_of_accepts (Store.accepts_of_load stored) (Context.fresh actor human).encode
  simp only [create, put, save, on_guarded, on_bind, on_get, on_storeTask, on_ofResult]
  rcases w.outages.store .save w.storeTasks with _ | f
  · simp only [Context.fresh] at hs
    simp only [Context.fresh, hs, on_modify, noteAll, on_pure]
    exact hsaved.load_self
  · exact stored

/-- A context that is kept stays as it is when it can be read, or when nothing can be written
either. Otherwise it is lost: a new one takes its place. -/
theorem load_getOrCreate (human : Int) {blob : String}
    (stored : w.store.load actor = .ok (some blob)) :
    (on (getOrCreate actor human) w).2.store.load actor =
      .ok (some (if reads w actor ∨ (w.outages.store .save (nextTask w actor)).isSome then blob
        else (Context.fresh actor human).encode)) := by
  rw [getOrCreate, on_bind]
  by_cases hr : reads w actor = true
  · obtain ⟨c, w', hget, hstore⟩ := on_get_of_reads hr stored
    simp only [hget, on_pure, hstore, stored, hr, true_or, if_true]
  · obtain ⟨ns, -, hget⟩ := on_get_of_not_reads (Bool.eq_false_iff.mpr hr)
    have hcreate := on_create human
      (w := { w with storeTasks := nextTask w actor, notices := w.notices ++ ns }) stored
    simp only [hget, hcreate, hr, false_or, Bool.false_eq_true]
    cases w.outages.store .save (nextTask w actor) <;> rfl

/-- A store that knows one actor, who is in the middle of a flow, and gives out no texts. -/
def silent : World :=
  { store := .memory { actors := [(1, 1)], contexts := [(1, "\x7b\"current_flow\":\"lead\"\x7d")] }
    outages := { store := fun t _ => if t = .load then some (.broken "store down") else none } }

theorem load_getOrCreate_silent :
    silent.store.load 1 = .ok (some "\x7b\"current_flow\":\"lead\"\x7d") ∧
      (on (getOrCreate 1 1) silent).2.store.load 1 = .ok (some (Context.fresh 1 1).encode) := by
  have stored : silent.store.load 1 = .ok (some "\x7b\"current_flow\":\"lead\"\x7d") := rfl
  have lost := load_getOrCreate 1 stored
  rw [if_neg (by decide)] at lost
  exact ⟨stored, lost⟩

/-- So asking for a context can replace one that is there. -/
theorem getOrCreate_forgets : ¬ ∀ (w : World) (actor human : Int) (blob : String),
    w.store.load actor = .ok (some blob) →
      (on (getOrCreate actor human) w).2.store.load actor = .ok (some blob) := by
  intro kept
  have hkept := congrArg Except.toOption (kept silent 1 1 _ rfl)
  revert hkept
  decide +kernel

end Dialogue.Contexts
