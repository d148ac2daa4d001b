import Dialogue.Proofs.Store.Restoring
import Dialogue.Store.Call
import Mathlib.Data.List.TakeWhile

/-! A file store whose writes are deferred. What memory holds and a file does not is remembered, and
as long as something is remembered a timer runs that will write it. -/
namespace Dialogue.FileStore
open Store

/-- What happens to a file store: a call, or its timer fires. Where files are written, the ids have
to be short enough for that. -/
inductive Happens : FileStore → FileStore → Prop
  | call {s t : FileStore} {c : Call} {answer : Value} {ns : List Notice}
    (h : c.apply (.files s) = .ok (.files t, answer, ns))
    (hw : c = .flush → s.records.Writable) : Happens s t
  | fire {s : FileStore} (hw : s.records.Writable) : Happens s s.fire

/-- What becomes of a store that is opened on some directory and defers its writes. -/
inductive Arises : FileStore → Prop
  | opened {d : Directory} {s : FileStore} {ns : List Notice} (h : openOn true d = .ok (s, ns)) :
    Arises s
  | happens {s t : FileStore} (h : Arises s) (hst : Happens s t) : Arises t

/-- Whatever a file does not mirror will be written. -/
structure Scheduled (s : FileStore) : Prop where
  deferred : s.deferred = true
  distinct : s.records.Distinct
  pending : ∀ c, s.Mirrors c ∨ c ∈ s.pending
  timer : s.pending ≠ [] → s.timer = .running

variable {s t : FileStore}

/-- All that a call can do to a file store, whether it is completed or not. -/
theorem carryOut_cases (s : FileStore) (c : Call) : ∃ t, (c.carryOut (.files s)).1 = .files t ∧
    (t = s ∨ (∃ id internal, t = s.register id internal) ∨ (∃ id blob, t = s.save id blob) ∨
      c = .flush ∧ t = s.flush) := by
  cases c with
  | register id internal =>
    rw [Call.carryOut]
    rcases (do return (← internal.toInt, ← id.toInt) : Except Fault (Int × Int)) with f | ⟨n, m⟩
    · exact ⟨s, rfl, .inl rfl⟩
    · exact ⟨_, rfl, .inr (.inl ⟨m, n, rfl⟩)⟩
  | enrol id =>
    rw [Call.carryOut]
    rcases id.toInt with f | n
    · exact ⟨s, rfl, .inl rfl⟩
    · simp only [Call.given, Store.enrol]
      split
      · exact ⟨s, rfl, .inl rfl⟩
      · exact ⟨_, rfl, .inr (.inl ⟨n, _, rfl⟩)⟩
  | resolve | load | list | sizes => exact ⟨s, rfl, .inl rfl⟩
  | save id blob =>
    rw [Call.carryOut]
    rcases id.toInt with f | n
    · exact ⟨s, rfl, .inl rfl⟩
    · exact ⟨_, rfl, .inr (.inr (.inl ⟨n, blob, rfl⟩))⟩
  | flush => exact ⟨_, rfl, .inr (.inr (.inr ⟨rfl, rfl⟩))⟩

theorem carryOut_of_apply {c : Call} {v u : Store} {answer : Value} {ns : List Notice}
    (h : c.apply v = .ok (u, answer, ns)) : c.carryOut v = (u, .ok (answer, ns)) := by
  rw [Call.apply] at h
  rcases hcall : c.carryOut v with ⟨t, f | r⟩
  · rw [hcall] at h
    cases h
  · rw [hcall] at h
    obtain ⟨rfl, hr⟩ := Prod.mk.inj (Except.ok.inj h)
    exact congrArg (fun r => (t, Except.ok r)) hr

theorem scheduled_openOn {d : Directory} {ns : List Notice} (h : openOn true d = .ok (s, ns)) :
    s.Scheduled := by
  have hmirrors := mirrors_openOn h
  have hdistinct := distinct_openOn h
  obtain ⟨_, _, _, _, -, -, rfl, -⟩ := parts_of_openOn h
  exact ⟨rfl, hdistinct, fun c => .inl (hmirrors c), fun hne => absurd rfl hne⟩

namespace Scheduled

/-- A table that changes is remembered, and a timer is set if none runs. -/
theorem changed (h : s.Scheduled) {r : Records} (hr : r.Distinct) (c : Collection)
    (hsame : ∀ d, d ≠ c → d.Same s.records r) : ({ s with records := r }.changed c).Scheduled := by
  have hchanged : { s with records := r }.changed c = { s with
      records := r
      pending := if c ∈ s.pending then s.pending else s.pending ++ [c]
      timer := .running } := by
    rw [FileStore.changed, if_pos h.deferred]
  have hmem (d : Collection) (hd : d = c ∨ d ∈ s.pending) :
      d ∈ if c ∈ s.pending then s.pending else s.pending ++ [c] := by
    split
    · rename_i hc
      exact hd.elim (fun e => e ▸ hc) id
    · exact List.mem_append.mpr (hd.symm.imp id List.mem_singleton.mpr)
  rw [hchanged]
  refine ⟨h.deferred, hr, ?_, fun _ => rfl⟩
  intro d
  by_cases hd : d = c
  · exact .inr (hmem d (.inl hd))
  -- The file of the other collection mirrors its table if it did so before.
  · apply (h.pending d).imp
    · intro hmirrors
      exact hmirrors.transfer rfl (hsame d hd)
    · intro hpending
      exact hmem d (.inr hpending)

theorem register (h : s.Scheduled) (id internal : Int) : (s.register id internal).Scheduled :=
  h.changed (h.distinct.register id internal) .actors fun _ hd => Collection.same_register hd

theorem save (h : s.Scheduled) (id : Int) (blob : String) : (s.save id blob).Scheduled :=
  h.changed (h.distinct.save id blob) .contexts fun _ hd => Collection.same_save hd

end Scheduled

private theorem mirrors_foldl_write (h : s.records.Distinct) (hw : s.records.Writable)
    (cs : List Collection) {c : Collection} (hc : s.Mirrors c ∨ c ∈ cs) :
    (cs.foldl write s).Mirrors c := by
  induction cs generalizing s with
  | nil => exact hc.resolve_right List.not_mem_nil
  | cons d cs ih =>
    apply ih (s := s.write d) h hw
    by_cases hd : c = d
    · subst hd
      exact .inl (mirrors_write h hw c)
    · apply hc.imp (mirrors_write_of_ne hd)
      intro hmem
      exact (List.mem_cons.mp hmem).resolve_left hd

/-- Files that are written one after another all mirror their tables in the end. -/
theorem mirrors_writeAll (h : s.records.Distinct) (hw : s.records.Writable) (cs : List Collection)
    {c : Collection} (hc : s.Mirrors c ∨ c ∈ cs) : (s.writeAll cs).Mirrors c := by
  have hall : cs.takeWhile (·.isWritable s.records) = cs :=
    List.takeWhile_eq_self_iff.mpr fun d _ => hw.isWritable d
  rw [writeAll, hall]
  exact mirrors_foldl_write h hw cs hc

namespace Scheduled

theorem mirrors_fire (h : s.Scheduled) (hw : s.records.Writable) (c : Collection) :
    s.fire.Mirrors c := by
  by_cases htimer : s.timer = .running
  · have hfire : s.fire = { s.writeAll s.pending with pending := [], timer := .fired } := by
      rw [FileStore.fire, htimer]
    have hwritten := mirrors_writeAll h.distinct hw s.pending (h.pending c)
    rw [hfire]
    exact hwritten.transfer rfl (c.same_refl _)
  -- Where no timer runs nothing is pending, so the files need not be written.
  · have hfire : s.fire = s := by
      unfold FileStore.fire
      split
      · exact absurd ‹_› htimer
      · rfl
    have hnothing : s.pending = [] := by_contra fun hne => htimer (h.timer hne)
    rw [hfire]
    exact (h.pending c).resolve_right (hnothing ▸ List.not_mem_nil)

theorem mirrors_flush (h : s.Scheduled) (hw : s.records.Writable) (c : Collection) :
    s.flush.Mirrors c :=
  mirrors_writeAll (s := { s with pending := [] }) h.distinct hw [.actors, .contexts]
    (.inr (by cases c <;> decide))

theorem fire (h : s.Scheduled) (hw : s.records.Writable) : s.fire.Scheduled := by
  have hmirrors := h.mirrors_fire hw
  unfold FileStore.fire at hmirrors ⊢
  split at hmirrors
  · obtain ⟨d, hd⟩ := s.writeAll_frame s.pending
    rw [hd] at hmirrors ⊢
    exact ⟨h.deferred, h.distinct, fun c => .inl (hmirrors c), nofun⟩
  · exact h

/-- A timer may run on after everything was written. -/
theorem flush (h : s.Scheduled) (hw : s.records.Writable) : s.flush.Scheduled := by
  have hmirrors := h.mirrors_flush hw
  obtain ⟨d, hd⟩ := writeAll_frame { s with pending := [] } [.actors, .contexts]
  rw [FileStore.flush, hd] at hmirrors ⊢
  exact ⟨h.deferred, h.distinct, fun c => .inl (hmirrors c), nofun⟩

theorem happens (h : s.Scheduled) (hst : Happens s t) : t.Scheduled := by
  cases hst with
  | fire hw => exact h.fire hw
  | call hcall hw =>
    obtain ⟨u, hu, hcases⟩ := carryOut_cases s _
    rw [carryOut_of_apply hcall] at hu
    obtain rfl : t = u := Store.files.inj hu
    rcases hcases with rfl | ⟨id, internal, rfl⟩ | ⟨id, blob, rfl⟩ | ⟨hflush, rfl⟩
    · exact h
    · exact h.register id internal
    · exact h.save id blob
    · exact h.flush (hw hflush)

end Scheduled

theorem scheduled_of_arises (h : s.Arises) : s.Scheduled := by
  induction h with
  | opened h => exact scheduled_openOn h
  | happens _ hst ih => exact ih.happens hst

/-- Nothing that is deferred is lost: what a file does not hold is remembered, as long as something
is remembered a timer runs, and after the timer fires, or all is flushed, another store that is
opened on the directory has the same tables. -/
theorem nothing_lost_of_arises (h : s.Arises) :
    (∀ c, ¬ s.Mirrors c → c ∈ s.pending) ∧ (s.pending ≠ [] → s.timer = .running) ∧
      (s.records.Writable → ∀ t, t = s.fire ∨ t = s.flush → ∀ deferred,
        ∃ u ns, openOn deferred t.directory = .ok (u, ns) ∧ u.records = t.records) := by
  have hscheduled := scheduled_of_arises h
  refine ⟨?_, hscheduled.timer, ?_⟩
  · intro c hc
    exact (hscheduled.pending c).resolve_left hc
  · intro hw t ht
    apply openOn_of_mirrors
    rcases ht with rfl | rfl
    · exact hscheduled.mirrors_fire hw
    · exact hscheduled.mirrors_flush hw

/-- A text was saved after all was flushed, while the timer that was set before still runs. -/
def resaved : FileStore :=
  (({ deferred := true } : FileStore).register 1 1).flush.save 1 "\x7b\x7d"

theorem nothing_lost_of_arises_resaved : resaved.Arises ∧ resaved.records.Writable ∧
    ¬ resaved.Mirrors .contexts ∧ .contexts ∈ resaved.pending ∧ resaved.timer = .running ∧
    ∃ u ns, openOn true resaved.fire.directory = .ok (u, ns) ∧
      u.records = { actors := [(1, 1)], contexts := [(1, "\x7b\x7d")] } := by
  have hw : resaved.records.Writable := ⟨by decide, by decide⟩
  have hopened : Arises { deferred := true } :=
    .opened (show openOn true [] = .ok ({ deferred := true }, []) from rfl)
  have hregistered : Arises (({ deferred := true } : FileStore).register 1 1) :=
    hopened.happens (.call (c := .register (.int 1) (.int 1)) rfl nofun)
  have hflushed : Arises (({ deferred := true } : FileStore).register 1 1).flush :=
    hregistered.happens (.call (c := .flush) rfl fun _ => ⟨by decide, by decide⟩)
  have harises : resaved.Arises :=
    hflushed.happens (.call (c := .save (.int 1) "\x7b\x7d") rfl nofun)
  have hcontexts : ¬ resaved.Mirrors .contexts := by
    rintro ⟨ns, h⟩
    have hfound : restored (fun v => .ok v.display)
        (Table.value? resaved.directory Collection.contexts.fileName) = .ok ([], []) := rfl
    rw [hfound] at h
    cases h
  obtain ⟨hpending, htimer, hwritten⟩ := nothing_lost_of_arises harises
  have hmem := hpending .contexts hcontexts
  exact ⟨harises, hw, hcontexts, hmem, htimer (List.ne_nil_of_mem hmem),
    hwritten hw resaved.fire (.inl rfl) true⟩

end Dialogue.FileStore
