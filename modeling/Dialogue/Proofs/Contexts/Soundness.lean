import Dialogue.Proofs.Context.Losslessness
import Dialogue.Proofs.Contexts.Outages

/-! Contexts are written sound, whatever fails and in whatever order the calls come. One call can
write another: the record of a step outside of a flow. -/
namespace Dialogue

namespace Context
variable {c : Context}

/-- A sound context is read without a repair, whoever it is read for. -/
theorem contextRepaired_not_mem_decode_encode (h : c.Sound) (now : String)
    (externalId humanId : Int) :
    .contextRepaired ∉ (decode now externalId humanId (some c.encode)).2 := by
  have hsound : (c.settled.identified externalId humanId).Sound := h
  rw [decode_encode_as]
  split
  · rw [repair_eq_self hsound]
    exact List.not_mem_nil
  · exact List.not_mem_cons_of_ne_of_not_mem nofun List.not_mem_nil

theorem sound_of_read {now : String} {v : Value} {r : Context × List Notice}
    (h : read now v = .ok r) : r.1.Sound := by
  obtain ⟨c, -, rfl⟩ := Schema.Checked.map_eq_ok h
  exact c.repair_sound

/-- A visit keeps a context sound unless it leads an idle one to another step than the first. -/
theorem sound_visit_iff (h : c.Sound) (flow : String) (step : Int) (now : String) :
    (c.visit flow step now).Sound ↔ (c.currentFlow = "" → step = 0) := by
  have htopic : (c.visit flow step now).topicSound = true := h.1
  have hstep : (c.visit flow step now).stepSound = true ↔ (c.currentFlow = "" → step = 0) := by
    simp [stepSound, isIdle, visit, Decidable.imp_iff_not_or]
  rw [Sound, hstep]
  exact and_iff_right htopic

end Context

theorem Store.context?_sound {s : Store} {now : String} {actor : Int} {c : Context}
    (h : s.context? now actor = some c) : c.Sound := by
  rw [context?] at h
  split at h
  · split at h
    · rw [← Option.some.inj h]
      exact (Context.decode_tidy ..).sound
    · cases h
  · cases h

namespace Contexts
open Turn

/-- A call that writes a context. -/
inductive Write where
  | create (actor human : Int)
  | update (actor : Int) (fields : Table String Value)
  | setVariable (actor : Int) (p : Path) (v : Value)
  | setFlowMode (actor : Int) (on : Bool)
  | setForwarding (actor : Int) (on : Bool)
  | recordStep (actor : Int) (flow : String) (step : Int)

namespace Write

/-- Carries out the call, and answers with the context that it answers with. -/
def carryOut : Write → Turn (Option Context)
  | create actor human => Contexts.create actor human
  | update actor fields => Contexts.update actor fields
  | setVariable actor p v => do
    Contexts.setVariable actor p v
    return none
  | setFlowMode actor on => do
    Contexts.setFlowMode actor on
    return none
  | setForwarding actor on => do
    Contexts.setForwarding actor on
    return none
  | recordStep actor flow step => Contexts.recordStep actor flow step

/-- Outside of a flow no step but the first is recorded. -/
def Fits (s : Scene) : Write → Prop
  | recordStep actor _ step => ∀ c, s.context? actor = some c → c.currentFlow = "" → step = 0
  | _ => True

/-- The context that a call writes and answers with, so far as it does. -/
def Makes (s : Scene) (d : Context) : Write → Prop
  | create actor human => d = Context.fresh actor human
  | update actor fields => ∃ c ns, s.context? actor = some c ∧
      Context.read s.now (.dict (Table.putAll c.toFields
        (fields.filter fun e => e.1 ∈ mutableFields))) = .ok (d, ns)
  | setVariable actor p v => ∃ c, s.context? actor = some c ∧ d = c.setData p v
  | setFlowMode actor on => ∃ c, s.context? actor = some c ∧
      d = ({ c with flowMode := on, forwarding := !on } : Context).repair.1
  | setForwarding actor on => ∃ c, s.context? actor = some c ∧
      d = ({ c with forwarding := on } : Context).repair.1
  | recordStep actor flow step => ∃ c, s.context? actor = some c ∧ d = c.visit flow step s.now

/-- What is made is sound exactly when the call fits. -/
theorem sound_iff_fits {s : Scene} {k : Write} {d : Context} (h : Makes s d k) :
    d.Sound ↔ Fits s k := by
  cases k with
  | create actor human =>
    obtain rfl := h
    exact iff_of_true (Context.fresh_tidy actor human).sound trivial
  | update actor fields =>
    obtain ⟨c, ns, -, hread⟩ := h
    exact iff_of_true (Context.sound_of_read hread) trivial
  | setVariable actor p v =>
    obtain ⟨c, hc, rfl⟩ := h
    have hsound : c.Sound := Store.context?_sound hc
    exact iff_of_true hsound trivial
  | setFlowMode actor on =>
    obtain ⟨c, -, rfl⟩ := h
    exact iff_of_true (Context.repair_sound _) trivial
  | setForwarding actor on =>
    obtain ⟨c, -, rfl⟩ := h
    exact iff_of_true (Context.repair_sound _) trivial
  | recordStep actor flow step =>
    obtain ⟨c, hc, rfl⟩ := h
    rw [Context.sound_visit_iff (Store.context?_sound hc)]
    refine ⟨fun hstep c' hc' => ?_, fun hfits => hfits c hc⟩
    rw [Option.some.inj (hc.symm.trans hc')] at hstep
    exact hstep

end Write

section
variable {s t : Scene} {actor : Int} {d : Context} {M : Context → Prop} {R : Scene → Prop}

/-- One of certain contexts was written, or nothing. -/
def Writes (M : Context → Prop) (s t : Scene) : Prop :=
  t.store = s.store ∨ ∃ d, M d ∧ s.store.Saved t.store d.externalId d.encode

/-- The same, and any answer is one of those contexts. -/
def Answered (M : Context → Prop) (s : Scene) (o : Option Context) (t : Scene) : Prop :=
  (∀ d, o = some d → M d) ∧ Writes M s t

theorem Writes.answered (h : Writes M s t) : Answered M s none t :=
  ⟨fun d hd => absurd hd.symm (Option.some_ne_none d), h⟩

theorem writes_of_eq (h : t = s) : Writes M s t := .inl (congrArg Scene.store h)

private theorem leads_put_made (hd : M d) :
    Leads (· = s) (put d) (fun _ => Writes M s) (Writes M s) := by
  rintro w rfl
  simp only [put, save, on_bind, on_storeTask]
  cases w.outages.store .save w.storeTasks with
  | some f => exact .inl rfl
  | none =>
    simp only [on_get, on_ofResult]
    rcases hsave : w.store.save d.externalId d.encode with f | ⟨s', ns⟩
    · exact .inl rfl
    · exact (Store.saved_or_eq_of_save hsave).symm.imp_right fun hsaved => ⟨d, hd, hsaved⟩

private theorem leads_put_answered (hd : M d) :
    Leads (· = s) (do put d; return some d) (Answered M s) (Answered M s none) := by
  refine ((leads_put_made hd).mono (fun _ _ h => h) fun _ h => h.answered).bind fun _ =>
    Leads.pure fun t ht => ⟨?_, ht⟩
  intro e he
  exact Option.some.inj he ▸ hd

/-- A read finds the context that is there or nothing. -/
private theorem leads_read {α : Type} {neutral : α} {f : Option Context → Turn α}
    {Q : α → Scene → Prop} (hnone : Leads (· = s) (f none) Q (Q neutral))
    (hsome : ∀ c, s.context? actor = some c → Leads (· = s) (f (some c)) Q (Q neutral)) :
    Leads (· = s) (guarded neutral (Contexts.get actor >>= f)) Q R := by
  refine leads_guarded (leads_get_tried.bind fun o => Leads.given fun ho => ?_)
  cases o with
  | none => exact hnone
  | some c => exact hsome c (ho.resolve_right fun h => Option.some_ne_none c h.1).symm

private theorem leads_amend_made {change : Context → Schema.Checked (Context × List Notice)}
    (hM : ∀ c r, s.context? actor = some c → change c = .ok r → M r.1) :
    Leads (· = s) (amend actor change) (Answered M s) R := by
  refine leads_read ?_ fun c hc => ?_
  · exact (Leads.note _).bind fun _ => Leads.pure fun _ ht => (writes_of_eq ht).answered
  · rcases hchange : change c with complaints | r
    · simp only [hchange]
      exact Leads.throw fun _ ht => (writes_of_eq ht).answered
    · simp only [hchange]
      refine (Leads.noted r).bind fun e => Leads.given fun he => ?_
      subst he
      exact leads_put_answered (hM c r hc hchange)

private theorem leads_revise_made {f : Context → Context}
    (hM : ∀ c, s.context? actor = some c → M (f c).repair.1) :
    Leads (· = s) (do revise actor f; return none) (Answered M s) R := by
  have hrevise : Leads (· = s) (revise actor f) (fun _ => Writes M s) R := by
    refine (leads_amend_made fun c r hc hr => ?_).bind fun _ => Leads.pure fun _ ht => ht.2
    rw [← Except.ok.inj hr]
    exact hM c hc
  exact hrevise.bind fun _ => Leads.pure fun _ ht => ht.answered

/-- Whatever fails, a call writes what it makes or nothing, and answers. -/
theorem leads_carryOut (k : Write) :
    Leads (· = s) k.carryOut (Answered (fun d => k.Makes s d) s) R := by
  cases k with
  | create actor human => exact leads_guarded (leads_put_answered rfl)
  | update actor fields =>
    have hsome (w : World) (hw : w.scene = s) : Leads (· = s)
        (amend actor fun c => Context.read w.now (.dict (Table.putAll c.toFields
          (fields.filter fun e => e.1 ∈ mutableFields))))
        (Answered (fun d => Write.Makes s d (.update actor fields)) s) R := by
      refine leads_amend_made fun c r hc hr => ⟨c, r.2, hc, ?_⟩
      rw [← hw]
      exact hr
    dsimp only [Write.carryOut, Contexts.update]
    split
    · exact (Leads.note _).bind fun _ => Leads.get hsome
    · exact Leads.get hsome
  | setVariable actor p v =>
    refine Leads.bind (Q := fun _ t => Writes _ s t) (leads_read ?_ fun c hc => ?_) fun _ =>
      Leads.pure fun _ ht => ht.answered
    · exact (Leads.note _).post fun _ _ ht => writes_of_eq ht
    · exact leads_put_made ⟨c, hc, rfl⟩
  | setFlowMode actor on => exact leads_revise_made fun c hc => ⟨c, hc, rfl⟩
  | setForwarding actor on => exact leads_revise_made fun c hc => ⟨c, hc, rfl⟩
  | recordStep actor flow step =>
    refine leads_read ?_ fun c hc => Leads.get fun w hw => leads_put_answered ⟨c, hc, ?_⟩
    · exact (Leads.note _).bind fun _ => Leads.pure fun _ ht => (writes_of_eq ht).answered
    · rw [← hw]
      rfl

end

/-- A text that can be asked for is the only one that is read, if any is. -/
private theorem exists_get_text (w : World) {j : Int} {blob : String}
    (hload : w.store.load j = .ok (some blob)) :
    ∃ o v ns, on (Contexts.get j) w = (.ok o, v) ∧ v.notices = w.notices ++ ns ∧
      ∀ n ∈ ns, n = .contextOperationFailed ∨
        ∃ human, n ∈ (Context.decode w.now j human (some blob)).2 := by
  cases hreads : reads w j with
  | false =>
    obtain ⟨ns, hns, hget⟩ := on_get_of_not_reads hreads
    exact ⟨_, _, ns, hget, rfl, fun n hn => .inl (hns n hn)⟩
  | true =>
    obtain ⟨hfinds, htask⟩ := (Bool.and_eq_true ..).mp hreads
    obtain ⟨hfirst, hknown⟩ := (Bool.and_eq_true ..).mp hfinds
    rcases hresolve : w.store.resolve j with f | _ | human
    · simp [hresolve] at hknown
    · simp [hresolve] at hknown
    · have hget := on_get_of_resolve (w := w)
        ⟨Option.isNone_iff_eq_none.mp hfirst, Option.isNone_iff_eq_none.mp htask⟩ hresolve hload
      exact ⟨_, _, _, hget, rfl, fun n hn => .inr ⟨human, hn⟩⟩

/-- Worlds that calls lead to from one, each of which fits. Between calls time goes by, and what
fails can change. -/
inductive Written (w₀ : World) : World → Prop
  | start : Written w₀ w₀
  | pass {w : World} (h : Written w₀ w) (now : String) (outages : Outages) :
    Written w₀ { w with now, outages }
  | write {w : World} (h : Written w₀ w) (k : Write) (fits : k.Fits w.scene) :
    Written w₀ (on k.carryOut w).2

/-- Every text of a store is one that it had before, or that of a sound context. -/
def Clean (s s' : Store) : Prop := ∀ j blob, s'.load j = .ok (some blob) →
  s.load j = .ok (some blob) ∨ ∃ c : Context, c.Sound ∧ c.externalId = j ∧ blob = c.encode

theorem Clean.saved {s s' s'' : Store} {c : Context} (h : Clean s s') (hc : c.Sound)
    (hsaved : s'.Saved s'' c.externalId c.encode) : Clean s s'' := by
  intro j blob hload
  by_cases hj : j = c.externalId
  · subst hj
    have hblob := Option.some.inj (Except.ok.inj (hsaved.load_self.symm.trans hload))
    exact .inr ⟨c, hc, rfl, hblob.symm⟩
  · exact h j blob ((hsaved.load_of_ne j hj).symm.trans hload)

theorem Written.clean {w₀ w : World} (h : Written w₀ w) : Clean w₀.store w.store := by
  induction h with
  | start => exact fun _ _ hload => .inl hload
  | pass h now outages ih => exact ih
  | @write w h k fits ih =>
    have hdone := leads_carryOut k (R := fun _ => False) w rfl
    generalize on k.carryOut w = r at hdone
    obtain ⟨f | o, v⟩ := r
    · exact hdone.elim
    -- The call wrote nothing, or the text of the one context that it made.
    · rcases hdone.2 with hstore | ⟨d, hd, hsaved⟩
      · have hstore : v.store = w.store := hstore
        rwa [hstore]
      · exact ih.saved ((Write.sound_iff_fits hd).mpr fits) hsaved

/-- Along every run of fitting calls, whatever fails, each text that was written is that of a sound
context, and reading it leads to no repair. The next call always ends, and the context that it
answers with is sound exactly when the call fits. -/
theorem sound_of_written {w₀ w : World} (h : Written w₀ w) :
    (∀ j blob, w.store.load j = .ok (some blob) →
      w₀.store.load j = .ok (some blob) ∨
        (∃ c : Context, c.Sound ∧ c.externalId = j ∧ blob = c.encode) ∧
        ∃ o v ns, on (Contexts.get j) w = (.ok o, v) ∧ v.notices = w.notices ++ ns ∧
          .contextRepaired ∉ ns) ∧
    ∀ k : Write, ∃ o v, on k.carryOut w = (.ok o, v) ∧
      ∀ c, o = some c → (c.Sound ↔ k.Fits w.scene) := by
  refine ⟨fun j blob hload => ?_, fun k => ?_⟩
  · refine (h.clean j blob hload).imp_right fun hsound => ⟨hsound, ?_⟩
    obtain ⟨c, hc, -, rfl⟩ := hsound
    obtain ⟨o, v, ns, hget, hnotices, hns⟩ := exists_get_text w hload
    refine ⟨o, v, ns, hget, hnotices, fun hmem => ?_⟩
    rcases hns _ hmem with hfailed | ⟨human, hrepaired⟩
    · cases hfailed
    · exact Context.contextRepaired_not_mem_decode_encode hc w.now j human hrepaired
  · have hdone := leads_carryOut k (R := fun _ => False) w rfl
    rcases hon : on k.carryOut w with ⟨f | o, v⟩
    · rw [hon] at hdone
      exact hdone.elim
    · rw [hon] at hdone
      exact ⟨o, v, rfl, fun c hc => Write.sound_iff_fits (hdone.1 c hc)⟩

/-- An actor who has just been put into a flow. -/
def offered : Context := { externalId := 1, humanId := 1, currentFlow := "offer" }

def offering : World :=
  { store := .memory { actors := [(1, 1)], contexts := [(1, offered.encode)] } }

theorem sound_of_written_offered : ∃ c v, Written offering v ∧
    on (recordStep 1 "offer" 2) offering = (.ok (some c), v) ∧ c.currentStep = 2 ∧ c.Sound ∧
    ∃ d : Context, d.Sound ∧ d.externalId = 1 ∧ v.store.load 1 = .ok (some d.encode) := by
  have hsound : offered.Sound := ⟨rfl, rfl⟩
  have hreadable : offered.isReadable = true := by decide +kernel
  have hstored : offering.store.load 1 = .ok (some offered.encode) := rfl
  have hread : Context.decode offering.now 1 1 (some offered.encode) = (offered, []) :=
    (Context.decode_encode_of_sound "" hsound ⟨List.nodup_nil, trivial⟩ hreadable).2 rfl
  have hfits : (Write.recordStep 1 "offer" 2).Fits offering.scene := by
    intro c hc hidle
    have hflow : c = offered :=
      Option.some.inj (hc.symm.trans (congrArg (some <| Prod.fst ·) hread))
    rw [hflow] at hidle
    exact absurd hidle (by decide)
  let c := offered.visit "offer" 2 ""
  have hrecord : ∃ v, on (recordStep 1 "offer" 2) offering = (.ok (some c), v) ∧
      v.store.load 1 = .ok (some c.encode) := by
    have hresolve : offering.store.resolve 1 = .ok (some 1) := rfl
    have hget := on_get_of_resolve ⟨rfl, rfl⟩ hresolve hstored
    rw [hread] at hget
    rw [recordStep, guarded, on_rescue, on_bind, hget]
    exact ⟨_, rfl, rfl⟩
  obtain ⟨v, hon, hload⟩ := hrecord
  have hv : Written offering v := by
    have hwrite := Written.start.write (.recordStep 1 "offer" 2) hfits
    rwa [Write.carryOut, hon] at hwrite
  obtain ⟨o, v', hon', hanswer⟩ := (sound_of_written .start).2 (.recordStep 1 "offer" 2)
  obtain ⟨rfl, rfl⟩ : some c = o ∧ v = v' := by
    obtain ⟨ho, hv⟩ := Prod.mk.inj (hon.symm.trans hon')
    exact ⟨Except.ok.inj ho, hv⟩
  refine ⟨c, v, hv, hon, rfl, (hanswer c rfl).mpr hfits, ?_⟩
  rcases (sound_of_written hv).1 1 _ hload with hold | ⟨⟨d, hd, hactor, hblob⟩, -⟩
  · exact ⟨offered, hsound, rfl, hload.trans (hold.symm.trans hstored)⟩
  · exact ⟨d, hd, hactor, hblob ▸ hload⟩

/-- A store that knows one actor, of whom nothing is kept. -/
def acquainted : World := { store := .memory { actors := [(1, 1)] } }

/-- Outside of a flow a step is recorded all the same. What is written then is repaired as soon as
it is read. -/
theorem recordStep_unsound : ∃ c v u, on (recordStep 1 "offer" 2) acquainted = (.ok (some c), v) ∧
    c.currentFlow = "" ∧ c.currentStep = 2 ∧ ¬ c.Sound ∧ v.store.load 1 = .ok (some c.encode) ∧
    v.notices = [] ∧ on (Contexts.get 1) v = (.ok (some { c with currentStep := 0 }), u) ∧
    u.notices = [.contextRepaired] := by
  let c := (Context.fresh 1 1).visit "offer" 2 ""
  have hreadable : c.isReadable = true := by decide +kernel
  have hread : Context.decode "" 1 1 (some c.encode) =
      ({ c with currentStep := 0 }, [.contextRepaired]) := by
    rw [Context.decode_encode_as, if_pos hreadable]
    rfl
  have hrecord : ∃ v, on (recordStep 1 "offer" 2) acquainted = (.ok (some c), v) ∧
      v.store = .memory { actors := [(1, 1)], contexts := [(1, c.encode)] } ∧ v.notices = [] ∧
      v.now = "" ∧ v.outages = {} := ⟨_, rfl, rfl, rfl, rfl, rfl⟩
  obtain ⟨v, hon, hstore, hnotices, hnow, houtages⟩ := hrecord
  have hload : v.store.load 1 = .ok (some c.encode) := by rw [hstore]; rfl
  have hreads : v.scene.ReadsAt v.storeTasks := by
    rw [Scene.ReadsAt, World.scene, houtages]
    exact ⟨rfl, rfl⟩
  have hresolve : v.store.resolve 1 = .ok (some 1) := by rw [hstore]; rfl
  have hget := on_get_of_resolve hreads hresolve hload
  rw [hnow, hread, hnotices] at hget
  exact ⟨c, v, _, hon, rfl, rfl, by decide, hload, hnotices, hget, rfl⟩

end Contexts

end Dialogue
