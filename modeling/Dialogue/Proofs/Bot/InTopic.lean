import Dialogue.Proofs.Bot.Holding

/-! What holds of an actor's context for as long as a flow is run in a topic. Outside of topics
nothing is asked of it, and only an event that starts a flow in a topic leads there. -/
namespace Dialogue

namespace Context
variable {c : Context}

theorem inTopic_of_kept (h : c.kept.inTopic = true) : c.inTopic = true := by
  rw [kept] at h
  split at h
  · rw [repair_eq] at h
    exact ((Bool.and_eq_true ..).mp h).1
  · cases h

/-- A property of contexts that outlasts their being written and read again, the entering of steps,
the switch for free messages, and the emptying of the marker's place. -/
structure Steady (E : Context → Prop) : Prop where
  kept : ∀ {c : Context}, c.hasReadableId = true → c.isLegible = true →
    (Value.dict c.data).WellFormed → E c → E c.kept
  visit : ∀ {c : Context} (flow : String) (step : Int) (now : String), E c →
    E (c.visit flow step now)
  relay : ∀ {c : Context} (on : Bool), E c → E { c with forwarding := on }
  disarm : ∀ {c : Context}, E c → E (c.setData WaitMarker.path .null)

theorem steady_never : Steady fun _ => False :=
  ⟨fun _ _ _ => id, fun _ _ _ => id, fun _ => id, id⟩

end Context

namespace Bot
open Turn

/-- The store works, the actor has a context that can be kept, and as long as it is in a topic
something holds of it. -/
def OnTopic (actor : Int) (E : Context → Prop) (s : Scene) : Prop :=
  s.Reliable ∧ ∃ c, s.context? actor = some c ∧ c.hasReadableId = true ∧ (c.inTopic = true → E c)

/-- The actor is in no topic. -/
abbrev Away (actor : Int) : Scene → Prop := OnTopic actor fun _ => False

section
variable {b : Bot} {actor : Int} {E E' : Context → Prop} {R : Scene → Prop} {s t : Scene}
  {c d : Context}

namespace OnTopic

theorem at_known (h : OnTopic actor E s) (hc : s.context? actor = some c) :
    c.hasReadableId = true ∧ (c.inTopic = true → E c) := by
  obtain ⟨-, d, hd, hid, hE⟩ := h
  obtain rfl : d = c := Option.some.inj (hd.symm.trans hc)
  exact ⟨hid, hE⟩

theorem mono (h : OnTopic actor E s) (hE : ∀ c, E c → E' c) : OnTopic actor E' s := by
  obtain ⟨hs, c, hc, hid, hold⟩ := h
  exact ⟨hs, c, hc, hid, fun htopic => hE c (hold htopic)⟩

theorem of_away (h : Away actor s) : OnTopic actor E s := h.mono fun _ => False.elim

/-- Of an actor who has no context in a topic nothing is asked. -/
theorem away (h : OnTopic actor E s) (hc : s.context? actor = some c) (htopic : c.inTopic ≠ true) :
    Away actor s := ⟨h.1, c, hc, (h.at_known hc).1, htopic⟩

theorem of_rewritten (hE : Context.Steady E) (hs : s.Reliable) (hid : d.hasReadableId = true)
    (hlegible : d.isLegible = true) (hwell : (Value.dict d.data).WellFormed)
    (hd : d.inTopic = true → E d) (ht : s.Rewritten t actor d.kept) : OnTopic actor E t :=
  ⟨ht.reliable hs, _, ht.context?, (Context.hasReadableId_kept d).trans hid, fun htopic =>
    hE.kept hid hlegible hwell (hd (Context.inTopic_of_kept htopic))⟩

end OnTopic

/-- There is a context to be read. -/
theorem leads_get_onTopic {α : Type} {Q : α → Scene → Prop} {f : Option Context → Turn α}
    (h : ∀ s c, OnTopic actor E s → s.context? actor = some c → Leads (· = s) (f (some c)) Q R) :
    Leads (OnTopic actor E) (Contexts.get actor >>= f) Q R := by
  refine Leads.at_each fun s hs => (Contexts.leads_get hs.1).bind fun o => Leads.given fun ho => ?_
  obtain ⟨-, c, hc, -⟩ := id hs
  rw [ho, hc]
  exact h s c hs hc

section Writes
variable (hE : Context.Steady E)
include hE

/-- What is written while the actor is in a topic must make the property hold. -/
theorem leads_setVariable_onTopic (hs : OnTopic actor E' s) {p : Path} {v : Value}
    (hv : v.isReadable = true) (hwell : v.WellFormed)
    (hset : ∀ c, s.context? actor = some c → c.inTopic = true → E' c → E (c.setData p v)) :
    Leads (· = s) (Contexts.setVariable actor p v) (fun _ => OnTopic actor E) R := by
  obtain ⟨hreliable, c, hc, hid, hold⟩ := hs
  exact (Contexts.leads_setVariable hreliable hc p v).post fun _ _ ht =>
    OnTopic.of_rewritten (d := c.setData p v) hE hreliable hid
      (Context.setData_legible (Store.context?_legible hc) p hv)
      (Value.nests_wellFormed.set (Store.context?_wellFormed hc) p hwell)
      (fun htopic => hset c hc htopic (hold htopic)) ht

theorem leads_disarm_onTopic : Leads (OnTopic actor E)
    (Contexts.setVariable actor WaitMarker.path .null) (fun _ => OnTopic actor E) R :=
  Leads.at_each fun _ hs => leads_setVariable_onTopic hE hs rfl trivial fun _ _ _ => hE.disarm

theorem leads_clearMarker_onTopic (c : Context) :
    Leads (OnTopic actor E) (clearMarker actor c) (fun _ => OnTopic actor E) R := by
  rw [clearMarker]
  split
  · exact Leads.pure fun _ hs => hs
  · exact leads_disarm_onTopic hE

theorem leads_setForwarding_onTopic (on : Bool) : Leads (OnTopic actor E)
    (Contexts.setForwarding actor on) (fun _ => OnTopic actor E) R := by
  refine Leads.at_each fun s hs => ?_
  obtain ⟨hreliable, c, hc, hid, hold⟩ := hs
  have hlegible := Store.context?_legible hc
  have hwell := Store.context?_wellFormed hc
  have hsound : ({ c with forwarding := on } : Context).Sound := (Store.context?_tidy hc).sound
  refine (Contexts.leads_revise hreliable hc (fun c => { c with forwarding := on }) rfl rfl).post
    fun _ _ ht => ?_
  rw [Context.repair_of_sound hsound] at ht
  exact OnTopic.of_rewritten (d := { c with forwarding := on }) hE hreliable hid hlegible hwell
    (fun htopic => hE.relay on (hold htopic)) ht

/-- Where a step of a flow is entered, the actor is in a topic only if that was so before. -/
theorem leads_recordStep_onTopic (hs : OnTopic actor E s) (hc : s.context? actor = some c)
    (flow : String) {i : Nat} (hi : Decimal.isReadable i = true) :
    Leads (· = s) (Contexts.recordStep actor flow i) (fun _ t => OnTopic actor E t ∧
      ∀ d, t.context? actor = some d → d.inTopic = true → c.inTopic = true) R := by
  obtain ⟨hid, hold⟩ := hs.at_known hc
  have hwell := Store.context?_wellFormed hc
  refine (Contexts.leads_recordStep hs.1 hc flow i).post fun _ t ht => ⟨?_, fun d hd htopic => ?_⟩
  · exact OnTopic.of_rewritten (d := c.visit flow i s.now) hE hs.1 hid
      (Context.visit_legible (Store.context?_legible hc) flow hi s.now) hwell
      (fun htopic => hE.visit flow i s.now (hold htopic)) ht
  · rw [← Option.some.inj (ht.context?.symm.trans hd)] at htopic
    exact (Context.inTopic_of_kept htopic :)

end Writes

/-- A change that ends in no topic. -/
theorem leads_revise_away (hs : OnTopic actor E s) {f : Context → Context}
    (hc : s.context? actor = some c) (hexternal : (f c).externalId = c.externalId)
    (hhuman : (f c).humanId = c.humanId) (hdata : (f c).data = c.data)
    (hlegible : (f c).isLegible = true) (htopic : (f c).inTopic = false) :
    Leads (· = s) (Contexts.revise actor f) (fun _ => Away actor) R := by
  have hid := (hs.at_known hc).1
  have hrepair := Context.repair_eq (f c)
  refine (Contexts.leads_revise hs.1 hc f hexternal hhuman).post fun _ _ ht =>
    OnTopic.of_rewritten Context.steady_never hs.1 ?_ (Context.repair_legible hlegible) ?_ ?_ ht
  · rwa [Context.hasReadableId, (f c).repair_identity.1, (f c).repair_identity.2, hexternal, hhuman]
  · rw [hrepair]
    exact hdata ▸ Store.context?_wellFormed hc
  · rw [hrepair]
    intro h
    rw [htopic] at h
    cases h

/-- A step that was come to is registered, and as long as the actor is in a topic it belongs to a
certain flow. -/
def Belongs (k : Catalog) (actor : Int) (f : Flow) (a : Arrival) (s : Scene) : Prop :=
  k.HasStep a.step ∧ ∀ c, s.context? actor = some c → c.inTopic = true → a.step ∈ f.steps

/-- Where a sequel has led what held in a topic holds, and a step that was come to belongs there. -/
private def Reached (k : Catalog) (actor : Int) (E : Context → Prop) (f : Flow)
    (r : Outcome ⊕ Arrival) (s : Scene) : Prop :=
  OnTopic actor E s ∧ ∀ a, r = .inr a → Belongs k actor f a s

private theorem leads_over_onTopic {k : Catalog} {f : Flow} {P : Scene → Prop}
    (hP : ∀ s, P s → OnTopic actor E s) (o : Outcome) :
    Leads P (pure (.inl o)) (Reached k actor E f) R :=
  Leads.pure fun s hs => ⟨hP s hs, fun _ ha => absurd ha Sum.inl_ne_inr⟩

private theorem leads_failed_onTopic {k : Catalog} {f : Flow} (hs : OnTopic actor E s) (n : Notice)
    (r : Reason) : Leads (· = s) (Sum.inl <$> fail n r) (Reached k actor E f) R :=
  Leads.at_one hs (Leads.map ((Leads.note n).bind fun _ =>
    Leads.pure fun _ ht => ⟨ht, fun _ ha => absurd ha Sum.inl_ne_inr⟩))

/-- A flow that begins in no topic has its first step entered in no topic. -/
private theorem leads_reachFirst_away {name : String} {f g : Flow}
    (hg : b.catalog.flow? name = some g) :
    Leads (Away actor) (reachFirst actor g) (Reached b.catalog actor E f) R := by
  unfold reachFirst
  split
  · exact (Leads.note _).bind fun _ => leads_over_onTopic (fun _ => OnTopic.of_away) _
  · rename_i st sts hsteps
    have hst : g.steps[0]? = some st := by rw [hsteps]; rfl
    have hindex : Decimal.isReadable (0 : Nat) = true := by decide
    refine Leads.at_each fun s hs => ?_
    obtain ⟨-, c, hc, -, haway⟩ := id hs
    refine (leads_recordStep_onTopic Context.steady_never hs hc g.name hindex).bind fun _ =>
      Leads.pure fun t ht => ⟨.of_away ht.1, fun a ha => ?_⟩
    rw [← Sum.inr.inj ha]
    exact ⟨⟨name, g, hg, List.mem_of_getElem? hst⟩, fun d hd htopic =>
      (haway (ht.2 d hd htopic)).elim⟩

/-- Plain sequels stay in the flow that is run in a topic, or leave the topic. -/
theorem leads_reach_onTopic (hl : b.Legible) (hE : Context.Steady E) {f : Flow}
    (hflow : ∀ c, E c → b.catalog.flow? c.currentFlow = some f) {q : Sequel} (hq : q.IsPlain) :
    Leads (OnTopic actor E) (b.reach actor q)
      (fun r t => OnTopic actor E t ∧ ∀ a, r = .inr a → Belongs b.catalog actor f a t) R := by
  cases q with
  | rest o => exact leads_over_onTopic (fun _ => id) o
  | startInTopic | run => exact hq.elim
  | start name =>
    rw [reach]
    split
    · exact Leads.at_each fun s hs => leads_failed_onTopic hs _ _
    · rename_i g hg
      refine leads_get_onTopic fun s c hs hc => ?_
      exact (leads_revise_away hs (f := (·.began name)) hc rfl rfl rfl
        (Context.began_legible (Store.context?_legible hc) name) rfl).bind fun _ =>
          (leads_clearMarker_onTopic Context.steady_never c).bind fun _ =>
            leads_reachFirst_away hg
  | goTo place =>
    rw [reach]
    refine leads_get_onTopic fun s c hs hc => ?_
    simp only
    split
    · exact leads_failed_onTopic hs _ _
    split
    · exact leads_failed_onTopic hs _ _
    · rename_i g hg
      split
      · exact leads_failed_onTopic hs _ _
      · rename_i i st hplace
        obtain ⟨j, -, hj⟩ := Option.bind_eq_some_iff.mp hplace
        obtain ⟨v, hv, he⟩ := Option.map_eq_some_iff.mp hj
        obtain ⟨rfl, rfl⟩ := Prod.mk.inj he
        have hmem := List.mem_of_getElem? hv
        have hindex : Decimal.isReadable j = true := Decimal.isReadable_of_lt
          (hl.steps c.currentFlow g hg) (List.getElem?_eq_some_iff.mp hv).1
        refine (leads_recordStep_onTopic hE hs hc g.name hindex).bind fun _ =>
          Leads.pure fun t ht => ⟨ht.1, fun a ha => ?_⟩
        rw [← Sum.inr.inj ha]
        refine ⟨⟨c.currentFlow, g, hg, hmem⟩, fun d hd htopic => ?_⟩
        have hf := hflow c ((hs.at_known hc).2 (ht.2 d hd htopic))
        exact Option.some.inj (hg.symm.trans hf) ▸ hmem
  | complete =>
    rw [reach]
    refine Leads.map (leads_get_onTopic fun s c hs hc => ?_)
    simp only
    split
    · exact Leads.pure fun t ht => ⟨ht ▸ hs, fun _ ha => absurd ha Sum.inl_ne_inr⟩
    · exact (leads_revise_away hs (f := (·.ended)) hc rfl rfl rfl
        (Context.ended_legible (Store.context?_legible hc)) rfl).bind fun _ =>
          (leads_clearMarker_onTopic Context.steady_never c).bind fun _ =>
            Leads.pure fun t ht => ⟨.of_away ht, fun _ ha => absurd ha Sum.inl_ne_inr⟩

/-- A step writes the marker of its question, if it asks, and leaves the rest to its handler. -/
theorem leads_stepAlone_onTopic (hl : b.Lucid) (hE : Context.Steady E) {st : Step}
    (hst : b.catalog.HasStep st) (hspares : b.Spares actor (OnTopic actor E) st)
    (harm : ∀ q c, st.work = .question q → E c →
      E (c.setData WaitMarker.path (markerOf st.id q).stored)) :
    Leads (OnTopic actor E) (b.stepAlone actor st) (fun q t => OnTopic actor E t ∧ q.IsPlain)
      (OnTopic actor E) := by
  refine leads_get_onTopic fun s c hs hc => ?_
  refine Leads.at_one hs (leads_workAlone (fun _ ht => ht) (fun q hq => ?_) (fun on _ _ => ?_)
    (fun name hname => ?_) c)
  · exact Leads.at_each fun t ht => leads_setVariable_onTopic hE ht (hl.question st q hst hq)
      (WaitMarker.wellFormed_stored _) fun c _ _ => harm q c hq
  · exact leads_setForwarding_onTopic hE on
  · exact leads_invoke none (fun _ _ hs => hs) fun h taken hh => hspares name h taken hname hh

end

end Bot

end Dialogue
