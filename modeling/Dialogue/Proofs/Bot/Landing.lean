import Dialogue.Proofs.Bot.Alone
import Dialogue.Proofs.Bot.Laps

/-! Where sequels lead: what becomes of the actor's context when a flow begins or ends, and when a
step is entered. -/
namespace Dialogue.Bot
open Turn

/-- A flow begins for a context, in the actor's own chat or in a topic. -/
inductive Begins (name : String) (c : Context) : Context → Prop
  | ownChat : Begins name c ((c.revised (·.began name)).disarmed c.rawMarker)
  | topic (topic chat : Int) (target : Option Int) (htopic : Decimal.isReadable topic = true)
    (hchat : Decimal.isReadable chat = true) (htarget : target.all Decimal.isReadable = true) :
    Begins name c (((c.revised (·.beganInTopic name (some topic) (some chat) target)).aimed
      (Value.ofOption .int target)).disarmed c.rawMarker)

/-- What an ordinary sequel can lead an actor to in a scene. -/
inductive Lands (b : Bot) (actor : Int) (s : Scene) : Outcome ⊕ Arrival → Scene → Prop
  | stay (o : Outcome) : b.Lands actor s (.inl o) s
  | finish {o : Outcome} {c : Context} {t : Scene} (hc : s.context? actor = some c)
    (ht : s.Rewritten t actor ((c.revised (·.ended)).disarmed c.rawMarker)) :
    b.Lands actor s (.inl o) t
  /-- The flow has no steps. -/
  | blank {o : Outcome} {name : String} {f : Flow} {c d : Context} {t : Scene}
    (hc : s.context? actor = some c) (hf : b.catalog.flow? name = some f) (hsteps : f.steps = [])
    (hd : Begins name c d) (ht : s.Rewritten t actor d) : b.Lands actor s (.inl o) t
  | first {name : String} {f : Flow} {st : Step} {c d : Context} {u t : Scene}
    (hc : s.context? actor = some c) (hf : b.catalog.flow? name = some f)
    (hst : f.steps[0]? = some st) (hd : Begins name c d) (hu : s.Rewritten u actor d)
    (ht : u.Rewritten t actor (d.visit f.name (0 : Nat) u.now).kept) :
    b.Lands actor s (.inr ⟨some (f.name, 0), st⟩) t
  | jump {f : Flow} {i : Nat} {st : Step} {c : Context} {t : Scene}
    (hc : s.context? actor = some c) (hf : b.catalog.flow? c.currentFlow = some f)
    (hst : f.steps[i]? = some st)
    (ht : s.Rewritten t actor (c.visit f.name i s.now).kept) :
    b.Lands actor s (.inr ⟨some (f.name, i), st⟩) t

section
variable {b : Bot} {actor : Int} {R : Scene → Prop} {s : Scene}

theorem Lands.hasStep {a : Arrival} {t : Scene} (h : b.Lands actor s (.inr a) t) :
    b.catalog.HasStep a.step := by
  cases h with
  | first _ hf hst => exact ⟨_, _, hf, List.mem_of_getElem? hst⟩
  | jump _ hf hst => exact ⟨_, _, hf, List.mem_of_getElem? hst⟩

private theorem leads_stay {o : Outcome} {work : Turn Outcome} (h : Quiet work)
    (hwork : ∀ w, (on work w).1 = .ok o) :
    Leads (· = s) (Sum.inl <$> work) (fun r t => b.Lands actor s r t) R := by
  refine Leads.map ?_
  intro w hw
  have hscene := h w
  have hanswer := hwork w
  rcases hon : on work w with ⟨f | a, w'⟩
  · rw [hon] at hanswer
    nomatch hanswer
  · rw [hon] at hscene
    change b.Lands actor s (.inl a) w'.scene
    rw [hscene, hw]
    exact .stay a

private theorem leads_failing (n : Notice) (r : Reason) :
    Leads (· = s) (Sum.inl <$> fail n r) (fun r t => b.Lands actor s r t) R :=
  leads_stay (quiet_fail n r) fun _ => rfl

/-- After a flow began its first step is entered. -/
private theorem leads_enterFirst_of {f : Flow} {st : Step} {d : Context} (hs : s.Reliable)
    (hd : s.context? actor = some d) (hst : f.steps[0]? = some st) :
    Leads (· = s) (reachFirst actor f) (fun r t => r = .inr ⟨some (f.name, 0), st⟩ ∧
      s.Rewritten t actor (d.visit f.name (0 : Nat) s.now).kept) R := by
  unfold reachFirst
  split
  · rename_i hsteps
    rw [hsteps] at hst
    cases hst
  · rename_i st' sts hsteps
    rw [hsteps] at hst
    obtain rfl : st' = st := Option.some.inj hst
    exact (Contexts.leads_recordStep hs hd f.name _).bind fun _ => Leads.pure fun _ ht => ⟨rfl, ht⟩

/-- After a flow began its first step is entered, if there is one. -/
private theorem leads_reachFirst {name : String} {f : Flow} {c d : Context} (hs : s.Reliable)
    (hc : s.context? actor = some c) (hf : b.catalog.flow? name = some f) (hd : Begins name c d) :
    Leads (fun t => s.Rewritten t actor d) (reachFirst actor f)
      (fun r t => b.Lands actor s r t) R := by
  cases hsteps : f.steps with
  | nil =>
    rw [reachFirst, hsteps]
    exact (Leads.note _).bind fun _ => Leads.pure fun t ht => .blank hc hf hsteps hd ht
  | cons st sts =>
    have hst : f.steps[0]? = some st := by rw [hsteps]; rfl
    refine Leads.at_each fun u hu => ?_
    refine (leads_enterFirst_of (hu.reliable hs) hu.context? hst).post fun r t ht => ?_
    rw [ht.1]
    exact .first hc hf hst hd hu ht.2

/-- Ordinary sequels lead where they can, without a fault. -/
theorem leads_reach (hl : b.Legible) (hs : s.Reliable)
    (htidy : ∀ c, s.context? actor = some c → c.Tidy) {q : Sequel} (hq : q.IsOrdinary) :
    Leads (· = s) (b.reach actor q) (fun r t => b.Lands actor s r t) R := by
  have hread {α : Type} {Q : α → Scene → Prop} {f : Option Context → Turn α}
      (hf : Leads (· = s) (f (s.context? actor)) Q R) :
      Leads (· = s) (Contexts.get actor >>= f) Q R := by
    refine (Contexts.leads_get hs).bind fun o => Leads.given fun ho => ?_
    rwa [ho]
  cases q with
  | rest o => exact Leads.pure fun t ht => ht ▸ .stay o
  | run st => exact hq.elim
  | start name =>
    rw [reach]
    split
    · exact leads_failing _ _
    · rename_i f hf
      refine hread ?_
      split
      · exact leads_failing _ _
      · rename_i c hc
        exact (Contexts.leads_revise hs hc (·.began name) rfl rfl).bind fun _ =>
          (leads_clearMarker hs c _).bind fun _ => leads_reachFirst hs hc hf .ownChat
  | startInTopic topic name target chat =>
    obtain ⟨t, u, a, rfl, rfl, rfl, ht, hu, ha⟩ := hq
    rw [reach]
    split
    · exact leads_failing _ _
    · rename_i f hf
      refine hread ?_
      split
      · exact leads_failing _ _
      · rename_i c hc
        rw [firstGiven_ofOption]
        cases hgiven : (a.or b.adminChat).or c.adminChatId with
        | none => exact leads_failing _ _
        | some chat =>
          have hchat : Decimal.isReadable chat = true := by
            have hall := all_or (all_or ha hl.adminChat)
              (Context.adminChat_legible (htidy c hc).legible)
            rwa [hgiven] at hall
          exact (leads_beginInTopic hs hc t chat u).bind fun _ =>
            leads_aim hs ((leads_clearMarker hs c _).bind fun _ =>
              leads_reachFirst hs hc hf (.topic t chat u ht hchat hu))
  | goTo place =>
    refine hread ?_
    split
    · exact leads_failing _ _
    · rename_i c hc
      split
      · exact leads_failing _ _
      split
      · exact leads_failing _ _
      · rename_i f hf
        split
        · exact leads_failing _ _
        · rename_i i st hplace
          obtain ⟨j, -, hj⟩ := Option.bind_eq_some_iff.mp hplace
          obtain ⟨v, hv, he⟩ := Option.map_eq_some_iff.mp hj
          obtain ⟨rfl, rfl⟩ := Prod.mk.inj he
          exact (Contexts.leads_recordStep hs hc f.name _).bind fun _ =>
            Leads.pure fun t ht => .jump hc hf hv ht
  | complete =>
    refine Leads.map (hread ?_)
    split
    · exact Leads.pure fun t ht => ht ▸ .stay _
    · rename_i c hc
      split
      · exact Leads.pure fun t ht => ht ▸ .stay _
      · exact (Contexts.leads_revise hs hc (·.ended) rfl rfl).bind fun _ =>
          (leads_clearMarker hs c _).bind fun _ => Leads.pure fun t ht => .finish hc ht

/-- A flow that has a step begins, and its first step is entered. -/
theorem leads_reach_start (hs : s.Reliable) {c : Context} (hc : s.context? actor = some c)
    {name : String} {f : Flow} {st : Step} (hf : b.catalog.flow? name = some f)
    (hst : f.steps[0]? = some st) :
    Leads (· = s) (b.reach actor (.start name)) (fun r t => r = .inr ⟨some (f.name, 0), st⟩ ∧
      s.Rewritten t actor
        (((c.revised (·.began name)).disarmed c.rawMarker).visit f.name (0 : Nat) s.now).kept)
      R := by
  rw [reach]
  simp only [hf]
  refine (Contexts.leads_get hs).bind fun o => Leads.given fun ho => ?_
  rw [ho, hc]
  refine (Contexts.leads_revise hs hc (·.began name) rfl rfl).bind fun _ =>
    (leads_clearMarker hs c _).bind fun _ => Leads.at_each fun u hu => ?_
  refine (leads_enterFirst_of (hu.reliable hs) hu.context? hst).post fun r t ht => ⟨ht.1, ?_⟩
  have hvisit := ht.2
  rw [hu.now] at hvisit
  exact hu.trans hvisit

/-- A step of the current flow is entered, and nothing else changes. -/
theorem leads_reach_goTo (hs : s.Reliable) {c : Context} (hc : s.context? actor = some c)
    (hidle : c.isIdle = false) {place : Flow → Option Nat} {f : Flow} {i : Nat} {st : Step}
    (hf : b.catalog.flow? c.currentFlow = some f) (hplace : place f = some i)
    (hst : f.steps[i]? = some st) :
    Leads (· = s) (b.reach actor (.goTo place)) (fun r t => r = .inr ⟨some (f.name, i), st⟩ ∧
      s.Rewritten t actor (c.visit f.name i s.now).kept) R := by
  rw [reach]
  refine (Contexts.leads_get hs).bind fun o => Leads.given fun ho => ?_
  rw [ho, hc]
  simp only [hidle, Bool.false_eq_true, if_false, hf, hplace, Option.bind_some, hst,
    Option.map_some]
  exact (Contexts.leads_recordStep hs hc f.name _).bind fun _ => Leads.pure fun _ ht => ⟨rfl, ht⟩

/-- A lap whose own part and sequel are known. -/
theorem leads_lap {P : Scene → Prop} {Q : Sequel → Scene → Prop}
    {Q' : Outcome ⊕ Arrival → Scene → Prop} {alone : Turn Sequel} {w : World}
    (halone : Leads P alone Q R) (hreach : ∀ q, Leads (Q q) (b.reach actor q) Q' R)
    (hw : P w.scene) :
    (∃ f, (b.lap actor alone w).landing = .error f ∧ R (b.lap actor alone w).world.scene) ∨
      ∃ r, (b.lap actor alone w).landing = .ok r ∧ Q' r (b.lap actor alone w).world.scene := by
  have hdone := halone w hw
  rcases hon : on alone w with ⟨f | q, w'⟩
  · rw [hon] at hdone
    rw [lap_of_broken hon]
    exact .inl ⟨f, rfl, hdone⟩
  · rw [hon] at hdone
    have hto := hreach q w' hdone
    rw [lap_of_sequel hon]
    rcases hland : on (b.reach actor q) w' with ⟨f | r, w''⟩
    · rw [hland] at hto
      exact .inl ⟨f, rfl, hto⟩
    · rw [hland] at hto
      exact .inr ⟨r, rfl, hto⟩

/-- The sequel of a lap is one that its own part leads to. -/
theorem sequel_of_leads {P : Scene → Prop} {Q : Sequel → Scene → Prop} {alone : Turn Sequel}
    {w : World} (halone : Leads P alone Q R) (hw : P w.scene) {q : Sequel}
    (hq : (b.lap actor alone w).sequel = some q) : ∃ t, Q q t := by
  have hdone := halone w hw
  rcases hon : on alone w with ⟨f | p, w'⟩
  · rw [lap_of_broken hon] at hq
    cases hq
  · rw [hon] at hdone
    rw [lap_of_sequel hon] at hq
    obtain rfl : p = q := Option.some.inj hq
    exact ⟨_, hdone⟩

/-- A lap breaks off where its own part did, or lands where its sequel can lead. -/
theorem lap_lands (actor : Int) {I P : Scene → Prop} {alone : Turn Sequel} {w : World}
    (hl : b.Legible) (hreliable : ∀ s, I s → s.Reliable)
    (htidy : ∀ s c, I s → s.context? actor = some c → c.Tidy)
    (halone : Leads P alone (fun q t => I t ∧ q.IsOrdinary) I) (hw : P w.scene) :
    (∃ f, (b.lap actor alone w).landing = .error f ∧ I (b.lap actor alone w).world.scene) ∨
      ∃ r s, (b.lap actor alone w).landing = .ok r ∧ I s ∧
        b.Lands actor s r (b.lap actor alone w).world.scene := by
  have hreach (q : Sequel) : Leads (fun s => I s ∧ q.IsOrdinary) (b.reach actor q)
      (fun r t => ∃ s, I s ∧ b.Lands actor s r t) I :=
    Leads.given fun hq => Leads.at_each fun s hs =>
      (leads_reach hl (hreliable s hs) (fun c hc => htidy s c hs hc) hq).post
        fun _ _ hlands => ⟨s, hs, hlands⟩
  rcases leads_lap halone hreach hw with hbroken | ⟨r, hr, s, hs, hlands⟩
  · exact .inl hbroken
  · exact .inr ⟨r, s, hr, hs, hlands⟩

section Keeping
variable {I P : Scene → Prop} {Ready : Arrival → Scene → Prop} {alone : Turn Sequel} {w : World}
variable (actor : Int) (hl : b.Legible) (hreliable : ∀ s, I s → s.Reliable)
  (htidy : ∀ s c, I s → s.context? actor = some c → c.Tidy)
include hl hreliable htidy

/-- What is kept up where a sequel leads holds after the lap, and of a step that was entered more
may be known. -/
theorem lap_keeps (halone : Leads P alone (fun q t => I t ∧ q.IsOrdinary) I) (hw : P w.scene)
    (hlands : ∀ r s, (b.lap actor alone w).landing = .ok r → I s →
      b.Lands actor s r (b.lap actor alone w).world.scene →
      I (b.lap actor alone w).world.scene ∧
        ∀ a, r = .inr a → Ready a (b.lap actor alone w).world.scene) :
    I (b.lap actor alone w).world.scene ∧ ∀ a, (b.lap actor alone w).arrival? = some a →
      b.catalog.HasStep a.step ∧ Ready a (b.lap actor alone w).world.scene := by
  rcases lap_lands actor hl hreliable htidy halone hw with ⟨f, hf, hkept⟩ | ⟨r, s, hr, hs, hto⟩
  · refine ⟨hkept, fun a ha => ?_⟩
    rw [Lap.arrival?, hf] at ha
    cases ha
  · obtain ⟨hkept, hready⟩ := hlands r s hr hs hto
    refine ⟨hkept, fun a ha => ?_⟩
    obtain rfl : r = .inr a := Except.ok.inj (hr.symm.trans (Lap.landing_of_arrival ha))
    exact ⟨hto.hasStep, hready a rfl⟩

/-- What the work of steps keeps up, and what is kept up where sequels lead, holds after every lap,
and of every step that was entered more is known. -/
theorem laps_ready (hstep : ∀ a, b.catalog.HasStep a.step → Leads (fun s => I s ∧ Ready a s)
      (b.stepAlone actor a.step) (fun q t => I t ∧ q.IsOrdinary) I) (left : Nat)
    (halone : Leads P alone (fun q t => I t ∧ q.IsOrdinary) I) (hw : P w.scene)
    (hlands : ∀ l ∈ b.laps actor left alone w, ∀ r s, l.landing = .ok r → I s →
      b.Lands actor s r l.world.scene →
      I l.world.scene ∧ ∀ a, r = .inr a → Ready a l.world.scene) :
    ∀ l ∈ b.laps actor left alone w, I l.world.scene ∧
      ∀ a, l.arrival? = some a → b.catalog.HasStep a.step ∧ Ready a l.world.scene := by
  refine laps_forall left ?_ fun l _ a ha hready hmem => ?_
  · exact lap_keeps actor hl hreliable htidy halone hw
      (hlands _ (List.mem_of_head? (head?_laps left)))
  · obtain ⟨hst, hat⟩ := hready.2 a ha
    exact lap_keeps actor hl hreliable htidy (hstep a hst) ⟨hready.1, hat⟩ (hlands _ hmem)

theorem laps_keep (hstep : ∀ a, b.catalog.HasStep a.step → Leads (fun s => I s ∧ Ready a s)
      (b.stepAlone actor a.step) (fun q t => I t ∧ q.IsOrdinary) I) (left : Nat)
    (halone : Leads P alone (fun q t => I t ∧ q.IsOrdinary) I) (hw : P w.scene)
    (hlands : ∀ l ∈ b.laps actor left alone w, ∀ r s, l.landing = .ok r → I s →
      b.Lands actor s r l.world.scene →
      I l.world.scene ∧ ∀ a, r = .inr a → Ready a l.world.scene) :
    ∀ l ∈ b.laps actor left alone w, I l.world.scene := fun l hmem =>
  (laps_ready actor hl hreliable htidy hstep left halone hw hlands l hmem).1

end Keeping

end

end Dialogue.Bot
