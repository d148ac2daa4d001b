import Dialogue.Proofs.Context.Positions

/-! Every event as a sequence of moves and of calls of handlers that are named. -/
namespace Dialogue

namespace Catalog
variable {k : Catalog} {f : Flow} {c : Context}

/-- A context is in a flow, unless what is written for its actor is lost anyway. -/
def Locates (k : Catalog) (f : Flow) (c : Context) : Prop :=
  c.hasReadableId = true → k.flow? c.currentFlow = some f

theorem locates_kept (hc : c.isLegible = true) (h : k.Locates f c) : k.Locates f c.kept := by
  intro hid
  rw [Context.hasReadableId_kept] at hid
  rw [Context.currentFlow_kept hid hc]
  exact h hid

end Catalog

namespace Bot
open Turn

/-- The actor has a context, and it is in the flow. -/
def Standing (b : Bot) (actor : Int) (f : Flow) (s : Scene) : Prop :=
  ∃ c, s.context? actor = some c ∧ b.catalog.Locates f c

theorem Begins.locates {k : Catalog} {name : String} {f : Flow} {c d : Context}
    (h : Begins name c d) (hc : c.Tidy) (hf : k.flow? name = some f) : k.Locates f d := by
  intro hid
  rw [h.currentFlow (h.hasReadableId.symm.trans hid) hc]
  exact hf

theorem Begins.move {k : Catalog} {name : String} {f : Flow} {c d : Context}
    (h : Begins name c d) (hf : k.flow? name = some f) : Move k c d := by
  cases h with
  | ownChat => exact .begin hf
  | topic topic chat target => exact .beginInTopic hf topic chat target

section
variable {b : Bot} {I : Scene → Prop} {actor : Int} {s t : Scene} {c d : Context}
variable (hI : b.Upholds I)
include hI

/-- A move that needs the identity to be readable; without that the context is lost. -/
theorem move_or_lose (hs : I s) (hc : s.context? actor = some c)
    (ht : s.Rewritten t actor d.kept) (hid : d.externalId = c.externalId ∧ d.humanId = c.humanId)
    (hmove : c.hasReadableId = true → Move b.catalog c d.kept) : I t := by
  cases h : c.hasReadableId with
  | true => exact hI.move hs hc (hmove h) ht
  | false =>
    have hlost : d.kept = Context.fresh c.externalId c.humanId := by
      rw [Context.kept_of_unreadableId, hid.1, hid.2]
      rw [Context.hasReadableId, hid.1, hid.2]
      exact h
    rw [hlost] at ht
    exact hI.move hs hc .lose ht

/-- What is done alone is made of moves and calls. -/
theorem bears_upholds (hg : b.Guarded) : b.Bears (fun p _ => ¬ p.IsSystem) I where
  reliable := hI.reliable
  write hs hc hp ht := hI.move hs hc (.keep hp _) ht
  disarm hs hc ht := hI.move hs hc .disarm ht
  relay hst hwork hs hc ht := hI.move hs hc (.relay hst hwork) ht
  call actor payload hn hs := hI.call actor payload hs hn
  handler := hI.handler
  answer _ hs hc hw := not_isSystem (hI.answer hs hc hw)
  menu _ hst hwork := not_isSystem (hg.menu _ _ hst hwork)
  action ha hpath := not_isSystem (hg.action _ _ _ ha hpath)
  other hp _ := hp

/-- A step is entered in the flow that the actor is in. -/
private theorem entered_upholds (hl : b.Legible) {name : String} {f : Flow} {i : Nat} {st : Step}
    (hs : I s) (hc : s.context? actor = some c) (hf : b.catalog.flow? name = some f)
    (hplace : b.catalog.Locates f c) (hst : f.steps[i]? = some st)
    (ht : s.Rewritten t actor (c.visit f.name i s.now).kept) :
    I t ∧ b.Standing actor f t := by
  have hindex : Decimal.isReadable i = true :=
    Decimal.isReadable_of_lt (hl.steps name f hf) (List.getElem?_eq_some_iff.mp hst).1
  have hvisit := Context.visit_legible (hI.tidy hs hc).legible f.name hindex s.now
  exact ⟨move_or_lose hI hs hc ht ⟨rfl, rfl⟩ fun hid => .enter (hplace hid) hst s.now, _,
    ht.context?, Catalog.locates_kept hvisit hplace⟩

/-- Where sequels lead is made of moves, and a step that was entered is one of the flow that the
actor is in. -/
theorem lands_upholds (hl : b.Legible) {r : Outcome ⊕ Arrival} (hs : I s)
    (h : b.Lands actor s r t) :
    I t ∧ ∀ a, r = .inr a → ∃ f, a.step ∈ f.steps ∧ b.Standing actor f t := by
  cases h with
  | stay o => exact ⟨hs, fun a ha => nomatch ha⟩
  | finish hc ht => exact ⟨hI.move hs hc .finish ht, fun a ha => nomatch ha⟩
  | blank hc hf _ hd ht => exact ⟨hI.move hs hc (hd.move hf) ht, fun a ha => nomatch ha⟩
  | first hc hf hst hd hu ht =>
    have hplace := hd.locates (hI.tidy hs hc) hf
    have hbegan := hI.move hs hc (hd.move hf) hu
    obtain ⟨hkept, hstanding⟩ := entered_upholds hI hl hbegan hu.context? hf hplace hst ht
    refine ⟨hkept, fun a ha => ?_⟩
    obtain rfl := Sum.inr.inj ha
    exact ⟨_, List.mem_of_getElem? hst, hstanding⟩
  | jump hc hf hst ht =>
    obtain ⟨hkept, hstanding⟩ := entered_upholds hI hl hs hc hf (fun _ => hf) hst ht
    refine ⟨hkept, fun a ha => ?_⟩
    obtain rfl := Sum.inr.inj ha
    exact ⟨_, List.mem_of_getElem? hst, hstanding⟩

/-- A step is run in the flow that the actor is in; if it asks, that is what arms the question. -/
theorem leads_stepAlone_upholds (hg : b.Guarded) {st : Step} (hst : b.catalog.HasStep st) :
    Leads (fun s => I s ∧ ∃ f, st ∈ f.steps ∧ b.Standing actor f s) (b.stepAlone actor st)
      (fun q t => I t ∧ q.IsOrdinary) I := by
  have hbears := bears_upholds hI hg
  refine Leads.at_each fun s hs => (Contexts.leads_get (hI.reliable hs.1)).bind fun o => ?_
  split
  · exact Leads.pure fun t ht => ⟨ht.1 ▸ hs.1, trivial⟩
  · refine Leads.pre (hbears.leads_workAlone hst (fun t ht => ht.1) ?_ _) fun t ht => ht.1 ▸ hs
    intro q s t c hq hstanding hc ht
    obtain ⟨hs, f, hmem, d, hd, hplace⟩ := hstanding
    obtain rfl : d = c := Option.some.inj (hd.symm.trans hc)
    exact move_or_lose hI hs hc ht ⟨rfl, rfl⟩ fun hid => .arm (hplace hid) hmem hq

/-- What moves and calls keep up is kept up by every event, however it ends. -/
theorem leads_handle (hl : b.Legible) (hg : b.Guarded) {e : Event} (he : e.IsOrdinary) :
    Leads I (b.handle actor e) (fun _ => I) I := by
  intro w hw
  have halone : Leads I (b.eventAlone actor e) (fun q t => I t ∧ q.IsOrdinary) I :=
    (bears_upholds hI hg).leads_eventAlone he
  have hlaps := laps_keep actor hl (fun _ => hI.reliable) (fun _ _ => hI.tidy)
    (fun a ha => leads_stepAlone_upholds hI hg ha) b.chainLimit.toNat halone hw
    fun _ _ _ _ _ hs hto => lands_upholds hI hl hs hto
  obtain ⟨l, hlast⟩ := @exists_lastLap b actor (b.eventAlone actor e) w b.chainLimit.toNat
  obtain ⟨ns, hon⟩ := on_handle hlast
  rw [hon]
  exact hlaps l (List.mem_of_getLast? hlast)

end

end Bot

end Dialogue
