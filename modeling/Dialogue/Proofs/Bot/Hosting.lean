import Dialogue.Proofs.Bot.Holding
import Dialogue.Proofs.Bot.Lookups
import Dialogue.Proofs.Bot.Questions
import Dialogue.Proofs.Handler.Editing

/-! Where actors are, and where the questions come from that they are asked. An actor is in no flow
or in one that is registered, and the answer that is awaited is that to a question of a flow, even
when answers are kept among what belongs to the bot. -/
namespace Dialogue

namespace Context
variable {c : Context}

/-- No key of the data stands twice, and none does below the bot's own key. -/
structure Clear (c : Context) : Prop where
  nodup : (Table.keys c.data).Nodup
  system : ∀ v, Table.value? c.data WaitMarker.systemKey = some v → v.WellFormed

theorem clear_of_wellFormed (h : (Value.dict c.data).WellFormed) : c.Clear :=
  ⟨h.1, fun _ hv => Value.wellFormed_of_value? h.2 hv⟩

theorem Clear.setData (h : c.Clear) {p : Path} (hp : ¬ p.IsSystem) (v : Value) :
    (c.setData p v).Clear := by
  refine ⟨Path.nodup_keys_set h.nodup p v, fun w hw => h.system w ?_⟩
  rwa [Context.setData, Path.value?_set c.data hp] at hw

theorem rawMarker_setData (c : Context) {p : Path} (hp : ¬ p.IsSystem) (v : Value) :
    (c.setData p v).rawMarker = c.rawMarker := by
  rw [rawMarker, rawMarker, WaitMarker.path, Path.get_dict_cons, Path.get_dict_cons, setData,
    Path.value?_set c.data hp]

theorem rawMarker_setMarker (c : Context) (m : Value) :
    (c.setData WaitMarker.path m).rawMarker = m :=
  Path.get_set_self c.data (by decide) m

theorem currentFlow_kept_or (c : Context) :
    c.kept.currentFlow = "" ∨ c.kept.currentFlow = c.currentFlow := by
  rw [kept]
  split
  · rw [repair_eq]
    exact .inr rfl
  · exact .inl rfl

theorem rawMarker_kept_or (h : c.Clear) :
    c.kept.rawMarker = .null ∨ c.kept.rawMarker = c.rawMarker.kept := by
  rw [Context.kept]
  split
  · refine .inr ?_
    have hdata : c.settled.repair.1.data = Value.keptFields c.data := by
      rw [repair_eq]
      exact Table.ofEntries_of_nodup (by rw [Value.keys_keptFields]; exact h.nodup)
    rw [rawMarker, rawMarker, hdata, WaitMarker.path, Path.get_dict_cons, Path.get_dict_cons,
      Value.value?_keptFields]
    cases hv : Table.value? c.data WaitMarker.systemKey with
    | none => rfl
    | some v => exact Value.get_kept (h.system v hv) _
  · exact .inl rfl

theorem kept_wellFormed (c : Context) : (Value.dict c.kept.data).WellFormed := by
  rw [← decode_encode_fst ""]
  exact decode_wellFormed ..

end Context

namespace Catalog
variable {k : Catalog} {f : Flow} {c d : Context}

/-- What is kept of a question of a flow while its answer is awaited. -/
def Poses (k : Catalog) (f : Flow) (m : Value) : Prop :=
  ∃ name s q, k.flow? name = some f ∧ s ∈ f.steps ∧ s.work = .question q ∧
    m = (Bot.markerOf s.id q).stored

theorem Poses.kept {m : Value} (h : k.Poses f m) : m.kept = m := by
  obtain ⟨name, s, q, -, -, -, rfl⟩ := h
  exact WaitMarker.kept_stored _

theorem Poses.wellFormed {m : Value} (h : k.Poses f m) : m.WellFormed := by
  obtain ⟨name, s, q, -, -, -, rfl⟩ := h
  exact WaitMarker.wellFormed_stored _

/-- A context is in a flow, or in none. -/
def Seats (k : Catalog) (f : Flow) (c : Context) : Prop :=
  c.currentFlow = "" ∨ k.flow? c.currentFlow = some f

/-- A context is in a flow or in none, and what is awaited is the answer to a question of it. -/
structure Hosts (k : Catalog) (f : Flow) (c : Context) : Prop where
  seats : k.Seats f c
  marker : c.rawMarker = .null ∨ k.Poses f c.rawMarker

theorem Seats.kept (h : k.Seats f c) : k.Seats f c.kept := by
  rcases c.currentFlow_kept_or with hidle | hsame
  · exact .inl hidle
  · rwa [Seats, hsame]

namespace Hosts

theorem fresh (externalId humanId : Int) : k.Hosts f (.fresh externalId humanId) :=
  ⟨.inl rfl, .inl rfl⟩

protected theorem kept (h : k.Hosts f c) (hc : c.Clear) : k.Hosts f c.kept := by
  refine ⟨h.seats.kept, ?_⟩
  rcases Context.rawMarker_kept_or hc with hnull | hkept
  · exact .inl hnull
  rcases h.marker with hnull | hposed
  · exact .inl (by rw [hkept, hnull, Value.kept_null])
  · rw [hkept, hposed.kept]
    exact .inr hposed

theorem setData (h : k.Hosts f c) {p : Path} (hp : ¬ p.IsSystem) (v : Value) :
    k.Hosts f (c.setData p v) :=
  ⟨h.seats, by rw [c.rawMarker_setData hp]; exact h.marker⟩

theorem written (h : k.Hosts f c) (hc : c.Clear) {p : Path} (hp : ¬ p.IsSystem) (v : Value) :
    k.Hosts f (c.written p v) :=
  (h.setData hp v).kept (hc.setData hp v)

/-- A marker that is put into its place is all that counts. -/
theorem of_marked (h : k.Seats f c) (hc : (Value.dict c.data).WellFormed) {m : Value}
    (hm : m = .null ∨ k.Poses f m) : k.Hosts f (c.written WaitMarker.path m) := by
  have hwell : m.WellFormed := by
    rcases hm with rfl | hm
    · trivial
    · exact hm.wellFormed
  refine Hosts.kept ⟨h, ?_⟩ (Context.clear_of_wellFormed (Value.nests_wellFormed.set hc _ hwell))
  rwa [c.rawMarker_setMarker]

/-- Wherever an answer is kept, nothing is awaited once the marker's place is emptied. -/
theorem of_answered (h : k.Seats f c) (p : Path) (v : Value) :
    k.Hosts f ((c.written p v).written WaitMarker.path .null) :=
  of_marked (Seats.kept (c := c.setData p v) h) (Context.kept_wellFormed _) (.inl rfl)

/-- When the flow has changed, what is left of a question is disarmed. -/
theorem of_disarmed {m : Value} (h : k.Seats f d) (hd : d.Clear) (hm : d.rawMarker = m) :
    k.Hosts f (d.kept.disarmed m) := by
  rw [Context.disarmed]
  split
  · rename_i hnull
    exact Hosts.kept ⟨h, .inl (hm.trans (Value.eq_null_of_isNull hnull))⟩ hd
  · exact of_marked h.kept (Context.kept_wellFormed _) (.inl rfl)

theorem began (hc : c.Clear) {name : String} (hf : k.flow? name = some f) :
    k.Hosts f ((c.revised (·.began name)).disarmed c.rawMarker) := by
  rw [Context.revised, Context.repair_eq]
  exact of_disarmed (.inr hf) ⟨hc.nodup, hc.system⟩ rfl

theorem ended (hc : c.Clear) : k.Hosts f ((c.revised (·.ended)).disarmed c.rawMarker) := by
  rw [Context.revised, Context.repair_eq]
  exact of_disarmed (.inl rfl) ⟨hc.nodup, hc.system⟩ rfl

theorem relaying (h : k.Hosts f c) (hc : c.Clear) (on : Bool) :
    k.Hosts f (c.revised fun c => { c with forwarding := on }) := by
  rw [Context.revised, Context.repair_eq]
  exact Hosts.kept ⟨h.seats, h.marker⟩ ⟨hc.nodup, hc.system⟩

theorem visit (h : k.Hosts f c) (hc : c.Clear) (flow : String) (step : Int) (now : String) :
    k.Hosts f (c.visit flow step now).kept :=
  Hosts.kept (c := c.visit flow step now) ⟨h.seats, h.marker⟩ ⟨hc.nodup, hc.system⟩

/-- The answer that is awaited is that to a question of the flow. -/
theorem waitMarker (h : k.Hosts f c) {w : WaitMarker} (hw : c.waitMarker.1 = some w) :
    ∃ name s q, k.flow? name = some f ∧ s ∈ f.steps ∧ s.work = .question q ∧
      w = Bot.markerOf s.id q := by
  rcases h.marker with hnull | ⟨name, s, q, hf, hs, hq, hm⟩
  · rw [Context.waitMarker, hnull] at hw
    cases hw
  · rw [Context.waitMarker_of_stored hm] at hw
    exact ⟨name, s, q, hf, hs, hq, (Option.some.inj hw).symm⟩

end Hosts

end Catalog

theorem Store.context?_clear {s : Store} {now : String} {actor : Int} {c : Context}
    (h : s.context? now actor = some c) : c.Clear :=
  Context.clear_of_wellFormed (context?_wellFormed h)

namespace Bot
open Turn

/-- The store works, all contexts are in registered flows or in none, and that of the actor is in
this one. -/
structure Lodges (k : Catalog) (actor : Int) (f : Flow) (s : Scene) : Prop where
  reliable : s.Reliable
  each : ∀ now a c, s.store.context? now a = some c → ∃ g, k.Hosts g c
  own : ∀ c, s.context? actor = some c → k.Hosts f c

section
variable {k : Catalog} {actor : Int} {f g : Flow} {s t : Scene} {c d : Context} {R : Scene → Prop}

/-- An actor is in some flow, or in none. -/
theorem exists_lodges (hs : s.Reliable)
    (heach : ∀ now a c, s.store.context? now a = some c → ∃ g, k.Hosts g c) (actor : Int) :
    ∃ f, Lodges k actor f s := by
  cases hc : s.context? actor with
  | none => exact ⟨{ name := "" }, hs, heach, fun c h => absurd (hc.symm.trans h) nofun⟩
  | some c =>
    obtain ⟨f, hf⟩ := heach _ _ _ hc
    exact ⟨f, hs, heach, fun d hd => Option.some.inj (hc.symm.trans hd) ▸ hf⟩

namespace Lodges

private theorem each_rewritten (h : Lodges k actor f s) {a : Int} (hd : ∃ g, k.Hosts g d)
    (ht : s.Rewritten t a d) :
    ∀ now b c, t.store.context? now b = some c → ∃ g, k.Hosts g c := by
  intro now b c hc
  by_cases hb : b = a
  · subst hb
    rw [ht.own] at hc
    exact Option.some.inj hc ▸ hd
  · rw [ht.others now hb] at hc
    exact h.each now b c hc

theorem rewritten (h : Lodges k actor f s) (hd : k.Hosts g d) (ht : s.Rewritten t actor d) :
    Lodges k actor g t := by
  refine ⟨ht.reliable h.reliable, h.each_rewritten ⟨g, hd⟩ ht, fun c hc => ?_⟩
  rw [ht.context?] at hc
  exact Option.some.inj hc ▸ hd

theorem noted (h : Lodges k actor f s) {a : Int} (hc : s.context? a = some c) (hd : c.Noted d)
    (ht : s.Rewritten t a d.kept) : Lodges k actor f t := by
  obtain ⟨p, v, hp, rfl⟩ := hd
  have hstays {g : Flow} (hg : k.Hosts g c) : k.Hosts g (c.setData p v).kept :=
    hg.written (Store.context?_clear hc) hp v
  by_cases ha : a = actor
  · subst ha
    exact h.rewritten (hstays (h.own c hc)) ht
  · obtain ⟨g, hg⟩ := h.each _ _ _ hc
    refine ⟨ht.reliable h.reliable, h.each_rewritten ⟨g, hstays hg⟩ ht, fun e he => h.own e ?_⟩
    rwa [Scene.context?, ht.others _ (Ne.symm ha), ht.now] at he

theorem edited (h : Lodges k actor f s) (ht : s.Edited Context.Noted t) : Lodges k actor f t := by
  induction ht with
  | refl => exact h
  | edit _ hc hd hu ih => exact ih.noted hc hd hu

end Lodges

theorem leads_get_lodges {α : Type} {Q : α → Scene → Prop} {work : Option Context → Turn α}
    (h : ∀ s, Lodges k actor f s → Leads (· = s) (work (s.context? actor)) Q R) :
    Leads (Lodges k actor f) (Contexts.get actor >>= work) Q R := by
  refine Leads.at_each fun s hs => (Contexts.leads_get hs.reliable).bind fun o => ?_
  refine Leads.given fun ho => ?_
  rw [ho]
  exact h s hs

theorem leads_setVariable_lodges {p : Path} {v : Value}
    (h : ∀ c : Context, (Value.dict c.data).WellFormed → k.Hosts f c → k.Hosts f (c.written p v)) :
    Leads (Lodges k actor f) (Contexts.setVariable actor p v) (fun _ => Lodges k actor f) R := by
  refine Leads.at_each fun s hs => ?_
  cases hc : s.context? actor with
  | none =>
    exact (Contexts.leads_setVariable_unknown hs.reliable hc p v).post fun _ _ ht => ht ▸ hs
  | some c =>
    exact (Contexts.leads_setVariable hs.reliable hc p v).post fun _ _ ht =>
      hs.rewritten (h c (Store.context?_wellFormed hc) (hs.own c hc)) ht

/-- Outside of what belongs to the bot anything may be written. -/
theorem leads_write_lodges {p : Path} (hp : ¬ p.IsSystem) (v : Value) :
    Leads (Lodges k actor f) (Contexts.setVariable actor p v) (fun _ => Lodges k actor f) R :=
  leads_setVariable_lodges fun _ hc h => h.written (Context.clear_of_wellFormed hc) hp v

private theorem leads_relay_lodges (on : Bool) :
    Leads (Lodges k actor f) (Contexts.setForwarding actor on) (fun _ => Lodges k actor f) R := by
  refine Leads.at_each fun s hs => ?_
  cases hc : s.context? actor with
  | none =>
    exact (Contexts.leads_revise_unknown hs.reliable hc _).post fun _ _ ht => ht ▸ hs
  | some c =>
    refine (Contexts.leads_revise hs.reliable hc _ rfl rfl).post fun _ _ ht => ?_
    exact hs.rewritten ((hs.own c hc).relaying (Store.context?_clear hc) on) ht

end

section
variable {b : Bot} {actor : Int} {f : Flow} {st : Step} {name : String}
variable (hnoted : ∀ name h, Table.value? b.handlers name = some h → h.Edits Context.Noted)
include hnoted

/-- A step of the flow that the actor is in leaves the actor there, and asks questions of that flow
only. -/
theorem leads_stepAlone_lodges (hf : b.catalog.flow? name = some f) (hst : st ∈ f.steps) :
    Leads (Lodges b.catalog actor f) (b.stepAlone actor st)
      (fun q t => Lodges b.catalog actor f t ∧ q.IsPlain) (Lodges b.catalog actor f) := by
  refine leads_get_lodges fun s hs => ?_
  split
  · exact Leads.pure fun t ht => ⟨ht ▸ hs, trivial⟩
  refine Leads.at_one hs (leads_workAlone (fun _ hs => hs) (fun q hq => ?_) (fun on _ _ => ?_)
    (fun handler _ => ?_) _)
  -- Only a question writes what counts here, and the flow poses it.
  · refine leads_setVariable_lodges fun c hc h => .of_marked h.seats hc (.inr ?_)
    exact ⟨name, st, q, hf, hst, hq, rfl⟩
  · exact leads_relay_lodges on
  · refine leads_invoke none (fun s taken hs => ⟨hs.reliable, hs.each, hs.own⟩) fun h taken hh => ?_
    exact Leads.at_each fun s hs => (hnoted _ _ hh actor taken s hs.reliable).mono
      (fun _ _ ht => hs.edited ht) fun _ ht => hs.edited ht

end

end Bot

end Dialogue
