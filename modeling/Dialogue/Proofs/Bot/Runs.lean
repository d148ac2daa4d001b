import Dialogue.Proofs.Bot.Events
import Dialogue.Proofs.Bot.Markers
import Dialogue.Proofs.Handler.Editing

/-! Runs of a bot. What is to hold of every context after every event has to hold of new contexts,
and to be kept up by moves and by what handlers write. -/
namespace Dialogue

/-- No text is kept for anyone. -/
def World.Blank (w : World) : Prop := ∀ actor blob, w.store.load actor ≠ .ok (some blob)

/-- A store that knows one actor, for whom nothing is kept. -/
def World.reception : World := { store := .memory { actors := [(1, 1)] } }

theorem World.reception_blank : reception.Blank := nofun

theorem Store.context?_blank {w : World} (h : w.Blank) {now : String} {actor : Int} {c : Context}
    (hc : w.store.context? now actor = some c) : ∃ human, c = Context.fresh actor human := by
  rw [Store.context?] at hc
  split at hc
  · rename_i human _
    split at hc
    · rename_i blob hload
      cases blob with
      | none => exact ⟨human, (Option.some.inj hc).symm⟩
      | some blob => exact absurd hload (h actor blob)
    · cases hc
  · cases hc

namespace Bot
open Turn

/-- Something holds of every context at every time, and every call since some calls was of a
handler that is named. -/
structure Keeps (b : Bot) (P : Context → Prop) (past : List Call) (s : Scene) : Prop where
  each : ∀ now actor c, s.store.context? now actor = some c → c.Tidy ∧ P c
  calls : ∃ new, s.calls = past ++ new ∧ ∀ call ∈ new, b.Names call.handler

/-- The world after an event that comes at some time, with some tasks out of order. -/
def after (b : Bot) (actor : Int) (e : Event) (now : String) (outages : Outages) (w : World) :
    World :=
  (on (b.handle actor e) { w with now, outages }).2

/-- Worlds that a run of ordinary events can lead to. The time and the failures of the channel are
new with every event; the store never fails. -/
inductive Reaches (b : Bot) (w₀ : World) : World → Prop
  | start : b.Reaches w₀ w₀
  | event {w : World} (h : b.Reaches w₀ w) (actor : Int) (e : Event) (he : e.IsOrdinary)
    (now : String) (outages : Outages) (hstore : ∀ t n, outages.store t n = none) :
    b.Reaches w₀ (b.after actor e now outages w)

section
variable {b : Bot} {P : Context → Prop} {T : Context → Context → Prop} {past : List Call}
  {s t : Scene}

theorem Keeps.rewritten (h : b.Keeps P past s) {actor : Int} {d : Context} (hd : d.Tidy ∧ P d)
    (ht : s.Rewritten t actor d) : b.Keeps P past t := by
  refine ⟨fun now a e he => ?_, ht.calls ▸ h.calls⟩
  by_cases ha : a = actor
  · subst ha
    rw [ht.own] at he
    exact Option.some.inj he ▸ hd
  · rw [ht.others now ha] at he
    exact h.each now a e he

theorem Keeps.call (h : b.Keeps P past s) {handler : String} (hn : b.Names handler) (actor : Int)
    (payload : Option Value) :
    b.Keeps P past { s with calls := s.calls ++ [⟨handler, actor, payload⟩] } := by
  obtain ⟨new, hnew, hnamed⟩ := h.calls
  refine ⟨h.each, new ++ [⟨handler, actor, payload⟩], ?_, fun call hcall => ?_⟩
  · rw [hnew, List.append_assoc]
  · obtain hcall | hcall := List.mem_append.mp hcall
    · exact hnamed call hcall
    · rw [List.mem_singleton.mp hcall]
      exact hn

theorem Keeps.edited (h : b.Keeps P past s) (hT : ∀ c d, c.Tidy → P c → T c d → P d.kept)
    (ht : s.Edited T t) : b.Keeps P past t := by
  induction ht with
  | refl => exact h
  | edit _ hc hd hu ih =>
    obtain ⟨htidy, hP⟩ := ih.each _ _ _ hc
    exact ih.rewritten ⟨Context.kept_tidy _, hT _ _ htidy hP hd⟩ hu

variable (hg : b.Guarded) (hminds : ∀ c, P c → b.catalog.Minds c)
  (hmove : ∀ c d, c.Tidy → P c → Move b.catalog c d → P d)
  (hT : ∀ c d, c.Tidy → P c → T c d → P d.kept)
  (hhandlers : ∀ name h, Table.value? b.handlers name = some h → h.Edits T)
include hg hminds hmove hT hhandlers

theorem upholds_keeps (past : List Call) : b.Upholds fun s => s.Reliable ∧ b.Keeps P past s where
  reliable h := h.1
  tidy h hc := (h.2.each _ _ _ hc).1
  answer h hc hw := by
    obtain ⟨s, q, hs, hq, rfl⟩ := (hminds _ (h.2.each _ _ _ hc).2).waitMarker hw
    exact hg.question s q hs hq
  move h hc hm ht := by
    obtain ⟨htidy, hP⟩ := h.2.each _ _ _ hc
    exact ⟨ht.reliable h.1, h.2.rewritten ⟨hm.tidy, hmove _ _ htidy hP hm⟩ ht⟩
  call actor payload h hn := ⟨h.1, h.2.call hn actor payload⟩
  handler actor payload hh := by
    have hkeeps {s t : Scene} (h : s.Reliable ∧ b.Keeps P past s) (ht : s.Edited T t) :
        t.Reliable ∧ b.Keeps P past t := ⟨ht.reliable h.1, h.2.edited hT ht⟩
    exact Leads.at_each fun s hs => (hhandlers _ _ hh actor payload s hs.1).mono
      (fun _ _ ht => hkeeps hs ht) (fun _ ht => hkeeps hs ht)

/-- What holds of new contexts holds after every event of every run. -/
theorem Reaches.keeps (hl : b.Legible)
    (hfresh : ∀ externalId humanId, P (.fresh externalId humanId)) {w₀ w : World}
    (hblank : w₀.Blank) (h : b.Reaches w₀ w) : b.Keeps P w₀.calls w.scene := by
  induction h with
  | start =>
    refine ⟨fun now actor c hc => ?_, [], (List.append_nil _).symm, nofun⟩
    obtain ⟨human, rfl⟩ := Store.context?_blank hblank hc
    exact ⟨Context.fresh_tidy .., hfresh ..⟩
  | @event w h actor e he now outages hstore ih =>
    have hupholds := upholds_keeps hg hminds hmove hT hhandlers w₀.calls
    have hleads : Leads _ (b.handle actor e) _ _ := leads_handle hupholds hl hg he
    have hdone := hleads { w with now, outages } ⟨hstore, ih.each, ih.calls⟩
    split at hdone <;> rename_i hon
    all_goals
      rw [after, hon]
      exact hdone.2

end

end Bot

end Dialogue
