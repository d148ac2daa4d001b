import Dialogue.Proofs.Bot.Runs
import Dialogue.Proofs.Catalog.Building

/-! How the fields of a context fit together: the flow, the topic it is run in, the step, and
whether free messages are passed on. They are written in several goes, and fit after each one. -/
namespace Dialogue

/-- Some step switches whether free messages are passed on. -/
def Catalog.Relays (k : Catalog) : Prop := ∃ s on next, k.HasStep s ∧ s.work = .relaying on next

namespace Context
variable {k : Catalog} {c : Context}

/-- The fields of a context fit together, apart from its data. -/
structure Ordered (k : Catalog) (c : Context) : Prop where
  flow : c.flowMode = true ↔ c.currentFlow ≠ ""
  topic : c.inTopic = true ↔ c.topicId ≠ none
  inside : c.inTopic = true → c.flowMode = true ∧ c.adminChatId ≠ none
  outside : c.inTopic = false → c.topicId = none ∧ c.adminChatId = none ∧ c.targetUserId = none
  step : c.currentFlow = "" → c.currentStep = 0
  /-- As long as no step switches it by itself. -/
  forwarding : ¬ k.Relays → c.forwarding = !c.flowMode

/-- The fields fit together, and without a flow no answer is awaited. -/
structure Consistent (k : Catalog) (c : Context) : Prop extends Ordered k c where
  unasked : c.currentFlow = "" → c.rawMarker = .null

theorem fresh_ordered (k : Catalog) (externalId humanId : Int) :
    (fresh externalId humanId).Ordered k := by
  refine ⟨?_, ?_, ?_, ?_, ?_, ?_⟩ <;> simp [fresh]

theorem began_ordered (k : Catalog) (c : Context) {name : String} (h : name ≠ "") :
    (c.began name).Ordered k := by
  refine ⟨?_, ?_, ?_, ?_, ?_, ?_⟩ <;> simp [began, h]

theorem beganInTopic_ordered (k : Catalog) (c : Context) {name : String} (h : name ≠ "")
    (topic chat : Int) (target : Option Int) :
    (c.beganInTopic name (some topic) (some chat) target).Ordered k := by
  refine ⟨?_, ?_, ?_, ?_, ?_, ?_⟩ <;> simp [beganInTopic, h]

theorem ended_ordered (k : Catalog) (c : Context) : c.ended.Ordered k := by
  refine ⟨?_, ?_, ?_, ?_, ?_, ?_⟩ <;> simp [ended]

theorem Ordered.setData (h : c.Ordered k) (p : Path) (v : Value) : (c.setData p v).Ordered k :=
  ⟨h.flow, h.topic, h.inside, h.outside, h.step, h.forwarding⟩

/-- There is nothing to repair. -/
theorem Ordered.sound (h : c.Ordered k) : c.Sound := by
  refine ⟨?_, ?_⟩
  · cases hin : c.inTopic with
    | false => simp [topicSound, hin]
    | true =>
      have htopic := h.topic.mp hin
      obtain ⟨hflow, hchat⟩ := h.inside hin
      simp [topicSound, hflow, Option.isSome_iff_ne_none, htopic, hchat]
  · by_cases hidle : c.currentFlow = ""
    · simp [stepSound, h.step hidle]
    · simp [stepSound, isIdle, hidle]

theorem Ordered.kept (h : c.Ordered k) : c.kept.Ordered k := by
  rw [Context.kept]
  split
  · have hsettled : c.settled.Ordered k :=
      ⟨h.flow, h.topic, h.inside, h.outside, h.step, h.forwarding⟩
    rw [repair_of_sound hsettled.sound]
    exact hsettled
  · exact fresh_ordered ..

theorem Ordered.written (h : c.Ordered k) (p : Path) (v : Value) : (c.written p v).Ordered k :=
  (h.setData p v).kept

theorem Ordered.disarmed (h : c.Ordered k) (marker : Value) : (c.disarmed marker).Ordered k :=
  disarmed_of marker h (h.written _ _)

theorem Ordered.aimed (h : c.Ordered k) (target : Value) : (c.aimed target).Ordered k :=
  aimed_of target h (h.written _ _)

theorem Ordered.revised {f : Context → Context} (h : (f c).Ordered k) :
    (c.revised f).Ordered k := by
  rw [Context.revised, repair_of_sound h.sound]
  exact h.kept

end Context

/-- Every move leaves the fields in order. -/
theorem Move.ordered {k : Catalog} (hk : k.flow? "" = none) {c d : Context} (h : Move k c d)
    (hc : c.Ordered k) : d.Ordered k := by
  have hname {name : String} {f : Flow} (hf : k.flow? name = some f) : name ≠ "" := by
    rintro rfl
    rw [hk] at hf
    cases hf
  cases h with
  | begin hf => exact (Context.Ordered.revised (Context.began_ordered k c (hname hf))).disarmed _
  | beginInTopic hf topic chat target =>
    exact ((Context.Ordered.revised (Context.beganInTopic_ordered k c (hname hf) topic chat
      target)).aimed _).disarmed _
  | finish => exact (Context.Ordered.revised (Context.ended_ordered k c)).disarmed _
  | enter hf _ now =>
    refine Context.Ordered.kept ⟨hc.flow, hc.topic, hc.inside, hc.outside, ?_, hc.forwarding⟩
    exact fun hidle => absurd hidle (hname hf)
  | arm | disarm | keep => exact hc.written _ _
  | relay hs hw =>
    refine Context.Ordered.revised ⟨hc.flow, hc.topic, hc.inside, hc.outside, hc.step, ?_⟩
    exact fun hnone => absurd ⟨_, _, _, hs, hw⟩ hnone
  | lose => exact Context.fresh_ordered ..

/-- In a catalog without a nameless flow nothing is asked in no flow. -/
theorem Catalog.Minds.unasked {k : Catalog} (hk : k.flow? "" = none) {c : Context} (h : k.Minds c)
    (hidle : c.currentFlow = "") : c.rawMarker = .null := by
  obtain hnull | ⟨f, s, q, hf, -⟩ := Context.Reserves.rawMarker h
  · exact hnull
  · rw [hidle, hk] at hf
    cases hf

namespace Bot
open Turn

/-- A flow that greets someone and asks for nothing. -/
def greeting : Flow := { name := "greeting", steps := [{ work := .message { text := "Hello!" } }] }

/-- A bot that knows one flow, and a chat in whose topics it can be run. -/
def greeter : Bot where
  catalog := { flows := [("greeting", greeting)], frozen := true }
  adminChat := some (-100)

/-- The flow was started in a topic, and a press came in there. -/
def greeted : World :=
  greeter.after 1 (.topicPress "dc_") "" {}
    (greeter.after 1 (.startTopicFlow (.int 7) "greeting" .null .null) "" {} .reception)

private theorem flow?_greeter {name : String} {f : Flow} (h : greeter.catalog.flow? name = some f) :
    f = greeting := (Table.eq_of_value?_singleton h).2

theorem message_of_hasStep {s : Step} (h : greeter.catalog.HasStep s) :
    s.work = .message { text := "Hello!" } := by
  obtain ⟨name, f, hf, hs⟩ := h
  rw [flow?_greeter hf] at hs
  rw [List.mem_singleton.mp hs]

theorem greeter_built : greeter.catalog.Built :=
  .freeze (k := { flows := [("greeting", greeting)] }) (.flow (f := greeting) .empty rfl)

theorem greeter_legible : greeter.Legible where
  adminChat := by decide
  steps name f hf := by
    rw [flow?_greeter hf]
    decide

theorem greeter_guarded : greeter.Guarded where
  question s q hs hq := by
    rw [message_of_hasStep hs] at hq
    cases hq
  menu s m hs hm := by
    rw [message_of_hasStep hs] at hm
    cases hm
  action payload a path ha := nomatch ha

end Bot

end Dialogue
