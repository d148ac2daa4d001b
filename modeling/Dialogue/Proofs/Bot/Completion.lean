import Dialogue.Proofs.Bot.Blindness
import Dialogue.Proofs.Bot.Hosting
import Dialogue.Proofs.Context.Twins
import Dialogue.Proofs.Contexts.Making

/-! What the end of a flow leaves behind. Whatever is stored for an actor, a flow that was ended has
left nothing but the data beside its marker and the visits, and there is nothing to be ended
again. -/
namespace Dialogue

namespace Context
variable {c : Context}

/-- No flow is running, and none has left anything but, perhaps, a marker. -/
structure AtRest (c : Context) : Prop extends AtHome c where
  idle : c.currentFlow = ""
  start : c.currentStep = 0
  flowMode : c.flowMode = false
  forwarding : c.forwarding = true

theorem atRest_fresh (externalId humanId : Int) : (fresh externalId humanId).AtRest :=
  ⟨⟨rfl, rfl, rfl, rfl⟩, rfl, rfl, rfl, rfl⟩

theorem atRest_ended (c : Context) : c.ended.AtRest :=
  ⟨⟨rfl, rfl, rfl, rfl⟩, rfl, rfl, rfl, rfl⟩

theorem sound_ended (c : Context) : c.ended.Sound := ⟨rfl, rfl⟩

theorem AtRest.setData (h : c.AtRest) (p : Path) (v : Value) : (c.setData p v).AtRest :=
  ⟨⟨h.inTopic, h.topicId, h.adminChatId, h.targetUserId⟩, h.idle, h.start, h.flowMode,
    h.forwarding⟩

/-- There is nothing to repair about it when it is written and read. -/
theorem AtRest.kept (h : c.AtRest) : c.kept.AtRest := by
  rw [Context.kept]
  split
  · have hsound : c.settled.Sound := by
      constructor
      · simp [topicSound, settled, h.inTopic]
      · simp [stepSound, settled, h.start]
    rw [repair_of_sound hsound]
    exact ⟨⟨h.inTopic, h.topicId, h.adminChatId, h.targetUserId⟩, h.idle, h.start, h.flowMode,
      h.forwarding⟩
  · exact atRest_fresh ..

theorem AtRest.ignores (h : c.AtRest) : (c.isIdle && !c.flowMode) = true := by
  rw [isIdle, h.idle, h.flowMode]
  rfl

theorem waitMarker_of_rawMarker (h : c.rawMarker = .null) : c.waitMarker = (none, []) := by
  rw [waitMarker, h]
  rfl

/-- A context after its flow was ended. -/
def finished (c : Context) : Context := (c.revised (·.ended)).disarmed c.rawMarker

theorem revised_ended (c : Context) : c.revised (·.ended) = c.ended.kept := by
  rw [revised, repair_of_sound c.sound_ended]

theorem atRest_finished (c : Context) : c.finished.AtRest := by
  have hended := c.atRest_ended.kept
  rw [finished, revised_ended]
  exact disarmed_of _ hended (hended.setData ..).kept

private theorem rawMarker_kept_of_null (hwell : (Value.dict c.data).WellFormed)
    (h : c.rawMarker = .null) : c.kept.rawMarker = .null := by
  rcases rawMarker_kept_or (clear_of_wellFormed hwell) with hkept | hkept
  · exact hkept
  · rw [hkept, h, Value.kept_null]

/-- Also what could not be taken for a marker is gone. -/
theorem rawMarker_finished (hwell : (Value.dict c.data).WellFormed) :
    c.finished.rawMarker = .null := by
  rw [finished, revised_ended, disarmed]
  split
  · rename_i hnone
    exact rawMarker_kept_of_null (c := c.ended) hwell (Value.eq_null_of_isNull hnone)
  · exact rawMarker_kept_of_null
      (Value.nests_wellFormed.set c.ended.kept_wellFormed WaitMarker.path (v := .null) trivial)
      (rawMarker_setMarker ..)

section
variable (hid : c.hasReadableId = true) (hc : c.isLegible = true)
include hid hc

theorem history_finished : c.finished.history = c.history := by
  have hkept {d : Context} (hid : d.hasReadableId = true) (hd : d.isLegible = true) :
      d.kept.history = d.history := by
    rw [kept_of_legible hid hd, repair_eq]
    rfl
  have hended : c.ended.kept.history = c.history := hkept hid (ended_legible hc)
  have hreadable : c.ended.kept.hasReadableId = true := c.ended.hasReadableId_kept.trans hid
  rw [finished, revised_ended, disarmed]
  split
  · exact hended
  · have hwritten := setData_legible c.ended.kept_tidy.legible WaitMarker.path (v := .null) rfl
    exact (hkept (d := c.ended.kept.setData ..) hreadable hwritten).trans hended

/-- What outlasts the emptying of the marker's place is still there. -/
theorem data_finished {E : Table String Value → Prop} (hE : Bot.Lasting E)
    (hwell : (Value.dict c.data).WellFormed) (hdata : E c.data) : E c.finished.data := by
  have hended : E c.ended.kept.data :=
    hE.kept hwell hdata (dict_data_kept (c := c.ended) hid (ended_legible hc))
  have hreadable : c.ended.kept.hasReadableId = true := c.ended.hasReadableId_kept.trans hid
  have hkept := c.ended.kept_wellFormed
  rw [finished, revised_ended, disarmed]
  split
  · exact hended
  · have hwritten := setData_legible c.ended.kept_tidy.legible WaitMarker.path (v := .null) rfl
    exact hE.kept (Value.nests_wellFormed.set hkept WaitMarker.path (v := .null) trivial)
      (hE.disarm hkept hended) (dict_data_kept hreadable hwritten)

end

end Context

namespace Bot
open Turn

section
variable {actor : Int} {s : Scene} {c : Context} {R : Scene → Prop}
  (hs : s.Reliable) (hc : s.context? actor = some c)
include hs hc

theorem leads_complete : Leads (· = s) (complete actor)
    (fun o t => if c.isIdle && !c.flowMode then o = .ignored .noActiveFlow ∧ t = s
      else o = .completed c.currentFlow ∧ s.Rewritten t actor c.finished) R := by
  refine (Contexts.leads_get hs).bind fun o => Leads.given fun ho => ?_
  obtain rfl : o = some c := ho.trans hc
  dsimp only
  split
  · exact Leads.pure fun _ ht => ⟨rfl, ht⟩
  · exact (Contexts.leads_revise hs hc (·.ended) rfl rfl).bind fun _ =>
      (leads_clearMarker hs c _).bind fun _ => Leads.pure fun _ ht => ⟨rfl, ht⟩

theorem leads_handle_completeFlow (b : Bot) : Leads (· = s) (b.handle actor .completeFlow)
    (fun o t => if c.isIdle && !c.flowMode then o = .ignored .noActiveFlow ∧ t = s
      else o = .completed c.currentFlow ∧ s.Rewritten t actor c.finished) R :=
  Leads.rescue (R := fun _ => False) (leads_complete hs hc) fun _ => nofun

end

/-- Where a flow is over there is nothing to be ended. -/
theorem handle_completeFlow_of_over {w : World} {actor : Int} {c : Context}
    (hs : w.scene.Reliable) (hc : w.scene.context? actor = some c)
    (hover : (c.isIdle && !c.flowMode) = true) (b : Bot) :
    ∃ v, on (b.handle actor .completeFlow) w = (.ok (.ignored .noActiveFlow), v) ∧
      v.scene = w.scene := by
  obtain ⟨o, v, hon⟩ := b.exists_handled actor .completeFlow w
  have hended := (leads_handle_completeFlow (R := fun _ => False) hs hc b).of_ok rfl hon
  rw [if_pos hover] at hended
  exact ⟨v, hended.1 ▸ hon, hended.2⟩

/-- Neither idle nor in a flow, at a step of none, and with something that is no marker. -/
def halfway : String :=
  "\x7b\"flow_mode\":true,\"flow_in_topic\":true,\"current_step\":3,\"data\":\x7b" ++
    "\"name\":\"Ann\",\"_system\":\x7b\"waiting_for_input\":[5]\x7d\x7d\x7d"

def halted : World := { store := .memory { actors := [(1, 4)], contexts := [(1, halfway)] } }

end Bot

end Dialogue
