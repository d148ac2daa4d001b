import Dialogue.Proofs.Context.Losslessness
import Dialogue.Proofs.Contexts.Outages

/-! Whatever text a store keeps for an actor, the context that is read from it is a sane one, and
once it was written it is read as it is. -/
namespace Dialogue

namespace Store

/-- Of an actor who can be resolved, the text can be asked for. -/
theorem load_of_resolve {s : Store} {id n : Int} (h : s.resolve id = .ok (some n)) :
    ∃ blob, s.load id = .ok blob := by
  cases s with
  | memory r | sealed r | files f => exact ⟨_, rfl⟩
  | rows t =>
    obtain ⟨row, hrow⟩ := accepts_of_resolve h
    exact ⟨row.blob, by rw [load, Rows.load, hrow]; rfl⟩

theorem context?_wellFormed {s : Store} {now : String} {actor : Int} {c : Context}
    (h : s.context? now actor = some c) : (Value.dict c.data).WellFormed := by
  rw [context?] at h
  split at h
  · split at h
    · rw [← Option.some.inj h]
      exact Context.decode_wellFormed ..
    · cases h
  · cases h

theorem context?_tidy {s : Store} {now : String} {actor : Int} {c : Context}
    (h : s.context? now actor = some c) : c.Tidy := by
  rw [context?] at h
  split at h
  · split at h
    · rw [← Option.some.inj h]
      exact Context.decode_tidy ..
    · cases h
  · cases h

end Store

namespace Context
variable {c : Context}

theorem Sound.topic (h : c.Sound) (htopic : c.inTopic = true) :
    c.flowMode = true ∧ c.topicId.isSome = true ∧ c.adminChatId.isSome = true := by
  have hsound := h.1
  rw [topicSound, htopic] at hsound
  simpa [and_assoc] using hsound

theorem Sound.start (h : c.Sound) (hidle : c.currentFlow = "") : c.currentStep = 0 := by
  have hsound := h.2
  rw [stepSound, isIdle, hidle] at hsound
  exact eq_of_beq hsound

end Context

namespace Contexts
open Turn
variable {w : World} {actor human : Int}

/-- A sound context is written and read again without anything to report. -/
private theorem exists_put_get {c : Context} (hs : w.scene.Reliable)
    (hresolve : w.store.resolve c.externalId = .ok (some c.humanId)) (hsound : c.Sound)
    (hdata : (Value.dict c.data).WellFormed) (hreadable : c.isReadable = true) :
    ∃ u u', on (put c) w = (.ok (), u) ∧ u.notices = w.notices ∧
      on (Contexts.get c.externalId) u =
        (.ok (some { c with data := Value.finiteFields c.data }), u') ∧ u'.notices = u.notices := by
  obtain ⟨s, hput, hsaved⟩ := on_put_text hresolve (hs _ _)
  let u : World := { w with store := s, storeTasks := w.storeTasks + 1 }
  have hknown : u.store.resolve c.externalId = .ok (some c.humanId) :=
    (hsaved.resolve _).trans hresolve
  have hget := on_get_of_resolve (w := u) (hs.writesAt _).1 hknown hsaved.load_self
  rw [(Context.decode_encode_of_sound u.now hsound hdata hreadable).1] at hget
  exact ⟨u, _, hput, rfl, hget, List.append_nil _⟩

/-- A text that claims another identity, a topic without a chat and a step without a flow. -/
def forgery : String :=
  "\x7b\"external_id\":9,\"human_id\":\"9\",\"current_step\":\"3\",\"flow_in_topic\":true,"
    ++ "\"data\":\x7b\"x\":[1,NaN]\x7d\x7d"

/-- The store of a world in which it is kept for an actor. -/
def forged : World := { store := .memory { actors := [(1, 4)], contexts := [(1, forgery)] } }

end Contexts

end Dialogue
