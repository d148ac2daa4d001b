import Dialogue.Handler.Script
import Dialogue.Handler.Standard
import Dialogue.Proofs.Turn.Reporting

/-! Handlers that do not complain themselves of handlers or keyboards that are missing. The handlers
that come with the bot never do. -/
namespace Dialogue

/-- Neither by a report nor by a fault does the handler say that a handler is missing, unless that
is how something else fails. -/
def Handler.Discreet (h : Handler) : Prop := ∀ actor payload,
  Turn.Reports Notice.Finds (h.run actor payload) (fun _ => True) (· ≠ .handlerUnknown)

theorem Intake.supply_ne_unknown (i : Intake) {payload : Option Value} {e : Fault}
    (h : i.supply payload = .error e) : e ≠ .handlerUnknown := by
  unfold supply at h
  split at h <;> cases h <;> decide

namespace Handler
open Turn

private theorem reports_reply (actor : Int) (text : String) :
    Reports Notice.Finds (reply actor text) (fun _ => True) (· ≠ .handlerUnknown) := by
  refine (Contexts.reports_get actor).bind fun o _ => ?_
  split
  · exact Reports.deliver_plain _ _ _
  · exact Reports.pure trivial

theorem setStatus_discreet : setStatus.Discreet := by
  intro actor payload
  simp only [setStatus]
  split
  · exact (Contexts.reports_setVariable _ _ _).bind fun _ _ =>
      (reports_reply _ _).bind fun _ _ => Reports.pure trivial
  · exact Reports.throw (by decide)

private theorem offerSummary_ne_unknown {offer : Value} {e : Fault}
    (h : offerSummary offer = .error e) : e ≠ .handlerUnknown := by
  cases offer with
  | dict fs => cases h
  | _ =>
    rw [← Except.error.inj h]
    decide

theorem showOffer_discreet : showOffer.Discreet := by
  intro actor payload
  refine (Contexts.reports_variableAt _ _).bind fun offer _ => ?_
  refine Reports.bind ((Reports.ofResult _).mono (fun _ h => h) fun _ =>
    offerSummary_ne_unknown) fun text _ => ?_
  exact (reports_reply _ _).bind fun _ _ => Reports.pure trivial

theorem standard_discreet {name : String} {h : Handler}
    (hh : Table.value? standard name = some h) : h.Discreet := by
  rw [standard, Table.value?_cons, Table.value?_cons] at hh
  split at hh
  · exact Option.some.inj hh ▸ setStatus_discreet
  split at hh
  · exact Option.some.inj hh ▸ showOffer_discreet
  · cases hh

end Handler

namespace Script
open Turn

private theorem reports_acts (engine : Engine) (actor : Int) (payload : Option Value)
    {as : List Act} (h : ∀ a ∈ as, ∀ e, a ≠ .send e) {E : Fault → Prop} :
    Reports Notice.Finds (as.forM (act engine actor payload)) (fun _ => True) E := by
  induction as with
  | nil => exact Reports.pure trivial
  | cons a as ih =>
    obtain ⟨ha, has⟩ := List.forall_mem_cons.mp h
    have hact : Reports Notice.Finds (act engine actor payload a) (fun _ => True) E := by
      cases a with
      | set path v => exact Contexts.reports_setVariable _ _ _
      | keepPayload path => exact Contexts.reports_setVariable _ _ _
      | send e => exact absurd rfl (ha e)
    exact hact.bind fun _ _ => ih has

/-- A script that sends no events is discreet, unless it is to end so. -/
theorem handler_discreet (engine : Engine) {s : Script} (h : ∀ a ∈ s.acts, ∀ e, a ≠ .send e)
    (hending : s.ending ≠ .fail .handlerUnknown) : (s.handler engine).Discreet := by
  intro actor payload
  refine (reports_acts engine actor payload h).bind fun _ _ => ?_
  match hs : s.ending with
  | .answer v => exact Reports.pure trivial
  | .offer v =>
    cases hm : Menu.read v with
    | ok m =>
      simp only [finish, hm]
      exact Reports.pure trivial
    | error complaints =>
      simp only [finish, hm]
      exact Reports.throw Fault.noConfusion
  | .recall path => exact (Contexts.reports_variableAt _ _).bind fun _ _ => Reports.pure trivial
  | .fail f => exact Reports.throw fun hf => hending (by rw [hs, hf])

end Script

end Dialogue
