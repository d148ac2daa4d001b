import Dialogue.Fault

/-! How an event ended for the flow of an actor. -/
namespace Dialogue

inductive Status where
  | ok
  | ignored
  | failed
  deriving Repr, DecidableEq

namespace Status

def name : Status → String
  | ok => "ok"
  | ignored => "ignored"
  | failed => "failed"

def ofName? (s : String) : Option Status := [ok, ignored, failed].find? (·.name == s)

end Status

/-- Why an event was ignored or failed. -/
inductive Reason where
  | unsaid
  | noContext
  | noActiveFlow
  | flowNotFound
  | emptyFlow
  | stepNotFound
  | unsupportedStep
  | chainLimit
  | adminContextMissing
  | adminChatMissing
  | notInTopicFlow
  | notWaiting
  | validationFailed
  | actionIncomplete
  | variableNotWritable
  | pressWithoutFlow
  | pressWithoutStep
  | dynamicUnmatched
  | noKeyboardStep
  | handlerNotFound
  | fault (f : Fault)
  | other (text : String)
  deriving Repr, DecidableEq

namespace Reason

def text : Reason → String
  | unsaid => ""
  | noContext => "no_context"
  | noActiveFlow => "no_active_flow"
  | flowNotFound => "flow_not_found"
  | emptyFlow => "empty_flow"
  | stepNotFound => "step_not_found"
  | unsupportedStep => "unknown_step_type"
  | chainLimit => "step_chain_limit"
  | adminContextMissing => "admin_context_missing"
  | adminChatMissing => "admin_chat_id_missing"
  | notInTopicFlow => "not_in_topic_flow"
  | notWaiting => "not_waiting_for_input"
  | validationFailed => "validation_failed"
  | actionIncomplete => "callback_action_incomplete"
  | variableNotWritable => "variable_not_writable"
  | pressWithoutFlow => "callback_without_flow"
  | pressWithoutStep => "callback_without_step"
  | dynamicUnmatched => "dynamic_callback_unmatched"
  | noKeyboardStep => "no_keyboard_step"
  | handlerNotFound => "handler_not_found"
  | fault f => f.summary
  | other text => text

end Reason

/-- A completed flow names itself in the outcome. -/
structure Outcome where
  status : Status
  reason : Reason := .unsaid
  flow : Option String := none
  deriving Repr, DecidableEq

namespace Outcome

def ok : Outcome := { status := .ok }

def completed (flow : String) : Outcome := { status := .ok, flow := some flow }

def ignored (reason : Reason) : Outcome := { status := .ignored, reason }

def failed (reason : Reason) : Outcome := { status := .failed, reason }

def isOk (o : Outcome) : Bool := o.status == .ok

/-- The flow does not count in the comparison of outcomes. -/
def agrees (a b : Outcome) : Bool := a.status == b.status && a.reason.text == b.reason.text

def shown (o : Outcome) : String :=
  "<StepResult " ++ o.status.name
    ++ (if o.reason.text.isEmpty then "" else ": " ++ o.reason.text) ++ ">"

/-- A route shows the outcome it led to only when that is a success. -/
def shownVia (route : String) (o : Option Outcome) : String :=
  match o with
  | some o =>
    if o.isOk then "<Route " ++ route ++ " " ++ o.shown ++ ">" else "<Route " ++ route ++ ">"
  | none => "<Route " ++ route ++ ">"

end Outcome

end Dialogue
