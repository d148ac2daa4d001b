/-! What the bot reports about its own running, for those who operate it. -/
namespace Dialogue

inductive Notice where
  | conditionFailed
  | patternInvalid
  | contextRepaired
  | waitMarkerInvalid
  | contextBlobInvalid
  | contextFieldsRejected (names : List String)
  | contextUpdateMissing
  | contextVariableMissing
  | contextStepMissing
  | contextOperationFailed
  | saveForUnknownHuman
  | fileLoadFailed
  | backendUnknown
  | flowInvalid
  | referenceUnresolved
  | payloadInvalid
  | payloadTooLong
  | payloadTruncated (whole cut : String)
  | entryPointFailed
  | flowNotFound
  | adminContextMissing
  | adminChatMissing
  | startContextMissing
  | flowEmpty
  | noActiveFlow
  | stepNotFound
  | chainLimitReached
  | stepUnsupported
  | keyboardNotFound
  | conditionWithoutTarget
  | handlerNotFound
  | handlerFailed
  | dynamicTextEmpty
  | dynamicTextFailed
  | menuInvalid
  | menuFailed
  | actionIncomplete
  | actionUnknown
  | variableRejected
  | dynamicUnmatched
  | commandHandlerFailed
  | relayFailed
  | answerFailed
  | requestUndelivered
  | requestRejected
  deriving Repr, DecidableEq

namespace Notice

/-- Failures are errors; everything the bot could put right or do without is a warning. -/
def isError : Notice → Bool
  | contextOperationFailed | backendUnknown | flowInvalid | entryPointFailed | flowNotFound
  | adminContextMissing | adminChatMissing | startContextMissing | noActiveFlow | stepNotFound
  | chainLimitReached | stepUnsupported | handlerNotFound | handlerFailed | dynamicTextFailed
  | menuInvalid | menuFailed | actionIncomplete | dynamicUnmatched | commandHandlerFailed
  | relayFailed | requestUndelivered | requestRejected => true
  | _ => false

def event : Notice → String
  | conditionFailed => "condition_evaluation_failed"
  | patternInvalid => "validation_pattern_invalid"
  | contextRepaired => "context_invariant_repaired"
  | waitMarkerInvalid => "wait_state_invalid"
  | contextBlobInvalid => "context_blob_invalid"
  | contextFieldsRejected _ => "context_update_rejected_fields"
  | contextUpdateMissing => "context_update_missing"
  | contextVariableMissing => "context_set_variable_missing"
  | contextStepMissing => "context_record_step_missing"
  | contextOperationFailed => "context_operation_failed"
  | saveForUnknownHuman => "context_save_unknown_human"
  | fileLoadFailed => "file_store_load_error"
  | backendUnknown => "store_backend_unknown"
  | flowInvalid => "invalid_flow"
  | referenceUnresolved => "flow_reference_unresolved"
  | payloadInvalid => "callback_payload_invalid"
  | payloadTooLong => "callback_data_too_long"
  | payloadTruncated .. => "callback_data_truncated"
  | entryPointFailed => "flow_entry_point_failed"
  | flowNotFound => "flow_not_found"
  | adminContextMissing => "topic_flow_admin_context_missing"
  | adminChatMissing => "topic_flow_admin_chat_missing"
  | startContextMissing => "flow_start_context_missing"
  | flowEmpty => "flow_has_no_steps"
  | noActiveFlow => "no_active_flow"
  | stepNotFound => "step_not_found"
  | chainLimitReached => "step_chain_limit_reached"
  | stepUnsupported => "unknown_step_type"
  | keyboardNotFound => "keyboard_not_found"
  | conditionWithoutTarget => "condition_without_target"
  | handlerNotFound => "handler_not_found"
  | handlerFailed => "handler_failed"
  | dynamicTextEmpty => "dynamic_step_empty_result"
  | dynamicTextFailed => "dynamic_step_failed"
  | menuInvalid => "dynamic_callback_invalid_result"
  | menuFailed => "dynamic_callback_step_failed"
  | actionIncomplete => "callback_action_incomplete"
  | actionUnknown => "callback_action_unknown"
  | variableRejected => "callback_variable_rejected"
  | dynamicUnmatched => "dynamic_callback_unmatched"
  | commandHandlerFailed => "command_handler_failed"
  | relayFailed => "forward_failed"
  | answerFailed => "answer_callback_failed"
  | requestUndelivered => "telegram_transport_failed"
  | requestRejected => "telegram_api_error"

/-- The level and the event of a notice, as it is recorded. -/
def record (n : Notice) : String := (if n.isError then "error:" else "warning:") ++ n.event

end Notice

end Dialogue
