import Dialogue.Flow.Schema
import Dialogue.Notice
import Dialogue.Path

/-! What the bot remembers of one actor. -/
namespace Dialogue
open Schema

/-- A step that was entered. -/
structure Visit where
  flow : String
  step : Int
  timestamp : String
  deriving Repr, DecidableEq

namespace Visit

def fieldNames : List String := ["flow", "step", "timestamp"]

/-- A visit without a time happens now. -/
def read (now : String) : Reader Visit := record fun fs =>
  Visit.mk <$> required fs "flow" string <*> required fs "step" whole
    <*> fieldOr fs "timestamp" now string

def toValue (v : Visit) : Value :=
  .dict [("flow", .text v.flow), ("step", .int v.step), ("timestamp", .text v.timestamp)]

end Visit

/-- Idle without a current flow; else in a flow that is run in the actor's own chat or, for an
admin, in a topic of the admin chat. -/
structure Context where
  externalId : Int
  humanId : Int
  currentFlow : String := ""
  currentStep : Int := 0
  data : Table String Value := []
  history : List Visit := []
  forwarding : Bool := true
  flowMode : Bool := false
  inTopic : Bool := false
  topicId : Option Int := none
  adminChatId : Option Int := none
  targetUserId : Option Int := none

/-- The question an actor has still to answer. -/
structure WaitMarker where
  stepId : Option String := none
  saveTo : String
  validation : Option Validation := none
  next : Option Target := none
  deriving Repr, DecidableEq

namespace WaitMarker

def fieldNames : List String := ["step_id", "save_to_variable", "validation", "next_step_id"]

/-- The place of the marker in the data. What lies under its first key belongs to the bot. -/
def systemKey : String := "_system"

def path : Path := [systemKey, "waiting_for_input"]

def read : Reader WaitMarker := record fun fs =>
  WaitMarker.mk <$> optionalField fs "step_id" string <*> required fs "save_to_variable" string
    <*> optionalField fs "validation" Validation.read
    <*> optionalField fs "next_step_id" Target.read

def toFields (w : WaitMarker) : Table String Value :=
  [("step_id", optionalText w.stepId), ("save_to_variable", .text w.saveTo),
    ("validation", Value.ofOption Validation.toValue w.validation),
    ("next_step_id", Value.ofOption Target.toValue w.next)]

/-- The marker as it is kept: what is missing is left out. -/
def stored (w : WaitMarker) : Value := .dict (w.toFields.filter fun e => !e.2.isNull)

end WaitMarker

namespace Context

def fieldNames : List String :=
  ["external_id", "human_id", "current_flow", "current_step", "data", "step_history",
   "message_forwarding_enabled", "flow_mode", "flow_in_topic", "topic_id", "admin_chat_id",
   "target_user_id"]

def isIdle (c : Context) : Bool := c.currentFlow.isEmpty

/-- Being in a topic needs a running flow, a topic and a chat. -/
def topicSound (c : Context) : Bool :=
  !c.inTopic || (c.flowMode && c.topicId.isSome && c.adminChatId.isSome)

/-- Without a flow there is no step to be at. -/
def stepSound (c : Context) : Bool := !c.isIdle || c.currentStep == 0

def Sound (c : Context) : Prop := c.topicSound = true ∧ c.stepSound = true

instance (c : Context) : Decidable c.Sound := by unfold Sound; infer_instance

/-- Makes a context sound, with a notice for each rule that it broke. -/
def repair (c : Context) : Context × List Notice :=
  let (c, first) :=
    if c.topicSound then (c, []) else ({ c with inTopic := false }, [.contextRepaired])
  let (c, second) :=
    if c.stepSound then (c, []) else ({ c with currentStep := 0 }, [.contextRepaired])
  (c, first ++ second)

/-- The fields as given, before any repair. -/
def readFields (now : String) : Reader Context := record fun fs =>
  (fun externalId humanId currentFlow currentStep data history forwarding flowMode inTopic topicId
      adminChatId targetUserId =>
    ({ externalId, humanId, currentFlow, currentStep, data, history, forwarding, flowMode,
       inTopic, topicId, adminChatId, targetUserId } : Context))
  <$> required fs "external_id" whole <*> required fs "human_id" whole
    <*> fieldOr fs "current_flow" "" string <*> fieldOr fs "current_step" 0 whole
    <*> fieldOr fs "data" [] dict <*> fieldOr fs "step_history" [] (list (Visit.read now))
    <*> fieldOr fs "message_forwarding_enabled" true truth <*> fieldOr fs "flow_mode" false truth
    <*> fieldOr fs "flow_in_topic" false truth <*> optionalField fs "topic_id" whole
    <*> optionalField fs "admin_chat_id" whole <*> optionalField fs "target_user_id" whole

def read (now : String) : Reader (Context × List Notice) := fun v =>
  (readFields now v).map repair

def toFields (c : Context) : Table String Value :=
  [("external_id", .int c.externalId), ("human_id", .int c.humanId),
   ("current_flow", .text c.currentFlow), ("current_step", .int c.currentStep),
   ("data", .dict c.data), ("step_history", .list (c.history.map (·.toValue))),
   ("message_forwarding_enabled", .bool c.forwarding), ("flow_mode", .bool c.flowMode),
   ("flow_in_topic", .bool c.inTopic), ("topic_id", Value.ofOption .int c.topicId),
   ("admin_chat_id", Value.ofOption .int c.adminChatId),
   ("target_user_id", Value.ofOption .int c.targetUserId)]

/-- The value in the data that the marker's place holds. -/
def rawMarker (c : Context) : Value := Path.get (.dict c.data) WaitMarker.path

/-- The armed marker. Something that is no marker is reported and counts as none. -/
def waitMarker (c : Context) : Option WaitMarker × List Notice :=
  if c.rawMarker.truthy then
    match WaitMarker.read c.rawMarker with
    | .ok w => (some w, [])
    | .error _ => (none, [.waitMarkerInvalid])
  else (none, [])

/-- Puts a value at a path of the data. -/
def setData (c : Context) (p : Path) (v : Value) : Context := { c with data := Path.set c.data p v }

/-- The most visits that are remembered. -/
def historyLimit : Nat := 100

/-- Enters a step: the oldest visits beyond the limit are forgotten. -/
def visit (c : Context) (flow : String) (step : Int) (now : String) : Context :=
  let history := c.history ++ [⟨flow, step, now⟩]
  { c with currentStep := step, history := history.drop (history.length - historyLimit) }

end Context

end Dialogue
