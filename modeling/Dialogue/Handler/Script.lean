import Dialogue.Bot.Events

/-! Handlers given as data: what they do, one thing after another, and how they end. They can
send events to the bot, which may call them again; the nesting is limited. -/
namespace Dialogue

/-- One thing that a script does. -/
inductive Act where
  | set (path : String) (v : Value)
  /-- Keeps the payload; null if there is none. -/
  | keepPayload (path : String)
  /-- Sends an event of the same actor to the bot; the outcome does not count. -/
  | send (e : Event)

/-- How a script ends. -/
inductive Ending where
  | answer (v : Value)
  /-- Answers with the menu that a value describes. -/
  | offer (v : Value)
  /-- Answers with what the data hold at a path. -/
  | recall (path : String)
  | fail (f : Fault)

structure Script where
  intake : Intake := .nothing
  acts : List Act := []
  ending : Ending := .answer .null

/-- Someone who handles the events of actors. -/
abbrev Engine := Int → Event → Turn Outcome

namespace Script
open Turn

def act (engine : Engine) (actor : Int) (payload : Option Value) : Act → Turn Unit
  | .set path v => Contexts.setVariable actor (Path.ofString path) v
  | .keepPayload path => Contexts.setVariable actor (Path.ofString path) (payload.getD .null)
  | .send e => do let _ ← engine actor e

def finish (actor : Int) : Ending → Turn Reply
  | .answer v => return .value v
  | .offer v => match Menu.read v with
    | .ok m => return .menu m
    | .error complaints => throw (.malformed complaints)
  | .recall path => do return .value (← Contexts.variableAt actor (Path.ofString path))
  | .fail f => throw f

def handler (engine : Engine) (s : Script) : Handler where
  intake := s.intake
  run actor payload := do
    s.acts.forM (act engine actor payload)
    finish actor s.ending

/-- Some handlers, and scripts that take the places of those with the same names. -/
def handlers (engine : Engine) (base : Handlers) (scripts : Table String Script) : Handlers :=
  Table.putAll base (scripts.map fun (name, s) => (name, s.handler engine))

/-- A bot whose scripts may nest events as deep as the number says. -/
def nested (b : Bot) (scripts : Table String Script) : Nat → Bot
  | 0 => { b with handlers := handlers (fun _ _ => throw .tooDeep) b.handlers scripts }
  | depth + 1 =>
    { b with
      handlers := handlers (fun actor e => (nested b scripts depth).handle actor e) b.handlers scripts }

/-- The deepest nesting of events. -/
def depthLimit : Nat := 64

/-- A bot with scripts beside its own handlers. -/
def install (b : Bot) (scripts : Table String Script) : Bot := nested b scripts depthLimit

end Script

end Dialogue
