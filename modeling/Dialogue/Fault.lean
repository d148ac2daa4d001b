import Dialogue.Schema

/-! What can go wrong beyond an event that is ignored or refused. A fault has a kind, and some
have a text of their own. -/
namespace Dialogue

inductive Fault where
  /-- Data that does not have the shape it should have. -/
  | malformed (complaints : List Schema.Complaint)
  /-- A send that a channel could not carry out. -/
  | undelivered (text : String) (channel : String) (retryable : Bool)
  /-- No handler under a name. -/
  | handlerUnknown
  /-- A configuration or an argument that is refused, with the reason. -/
  | refused (text : String)
  /-- A failure of the surroundings, with the reason. -/
  | broken (text : String)
  /-- A text that is no number. -/
  | unreadable
  /-- A value of a kind that the operation does not take. -/
  | wrongKind
  /-- A part is asked of a value that has no such parts. -/
  | noParts
  /-- A key is missing. -/
  | noKey
  /-- A number is too large for its place. -/
  | tooLarge
  /-- A number has too many digits to be written. -/
  | unwritable
  /-- Handlers and engine called each other too often. -/
  | tooDeep
  /-- A request that failed in a way that is not retried. -/
  | request (kind : String) (text : String)
  deriving Repr, DecidableEq

namespace Fault

/-- The kind of a fault, as it is reported. -/
def kind : Fault → String
  | malformed _ => "ValidationError"
  | undelivered .. => "ChannelError"
  | handlerUnknown => "HandlerNotFound"
  | refused _ => "ValueError"
  | broken _ => "RuntimeError"
  | unreadable => "ValueError"
  | wrongKind => "TypeError"
  | noParts => "AttributeError"
  | noKey => "KeyError"
  | tooLarge => "OverflowError"
  | unwritable => "ValueError"
  | tooDeep => "RecursionError"
  | request kind _ => kind

def text? : Fault → Option String
  | undelivered text .. => some text
  | refused text => some text
  | broken text => some text
  | request _ text => some text
  | _ => none

/-- The kind, and the text after a colon if there is one. -/
def summary (f : Fault) : String :=
  match f.text? with
  | some text => f.kind ++ ": " ++ text
  | none => f.kind

/-- A fault reads with a capital or a colon: it names its kind, and a text of its own comes after a
colon. -/
theorem summary_ne {s : String} (hcolon : s.toList.all (· != ':') = true)
    (hlower : s.toList.any Char.isUpper = false) (f : Fault) : f.summary ≠ s := by
  have hspoken (kind text : String) : kind ++ ": " ++ text ≠ s := by
    rintro rfl
    exact absurd (List.all_eq_true.mp hcolon ':' (by simp)) (by decide)
  have hkind {kind : String} (h : kind.toList.any Char.isUpper = true) : kind ≠ s := by
    rintro rfl
    exact Bool.false_ne_true (hlower.symm.trans h)
  cases f with
  | undelivered | refused | broken | request => exact hspoken _ _
  | malformed =>
    change "ValidationError" ≠ s
    exact hkind (by decide)
  | handlerUnknown | unreadable | wrongKind | noParts | noKey | tooLarge | unwritable | tooDeep =>
    exact hkind (by decide)

end Fault

end Dialogue
