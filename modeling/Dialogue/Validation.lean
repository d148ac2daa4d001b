import Dialogue.Decimal.Reading
import Dialogue.Notice
import Dialogue.Pattern.Reader

/-! Rules that an answer has to meet before it is accepted. -/
namespace Dialogue

/-- `kind` is `text`, `number` or `email`; any other kind accepts every answer. A pattern that
is not empty has to match the whole answer besides. -/
structure Validation where
  kind : String := "text"
  pattern : String := ""
  message : String := ""
  deriving Repr, DecidableEq

namespace Validation

/-- Neither a blank nor the at sign. -/
def addressPart : CharClass := .noneOf [.blank, .one '@']

/-- Two parts around an at sign, the second with a point inside. -/
def emailPattern : Pattern :=
  .seq .atStart <| .seq (.many addressPart) <| .seq (.char (.one '@')) <|
  .seq (.many addressPart) <| .seq (.char (.one '.')) <| .seq (.many addressPart) .atEnd

def isEmail (s : String) : Bool := emailPattern.matchesFront false s

/-- A finite number. -/
def isNumber (s : String) : Bool :=
  match Decimal.readFloat? (Text.trim s) with
  | some x => (Binary64.ofFloat x).isFinite
  | none => false

def meetsKind (kind s : String) : Bool :=
  match kind with
  | "text" => !Text.allBlank s
  | "number" => isNumber s
  | "email" => isEmail s
  | _ => true

/-- Whether an answer meets a rule. A pattern that cannot be read is reported and passes. -/
def accepts (v : Validation) (s : String) : Bool × List Notice :=
  if !meetsKind v.kind s then (false, [])
  else if v.pattern.isEmpty then (true, [])
  else match Pattern.read? v.pattern with
    | some ⟨p, alike⟩ => (p.matchesAll alike s, [])
    | none => (true, [.patternInvalid])

end Validation

end Dialogue
