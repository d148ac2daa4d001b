import Dialogue.Text.Word
import Dialogue.Value

/-! References to the environment inside texts: a dollar sign and a name in braces, with or
without a fallback. Texts are read once from left to right; what a reference is replaced by is
not read again. -/
namespace Dialogue.Settings

abbrev Environment := Table String String

structure EnvReference where
  name : List Char
  fallback : Option (List Char) := none
  deriving Repr, DecidableEq

namespace EnvReference

/-- The form in which a reference is written. -/
def written (r : EnvReference) : List Char :=
  '$' :: '\x7b' :: r.name ++ (match r.fallback with
    | some f => ':' :: '-' :: f
    | none => []) ++ ['\x7d']

/-- The reference at the beginning of a text. -/
def read? : List Char → Option EnvReference
  | '$' :: '\x7b' :: cs =>
    let name := cs.takeWhile Text.isWord
    if name.isEmpty then none
    else match cs.dropWhile Text.isWord with
      | '\x7d' :: _ => some ⟨name, none⟩
      | ':' :: '-' :: rest =>
        if rest.any (· == '\x7d') then some ⟨name, some (rest.takeWhile (· != '\x7d'))⟩ else none
      | _ => none
  | _ => none

/-- The value of the name if it has one, even an empty one; else the fallback; else the
reference stays as it is written. -/
def value (env : Environment) (r : EnvReference) : List Char :=
  match Table.value? env (String.ofList r.name) with
  | some s => s.toList
  | none => r.fallback.getD r.written

end EnvReference

/-- Replaces references; `skip` characters belong to the reference replaced last. -/
def expandFrom (env : Environment) (skip : Nat) : List Char → List Char
  | [] => []
  | c :: cs => match skip with
    | n + 1 => expandFrom env n cs
    | 0 => match EnvReference.read? (c :: cs) with
      | some r => r.value env ++ expandFrom env (r.written.length - 1) cs
      | none => c :: expandFrom env 0 cs

def expandText (env : Environment) (s : String) : String :=
  String.ofList (expandFrom env 0 s.toList)

mutual

/-- Replaces references in all texts of a tree. Keys are left alone. -/
def expand (env : Environment) : Value → Value
  | .text s => .text (expandText env s)
  | .list xs => .list (expandItems env xs)
  | .dict fs => .dict (expandFields env fs)
  | v => v

def expandItems (env : Environment) : List Value → List Value
  | [] => []
  | x :: xs => expand env x :: expandItems env xs

def expandFields (env : Environment) : List (String × Value) → List (String × Value)
  | [] => []
  | (k, x) :: fs => (k, expand env x) :: expandFields env fs

end

end Dialogue.Settings
