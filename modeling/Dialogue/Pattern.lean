import Dialogue.Text.Blank
import Dialogue.Text.Case
import Dialogue.Text.Digit
import Dialogue.Text.Word

/-! Patterns over texts and their matching by trying choices in order. -/
namespace Dialogue

/-- A class of characters. -/
inductive CharClass where
  | one (c : Char)
  | range (first last : Char)
  | digit | word | blank
  | anyOf (cs : List CharClass)
  | noneOf (cs : List CharClass)

namespace CharClass

mutual

/-- Whether a character is in a class, with capital and small letters alike if asked. -/
def mem (alike : Bool) (c : Char) : CharClass → Bool
  | one d => if alike then Text.sameLetter c d else c == d
  | range a b =>
    let inside (c : Char) : Bool := a ≤ c && c ≤ b
    if alike then (Text.alikes c).any inside else inside c
  | digit => Text.isDigit c
  | word => Text.isWord c
  | blank => Text.isBlank c
  | anyOf cs => memAny alike c cs
  | noneOf cs => !memAny alike c cs

def memAny (alike : Bool) (c : Char) : List CharClass → Bool
  | [] => false
  | d :: ds => mem alike c d || memAny alike c ds

end

/-- Every character that does not end a line. -/
def notLineEnd : CharClass := noneOf [one '\n']

end CharClass

inductive Pattern where
  | empty
  | char (cls : CharClass)
  | atStart
  | atEnd
  | veryEnd
  | wordEdge (edge : Bool)
  | seq (p q : Pattern)
  | alt (p q : Pattern)
  /-- At least `least` times, at most `most` times, more before fewer when `greedy`. -/
  | times (p : Pattern) (least : Nat) (most : Option Nat) (greedy : Bool)
  | group (n : Nat) (p : Pattern)
  | again (n : Nat)
  | ahead (p : Pattern) (present : Bool)

namespace Pattern

/-- A place in the text and the texts of the groups passed. -/
structure Place where
  back : List Char
  rest : List Char
  position : Nat
  groups : List (Nat × List Char)

namespace Place

def start (cs : List Char) : Place := ⟨[], cs, 0, []⟩

def step? (p : Place) : Option (Char × Place) :=
  match p.rest with
  | [] => none
  | c :: cs => some (c, { p with back := c :: p.back, rest := cs, position := p.position + 1 })

def isEnd (p : Place) : Bool := p.rest.isEmpty

/-- The place is all there is of the text. -/
def isAlone (p : Place) : Bool := p.back.isEmpty && p.rest.isEmpty

/-- A word character on exactly one side. -/
def atWordEdge (p : Place) : Bool :=
  let isWord (cs : List Char) : Bool := match cs with
    | c :: _ => Text.isWord c
    | [] => false
  isWord p.back != isWord p.rest

/-- The text read since an earlier place. -/
def since (p start : Place) : List Char := start.rest.take (p.position - start.position)

/-- Reads a given text. -/
def read? (alike : Bool) (p : Place) : List Char → Option Place
  | [] => some p
  | w :: ws => match p.step? with
    | some (c, q) =>
      if (if alike then Text.lower c == Text.lower w else c == w) then read? alike q ws else none
    | none => none

end Place

/-- What is to be matched after a pattern. -/
abbrev Next := Place → Option Place

/-- Repetition of `body`. Once the least number is reached, a repetition is tried only if the
one before it read something. -/
def repeated (body : Place → Next → Option Place) (greedy : Bool) :
    Nat → Nat → Option Nat → Option Nat → Place → Next → Option Place
  | 0, _, _, _, s, k => k s
  | fuel + 1, least, most, last, s, k =>
    let again := body s fun t =>
      repeated body greedy fuel (least - 1) (most.map (· - 1)) (some s.position) t k
    if 0 < least then again
    else if most == some 0 || last == some s.position then k s
    else if greedy then again.orElse fun _ => k s
    else (k s).orElse fun _ => again

/-- The first way to match a pattern at a place such that the rest matches too. -/
def run (alike : Bool) : Pattern → Place → Next → Option Place
  | empty, s, k => k s
  | char cls, s, k => match s.step? with
    | some (c, t) => if cls.mem alike c then k t else none
    | none => none
  | atStart, s, k => if s.back.isEmpty then k s else none
  | atEnd, s, k => if s.rest == [] || s.rest == ['\n'] then k s else none
  | veryEnd, s, k => if s.isEnd then k s else none
  | wordEdge edge, s, k => if s.atWordEdge == edge && !s.isAlone then k s else none
  | seq p q, s, k => run alike p s fun t => run alike q t k
  | alt p q, s, k => (run alike p s k).orElse fun _ => run alike q s k
  | times p least most greedy, s, k =>
    repeated (run alike p) greedy (least + s.rest.length + 2) least most none s k
  | group n p, s, k =>
    run alike p s fun t => k { t with groups := (n, t.since s) :: t.groups.filter (·.1 != n) }
  | again n, s, k => match s.groups.find? (·.1 == n) with
    | some (_, cs) => (s.read? alike cs).bind k
    | none => none
  | ahead p present, s, k => match run alike p s some with
    | some t => if present then k { s with groups := t.groups } else none
    | none => if present then none else k s

/-- The pattern matches the text from its beginning to its end. -/
def matchesAll (alike : Bool) (p : Pattern) (s : String) : Bool :=
  (p.run alike (.start s.toList) fun t => if t.isEnd then some t else none).isSome

/-- The pattern matches the text from its beginning. -/
def matchesFront (alike : Bool) (p : Pattern) (s : String) : Bool :=
  (p.run alike (.start s.toList) some).isSome

/-- One or more characters of a class, as many as there are. -/
def many (cls : CharClass) : Pattern := times (char cls) 1 none true

end Pattern

end Dialogue
