import Dialogue.Pattern

/-! Patterns read from text. -/
namespace Dialogue.Pattern

/-- Groups opened so far, their names, and those not closed yet. -/
structure Groups where
  count : Nat := 0
  names : List (String × Nat) := []
  pending : List Nat := []

/-- A pattern and whether letters match in either case. -/
structure Source where
  pattern : Pattern
  alike : Bool

private def hexDigit? (c : Char) : Option Nat :=
  if c.isDigit then some (c.toNat - 0x30)
  else if 'a' ≤ c ∧ c ≤ 'f' then some (c.toNat - 0x57)
  else if 'A' ≤ c ∧ c ≤ 'F' then some (c.toNat - 0x37)
  else none

/-- A character given by exactly `n` hexadecimal digits. -/
def hexChar? (n : Nat) (cs : List Char) : Option (Char × List Char) := do
  let ds ← (cs.take n).mapM hexDigit?
  let v := ds.foldl (fun v d => 16 * v + d) 0
  if ds.length = n ∧ v.isValidChar then some (Char.ofNat v, cs.drop n) else none

def isOctal (c : Char) : Bool := '0' ≤ c && c ≤ '7'

/-- A character given by octal digits, as many as there are up to `most`. -/
def octalChar? (most : Nat) (cs : List Char) : Option (Char × List Char) :=
  let ds := (cs.take most).takeWhile isOctal
  let v := ds.foldl (fun v d => 8 * v + (d.toNat - 0x30)) 0
  if ds.isEmpty || 0xFF < v then none else some (Char.ofNat v, cs.drop ds.length)

/-- Three octal digits, which are always a character and never a group. -/
def isOctalTriple : List Char → Bool
  | a :: b :: c :: _ => isOctal a && isOctal b && isOctal c
  | _ => false

/-- The class a letter names after a backslash, if any. -/
def namedClass? : Char → Option CharClass
  | 'd' => some .digit
  | 'D' => some (.noneOf [.digit])
  | 's' => some .blank
  | 'S' => some (.noneOf [.blank])
  | 'w' => some .word
  | 'W' => some (.noneOf [.word])
  | _ => none

/-- The character written after a backslash. Letters without a meaning are refused. -/
def escapedChar? (cs : List Char) : Option (Char × List Char) :=
  match cs with
  | [] => none
  | 'a' :: cs => some (Char.ofNat 7, cs)
  | 'f' :: cs => some (Char.ofNat 12, cs)
  | 'n' :: cs => some ('\n', cs)
  | 'r' :: cs => some ('\r', cs)
  | 't' :: cs => some ('\t', cs)
  | 'v' :: cs => some (Char.ofNat 11, cs)
  | 'x' :: cs => hexChar? 2 cs
  | 'u' :: cs => hexChar? 4 cs
  | 'U' :: cs => hexChar? 8 cs
  | c :: cs => if c.isAlphanum then none else some (c, cs)

/-- One end of a range in brackets: a character, or a class that no range has for an end. -/
def bracketItem? (cs : List Char) : Option (CharClass × List Char) :=
  match cs with
  | [] => none
  | '\\' :: 'b' :: cs => some (.one (Char.ofNat 8), cs)
  | '\\' :: c :: cs => match namedClass? c with
    | some cls => some (cls, cs)
    | none =>
      (if c.isDigit then octalChar? 3 (c :: cs) else escapedChar? (c :: cs)).map fun (d, cs) =>
        (.one d, cs)
  | ['\\'] => none
  | c :: cs => some (.one c, cs)

/-- Items up to the closing bracket, which stands for itself when it comes first. -/
def bracket? : Nat → Bool → List Char → Option (List CharClass × List Char)
  | 0, _, _ => none
  | fuel + 1, first, cs => match cs with
    | [] => none
    | ']' :: rest =>
      if first then bracketFrom fuel cs else some ([], rest)
    | _ => bracketFrom fuel cs
where
  bracketFrom (fuel : Nat) (cs : List Char) : Option (List CharClass × List Char) := do
    let (item, rest) ← bracketItem? cs
    match rest with
    | '-' :: ']' :: rest => some ([item, .one '-'], rest)
    | '-' :: rest =>
      let (last, rest) ← bracketItem? rest
      match item, last with
      | .one a, .one b =>
        if b < a then none
        else (bracket? fuel false rest).map fun (cs, rest) => (.range a b :: cs, rest)
      | _, _ => none
    | rest => (bracket? fuel false rest).map fun (cs, rest) => (item :: cs, rest)

/-- Least and most number of repetitions, and what follows; `none` when no repetition is
written here, and an inner `none` when one is written wrongly. -/
def bounds? (cs : List Char) : Option (Option (Nat × Option Nat × List Char)) :=
  match cs with
  | '*' :: cs => some (some (0, none, cs))
  | '+' :: cs => some (some (1, none, cs))
  | '?' :: cs => some (some (0, some 1, cs))
  | '\x7b' :: '\x7d' :: _ => none
  | '\x7b' :: cs =>
    let low := cs.takeWhile Char.isDigit
    let rest := cs.dropWhile Char.isDigit
    let (high, rest) := match rest with
      | ',' :: rest => (rest.takeWhile Char.isDigit, rest.dropWhile Char.isDigit)
      | rest => (low, rest)
    match rest with
    | '\x7d' :: rest =>
      let least := Text.numeral low
      if high.isEmpty then some (some (least, none, rest))
      else if Text.numeral high < least then some none
      else some (some (least, some (Text.numeral high), rest))
    | _ => none
  | _ => none

/-- Only what reads a text, or may, can be repeated, and only once. -/
def repeatable : Pattern → Bool
  | atStart | atEnd | veryEnd | wordEdge _ | times .. => false
  | _ => true

/-- A name in front of the given mark. -/
def nameUpTo? (mark : Char) (cs : List Char) : Option (String × List Char) :=
  let name := cs.takeWhile (· != mark)
  match name, cs.dropWhile (· != mark) with
  | c :: _, _ :: rest =>
    if (Text.isWord c && !Text.isDigit c) && name.all Text.isWord then
      some (String.ofList name, rest)
    else none
  | _, _ => none

mutual

/-- Alternatives up to a closing parenthesis or the end. -/
def alternatives? : Nat → Groups → List Char → Option (Pattern × Groups × List Char)
  | 0, _, _ => none
  | fuel + 1, gs, cs => match sequence? fuel gs [] cs with
    | some (p, gs, '|' :: rest) => match alternatives? fuel gs rest with
      | some (q, gs, rest) => some (alt p q, gs, rest)
      | none => none
    | r => r

/-- Parts one after another; `read` are those before, the last one first. -/
def sequence? : Nat → Groups → List Pattern → List Char → Option (Pattern × Groups × List Char)
  | 0, _, _, _ => none
  | fuel + 1, gs, read, cs =>
    let done := read.foldl (fun q p => seq p q) empty
    match cs with
    | [] => some (done, gs, [])
    | '|' :: _ => some (done, gs, cs)
    | ')' :: _ => some (done, gs, cs)
    | _ => match bounds? cs with
      | some none => none
      | some (some (least, most, rest)) => match read with
        | p :: read =>
          if repeatable p then match rest with
            | '?' :: rest => sequence? fuel gs (times p least most false :: read) rest
            | rest => sequence? fuel gs (times p least most true :: read) rest
          else none
        | [] => none
      | none => match part? fuel gs cs with
        | some (p, gs, rest) => sequence? fuel gs (p :: read) rest
        | none => none

/-- A single part. -/
def part? : Nat → Groups → List Char → Option (Pattern × Groups × List Char)
  | 0, _, _ => none
  | fuel + 1, gs, cs => match cs with
    | [] => none
    | '.' :: rest => some (char .notLineEnd, gs, rest)
    | '^' :: rest => some (atStart, gs, rest)
    | '$' :: rest => some (atEnd, gs, rest)
    | '[' :: '^' :: rest =>
      (bracket? (rest.length + 1) true rest).map fun (cs, rest) => (char (.noneOf cs), gs, rest)
    | '[' :: rest =>
      (bracket? (rest.length + 1) true rest).map fun (cs, rest) => (char (.anyOf cs), gs, rest)
    | '(' :: '?' :: ':' :: rest => enclosed fuel gs rest id
    | '(' :: '?' :: '=' :: rest => enclosed fuel gs rest (ahead · true)
    | '(' :: '?' :: '!' :: rest => enclosed fuel gs rest (ahead · false)
    | '(' :: '?' :: 'P' :: '=' :: rest => match nameUpTo? ')' rest with
      | some (name, rest) => match gs.names.lookup name with
        | some n => if gs.pending.contains n then none else some (again n, gs, rest)
        | none => none
      | none => none
    | '(' :: '?' :: 'P' :: '<' :: rest => match nameUpTo? '>' rest with
      | some (name, rest) =>
        if (gs.names.lookup name).isSome then none
        else numbered fuel { gs with names := (name, gs.count + 1) :: gs.names } rest
      | none => none
    | '(' :: '?' :: _ => none
    | '(' :: rest => numbered fuel gs rest
    | '\\' :: 'b' :: rest => some (wordEdge true, gs, rest)
    | '\\' :: 'B' :: rest => some (wordEdge false, gs, rest)
    | '\\' :: 'A' :: rest => some (atStart, gs, rest)
    | '\\' :: 'Z' :: rest => some (veryEnd, gs, rest)
    | '\\' :: c :: rest =>
      if c == '0' || isOctalTriple (c :: rest) then
        (octalChar? 3 (c :: rest)).map fun (d, rest) => (char (.one d), gs, rest)
      else if c.isDigit then
        let ds := (c :: rest).take 2 |>.takeWhile Char.isDigit
        let n := Text.numeral ds
        if n ≤ gs.count && !gs.pending.contains n then
          some (again n, gs, (c :: rest).drop ds.length)
        else none
      else match namedClass? c with
        | some cls => some (char cls, gs, rest)
        | none => (escapedChar? (c :: rest)).map fun (d, rest) => (char (.one d), gs, rest)
    | ['\\'] => none
    | c :: rest => some (char (.one c), gs, rest)

/-- A part in parentheses, which end it. As one part it can be repeated whatever it holds. -/
def enclosed (fuel : Nat) (gs : Groups) (cs : List Char) (wrap : Pattern → Pattern) :
    Option (Pattern × Groups × List Char) :=
  match fuel with
  | 0 => none
  | fuel + 1 => match alternatives? fuel gs cs with
    | some (p, gs, ')' :: rest) => some (seq (wrap p) empty, gs, rest)
    | _ => none

/-- A group that counts. -/
def numbered (fuel : Nat) (gs : Groups) (cs : List Char) : Option (Pattern × Groups × List Char) :=
  match fuel with
  | 0 => none
  | fuel + 1 =>
    let n := gs.count + 1
    match alternatives? fuel { gs with count := n, pending := n :: gs.pending } cs with
    | some (p, gs, ')' :: rest) =>
      some (group n p, { gs with pending := gs.pending.filter (· != n) }, rest)
    | _ => none

end

/-- The pattern that the whole text writes. -/
def read? (s : String) : Option Source :=
  let (alike, cs) := match s.toList with
    | '(' :: '?' :: 'i' :: ')' :: cs => (true, cs)
    | cs => (false, cs)
  match alternatives? (4 * cs.length + 4) {} cs with
  | some (p, _, []) => some ⟨p, alike⟩
  | _ => none

end Dialogue.Pattern
