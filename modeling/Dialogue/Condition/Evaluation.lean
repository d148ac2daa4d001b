import Dialogue.Condition.Comparison
import Dialogue.Notice

/-! Values of condition expressions, found while the expression is read. Operands that cannot
change the value any more are read on without being looked up or compared. -/
namespace Dialogue.Condition

/-- The one name an expression may begin a path with, and what it stands for. -/
structure Scope where
  root : String
  data : Value

/-- Reads from the front of the tokens; `skipping` is set inside an operand that is passed over. -/
abbrev Reading := (skipping : Bool) → List Token → Except Problem (Value × List Token)

/-- The deepest nesting of groups and negations. -/
def depthLimit : Nat := 200

def expect (s : Sign) : List Token → Except Problem (List Token)
  | .sign t :: ts => if t = s then .ok ts else .error (.expected s)
  | _ => .error (.expected s)

def listItem? (xs : List Value) (i : Int) : Value :=
  if 0 ≤ i then Value.orNull xs[i.toNat]?
  else if 0 ≤ i + xs.length then Value.orNull xs[(i + xs.length).toNat]?
  else .null

/-- One step into a container. A missing part is null; only dictionaries and, by position,
lists have parts. -/
def part (container key : Value) : Except Problem Value :=
  match container, key with
  | .dict fs, key => .ok (Value.orNull (Table.value? fs key.display))
  | .list xs, .int i => .ok (listItem? xs i)
  | _, _ => .error (.unreadable key container)

def partUnless (skipping : Bool) (container key : Value) : Except Problem Value :=
  if skipping then .ok .null else part container key

/-- Steps of a path, as many as follow. -/
def steps (skipping : Bool) (current : Value) : List Token → Except Problem (Value × List Token)
  | .sign .dot :: .name s :: ts => do steps skipping (← partUnless skipping current (.text s)) ts
  | .sign .dot :: t :: _ => .error (.noAttribute t)
  | [.sign .dot] => .error .endOfExpression
  | .sign .openIndex :: .literal v :: ts =>
    match v with
    | .null | .bool _ => .error (.noIndex (.literal v))
    | v => match ts with
      | .sign .closeIndex :: ts => do steps skipping (← partUnless skipping current v) ts
      | _ => .error (.expected .closeIndex)
  | .sign .openIndex :: t :: _ => .error (.noIndex t)
  | [.sign .openIndex] => .error .endOfExpression
  | ts => .ok (current, ts)

/-- A group, a literal or a path. -/
def operand (scope : Scope) (group : Reading) : Reading
  | _, [] => .error .endOfExpression
  | skipping, .sign .openGroup :: ts => do
    let (v, ts) ← group skipping ts
    return (v, ← expect .closeGroup ts)
  | _, .literal v :: ts => .ok (v, ts)
  | skipping, .name s :: ts =>
    if s = scope.root then steps skipping scope.data ts else .error (.unknownName s)
  | _, t :: _ => .error (.unexpectedToken t)

/-- An operand, or two with a comparator between them. -/
def comparison (operand : Reading) : Reading := fun skipping ts => do
  let (a, ts) ← operand skipping ts
  match ts with
  | .sign (.compare c) :: ts =>
    let (b, ts) ← operand skipping ts
    if skipping then return (.null, ts) else return (.bool (← c.apply a b), ts)
  | _ => return (a, ts)

/-- Operands joined by one sign. The first operand whose truth is `decisive` is the value, and
the operands after it are passed over. -/
def joined (s : Sign) (decisive : Bool) (operand : Reading) (skipping : Bool) :
    Nat → Value → List Token → Except Problem (Value × List Token)
  | fuel + 1, a, .sign t :: ts =>
    if t = s then
      if holds a = decisive then do
        let (_, ts) ← operand true ts
        joined s decisive operand skipping fuel a ts
      else do
        let (b, ts) ← operand skipping ts
        joined s decisive operand skipping fuel b ts
    else .ok (a, .sign t :: ts)
  | _, a, ts => .ok (a, ts)

def conjunction (operand : Reading) : Reading := fun skipping ts => do
  let (a, ts) ← operand skipping ts
  joined .both false operand skipping ts.length a ts

def disjunction (operand : Reading) : Reading := fun skipping ts => do
  let (a, ts) ← operand skipping ts
  joined .either true operand skipping ts.length a ts

/-- A comparison or its opposite, with at most the given depth of nesting. -/
def negation (scope : Scope) : Nat → Reading
  | 0 => fun _ _ => .error .tooDeep
  | depth + 1 => fun skipping ts => match ts with
    | .sign .opposite :: ts => do
      let (v, ts) ← negation scope depth skipping ts
      return (.bool (!holds v), ts)
    | ts =>
      comparison (operand scope (disjunction (conjunction (negation scope depth)))) skipping ts

def expression (scope : Scope) : Reading := disjunction (conjunction (negation scope depthLimit))

/-- The value of all the tokens. -/
def valueOf (scope : Scope) (ts : List Token) : Except Problem Value := do
  let (v, rest) ← expression scope false ts
  match rest with
  | [] => return v
  | t :: _ => .error (.unexpectedToken t)

/-- Whether an expression holds, or why that cannot be told. -/
def test (scope : Scope) (s : String) : Except Problem Bool := do
  if Text.allBlank s then .error .empty
  return holds (← valueOf scope (← Token.ofString s))

/-- Whether an expression given as data holds; only a text can. -/
def testValue (scope : Scope) : Value → Except Problem Bool
  | .text s => test scope s
  | _ => .error .empty

/-- An expression that cannot be told to hold does not hold, and is reported. -/
def decided (scope : Scope) (s : String) : Bool × List Notice :=
  match test scope s with
  | .ok b => (b, [])
  | .error _ => (false, [.conditionFailed])

end Dialogue.Condition
