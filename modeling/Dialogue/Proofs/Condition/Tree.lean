import Dialogue.Condition.Evaluation

/-! Condition expressions as trees: the grammar that says which tokens write which tree, and the
value of a tree. Reading the tokens and finding the value are two separate steps here. -/
namespace Dialogue.Condition

/-- The two signs that join operands. -/
inductive Joint where
  | both
  | either
  deriving Repr, DecidableEq

namespace Joint

def sign : Joint → Sign
  | both => .both
  | either => .either

/-- The truth of a left operand that settles the value of the whole. -/
def decisive : Joint → Bool
  | both => false
  | either => true

end Joint

/-- A path holds the keys to follow from the data that the root stands for. -/
inductive Tree where
  | literal (v : Value)
  | path (keys : List Value)
  | group (t : Tree)
  | compare (c : Comparator) (a b : Tree)
  | opposite (t : Tree)
  | join (j : Joint) (a b : Tree)

namespace Tree

/-- A joined tree has the value of the operand that decides. The right operand has no part in
the value when the left one is decisive, whatever it holds. -/
def value (data : Value) : Tree → Except Problem Value
  | literal v => .ok v
  | path keys => keys.foldlM part data
  | group t => t.value data
  | compare c a b => do
    let x ← a.value data
    let y ← b.value data
    return .bool (← c.apply x y)
  | opposite t => do
    let x ← t.value data
    return .bool (!holds x)
  | join j a b => do
    let x ← a.value data
    if holds x = j.decisive then return x else b.value data

/-- The levels of groups and negations inside one another. -/
def nesting : Tree → Nat
  | literal _ => 0
  | path _ => 0
  | group t => t.nesting + 1
  | compare _ a b => max a.nesting b.nesting
  | opposite t => t.nesting + 1
  | join _ a b => max a.nesting b.nesting

end Tree

/-- How tightly a part of an expression binds. -/
inductive Rank where
  | operand
  | comparison
  | negation
  | joined (j : Joint)
  deriving Repr, DecidableEq

/-- The rank of what a sign joins. -/
def Joint.below : Joint → Rank
  | both => .negation
  | either => .joined .both

/-- Between brackets stands a number or a text: any literal but null and the truth values. -/
def IsIndex : Value → Prop
  | .null => False
  | .bool _ => False
  | _ => True

/-- Tokens that write the steps of a path, each after a point or in brackets. -/
inductive WritesSteps : List Token → List Value → Prop
  | nil : WritesSteps [] []
  | field (s : String) {ts : List Token} {keys : List Value} (h : WritesSteps ts keys) :
      WritesSteps (.sign .dot :: .name s :: ts) (.text s :: keys)
  | index {v : Value} (hv : IsIndex v) {ts : List Token} {keys : List Value}
      (h : WritesSteps ts keys) :
      WritesSteps (.sign .openIndex :: .literal v :: .sign .closeIndex :: ts) (v :: keys)

/-- Tokens that write a tree at a rank. Every path begins with the root, also inside an operand
that has no part in the value. -/
inductive Writes (root : String) : Rank → List Token → Tree → Prop
  | literal (v : Value) : Writes root .operand [.literal v] (.literal v)
  | path {ts : List Token} {keys : List Value} (h : WritesSteps ts keys) :
      Writes root .operand (.name root :: ts) (.path keys)
  | group {ts : List Token} {t : Tree} (h : Writes root (.joined .either) ts t) :
      Writes root .operand (.sign .openGroup :: ts ++ [.sign .closeGroup]) (.group t)
  | alone {ts : List Token} {t : Tree} (h : Writes root .operand ts t) :
      Writes root .comparison ts t
  | compare (c : Comparator) {ts us : List Token} {a b : Tree} (ha : Writes root .operand ts a)
      (hb : Writes root .operand us b) :
      Writes root .comparison (ts ++ .sign (.compare c) :: us) (.compare c a b)
  | plain {ts : List Token} {t : Tree} (h : Writes root .comparison ts t) :
      Writes root .negation ts t
  | opposite {ts : List Token} {t : Tree} (h : Writes root .negation ts t) :
      Writes root .negation (.sign .opposite :: ts) (.opposite t)
  | single (j : Joint) {ts : List Token} {t : Tree} (h : Writes root j.below ts t) :
      Writes root (.joined j) ts t
  | join (j : Joint) {ts us : List Token} {a b : Tree} (ha : Writes root (.joined j) ts a)
      (hb : Writes root j.below us b) :
      Writes root (.joined j) (ts ++ .sign j.sign :: us) (.join j a b)

/-- All the tokens of an expression. -/
abbrev Expresses (root : String) : List Token → Tree → Prop := Writes root (.joined .either)

/-- Every level of nesting takes a token of its own. -/
theorem Writes.nesting_le {root : String} {r : Rank} {ts : List Token} {t : Tree}
    (h : Writes root r ts t) : t.nesting ≤ ts.length := by
  induction h with
  | literal v => exact Nat.zero_le _
  | path h => exact Nat.zero_le _
  | group h ih => simp only [Tree.nesting, List.length_append, List.length_cons]; omega
  | alone h ih => exact ih
  | compare c ha hb iha ihb =>
    simp only [Tree.nesting, List.length_append, List.length_cons]
    omega
  | plain h ih => exact ih
  | opposite h ih => simp only [Tree.nesting, List.length_cons]; omega
  | single j h ih => exact ih
  | join j ha hb iha ihb =>
    simp only [Tree.nesting, List.length_append, List.length_cons]
    omega

end Dialogue.Condition
