import Dialogue.Text.Blank

/-! Places of one text inside another. -/
namespace Dialogue.Text

def startsWith (head s : String) : Bool := head.toList.isPrefixOf s.toList

def endsWith (tail s : String) : Bool := tail.toList.reverse.isPrefixOf s.toList.reverse

/-- What stands before and after the first place of a mark. -/
def cutAt? (mark : List Char) : List Char → Option (List Char × List Char)
  | [] => if mark.isEmpty then some ([], []) else none
  | c :: cs =>
    if mark.isPrefixOf (c :: cs) then some ([], (c :: cs).drop mark.length)
    else (cutAt? mark cs).map fun (a, b) => (c :: a, b)

def cut? (mark s : String) : Option (String × String) :=
  (cutAt? mark.toList s.toList).map fun (a, b) => (String.ofList a, String.ofList b)

def occurs (mark s : String) : Bool := (cut? mark s).isSome

/-- The text after the head, if it begins with it. -/
def after? (head s : String) : Option String :=
  if startsWith head s then some (String.ofList (s.toList.drop head.toList.length)) else none

/-- The text before the tail, if it ends with it. -/
def before? (tail s : String) : Option String :=
  if endsWith tail s then
    some (String.ofList (s.toList.take (s.toList.length - tail.toList.length)))
  else none

end Dialogue.Text
