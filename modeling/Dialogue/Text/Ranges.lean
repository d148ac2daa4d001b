/-! Classes of characters given as ranges of code points. -/
namespace Dialogue.Text

/-- The first and the last code point of each range, in ascending order. -/
abbrev Ranges := List (Nat × Nat)

namespace Ranges

def mem (rs : Ranges) (c : Char) : Bool :=
  rs.any fun r => r.1 ≤ c.toNat && c.toNat ≤ r.2

/-- The range that holds a character gives its distance from the start. -/
def offset? (rs : Ranges) (c : Char) : Option Nat :=
  (rs.find? fun r => r.1 ≤ c.toNat && c.toNat ≤ r.2).map fun r => c.toNat - r.1

end Ranges

end Dialogue.Text
