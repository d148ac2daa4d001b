import Dialogue.Decimal.Reading
import Dialogue.Value.Rendering

/-! Prices as they are shown to people. -/
namespace Dialogue

/-- A price that reads as a number has two places and groups of three digits; a comma in it
counts as a point. Any other price is shown as it was given. -/
def showPrice (v : Value) : String :=
  let given := v.display
  let pointed := given.toList.map fun c => if c == ',' then '.' else c
  match Decimal.readFloat? (String.ofList pointed) with
  | some x => Decimal.writeAmount x
  | none => given

end Dialogue
