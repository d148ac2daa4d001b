import Dialogue.Context
import Dialogue.Json.Reader
import Dialogue.Json.Writer

/-! Contexts as texts in a store. -/
namespace Dialogue.Context

/-- Numbers that are not finite are kept as null. -/
def encode (c : Context) : String := Json.write (Value.finiteOnly (.dict c.toFields))

def fresh (externalId humanId : Int) : Context := { externalId, humanId }

/-- The context that a text holds. The identity is the store's and never the text's. A missing
or empty text stands for a new context, and so does, with a notice, one that cannot be read. -/
def decode (now : String) (externalId humanId : Int) (blob : Option String) :
    Context × List Notice :=
  match blob with
  | none => (fresh externalId humanId, [])
  | some s =>
    if s.isEmpty then (fresh externalId humanId, [])
    else match Json.read? s with
      | some (.dict fs) =>
        let fs := Table.put (Table.put fs "external_id" (.int externalId)) "human_id" (.int humanId)
        match read now (.dict fs) with
        | .ok r => r
        | .error _ => (fresh externalId humanId, [.contextBlobInvalid])
      | _ => (fresh externalId humanId, [.contextBlobInvalid])

end Dialogue.Context
