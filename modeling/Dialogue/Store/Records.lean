import Dialogue.Table

/-! The records of a bot in memory: who its actors are, and one text for each. An actor is known
to the outside by an external id and to the bot by an internal one. -/
namespace Dialogue

structure Records where
  actors : Table Int Int := []
  contexts : Table Int String := []
  deriving Repr, DecidableEq

/-- One more than the largest of some ids; one when there are none. -/
def nextId : List Int → Int
  | [] => 1
  | n :: ns => ns.foldl max n + 1

namespace Records

def resolve (r : Records) (id : Int) : Option Int := Table.value? r.actors id

def externalIds (r : Records) : List Int := Table.keys r.actors

def load (r : Records) (id : Int) : Option String := Table.value? r.contexts id

def register (r : Records) (id internal : Int) : Records :=
  { r with actors := Table.put r.actors id internal }

def save (r : Records) (id : Int) (blob : String) : Records :=
  { r with contexts := Table.put r.contexts id blob }

/-- The internal id for someone new. -/
def freeId (r : Records) : Int := nextId (r.actors.map (·.2))

end Records

end Dialogue
