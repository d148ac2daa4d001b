import Dialogue.Settings

/-! The connection that the bot opens to the messenger when it has none of its own to use. It is
opened on first use and opened anew after it was closed. -/
namespace Dialogue.Telegram

inductive Connection where
  | none
  | isOpen
  | closed
  deriving Repr, DecidableEq

/-- Seconds to wait for each part of a request. -/
structure Patience where
  connect : Float
  read : Float
  write : Float
  pool : Float

def Patience.ofSettings (s : MessengerSettings) : Patience := ⟨10, s.timeout, s.timeout, s.timeout⟩

namespace Connection

/-- The connection to use, and whether it was there before. -/
def obtain (c : Connection) : Connection × Bool := (isOpen, c == isOpen)

/-- The connection is closed by the other side or by its owner. -/
def lose : Connection → Connection
  | isOpen => closed
  | c => c

/-- Closes an open connection and forgets it. -/
def close : Connection → Connection
  | isOpen => none
  | c => c

end Connection

end Dialogue.Telegram
