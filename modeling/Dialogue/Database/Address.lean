import Dialogue.Table
import Dialogue.Text.Words

/-! Addresses of databases: the driver behind a scheme, and how connections are pooled. -/
namespace Dialogue.Database

/-- The drivers of the plain schemes. -/
def drivers : Table String String :=
  [("postgresql", "postgresql+asyncpg"), ("postgres", "postgresql+asyncpg"),
   ("mysql", "mysql+aiomysql"), ("mysql+pymysql", "mysql+aiomysql"),
   ("sqlite", "sqlite+aiosqlite")]

/-- An address with the driver of its scheme filled in; any other address is left alone. -/
def withDriver (address : String) : String :=
  match Text.cut? "://" address with
  | some (scheme, rest) => match Table.value? drivers scheme with
    | some driver => driver ++ "://" ++ rest
    | none => address
  | none => address

/-- An address without what stands before the first at sign. -/
def redacted (address : String) : String :=
  match Text.cut? "@" address with
  | some (_, rest) => rest
  | none => address

inductive Pool where
  /-- A database in a file; `shared` when all sessions have to use one connection. -/
  | file (shared : Bool)
  /-- A database server: so many connections, so many more at need, and seconds. -/
  | server (size : Nat) (overflow : Nat) (timeout : Nat) (recycle : Nat)
  deriving Repr, DecidableEq

/-- A database in memory is seen by one connection only. -/
def inMemory (address : String) : Bool :=
  Text.occurs ":memory:" address
    || Text.endsWith "aiosqlite:" (String.ofList (Text.dropEndWhile (· == '/') address.toList))

def Pool.ofAddress (address : String) : Pool :=
  if Text.startsWith "sqlite" address then .file (inMemory address) else .server 10 20 30 1800

end Dialogue.Database
