import Dialogue.Path
import Dialogue.Settings.Expansion
import Dialogue.Value.Access
import Dialogue.Value.Conversion
import Dialogue.Value.Rendering

/-! What an operator can set: the connection to the messenger, the database and the flows. -/
namespace Dialogue

structure MessengerSettings where
  token : String := ""
  address : String := "https://api.telegram.org"
  adminChat : Option Int := none
  timeout : Float := 30
  parseMode : String := "HTML"

structure DatabaseSettings where
  address : String := "sqlite:///./flowbot.db"
  backend : String := "memory"
  directory : String := "./data"
  deriving Repr, DecidableEq

/-- Without a place for definitions the flows that come with the bot are used. -/
structure FlowSettings where
  definitions : Option String := none
  chainLimit : Int := 50
  deriving Repr, DecidableEq

structure Settings where
  appName : String := "FlowBot"
  debug : Bool := false
  messenger : MessengerSettings := {}
  database : DatabaseSettings := {}
  flows : FlowSettings := {}

namespace Settings

/-- Reads a field of a section if the section has it. -/
def item {α : Type} (group : Value) (key : String) (default : α) (read : Value → Except Fault α) :
    Except Fault α := do
  if ← group.holds key then read (← group.need key) else return default

def shownText (v : Value) : Except Fault String := .ok v.display

/-- A chat that is missing, empty or an open reference is none. -/
def chat (v : Value) : Except Fault (Option Int) :=
  match v with
  | .null => .ok none
  | .text s => if s.isEmpty || Text.startsWith "$\x7b" s then .ok none else some <$> v.toInt
  | v => some <$> v.toInt

def readMessenger (v : Value) : Except Fault MessengerSettings := do
  let d : MessengerSettings := {}
  return {
    token := ← item v "bot_token" d.token shownText
    address := ← item v "api_base_url" d.address shownText
    adminChat := ← item v "admin_chat_id" d.adminChat chat
    timeout := ← item v "timeout_seconds" d.timeout Value.toFloat
    parseMode := ← item v "parse_mode" d.parseMode shownText }

def readDatabase (v : Value) : Except Fault DatabaseSettings := do
  let d : DatabaseSettings := {}
  return {
    address := ← item v "url" d.address shownText
    backend := ← item v "store_backend" d.backend shownText
    directory := ← item v "store_file_dir" d.directory shownText }

def readFlows (v : Value) : Except Fault FlowSettings := do
  let d : FlowSettings := {}
  return {
    definitions := ← item v "definitions_path" d.definitions fun v => some <$> shownText v
    chainLimit := ← item v "step_chain_limit" d.chainLimit Value.toInt }

/-- The words for yes; every other text means no. -/
def isYes (s : String) : Bool := (Text.trim s).toLower ∈ ["1", "true", "yes", "on"]

def truth : Value → Bool
  | .text s => isYes s
  | v => v.truthy

/-- A section of a tree, if the tree has it; one that counts as false is an empty one. -/
def readSection {α : Type} (tree : Value) (key : String) (default : α)
    (read : Value → Except Fault α) : Except Fault α := do
  match tree.field? key with
  | some v => read (if v.truthy then v else .dict [])
  | none => return default

/-- A place relative to a directory; a place that begins with a slash stands for itself. -/
def locate (directory place : String) : String :=
  match place.toList with
  | '/' :: _ => place
  | cs =>
    let pieces := (Path.pieces '/' cs).filter fun p => !p.isEmpty && p != ['.']
    String.ofList (directory.toList ++ pieces.flatMap ('/' :: ·))

/-- Settings from a tree that was found in a directory. Sections and fields that are missing
keep their defaults, and flows are looked for beside the settings. -/
def read (env : Environment) (directory : String) (tree : Value) : Except Fault Settings := do
  let tree := expand env (if tree.truthy then tree else .dict [])
  let d : Settings := {}
  let appName ← tree.part "app_name" (.text d.appName)
  let debug ← tree.part "debug" (.bool d.debug)
  let messenger ← readSection tree "telegram" d.messenger readMessenger
  let database ← readSection tree "database" d.database readDatabase
  let flows ← readSection tree "flows" d.flows readFlows
  return {
    appName := appName.display
    debug := truth debug
    messenger
    database
    flows := { flows with definitions := flows.definitions.map (locate directory) } }

/-- Without a file everything keeps its default. -/
def load (env : Environment) (directory : String) (file : Option Value) : Except Fault Settings :=
  match file with
  | some tree => read env directory tree
  | none => .ok {}

end Settings

end Dialogue
