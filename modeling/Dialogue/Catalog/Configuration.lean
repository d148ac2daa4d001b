import Dialogue.Catalog
import Dialogue.Value.Rendering

/-! Catalogs filled from a configuration: a dictionary with keyboards, actions, commands and
flows, registered in this order. The first entry that is refused ends the registration; what
came before it stays. -/
namespace Dialogue.Catalog
open Schema

/-- One registration that a configuration asks for. -/
inductive Entry where
  | keyboard (key : String) (rows : Value)
  | action (payload : String) (given : Value)
  | command (given : Value)
  | flow (given : Value)
  /-- A part of the configuration in which no entries can be found. -/
  | broken (f : Fault)

/-- The parts of a value one after another: items, keys or characters. -/
def parts : Value → Except Fault (List Value)
  | .list xs => .ok xs
  | .dict fs => .ok ((Table.keys fs).map .text)
  | .text s => .ok (s.toList.map fun c => .text (String.singleton c))
  | _ => .error .wrongKind

def ofChecked {α : Type} : Checked α → Except Fault α
  | .ok a => .ok a
  | .error cs => .error (.malformed cs)

def button : Value → Except Fault Button
  | .dict fs => ofChecked (Button.read (.dict fs))
  | _ => .error .wrongKind

/-- Rows of buttons, each with a text and a payload. -/
def readKeyboard (rows : Value) : Except Fault Keyboard := do
  (← parts rows).mapM fun row => do (← parts row).mapM button

def readRegistered : Value → Except Fault Registered
  | .dict fs => Registered.action <$> ofChecked (Action.read (.dict fs))
  | v => .ok (.other v)

def readCommand : Value → Except Fault Command
  | .dict fs => ofChecked (Command.read (.dict fs))
  | _ => .error .noParts

/-- A flow needs a name before anything else of it is read. -/
def readFlow (v : Value) : Except Fault Flow :=
  if (Value.orNull (v.field? "name")).truthy then ofChecked (Flow.read v)
  else .error (.refused ("Flow definition without a name: " ++ v.shown))

/-- Registers what was read, or passes on why it could not be read. -/
def entered {α : Type} (c : Catalog) (read : Except Fault α)
    (put : Catalog → α → Except Refusal Catalog) : Except Refusal Catalog :=
  match read with
  | .ok a => put c a
  | .error f => .error { fault := f }

def enter (c : Catalog) : Entry → Except Refusal Catalog
  | .keyboard key rows => c.change (c.entered (readKeyboard rows) (·.registerKeyboard key))
  | .action payload given =>
    c.change (c.entered (readRegistered given) (·.registerAction payload))
  | .command given => c.change (c.entered (readCommand given) registerCommand)
  | .flow given => c.entered (readFlow given) register
  | .broken f => .error { fault := f }

def enterAll (c : Catalog) : List Entry → Catalog × Option Refusal
  | [] => (c, none)
  | e :: es => match c.enter e with
    | .ok c => enterAll c es
    | .error r => (c, some r)

/-- The entries under the keys of a part that should be a dictionary. -/
def keyed (part : Value) (entry : String → Value → Entry) : List Entry :=
  if !part.truthy then []
  else match part with
    | .dict fs => fs.map fun (k, v) => entry k v
    | _ => [.broken .noParts]

/-- The entries of a part that should be a list. -/
def listed (part : Value) (entry : Value → Entry) : List Entry :=
  if !part.truthy then []
  else match parts part with
    | .ok xs => xs.map entry
    | .error f => [.broken f]

/-- All entries of a configuration; anything that counts as false is an empty one. -/
def entries (config : Value) : List Entry :=
  if !config.truthy then []
  else match config with
    | .dict fs =>
      let part := fun k => Value.orNull (Table.value? fs k)
      keyed (part "keyboards") .keyboard ++ keyed (part "callback_actions") .action
        ++ listed (part "commands") .command ++ listed (part "flows") .flow
    | _ => [.broken .noParts]

def configure (c : Catalog) (config : Value) : Catalog × Option Refusal :=
  c.enterAll (entries config)

/-- The catalog of a configuration, if nothing in it is refused. -/
def ofConfiguration (config : Value) : Except Refusal Catalog :=
  match ({} : Catalog).configure config with
  | (c, none) => .ok c
  | (_, some refusal) => .error refusal

end Dialogue.Catalog
