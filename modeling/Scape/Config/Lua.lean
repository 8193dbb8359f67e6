import Scape.Shared.Comms

/-!
# The Lua side of the config module

The user's configuration is a Lua program that calls functions of the `scape`
module. Each of these converts its arguments, queues an idle action on the
config thread's loop, and returns; the action itself runs once the Lua code is
done. This file has the conversions and says which action a call queues.

mlua is the parameter `Mlua`: the kinds of Lua values the code tells apart, and
mlua's own conversions between them and Rust types, each of which may fail with
an error. A table lookup can run a metamethod; the calls one makes stand in
front of the call whose argument is being converted, which is the order their
actions are queued in.

What the interpreter does when it is entered is a `Script`: the sequence of
calls it makes, each free to depend on the answers to those before, down to a
return or an error. A script that never returns has no tree.
-/

namespace Scape.Config

open Scape

/-- The functions the config module hands to Lua. The last one is bound to keys
only, as `create_vt_callback`. -/
inductive Api where
  | onStartup
  | toggleDebugUi
  | quit
  | shutdown
  | startVideoStream
  | mapKey
  | onConnectorChange
  | setLayout
  | spawn
  | focusOrSpawn
  | setZones
  | moveCurrentWindowToZone
  | addWindowRule
  | closeCurrentWindow
  | vtSwitch (vt : Int)
  deriving DecidableEq, Repr

/-- mlua, as far as the config module uses it. -/
structure Mlua where
  /-- a Lua state: the globals and whatever else the user's code can change -/
  State : Type
  Value : Type
  Table : Type
  Function : Type
  Error : Type
  /-- what a missing argument is -/
  nil : Value
  asTable : Value → Option Table
  /-- `Table::get`, before the conversion of what it finds -/
  get : Table → String → Except Error Value
  /-- `Table::pairs`, before the conversions -/
  pairs : Table → List (Except Error (Value × Value))
  string : Value → Except Error String
  /-- `i32` -/
  integer : Value → Except Error Int
  boolean : Value → Except Error Bool
  function : Value → Except Error Function
  /-- the elements a `Vec` is collected from -/
  sequence : Value → Except Error (List Value)
  /-- `Error::FromLuaConversionError`: `from`, `to` and the message -/
  conversionError : String → String → String → Error
  createFunction : Api → Function

/-- Every `unwrap`, `expect` and checked addition the config thread can trip
over. -/
inductive Panic where
  /-- `BaseDirectories::with_prefix` -/
  | baseDirectories
  /-- `recommended_watcher` -/
  | recommendedWatcher
  /-- `insert_source` of the watcher -/
  | insertSource
  /-- `fs::read` of a changed file -/
  | readConfig
  /-- `exec` of a changed file -/
  | execConfig
  /-- `as_table` in `ConfigKeymap::from_lua` -/
  | keymapTable
  /-- `preferred_mode` in `ConfigOutput::from` -/
  | preferredMode
  /-- `callback_counter += 1` -/
  | callbackCounter
  /-- the `expect` in `Comms` -/
  | lostMain
  deriving DecidableEq, Repr

variable (M : Mlua)

/-- How a call into Rust goes wrong: with an error that Lua gets to see, or with
a panic, which mlua raises again on its way out. -/
inductive Failure where
  | error (e : M.Error)
  | panic (site : Panic)

/-! ## Converted arguments -/

structure ConfigKeymap where
  key : String
  mods : Mods
  callback : M.Function

structure ConfigOutput where
  name : String
  x : Int
  y : Int
  width : Int
  height : Int
  deriving DecidableEq, Repr

structure ConfigLayout where
  spaces : HashMap String (List ConfigOutput)

structure ConfigSpawn where
  command : String
  args : List String
  deriving DecidableEq, Repr

/-- One round of the loop over the names between the bars. An unknown name is
logged. -/
def addMod (mods : Mods) (modKey : List Char) : Mods :=
  if modKey = "shift".toList then { mods with shift := true }
  else if modKey = "logo".toList ∨ modKey = "super".toList then { mods with logo := true }
  else if modKey = "ctrl".toList then { mods with ctrl := true }
  else if modKey = "alt".toList then { mods with alt := true }
  else mods

def parseMods (mods : String) : Mods :=
  (mods.toList.splitOn '|').foldl addMod {}

section FromLua

variable {M}

def getString (table : M.Table) (key : String) : Except M.Error String :=
  M.get table key >>= M.string

def getInteger (table : M.Table) (key : String) : Except M.Error Int :=
  M.get table key >>= M.integer

/-- The `as_table` and `ok_or_else` that every conversion but one begins with. -/
def expectTable (source target : String) (value : M.Value) : Except M.Error M.Table :=
  match M.asTable value with
  | some table => .ok table
  | none => .error (M.conversionError source target
      ("Expected a Lua table for the " ++ target))

/-- `ConfigKeymap::from_lua`: the one that unwraps. -/
def ConfigKeymap.fromLua (value : M.Value) : Except (Failure M) (ConfigKeymap M) :=
  match M.asTable value with
  | none => .error (.panic .keymapTable)
  | some table => Except.mapError .error do
      let mods := parseMods ((getString table "mods").toOption.getD "")
      let key ← getString table "key"
      let callback ← M.get table "callback" >>= M.function
      return { key, mods, callback }

def ConfigOutput.fromLua (value : M.Value) : Except M.Error ConfigOutput := do
  let table ← expectTable "LuaOutput" "ConfigOutput" value
  return {
    name := ← getString table "name"
    x := ← getInteger table "x"
    y := ← getInteger table "y"
    width := ← getInteger table "width"
    height := ← getInteger table "height" }

def ConfigLayout.fromLua (value : M.Value) : Except M.Error ConfigLayout := do
  let table ← expectTable "LuaConfigLayout" "ConfigLayout" value
  let spaces ← (M.pairs table).foldlM
    (fun (spaces : HashMap String (List ConfigOutput)) pair => do
      let pair ← pair
      let spaceName ← M.string pair.1
      let configOutputs ← (← M.sequence pair.2).mapM ConfigOutput.fromLua
      return spaces.insert spaceName configOutputs) ∅
  return { spaces }

def ConfigSpawn.fromLua (value : M.Value) : Except M.Error ConfigSpawn := do
  let table ← expectTable "LuaSpawn" "ConfigSpawn" value
  let args := do (← M.get table "args" >>= M.sequence).mapM M.string
  return { command := ← getString table "command", args := args.toOption.getD [] }

/-- `ConfigZone::from_lua`, together with the conversion into a `Zone`. -/
def configZone (value : M.Value) : Except M.Error Zone := do
  let table ← expectTable "LuaZone" "ConfigZone" value
  return {
    name := ← getString table "name"
    x := ← getInteger table "x"
    y := ← getInteger table "y"
    width := ← getInteger table "width"
    height := ← getInteger table "height"
    default := (M.get table "default" >>= M.boolean).toOption.getD false }

/-- `ConfigWindowRule::from_lua`, together with the conversion into a
`WindowRule`. -/
def configWindowRule (value : M.Value) : Except M.Error WindowRule := do
  let table ← expectTable "LuaWindowRule" "ConfigWindowRule" value
  return { appId := ← getString table "app_id", zone := ← getString table "zone" }

end FromLua

/-! ## Calls -/

/-- The action a call leaves on the loop. Most of them send a message that is
complete when the action is queued, to the display or to the main thread. -/
inductive Idle where
  | keymap (keymap : ConfigKeymap M)
  | onStartup (callback : M.Function)
  | onConnectorChange (callback : M.Function)
  | setLayout (layout : ConfigLayout)
  | spawn (spawn : ConfigSpawn)
  | display (message : DisplayMessage)
  | main (message : MainMessage)

variable {M}

def arg (args : List M.Value) (n : Nat) : M.Value := args.getD n M.nil

/-- The action a call of the function queues, given its arguments. -/
def Api.idle (args : List M.Value) : Api → Except (Failure M) (Idle M)
  | .onStartup => (M.function (arg args 0)).mapError .error |>.map .onStartup
  | .toggleDebugUi => .ok (.display .toggleDebugUi)
  | .quit => .ok (.main .shutdown)
  | .shutdown => .ok (.main .shutdown)
  | .startVideoStream => .ok (.display .startVideoStream)
  | .mapKey => (ConfigKeymap.fromLua (arg args 0)).map .keymap
  | .onConnectorChange =>
      (M.function (arg args 0)).mapError .error |>.map .onConnectorChange
  | .setLayout => (ConfigLayout.fromLua (arg args 0)).mapError .error |>.map .setLayout
  | .spawn => (ConfigSpawn.fromLua (arg args 0)).mapError .error |>.map .spawn
  | .focusOrSpawn => Except.mapError .error do
      let appId ← M.string (arg args 0)
      let command ← ConfigSpawn.fromLua (arg args 1)
      return .display (.focusOrSpawn appId command.command command.args)
  | .setZones => Except.mapError .error do
      let zones ← (← M.sequence (arg args 0)).mapM configZone
      return .display (.setZones zones)
  | .moveCurrentWindowToZone => Except.mapError .error do
      let zoneName ← M.string (arg args 0)
      return .display (.moveCurrentWindowToZone zoneName)
  | .addWindowRule => Except.mapError .error do
      let windowRule ← configWindowRule (arg args 0)
      return .display (.addWindowRule windowRule)
  | .closeCurrentWindow => .ok (.display .closeCurrentWindow)
  | .vtSwitch vt => .ok (.display (.vtSwitch vt))

/-- What the interpreter does once it is entered, and the state it is left in. -/
inductive Script (M : Mlua) where
  | done (lua : M.State)
  | error (lua : M.State) (e : M.Error)
  | call (api : Api) (args : List M.Value) (k : Except M.Error Unit → Script M)

structure LuaRun (M : Mlua) where
  idles : List (Idle M)
  lua : M.State
  result : Except M.Error Unit

def LuaRun.queue (idle : Idle M) (run : LuaRun M) : LuaRun M :=
  { run with idles := idle :: run.idles }

/-- Runs a script. An error is handed to the script, which may catch it; a panic
goes all the way out. -/
def Script.eval : Script M → Except Panic (LuaRun M)
  | .done lua => .ok ⟨[], lua, .ok ()⟩
  | .error lua e => .ok ⟨[], lua, .error e⟩
  | .call api args k =>
      match api.idle args with
      | .ok idle => (k (.ok ())).eval.map (LuaRun.queue idle)
      | .error (.error e) => (k (.error e)).eval
      | .error (.panic site) => .error site

/-- What can be run: a piece of configuration, or a function that was registered
earlier, with no arguments or with the list of outputs. -/
inductive Entry (M : Mlua) where
  | chunk (content : List UInt8)
  | function (function : M.Function) (outputs : Option (List ConfigOutput))

structure Interpreter (M : Mlua) where
  start : M.State
  enter : M.State → Entry M → Script M

/-! ## Plain values

A Lua without metamethods or coercions, whose values are what one can write
down. -/

inductive Literal where
  | nil
  | boolean (b : Bool)
  | integer (n : Int)
  | string (s : String)
  | function (name : String)
  | table (fields : List (Literal × Literal))

def Literal.field (key : String) : List (Literal × Literal) → Literal
  | [] => .nil
  | (.string name, value) :: fields =>
      if name.toList = key.toList then value else field key fields
  | _ :: fields => field key fields

def plainLua : Mlua where
  State := Unit
  Value := Literal
  Table := List (Literal × Literal)
  Function := String
  Error := String
  nil := .nil
  asTable := fun | .table fields => some fields | _ => none
  get := fun fields key => .ok (Literal.field key fields)
  pairs := fun fields => fields.map .ok
  string := fun | .string s => .ok s | _ => .error "expected a string"
  integer := fun | .integer n => .ok n | _ => .error "expected an integer"
  boolean := fun | .nil => .ok false | .boolean b => .ok b | _ => .ok true
  function := fun | .function name => .ok name | _ => .error "expected a function"
  sequence := fun | .table fields => .ok (fields.map Prod.snd) | _ => .error "expected a table"
  conversionError := fun _ _ message => message
  createFunction := fun _ => "a function of the scape module"

/-- An interpreter that runs the given program for a file's content, and whose
callbacks do nothing. -/
def plainInterpreter (program : List UInt8 → Script plainLua) : Interpreter plainLua where
  start := ()
  enter := fun _ entry =>
    match entry with
    | .chunk content => program content
    | .function _ _ => .done ()

end Scape.Config
