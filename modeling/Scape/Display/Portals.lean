import Scape.Shared.Message
import Scape.Lib.Machine

/-!
# Sessions of the ScreenCast portal

The handlers of `screen_cast.rs` and `session.rs`. A client creates a session under a path
of its choice, which is then an object on the bus, selects the sources to be cast, and
closes the session. What it selects is kept in a cell that the session's object shares.

The object server maps a path to the objects that are served there, at most one of a kind.
The cells are numbered, as they are shared. No lock of a cell or of the table is ever
poisoned: nothing panics while it holds one.
-/

namespace Scape.Display

open Scape

/-- A path on the bus. -/
structure ObjectPath where
  path : String
  deriving DecidableEq, Repr

structure SelectSourcesOptions where
  types : Option UInt32
  multiple : Option Bool
  cursorMode : Option UInt32
  restoreToken : Option String
  persistMode : Option UInt32
  deriving DecidableEq, Repr

structure SourceTypes where
  monitor : Bool
  window : Bool
  virt : Bool
  deriving DecidableEq, Repr

namespace SourceTypes

def sourceTypeMonitor : UInt32 := 1

def sourceTypeWindow : UInt32 := 2

def sourceTypeVirtual : UInt32 := 4

def default : SourceTypes := ⟨true, false, false⟩

/-- `From<u32>`, by the bits. -/
def ofUInt32 (value : UInt32) : SourceTypes :=
  ⟨value &&& sourceTypeMonitor ≠ 0, value &&& sourceTypeWindow ≠ 0,
    value &&& sourceTypeVirtual ≠ 0⟩

end SourceTypes

inductive PersistMode where
  | doNot
  | persistSession
  | persistForever
  deriving DecidableEq, Repr

/-- `From<u32>`. An unknown mode is not to persist. -/
def PersistMode.ofUInt32 (value : UInt32) : PersistMode :=
  if value = 1 then .persistSession else if value = 2 then .persistForever else .doNot

inductive CursorMode where
  | hidden
  | embedded
  | stream
  deriving DecidableEq, Repr

/-- An unknown mode hides the cursor. -/
def CursorMode.ofUInt32 (value : UInt32) : CursorMode :=
  if value = 2 then .embedded else if value = 4 then .stream else .hidden

structure SourceOptions where
  types : SourceTypes
  multiple : Bool
  cursorMode : CursorMode
  restoreToken : Option String
  persistMode : PersistMode
  deriving DecidableEq, Repr

/-- `From<SelectSourcesOptions>`. -/
def SourceOptions.ofSelect (value : SelectSourcesOptions) : SourceOptions where
  types := (value.types.map .ofUInt32).getD .default
  multiple := value.multiple.getD false
  cursorMode := (value.cursorMode.map .ofUInt32).getD .hidden
  restoreToken := value.restoreToken
  persistMode := (value.persistMode.map .ofUInt32).getD .doNot

inductive SessionType where
  | screenCast
  | remote
  deriving DecidableEq, Repr

/-- `sourceOptions` is the number of the cell. -/
structure Session where
  sessionType : SessionType
  handlePath : ObjectPath
  sourceOptions : Nat
  deriving DecidableEq, Repr

structure Request where
  handlePath : ObjectPath
  deriving DecidableEq, Repr

/-- The portal with the objects that the bus serves for it. -/
structure Portal where
  /-- `ScreenCast::sessions` -/
  sessions : HashMap ObjectPath Nat
  requestObjects : HashMap ObjectPath Request
  sessionObjects : HashMap ObjectPath Session
  cells : Nat → Option SourceOptions
  nextCell : Nat

inductive PortalCall where
  | createSession (requestHandle sessionHandle : ObjectPath) (appId : String)
  | selectSources (requestHandle sessionHandle : ObjectPath) (appId : String)
      (options : SelectSourcesOptions)
  | close (sessionHandle : ObjectPath)
  deriving DecidableEq, Repr

/-- A `PortalResponse`, or the end of a method that has no answer; `failed` is an error of
the bus. -/
inductive PortalReply where
  | created (handleToken : String)
  | selected
  | cancelled
  | other
  | closed
  | failed
  deriving DecidableEq, Repr

/-- `ObjectServer::at`: an object of the same kind that is there already stays. -/
def serveAt {ν : Type} (objects : HashMap ObjectPath ν) (path : ObjectPath) (object : ν) :
    HashMap ObjectPath ν :=
  match objects.lookup path with
  | some _ => objects
  | none => objects.insert path object

namespace Portal

/-- Before any call. -/
def new : Portal := ⟨∅, ∅, ∅, fun _ => none, 0⟩

/-- `Arc::new(Mutex::new(None))`. -/
def newCell (s : Portal) : Nat × Portal :=
  (s.nextCell, { s with
    cells := Function.update s.cells s.nextCell none
    nextCell := s.nextCell + 1 })

def createSession (s : Portal) (requestHandle sessionHandle : ObjectPath) :
    Portal × PortalReply :=
  let s := { s with requestObjects := serveAt s.requestObjects requestHandle ⟨requestHandle⟩ }
  let (sessionSourceOptions, s) := s.newCell
  let session := ⟨.screenCast, sessionHandle, sessionSourceOptions⟩
  ({ s with sessionObjects := serveAt s.sessionObjects sessionHandle session },
    .created sessionHandle.path)

/-- A session that is not in the table is logged. -/
def selectSources (s : Portal) (sessionHandle : ObjectPath) (options : SelectSourcesOptions) :
    Portal × PortalReply :=
  match s.sessions.lookup sessionHandle with
  | none => (s, .other)
  | some currentOptions =>
      ({ s with
          cells := Function.update s.cells currentOptions (some (.ofSelect options)) },
        .selected)

/-- `Session::close`, of the object that is served at the path. -/
def close (s : Portal) (sessionHandle : ObjectPath) : Portal × PortalReply :=
  match s.sessionObjects.lookup sessionHandle with
  | none => (s, .failed)
  | some session =>
      match s.sessionObjects.lookup session.handlePath with
      | none => (s, .failed)
      | some _ => ({ s with sessionObjects := s.sessionObjects.erase session.handlePath }, .closed)

def step (s : Portal) : PortalCall → Portal × PortalReply
  | .createSession requestHandle sessionHandle _ => s.createSession requestHandle sessionHandle
  | .selectSources _ sessionHandle _ options => s.selectSources sessionHandle options
  | .close sessionHandle => s.close sessionHandle

def run (s : Portal) (calls : List PortalCall) : Portal := (Machine.runFrom step s calls).1

/-- The options that the object served at a path holds. -/
def optionsAt (s : Portal) (path : ObjectPath) : Option SourceOptions :=
  (s.sessionObjects.lookup path).bind fun session => s.cells session.sourceOptions

end Portal

end Scape.Display
