import Scape.Display.Scene
import Scape.Display.XdgShell
import Scape.Lib.Fallible

/-!
# The life of a resize

A client that asks for it is given a grab of the pointer, or of a touch, and its toplevel
is `Resizing`. Every motion of the pointer then sends it a configure with a new size. The
other resize states are there for the end: the client is to acknowledge the last configure
and to commit, and then the toplevel is not being resized any more. The grab, the handler
of acknowledgements and the handler of commits each have a part in that.

Here is one toplevel with its grab, and with what smithay keeps of its configures. A
commit comes with what the client has set by it; whether the window is in the first space,
and in the active space of its surface, is known when the commit comes.
-/

namespace Scape.Display

open Scape Fallible

structure ResizeEdge where
  top : Bool
  bottom : Bool
  left : Bool
  right : Bool
  deriving DecidableEq, Repr

inductive ResizeState where
  | notResizing
  | resizing (resizeData : ResizeData)
  | waitingForFinalAck (resizeData : ResizeData) (serial : Nat)
  | waitingForCommit (resizeData : ResizeData)
  deriving DecidableEq, Repr

/-- Of the state of a toplevel, what these handlers set or read. -/
structure ToplevelState where
  resizing : Bool
  size : Option (Int × Int)
  serverSide : Bool
  deriving DecidableEq, Repr

structure Configure where
  serial : Nat
  state : ToplevelState
  deriving DecidableEq, Repr

/-- `PointerResizeSurfaceGrab`, and `TouchResizeSurfaceGrab`. -/
structure ResizeGrab where
  touch : Bool
  startLocation : Position
  edges : ResizeEdge
  initialWindowLocation : Point
  initialWindowSize : Int × Int
  lastWindowSize : Int × Int
  deriving DecidableEq

/-- The grab a request names by its serial. -/
structure ResizeStart where
  location : Position
  sameClient : Bool
  deriving DecidableEq

inductive ResizePanic where
  | surfaceData
  | clamp
  deriving DecidableEq, Repr

structure Toplevel where
  /-- where the window is mapped -/
  location : Point
  ownSize : Int × Int
  minSize : Int × Int
  maxSize : Int × Int
  isSsd : Bool
  /-- in the data of the surface, which it has from its first commit on -/
  resizeState : Option ResizeState
  grab : Option ResizeGrab
  pending : ToplevelState
  /-- the last state sent -/
  sent : Option ToplevelState
  /-- the configures that have not been acknowledged, oldest first -/
  unacked : List Configure
  lastAcked : Option Configure
  current : ToplevelState
  nextSerial : Nat

/-- What a client has set when it commits, and where its window is. -/
structure ToplevelCommit where
  ownSize : Int × Int
  minSize : Int × Int
  maxSize : Int × Int
  bufferDelta : Option Point
  inFirst : Bool
  inActive : Bool
  deriving DecidableEq, Repr

/-- `as i32`: towards zero, and no further than the bounds. -/
def truncI32 (q : ℚ) : Int :=
  max (-(2 ^ 31)) (min (2 ^ 31 - 1) (if 0 ≤ q then ⌊q⌋ else ⌈q⌉))

/-- `i32::clamp`, which panics over bounds that are the wrong way round. -/
def clampI32 (value lower upper : Int) : Except ResizePanic Int :=
  if lower ≤ upper then .ok (max lower (min upper value)) else .error .clamp

theorem clampI32_eq_ok_iff {value lower upper length : Int} :
    clampI32 value lower upper = .ok length ↔
      lower ≤ upper ∧ length = max lower (min upper value) := by
  rw [clampI32]
  split
  next h => rw [Except.ok.injEq, and_iff_right h, eq_comm]
  next h => exact iff_of_false nofun fun hand => h hand.1

namespace ResizeGrab

/-- The size along one axis, by how far the pointer has gone. -/
def newLength (length : Int) (delta : ℚ) (near far : Bool) : Int :=
  if near || far then truncI32 (length + if near then -delta else delta) else length

/-- The size a motion asks for. -/
def newSize (grab : ResizeGrab) (minSize maxSize : Int × Int) (location : Position) :
    Except ResizePanic (Int × Int) := do
  let delta := location - grab.startLocation
  let width := newLength grab.initialWindowSize.1 delta.x grab.edges.left grab.edges.right
  let height := newLength grab.initialWindowSize.2 delta.y grab.edges.top grab.edges.bottom
  let width ← clampI32 width (max minSize.1 1) (if maxSize.1 = 0 then 2 ^ 31 - 1 else maxSize.1)
  let height ← clampI32 height (max minSize.2 1) (if maxSize.2 = 0 then 2 ^ 31 - 1 else maxSize.2)
  return (width, height)

end ResizeGrab

namespace Toplevel

/-- `ApplicationWindow::geometry`. -/
def size (t : Toplevel) : Int × Int :=
  if t.isSsd then (t.ownSize.1, t.ownSize.2 + headerBarHeight) else t.ownSize

/-! ## Configures -/

def sendConfigure (t : Toplevel) : Toplevel :=
  { t with
    sent := some t.pending
    unacked := t.unacked ++ [⟨t.nextSerial, t.pending⟩]
    nextSerial := t.nextSerial + 1 }

/-- One that would say nothing new is not sent. -/
def sendPendingConfigure (t : Toplevel) : Toplevel :=
  if t.sent = some t.pending then t else t.sendConfigure

/-- `ApplicationWindow::resize`. -/
def resize (t : Toplevel) (size : Int × Int) : Toplevel :=
  { t with pending := { t.pending with resizing := true, size := some size } }.sendPendingConfigure

/-- What the other handlers do to a toplevel: another size, another decoration. -/
def reconfigure (t : Toplevel) (size : Option (Int × Int)) (serverSide : Bool) : Toplevel :=
  { t with pending := { t.pending with size, serverSide } }.sendPendingConfigure

/-! ## The grab -/

/-- The part the ways of a resize share. -/
def startResize (t : Toplevel) (touch : Bool) (start : ResizeStart) (edges : ResizeEdge) :
    Except ResizePanic Toplevel :=
  match t.resizeState with
  | none => .error .surfaceData
  | some _ =>
      .ok { t with
        resizeState := some (.resizing ⟨edges.left, edges.top, t.location, t.size⟩)
        grab := some ⟨touch, start.location, edges, t.location, t.size, t.size⟩ }

/-- `resize_request`, with the grabs of the serial, and whether the window is found. -/
def resizeRequest (t : Toplevel) (touch pointer : Option ResizeStart) (found : Bool)
    (edges : ResizeEdge) : Except ResizePanic Toplevel :=
  match touch with
  | some start => if found && start.sameClient then t.startResize true start edges else .ok t
  | none =>
      match pointer with
      | none => .ok t
      | some start => if found && start.sameClient then t.startResize false start edges else .ok t

/-- A motion of the pointer. That of a touch does nothing. -/
def motion (t : Toplevel) (alive mapped : Bool) (location : Position) :
    Except ResizePanic Toplevel :=
  match t.grab with
  | none => .ok t
  | some grab =>
      if grab.touch then .ok t
      else if !alive then .ok { t with grab := none }
      else do
        let size ← grab.newSize t.minSize t.maxSize location
        let t := { t with grab := some { grab with lastWindowSize := size } }
        return if mapped then t.resize size else t

/-- The grab of the pointer, or of the touch, ends. -/
def unsetGrab (t : Toplevel) (touch : Bool) : Toplevel :=
  match t.grab with
  | none => t
  | some grab => if grab.touch = touch then { t with grab := none } else t

/-! ## Acknowledgements and commits -/

/-- `ack_configure`. -/
def ackConfigure (t : Toplevel) (configure : Configure) (found : Bool) : Toplevel :=
  let t :=
    match t.resizeState with
    | some (.waitingForFinalAck resizeData serial) =>
        if serial ≤ configure.serial && t.current.resizing then
          { t with resizeState := some (.waitingForCommit resizeData) }
        else t
    | _ => t
  if found then { t with isSsd := configure.state.serverSide } else t

/-- What smithay does with an acknowledgement before: the configures up to that one are
acknowledged. A serial that was not sent is an error of the client. -/
def ackSerial (t : Toplevel) (serial : Nat) (found : Bool) : Toplevel :=
  match t.unacked.find? (Configure.serial · = serial) with
  | none => t
  | some configure =>
      { t with
        unacked := (t.unacked.dropWhile (Configure.serial · ≠ serial)).tail
        lastAcked := some configure }.ackConfigure configure found

/-- What a commit makes current. -/
def applyCommit (t : Toplevel) (c : ToplevelCommit) : Toplevel :=
  { t with
    ownSize := c.ownSize
    minSize := c.minSize
    maxSize := c.maxSize
    current := t.lastAcked.elim t.current Configure.state
    location := if c.inFirst then c.bufferDelta.elim t.location (t.location + ·) else t.location }

/-- The surface gets its data. -/
def insertData (t : Toplevel) : Toplevel :=
  { t with resizeState := some (t.resizeState.getD .notResizing) }

/-- The end of `ensure_initial_configure`. -/
def finishResizing (t : Toplevel) : Toplevel :=
  match t.resizeState with
  | some (.waitingForCommit _) => { t with resizeState := some .notResizing }
  | _ => t

def ensureInitialConfigure (t : Toplevel) (c : ToplevelCommit) : Toplevel :=
  let t := t.insertData
  if c.inActive then (if t.sent.isSome then t else t.sendConfigure).finishResizing else t

/-- `handle_toplevel_commit`. -/
def handleToplevelCommit (t : Toplevel) (c : ToplevelCommit) : Toplevel :=
  match t.resizeState with
  | some (.resizing resizeData) =>
      if c.inFirst && (resizeData.left || resizeData.top) then
        { t with location := State.resizedLocation resizeData t.location t.size }
      else t
  | _ => t

/-- A commit up to the hook. -/
def commitHandler (t : Toplevel) (c : ToplevelCommit) : Toplevel :=
  (t.applyCommit c).ensureInitialConfigure c

def commit (t : Toplevel) (c : ToplevelCommit) : Toplevel :=
  (t.commitHandler c).handleToplevelCommit c

end Toplevel

/-! ## Steps -/

inductive ToplevelEvent where
  | resizeRequest (touch pointer : Option ResizeStart) (found : Bool) (edges : ResizeEdge)
  | motion (alive mapped : Bool) (location : Position)
  /-- by which no button is pressed any more, or not -/
  | button (nonePressed : Bool)
  | touchUp (sameSlot : Bool)
  | touchCancel
  | reconfigure (size : Option (Int × Int)) (serverSide : Bool)
  | ack (serial : Nat) (found : Bool)
  | commit (c : ToplevelCommit)

namespace Toplevel

def step (t : Toplevel) : ToplevelEvent → Except ResizePanic Toplevel
  | .resizeRequest touch pointer found edges => t.resizeRequest touch pointer found edges
  | .motion alive mapped location => t.motion alive mapped location
  | .button nonePressed => .ok (if nonePressed then t.unsetGrab false else t)
  | .touchUp sameSlot => .ok (if sameSlot then t.unsetGrab true else t)
  | .touchCancel => .ok (t.unsetGrab true)
  | .reconfigure size serverSide => .ok (t.reconfigure size serverSide)
  | .ack serial found => .ok (t.ackSerial serial found)
  | .commit c => .ok (t.commit c)

/-- A toplevel that is new, at the place it is given. -/
structure IsInitial (t : Toplevel) : Prop where
  resizeState : t.resizeState = none
  grab : t.grab = none
  sent : t.sent = none
  unacked : t.unacked = []
  lastAcked : t.lastAcked = none

def system : Machine.System Toplevel ToplevelEvent := Fallible.system IsInitial step

end Toplevel

end Scape.Display
