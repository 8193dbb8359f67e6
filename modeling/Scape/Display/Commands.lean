import Scape.Shared.Comms
import Scape.Display.Screencopy

/-!
# Commands, and what they do outside

A command reaches the display thread as an action or as a message, and each has its own
dispatcher, `execute` of `action.rs` and `handle_display_message` of `wayland_old.rs`. This
file has both of them again, with everything that they do beyond the state: the requests
that they make of a client, of the session or of another thread, the programs that they
start, and the video streams.

Where the state is concerned they do what they do in `Machine.lean`.
-/

namespace Scape.Display

open Scape Fallible

structure GbmDevice where
  id : Nat
  deriving DecidableEq, Repr

structure Pipewire where
  id : Nat
  deriving DecidableEq, Repr

structure VideoStream where
  nodeId : UInt32
  deriving DecidableEq, Repr

/-- What a dispatcher does outside. A program that is started by the display thread is a
`spawn`; one that is started by the config thread is asked for with a message. -/
inductive Effect where
  | stopLoop
  | clearKeyMap
  | changeVt (vt : Int)
  | inputForward (keycode : Keycode) (keyState : KeyState) (modifiersChanged : Bool)
      (time : UInt32)
  | position (window : WorkspaceWindow) (rect : Rectangle) (bounds : Int × Int)
  | sendClose (window : WorkspaceWindow)
  | spawn (command : String) (args : List String)
  | send (e : Envelope)

/-- Where a dispatcher can panic. -/
inductive Failure where
  | state (panic : Panic)
  | lostMain
  | noGbmDevice
  deriving DecidableEq, Repr

/-- The state of the display thread, with what it has done outside, the newest first. -/
structure Compositor where
  state : State
  backendData : BackendData
  /-- that of the primary GPU, where there is udev -/
  primaryGbm : Option GbmDevice
  pipewire : Option Pipewire
  videoStreams : List VideoStream
  /-- `NODE_ID` -/
  nodeId : UInt32
  effects : List Effect

/-- What the outside answers during a command. -/
structure Host where
  peers : Peers
  nonExclusiveZone : SmithayOutput → Int × Int
  /-- `Pipewire::new` -/
  newPipewire : Option Pipewire
  /-- `Pipewire::start_video_stream` -/
  startVideoStream : Pipewire → GbmDevice → Option VideoStream

namespace Compositor

variable (W : World) (H : Host)

def log (c : Compositor) (e : Effect) : Compositor := { c with effects := e :: c.effects }

/-- A part that concerns the state alone. -/
def onState (c : Compositor) (x : Except Panic State) : Except Failure Compositor :=
  match x with
  | .ok s => .ok { c with state := s }
  | .error panic => .error (.state panic)

/-- `Comms::config`. -/
def config (c : Compositor) (message : ConfigMessage) : Except Failure Compositor := do
  let e ← expect .lostMain (Comms.send H.peers (.config message))
  return c.log (.send e)

/-- `BackendData::switch_vt`. A failure is logged. -/
def switchVt (c : Compositor) (vt : Int) : Compositor :=
  match c.backendData with
  | .udev => c.log (.changeVt vt)
  | _ => c

/-- `BackendData::gbm_device`, which only the udev backend has. -/
def gbmDevice (c : Compositor) : Except Failure (Option GbmDevice) :=
  match c.backendData with
  | .udev => .ok c.primaryGbm
  | _ => .error .noGbmDevice

/-- `start_video_stream`. The action has the same body, line by line. -/
def startVideoStream (c : Compositor) : Except Failure Compositor :=
  match c.pipewire <|> H.newPipewire with
  | none => .ok c
  | some pipewire => do
      let c := { c with pipewire := some pipewire }
      match ← c.gbmDevice with
      | none => return c
      | some gbmDevice =>
          match H.startVideoStream pipewire gbmDevice with
          | none => return c
          | some stream =>
              return { c with
                nodeId := stream.nodeId
                videoStreams := c.videoStreams ++ [stream] }

/-- The size that `place_window` bounds a window by. -/
def bounds (space : Space) (pointerLocation : Point) : Int × Int :=
  let output := space.outputUnder pointerLocation <|> space.outputs.head?.map Prod.fst
  (output.bind fun output =>
    (space.outputGeometry output).map fun _ => H.nonExclusiveZone output).getD (800, 800)

/-- `place_window`, in the first space. -/
def placeWindow (c : Compositor) (window : WorkspaceWindow) (zone : Option String) :
    Except Failure Compositor :=
  match c.state.placement W window zone with
  | .error panic => .error (.state panic)
  | .ok rect =>
      (c.log (.position window rect
        (bounds H c.state.spaces.first c.state.pointerLocation))).onState
          (c.state.placeWindow W c.state.spaces.firstKey window zone)

def toggleDebugUi (c : Compositor) : Except Failure Compositor :=
  match c.state.debugUi with
  | some _ => c.onState (c.state.toggleDebugUi W)
  | none =>
      let (window, s) := c.state.freshWindow .egui
      { c with state := { s with debugUi := some window } }.placeWindow W H window none

/-- The body of `MoveWindow`, and that of `MoveCurrentWindowToZone`. -/
def moveCurrentWindow (c : Compositor) (zoneName : String) : Except Failure Compositor :=
  match c.state.keyboardFocus with
  | some (.window window) => c.placeWindow W H window (some zoneName)
  | _ => .ok c

/-- The body of `Close`, and that of `CloseCurrentWindow`. -/
def closeCurrentWindow (c : Compositor) : Compositor :=
  match c.state.spaces.first.windows.getLast? with
  | some window =>
      if window.close then
        { c with state := c.state.modifySpace c.state.spaces.firstKey fun space =>
            space.unmapElem window }
      else c.log (.sendClose window)
  | none => c

/-- An action that executes another one passes the test of the lock again, which it has
passed already. -/
def execute (c : Compositor) (action : Action) : Except Failure Compositor :=
  if c.state.locked && !(action matches .vtSwitch _) then .ok c
  else
    match action with
    | .quit => .ok ((c.log .stopLoop).log .clearKeyMap)
    | .vtSwitch vt => .ok (c.switchVt vt)
    | .spawn command args => .ok (c.log (.spawn command args))
    | .changeScale _ | .setScale _ | .rotateOutput _ _ => .error (.state .todo)
    | .moveWindow _ zone => c.moveCurrentWindow W H zone
    | .close => .ok c.closeCurrentWindow
    | .tab index => .ok { c with state := c.state.tab W index }
    | .callback callback => c.config H (.runCallback callback)
    | .focusOrSpawn appId command =>
        match c.state.focusWindowByAppId W appId with
        | (s, true) => .ok { c with state := s }
        | (s, false) => .ok ({ c with state := s }.log (.spawn command []))
    | .startVideoStream => c.startVideoStream H
    | .none => .ok c

def handleDisplayMessage (c : Compositor) (message : DisplayMessage) :
    Except Failure Compositor :=
  match message with
  | .shutdown => .ok (c.log .stopLoop)
  | .keyboardInput keycode keyState modifiersChanged time =>
      .ok (c.log (.inputForward keycode keyState modifiersChanged time))
  | .setZones zones => .ok { c with state := c.state.setZones zones }
  | .moveCurrentWindowToZone zoneName => c.moveCurrentWindow W H zoneName
  | .vtSwitch vt => .ok (c.switchVt vt)
  | .focusOrSpawn appId command args =>
      match c.state.focusWindowByAppId W appId with
      | (s, true) => .ok { c with state := s }
      | (s, false) => { c with state := s }.config H (.spawn command args)
  | .closeCurrentWindow => .ok c.closeCurrentWindow
  | .addWindowRule windowRule => .ok { c with state := c.state.addWindowRule windowRule }
  | .toggleDebugUi => c.toggleDebugUi W H
  | .startVideoStream => c.startVideoStream H
  | .setLayout spaces => .ok { c with state := c.state.setLayout W spaces }

/-- Before anything has happened. -/
def new (backendData : BackendData) (primaryGbm : Option GbmDevice) : Compositor where
  state := .new
  backendData
  primaryGbm
  pipewire := none
  videoStreams := []
  nodeId := 0
  effects := []

/-- What is no command concerns the state alone. -/
def step (c : Compositor) : Event → Except Failure Compositor
  | .action action => c.execute W H action
  | .message message => c.handleDisplayMessage W H message
  | e => c.onState (c.state.step W e)

/-- What the world and the outside answer is new in every step. -/
def next (c : Compositor) (i : World × Host × Event) : Except Failure Compositor :=
  c.step i.1 i.2.1 i.2.2

end Compositor

end Scape.Display
