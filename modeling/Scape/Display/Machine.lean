import Scape.Display.Input
import Scape.Lib.Machine

/-!
# The display thread as a state machine

Everything that happens to the display modules is an `Event`: something smithay calls a
handler for, a message of another thread, an output that comes or goes, or the end of a
turn of the loop. `State.step` is what the modules do with it, and an error is a panic.

Here are also the handlers that remain: the session lock, layer surfaces, the debug
window, actions and messages.
-/

namespace Scape.Display

open Scape Fallible

inductive Action where
  | quit
  | vtSwitch (vt : Int)
  | spawn (command : String) (args : List String)
  | focusOrSpawn (appId command : String)
  | changeScale (percentagePoints : Int)
  | setScale (percentage : Nat)
  | rotateOutput (output rotation : Nat)
  | moveWindow (window : Option Nat) (zone : String)
  | callback (callback : CallbackRef)
  | tab (index : Nat)
  | close
  | startVideoStream
  | none
  deriving DecidableEq, Repr

inductive InputEvent where
  | key
  | pointerMotion (location : Point)
  | pointerMotionAbsolute (location : Point)
  | pointerMotionAbsoluteWindowed (outputName : String) (location : Point)
  | pointerButton (pressed : Bool)
  | tabletTool (location : Point)
  | tabletToolTip
  | touchDown (location : Point)
  | touchMotion (slot : Nat) (location : Point)
  | touchUp (slot : Nat)
  | touchCancel
  deriving DecidableEq, Repr

inductive SurfaceEvent where
  | newSurface (surface : WlSurface)
  | commit (surface : WlSurface)
  deriving DecidableEq, Repr

inductive XdgEvent where
  | newToplevel (surface : WlSurface)
  | toplevelDestroyed (surface : WlSurface)
  | appIdChanged (surface : WlSurface)
  | maximize (surface : WlSurface)
  | unmaximize (surface : WlSurface)
  | fullscreen (surface : WlSurface) (wlOutput : Option WlOutput)
  | unfullscreen (surface : WlSurface)
  | move (surface : WlSurface)
  | resize (surface : WlSurface) (left top : Bool)
  | grab (popup : PopupSurface)
  | requestActivation (surface : WlSurface) (age : Nat)
  deriving DecidableEq, Repr

inductive X11Event where
  | mapWindow (surface : X11Surface)
  | mappedOverrideRedirect (surface : X11Surface)
  | unmapped (surface : X11Surface)
  | configureNotify (surface : X11Surface) (location : Point)
  | maximize (surface : X11Surface)
  | unmaximize (surface : X11Surface)
  | fullscreen (surface : X11Surface)
  | unfullscreen (surface : X11Surface)
  | move (surface : X11Surface)
  | resize (surface : X11Surface) (left top : Bool)
  deriving DecidableEq, Repr

inductive LockEvent where
  | lock
  | unlock
  | newSurface (surface : LockSurface) (wlOutput : WlOutput)
  deriving DecidableEq, Repr

inductive LayerEvent where
  | newLayerSurface (surface : LayerSurface) (wlOutput : Option WlOutput)
  | layerDestroyed (surface : LayerSurface)
  deriving DecidableEq, Repr

/-- With `focusMoved` smithay moves the keyboard's focus by itself, as at the end of a
grab; with `refresh` a turn of the loop ends. -/
inductive Event where
  | input (e : InputEvent)
  | surface (e : SurfaceEvent)
  | xdg (e : XdgEvent)
  | x11 (e : X11Event)
  | lock (e : LockEvent)
  | layer (e : LayerEvent)
  | message (m : DisplayMessage)
  | action (a : Action)
  | connectorConnected (outputName : String) (mode : Mode)
  | connectorDisconnected (output : SmithayOutput)
  | focusMoved (target : Option KeyboardFocusTarget)
  | refresh

namespace State

variable (W : World)

/-! ## The session lock -/

/-- `SessionLockHandler::lock`. What the focus was set to is kept for as long as one
lock follows another. -/
def lock (s : State) : State :=
  if s.locked && W.lockClientAlive then s
  else { s with sessionLock := some ⟨[]⟩, focusSet := if s.locked then s.focusSet else [] }

def unlock (s : State) : State :=
  let s := { s with sessionLock := none }
  match s.spaces.first.windows.getLast? with
  | some window => s.setFocus (.window window)
  | none => s

/-- `SessionLockHandler::new_surface`. -/
def newLockSurface (s : State) (surface : LockSurface) (wlOutput : WlOutput) : State :=
  match s.sessionLock, W.fromResource wlOutput with
  | some sessionLock, some output =>
      let others := sessionLock.surfaces.filter fun entry => entry.1 ≠ output
      { s with sessionLock := some ⟨(output, surface) :: others⟩ }.setFocus (.lockScreen surface)
  | _, _ => s

/-! ## Layer surfaces -/

def newLayerSurface (s : State) (surface : LayerSurface) (wlOutput : Option WlOutput) :
    Except Panic State := do
  let s := { s with layerSurfaces := s.layerSurfaces ++ [surface] }
  let output ← expect .noOutput
    (wlOutput.bind W.fromResource <|> W.anyOutput s.outputs.values)
  return { s with layerMaps := s.layerMaps ++ [(output, surface)] }

/-- The surface stays in the layer map of an output that has gone. -/
def layerDestroyed (s : State) (surface : LayerSurface) : State :=
  { s with
    layerSurfaces := s.layerSurfaces.filter (· ≠ surface)
    layerMaps := s.layerMaps.filter fun entry =>
      !(entry.1 ∈ s.outputs.values && entry.2 = surface) }

/-! ## Messages and actions

What they do outside, and where that can panic, is in `Commands.lean`. -/

def toggleDebugUi (s : State) : Except Panic State :=
  match s.debugUi with
  | some window =>
      .ok ({ s with debugUi := none }.modifySpace s.spaces.firstKey fun space =>
        space.unmapElem window)
  | none =>
      let (window, s) := s.freshWindow .egui
      { s with debugUi := some window }.placeWindow W s.spaces.firstKey window none

/-- `MoveCurrentWindowToZone`, and `MoveWindow`, which does not look at its window. -/
def moveCurrentWindow (s : State) (zoneName : String) : Except Panic State :=
  match s.keyboardFocus with
  | some (.window window) => s.placeWindow W s.spaces.firstKey window (some zoneName)
  | _ => .ok s

def closeCurrentWindow (s : State) : State :=
  match s.spaces.first.windows.getLast? with
  | some window =>
      if window.close then
        s.modifySpace s.spaces.firstKey fun space => space.unmapElem window
      else s
  | none => s

def tab (s : State) (index : Nat) : State :=
  match s.spaces.first.windows.reverse[index]? with
  | some window => s.focusWindow W window s.spaces.firstKey
  | none => s

def execute (s : State) (action : Action) : Except Panic State :=
  if s.locked && !(action matches .vtSwitch _) then .ok s
  else
    match action with
    | .changeScale _ | .setScale _ | .rotateOutput _ _ => .error .todo
    | .moveWindow _ zone => s.moveCurrentWindow W zone
    | .close => .ok s.closeCurrentWindow
    | .tab index => .ok (s.tab W index)
    | .focusOrSpawn appId _ => .ok (s.focusWindowByAppId W appId).1
    | .quit | .vtSwitch _ | .spawn _ _ | .callback _ | .startVideoStream | .none => .ok s

def handleDisplayMessage (s : State) (message : DisplayMessage) : Except Panic State :=
  match message with
  | .setZones zones => .ok (s.setZones zones)
  | .moveCurrentWindowToZone name => s.moveCurrentWindow W name
  | .focusOrSpawn appId _ _ => .ok (s.focusWindowByAppId W appId).1
  | .closeCurrentWindow => .ok s.closeCurrentWindow
  | .addWindowRule windowRule => .ok (s.addWindowRule windowRule)
  | .toggleDebugUi => s.toggleDebugUi W
  | .setLayout spaces => .ok (s.setLayout W spaces)
  | .shutdown | .keyboardInput _ _ _ _ | .vtSwitch _ | .startVideoStream => .ok s

/-! ## Steps -/

def processInputEvent (s : State) : InputEvent → Except Panic State
  | .key => .ok (s.keyboardKey W)
  | .pointerMotion location => s.onPointerMove W location
  | .pointerMotionAbsolute location => s.onPointerMoveAbsolute W location
  | .pointerMotionAbsoluteWindowed outputName location =>
      s.onPointerMoveAbsoluteWindowed W outputName location
  | .pointerButton pressed => s.onPointerButton W pressed
  | .tabletTool location => s.onTabletTool W location
  | .tabletToolTip => s.onTabletToolTip W
  | .touchDown location => s.onTouchDown W location
  | .touchMotion slot location => s.onTouchMotion W slot location
  | .touchUp slot => .ok (s.onTouchUp W slot)
  | .touchCancel => .ok (s.onTouchCancel W)

def handleSurface (s : State) : SurfaceEvent → Except Panic State
  | .newSurface surface => .ok (s.newSurface surface)
  | .commit surface => s.commit W surface

/-- `unmaximize_request` only tells the client. -/
def handleXdg (s : State) : XdgEvent → Except Panic State
  | .newToplevel surface => s.newToplevel W surface
  | .toplevelDestroyed surface => s.toplevelDestroyed W surface
  | .appIdChanged surface => s.appIdChanged W surface
  | .maximize surface => s.maximizeRequest W surface
  | .unmaximize _ => .ok s
  | .fullscreen surface wlOutput => s.fullscreenRequest W surface wlOutput
  | .unfullscreen surface => s.unfullscreenRequest W surface
  | .move surface => s.moveRequestXdg W surface
  | .resize surface left top => s.resizeRequest W surface left top
  | .grab popup => .ok (s.popupGrab W popup)
  | .requestActivation surface age => s.requestActivation W surface age

def handleX11 (s : State) : X11Event → Except Panic State
  | .mapWindow surface => s.mapWindowRequest W surface
  | .mappedOverrideRedirect surface => .ok (s.mappedOverrideRedirectWindow W surface)
  | .unmapped surface => s.unmappedWindow W surface
  | .configureNotify surface location => s.configureNotify W surface location
  | .maximize surface => s.maximizeRequestX11 W surface
  | .unmaximize surface => s.unmaximizeRequestX11 W surface
  | .fullscreen surface => s.fullscreenRequestX11 W surface
  | .unfullscreen surface => s.unfullscreenRequestX11 W surface
  | .move surface => s.moveRequestX11 W surface
  | .resize surface left top => s.resizeRequestX11 W surface left top

def handleLock (s : State) : LockEvent → State
  | .lock => s.lock W
  | .unlock => s.unlock
  | .newSurface surface wlOutput => s.newLockSurface W surface wlOutput

def handleLayer (s : State) : LayerEvent → Except Panic State
  | .newLayerSurface surface wlOutput => s.newLayerSurface W surface wlOutput
  | .layerDestroyed surface => .ok (s.layerDestroyed surface)

/-- Whether a target is no window, or one that there has been. -/
def knows (s : State) : KeyboardFocusTarget → Bool
  | .window window => window.id < s.nextWindow
  | _ => true

/-- The focus moves to what has had it before. -/
def moveFocus (s : State) (target : Option KeyboardFocusTarget) : State :=
  if target.all s.knows then
    { s with
      keyboardFocus := target
      focusSet := (target.map FocusTarget.keyboard).toList ++ s.focusSet }
  else s

def step (s : State) : Event → Except Panic State
  | .input e => s.processInputEvent W e
  | .surface e => s.handleSurface W e
  | .xdg e => s.handleXdg W e
  | .x11 e => s.handleX11 W e
  | .lock e => .ok (s.handleLock W e)
  | .layer e => s.handleLayer W e
  | .message m => s.handleDisplayMessage W m
  | .action a => s.execute W a
  | .connectorConnected outputName mode => .ok (s.connectorConnected outputName mode)
  | .connectorDisconnected output => .ok (s.connectorDisconnected output)
  | .focusMoved target => .ok (s.moveFocus target)
  | .refresh => .ok { s with spaces := s.spaces.map (·.refresh W.alive) }

end State

/-- The least eventful world: nothing lies under any point, nothing is grabbed, and no
client has asked for anything. -/
def World.quiet : World where
  appId := fun _ => ""
  alive := fun _ => true
  zIndex := fun _ => 0
  windowSize := fun _ => (0, 0)
  minSize := fun _ => (0, 0)
  maxSize := fun _ => (0, 0)
  wlSurface := fun _ => none
  overrideRedirect := fun _ => false
  mapsX11 := fun _ => true
  x11Maximized := fun _ => false
  x11Location := fun _ => ⟨0, 0⟩
  xwaylandRunning := false
  bboxOffset := fun _ => ⟨0, 0⟩
  order := id
  order_perm := List.Perm.refl
  anyOutput := List.head?
  anyOutput_isSome := fun outputs => by cases outputs <;> simp
  outputsForElement := fun _ _ => []
  elementUnder := fun _ _ => none
  elementUnder_mem := fun _ _ _ h => by cases h
  surfaceUnder := fun _ _ => none
  layerUnder := fun _ _ _ => none
  layerUnder_mem := fun _ _ _ _ h => by cases h
  layerSurfaceUnder := fun _ _ => none
  canReceiveKeyboardFocus := fun _ => false
  exclusive := fun _ => false
  layer := fun _ => .background
  pointerGrab := .nobody
  touchGrab := .nobody
  pointerHeld := false
  keyboardGrabbed := false
  inputMethodGrabbed := false
  hasTouch := false
  grabReleased := false
  pointerStart := none
  pointerGrabStart := none
  touchGrabStart := none
  fromResource := fun _ => none
  clientOutputs := fun _ => []
  maximizable := fun _ => true
  fullscreenable := fun _ => true
  maximized := fun _ => false
  fullscreen := fun _ => false
  bufferDelta := fun _ => none
  syncSubsurface := fun _ => false
  rootSurface := id
  popupRoot := fun _ => none
  popupGrabs := false
  currentPopup := none
  lockClientAlive := true

/-- What the world answers is new in every step. -/
def State.next (s : State) (i : World × Event) : Except Panic State := s.step i.1 i.2

/-- The runs of the display thread. -/
def system : Machine.System State (World × Event) :=
  Fallible.system (· = State.new) State.next

theorem reachable_run {is : List (World × Event)} {t : State}
    (h : Fallible.run State.next State.new is = .ok t) : Machine.Reachable system t :=
  Fallible.reachableUnder_run (.init rfl) (fun _ _ => trivial) h

end Scape.Display
