import Scape.Display.XwaylandShell

/-!
# Input events

The handlers of `input_handler.rs`, and of the grabs of `grabs.rs` that get the events
first while they are active: a key, the pointer that moves or has a button pressed, a
tablet tool, touch points.

What lies under a point is asked of the first space only. An event that gives a
position carries it as the point in the coordinates of the spaces.

Not one of them asks whether the session is locked.
-/

namespace Scape.Display

open Scape Fallible

namespace State

variable (W : World)

/-! ## Keys -/

/-- A layer surface that takes every key: exclusive, on one of the upper layers, and
in the layer map of an output of the first space. -/
def takesKeys (s : State) (layer : LayerSurface) : Bool :=
  W.exclusive layer && (W.layer layer = .top || W.layer layer = .overlay) &&
    s.spaces.first.outputs.any fun mapped => layer ∈ s.layersOf mapped.1

/-- `keyboard_key_to_action`. No key is an action: `process_keyboard_shortcut` answers
none. -/
def keyboardKey (s : State) : State :=
  match s.layerSurfaces.reverse.find? (s.takesKeys W) with
  | some layer => s.setFocus (.layerSurface layer)
  | none => s

/-! ## What is under a point -/

def layerUnder (s : State) (output : SmithayOutput) (upper lower : Layer) (point : Point) :
    Option LayerSurface :=
  W.layerUnder (s.layersOf output) upper point <|> W.layerUnder (s.layersOf output) lower point

def layerTarget (s : State) (output : SmithayOutput) (upper lower : Layer) (point : Point) :
    Option PointerFocusTarget :=
  ((s.layerUnder W output upper lower point).bind fun layer =>
    W.layerSurfaceUnder layer point).map .wlSurface

def surfaceUnder (s : State) (point : Point) : Option PointerFocusTarget :=
  let space := s.spaces.first
  (space.outputs.find? (space.outputAt point)).bind fun mapped =>
    s.layerTarget W mapped.1 .overlay .top point <|>
    (W.elementUnder space point).bind (fun window => W.surfaceUnder window point) <|>
    s.layerTarget W mapped.1 .bottom .background point

/-- The layer surface on one of two layers that a press gives the focus. -/
def focusableLayer (s : State) (output : SmithayOutput) (upper lower : Layer)
    (point : Point) : Option LayerSurface :=
  (s.layerUnder W output upper lower point).filter fun layer =>
    W.canReceiveKeyboardFocus layer && (W.layerSurfaceUnder layer point).isSome

def layerFocus (s : State) (output : Option SmithayOutput) (upper lower : Layer)
    (point : Point) : Except Panic (Option LayerSurface) :=
  match output with
  | none => .ok none
  | some output => do
      let _ ← expect .outputGeometry (s.spaces.first.outputGeometry output)
      return s.focusableLayer W output upper lower point

/-- Override redirect windows are not to be focused. -/
def focusElement (s : State) (window : WorkspaceWindow) : State :=
  let raised := s.modifySpace s.spaces.firstKey fun space =>
    space.raiseElement W.zIndex window
  match window.x11Surface with
  | none => raised.setFocus (.window window)
  | some surface =>
      if W.overrideRedirect surface then s
      else if W.xwaylandRunning then raised.setFocus (.window window)
      else raised

/-- Whether a grab keeps the keyboard's focus where it is. -/
def focusGrabbed : Bool :=
  W.pointerGrab ≠ .nobody || (W.keyboardGrabbed && !W.inputMethodGrabbed) ||
    W.touchGrab ≠ .nobody

def updateKeyboardFocus (s : State) (point : Point) : Except Panic State :=
  if focusGrabbed W then .ok s
  else do
    let output := s.spaces.first.outputUnder point
    match ← s.layerFocus W output .overlay .top point with
    | some layer => return s.setFocus (.layerSurface layer)
    | none =>
        match W.elementUnder s.spaces.first point with
        | some window => return s.focusElement W window
        | none =>
            match ← s.layerFocus W output .bottom .background point with
            | some layer => return s.setFocus (.layerSurface layer)
            | none => return s

/-! ## The pointer -/

/-- The `motion` of a surface grab, but for the size of a window. A grab that knows no space
takes the first. -/
def grabMotion (s : State) (grab : SurfaceGrab) (location : Point) : Except Panic State :=
  match grab.kind with
  | .move initial => do
      let spaceName := grab.spaceName.getD s.spaces.firstKey
      let start := grab.startData.location
      let _ ← expect .space (s.spaces.get? spaceName)
      return s.modifySpace spaceName fun space =>
        space.mapElement W.zIndex grab.window
          ⟨initial.x + (location.x - start.x), initial.y + (location.y - start.y)⟩
  | .resize => .ok s

/-- A resize of a window that has died ends with the next motion. -/
def resizeEnds (grab : SurfaceGrab) : Bool :=
  grab.kind = .resize && !W.alive grab.window

/-- No length is within the limits, and `i32::clamp` panics. Zero as the upper limit stands
for `i32::max_value()`. -/
def limitsCross (lower upper : Int) : Bool :=
  (if upper = 0 then 2147483647 else upper) < max lower 1

/-- The motion of a resize by the pointer clamps the size. That of a touch point does not. -/
def resizeClamps (grab : SurfaceGrab) : Bool :=
  grab.kind = .resize &&
    (limitsCross (W.minSize grab.window).1 (W.maxSize grab.window).1 ||
      limitsCross (W.minSize grab.window).2 (W.maxSize grab.window).2)

/-- The end of a grab of the pointer, which restores its focus. -/
def releasePointer (s : State) : State :=
  { s with pointerGrab := none }.setPointerFocus s.pendingFocus

/-- The motion of the pointer by the grab that is active. -/
def handleMotion (s : State) : Except Panic State :=
  match W.pointerGrab, s.pointerGrab with
  | .nobody, _ => .ok (s.setPointerFocus s.pendingFocus)
  | .smithay passes, _ => .ok (if passes then s.setPointerFocus s.pendingFocus else s)
  | .compositor, some grab =>
      if resizeEnds W grab then .ok s.releasePointer
      else if resizeClamps W grab then .error .clamp
      else s.grabMotion W grab s.pointerLocation
  | .compositor, none => .ok s

/-- `pointer.motion`. -/
def pointerMotion (s : State) (under : Option PointerFocusTarget) (location : Point) :
    Except Panic State :=
  { s with pointerLocation := location, pendingFocus := under }.handleMotion W

/-- The pointer is told to be over what was under it before it moved. -/
def onPointerMove (s : State) (location : Point) : Except Panic State :=
  let under := s.surfaceUnder W s.pointerLocation
  if W.pointerHeld then .ok { s with pendingFocus := under }
  else s.pointerMotion W under location

def onPointerMoveAbsolute (s : State) (location : Point) : Except Panic State := do
  let _ ← expect .noOutput s.spaces.first.outputs.head?
  s.pointerMotion W (s.surfaceUnder W location) location

def onPointerMoveAbsoluteWindowed (s : State) (outputName : String) (location : Point) :
    Except Panic State := do
  let output ← expect .noOutput (s.outputs.values.find? fun output => output.name = outputName)
  let _ ← expect .outputGeometry (s.spaces.first.outputGeometry output)
  s.pointerMotion W (s.surfaceUnder W location) location

/-- `on_tablet_tool_axis` and `on_tablet_tool_proximity`, for the pointer. -/
def onTabletTool (s : State) (location : Point) : Except Panic State :=
  match s.spaces.first.outputs.head? with
  | none => .ok s
  | some _ => s.pointerMotion W (s.surfaceUnder W location) location

def onPointerButton (s : State) (pressed : Bool) : Except Panic State := do
  let s ← (if pressed then s.updateKeyboardFocus W s.pointerLocation else .ok s)
  return if W.grabReleased then s.releasePointer else s

def onTabletToolTip (s : State) : Except Panic State :=
  s.updateKeyboardFocus W s.pointerLocation

/-! ## Touch -/

/-- Whether touch points have a location, which takes an output of the first space. -/
def touchMapped (s : State) : Bool :=
  let builtIn := s.outputs.values.filter fun output => output.name.startsWith "eDP"
  ((W.anyOutput builtIn <|> W.anyOutput s.outputs.values).bind
    s.spaces.first.outputGeometry).isSome

def onTouchDown (s : State) (location : Point) : Except Panic State :=
  if W.hasTouch && s.touchMapped W then s.updateKeyboardFocus W location else .ok s

/-- The grab of the compositor's on a touch point, if it is active. -/
def activeTouchGrab (s : State) (slot : Nat) : Option SurfaceGrab :=
  if W.hasTouch && W.touchGrab = .compositor then
    s.touchGrab.filter fun grab => grab.startData.slot = slot
  else none

def onTouchMotion (s : State) (slot : Nat) (location : Point) : Except Panic State :=
  if s.touchMapped W then
    match s.activeTouchGrab W slot with
    | some grab => s.grabMotion W grab location
    | none => .ok s
  else .ok s

def onTouchUp (s : State) (slot : Nat) : State :=
  match s.activeTouchGrab W slot with
  | some _ => { s with touchGrab := none }
  | none => s

def onTouchCancel (s : State) : State :=
  if W.hasTouch && W.touchGrab = .compositor then { s with touchGrab := none } else s

end State

end Scape.Display
