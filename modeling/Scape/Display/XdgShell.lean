import Scape.Display.Composition

/-!
# Requests of Wayland clients

The handlers of `xdg_shell.rs` and `xdg_activation.rs`, and of commits in `shell.rs`:
toplevels that come and go, ask to be maximized, shown fullscreen, moved or resized,
popups that grab, surfaces that are activated.

Each looks up what it needs, the window of the surface, its space, an output, a grab.
A look-up that fails ends some of the handlers and makes others panic.
-/

namespace Scape.Display

open Scape Fallible

namespace State

variable (W : World)

/-- The window on top of a space gets the focus, if there is one. -/
def focusTop (s : State) (spaceName : String) : State :=
  match (s.spaces.value spaceName).windows.getLast? with
  | some window => s.focusWindow W window spaceName
  | none => s

/-! ## Surfaces -/

/-- `CompositorHandler::new_surface`. -/
def newSurface (s : State) (surface : WlSurface) : State :=
  match s.surfaceSpace surface with
  | some _ => s
  | none =>
      { s with
        surfaceSpace := Function.update s.surfaceSpace surface (some s.spaces.firstKey) }

/-- The part of a commit that moves the window by the offset of the new buffer. -/
def commitOffset (s : State) (surface : WlSurface) : Except Panic State :=
  if W.syncSubsurface surface then .ok s
  else
    match s.windowAndSpaceForSurface W (W.rootSurface surface) with
    | none => .ok s
    | some (window, spaceName) =>
        if W.rootSurface surface = surface then
          match W.bufferDelta surface with
          | none => .ok s
          | some bufferOffset =>
              match s.spaces.get? spaceName with
              | none => .ok s
              | some space => do
                  let currentLoc ← expect .elementLocation (space.elementLocation window)
                  return s.modifySpace spaceName fun space =>
                    space.mapElement W.zIndex window (currentLoc + bufferOffset)
        else .ok s

/-- `ensure_initial_configure`, which is where a surface gets its data. Its
subsurfaces get theirs as well, and nobody asks for it. -/
def ensureSurfaceData (s : State) (surface : WlSurface) : State :=
  match s.surfaceData surface with
  | some _ => s
  | none => { s with surfaceData := Function.update s.surfaceData surface (some ⟨none⟩) }

/-- Where `handle_toplevel_commit` moves a window that is being resized. -/
def resizedLocation (resizeData : ResizeData) (windowLoc : Point) (size : Int × Int) : Point :=
  let loc := resizeData.initialWindowLocation
  { x :=
      if resizeData.left then loc.x + (resizeData.initialWindowSize.1 - size.1)
      else windowLoc.x
    y :=
      if resizeData.top then loc.y + (resizeData.initialWindowSize.2 - size.2)
      else windowLoc.y }

/-- The hook that `new_toplevel` installs. It looks into the first space only, and for
a toplevel only, since no other surface has it. -/
def handleToplevelCommit (s : State) (surface : WlSurface) : State :=
  let space := s.spaces.first
  match space.windows.find? fun window => window.kind = .wayland surface with
  | none => s
  | some window =>
      match space.elementLocation window, (s.surfaceData surface).bind (·.resizing) with
      | some windowLoc, some resizeData =>
          if resizeData.left || resizeData.top then
            s.modifySpace s.spaces.firstKey fun space =>
              space.mapElement W.zIndex window
                (resizedLocation resizeData windowLoc (W.windowSize window))
          else s
      | _, _ => s

/-- `CompositorHandler::commit`, and the hook after it. -/
def commit (s : State) (surface : WlSurface) : Except Panic State := do
  let s ← s.commitOffset W surface
  let spaceName ← expect .activeSpace (s.surfaceSpace surface)
  let _ ← expect .space (s.spaces.get? spaceName)
  return (s.ensureSurfaceData surface).handleToplevelCommit W surface

/-! ## Toplevels -/

def newToplevel (s : State) (surface : WlSurface) : Except Panic State := do
  let (window, s) := s.freshWindow (.wayland surface)
  let s ← s.placeWindow W s.spaces.firstKey window none
  return s.setFocus (.window window)

def toplevelDestroyed (s : State) (surface : WlSurface) : Except Panic State :=
  match s.windowAndSpaceForSurface W surface with
  | none => .ok s
  | some (window, spaceName) => do
      let _ ← expect .space (s.spaces.get? spaceName)
      let s := s.modifySpace spaceName fun space => space.unmapElem window
      return s.focusTop W spaceName

def appIdChanged (s : State) (surface : WlSurface) : Except Panic State :=
  match s.windowAndSpaceForSurface W surface with
  | none => .ok s
  | some (window, spaceName) => s.placeWindow W spaceName window none

/-- The output a window is on, or the first of the space. -/
def outputFor (space : Space) (window : WorkspaceWindow) : Option SmithayOutput :=
  (W.outputsForElement space window).head? <|> (space.outputs.map Prod.fst).head?

def maximizeRequest (s : State) (surface : WlSurface) : Except Panic State :=
  if W.maximizable surface then do
    let (window, spaceName) ← expect .window (s.windowAndSpaceForSurface W surface)
    let space ← expect .space (s.spaces.get? spaceName)
    let output ← expect .noOutput (outputFor W space window)
    let geometry ← expect .outputGeometry (space.outputGeometry output)
    return s.modifySpace spaceName fun space => space.mapElement W.zIndex window geometry.loc
  else .ok s

def fullscreenOutputGeometry (space : Space) (surface : WlSurface)
    (wlOutput : Option WlOutput) : Option Rectangle :=
  let output := wlOutput.bind W.fromResource <|>
    (space.windows.find? fun window => W.surfaceOf window = some surface).bind fun window =>
      (W.outputsForElement space window).head?
  output.bind space.outputGeometry

def fullscreenRequest (s : State) (surface : WlSurface) (wlOutput : Option WlOutput) :
    Except Panic State :=
  if W.fullscreenable surface then
    match s.windowAndSpaceForSurface W surface with
    | none => .ok s
    | some (_, spaceName) =>
        match s.spaces.get? spaceName with
        | none => .ok s
        | some space =>
            match fullscreenOutputGeometry W space surface wlOutput with
            | none => .ok s
            | some _ => do
                let output ← expect .noOutput
                  (wlOutput.bind W.fromResource <|> (space.outputs.map Prod.fst).head?)
                let wlOutput := (W.clientOutputs output).getLast? <|> wlOutput
                return { s with
                  fullscreenOutput := Function.update s.fullscreenOutput surface wlOutput }
  else .ok s

def unfullscreenRequest (s : State) (surface : WlSurface) : Except Panic State :=
  if W.fullscreen surface then
    match s.fullscreenOutput surface with
    | none => .ok s
    | some wlOutput => do
        let _ ← expect .fullscreenOutput (W.fromResource wlOutput)
        return { s with
          fullscreenOutput := Function.update s.fullscreenOutput surface none }
  else .ok s

/-! ## Moving and resizing -/

/-- The part the two ways of a move share: where the window is, and where it is moved
from. A maximized window is moved from the point the grab is at. -/
def startMove (s : State) (surface : WlSurface) (window : WorkspaceWindow)
    (spaceName : String) (startData : GrabStartData) (point : Point)
    (grabSpace : Option String) : Except Panic SurfaceGrab := do
  let space ← expect .space (s.spaces.get? spaceName)
  let location ← expect .elementLocation (space.elementLocation window)
  return ⟨startData, window, grabSpace, .move (if W.maximized surface then point else location)⟩

/-- The rest of `move_request_xdg`, for the pointer. -/
def movePointerRequest (s : State) (surface : WlSurface) : Except Panic State :=
  match W.pointerGrabStart with
  | none => .ok s
  | some startData => do
      let (window, spaceName) ← expect .window (s.windowAndSpaceForSurface W surface)
      if startData.sameClient then
        let grab ← s.startMove W surface window spaceName startData s.pointerLocation
          (some spaceName)
        return { s with pointerGrab := some grab }
      else return s

def moveRequestXdg (s : State) (surface : WlSurface) : Except Panic State :=
  if W.hasTouch then
    match W.touchGrabStart with
    | none => s.movePointerRequest W surface
    | some startData =>
        match s.windowAndSpaceForSurface W surface with
        | none => .ok s
        | some (window, spaceName) =>
            if startData.sameClient then do
              let grab ← s.startMove W surface window spaceName startData startData.location none
              return { s with touchGrab := some grab }
            else .ok s
  else s.movePointerRequest W surface

/-- The part the ways of a resize share. -/
def startResize (s : State) (surface : WlSurface) (window : WorkspaceWindow)
    (spaceName : String) (left top : Bool) : Except Panic State := do
  let space ← expect .space (s.spaces.get? spaceName)
  let location ← expect .elementLocation (space.elementLocation window)
  let _ ← expect .surfaceData (s.surfaceData surface)
  return { s with
    surfaceData := Function.update s.surfaceData surface
      (some ⟨some ⟨left, top, location, W.windowSize window⟩⟩) }

def resizePointerRequest (s : State) (surface : WlSurface) (left top : Bool) :
    Except Panic State :=
  match W.pointerGrabStart with
  | none => .ok s
  | some startData =>
      match s.windowAndSpaceForSurface W surface with
      | none => .ok s
      | some (window, spaceName) =>
          if (s.spaces.get? spaceName).isSome && startData.sameClient then do
            let s ← s.startResize W surface window spaceName left top
            return { s with pointerGrab := some ⟨startData, window, some spaceName, .resize⟩ }
          else .ok s

/-- `resize_request`, by the edges that move with the grab on the left and the top. -/
def resizeRequest (s : State) (surface : WlSurface) (left top : Bool) : Except Panic State :=
  if W.hasTouch then
    match W.touchGrabStart with
    | none => s.resizePointerRequest W surface left top
    | some startData =>
        match s.windowAndSpaceForSurface W surface with
        | none => .ok s
        | some (window, spaceName) =>
            if startData.sameClient then do
              let s ← s.startResize W surface window spaceName left top
              return { s with touchGrab := some ⟨startData, window, none, .resize⟩ }
            else .ok s
  else s.resizePointerRequest W surface left top

/-! ## Popups and activation -/

/-- The window or the layer surface a popup belongs to. -/
def popupRootTarget (s : State) (root : WlSurface) : Option KeyboardFocusTarget :=
  ((s.spaces.first.windows.find? fun window => W.surfaceOf window = some root).map
    KeyboardFocusTarget.window) <|>
  (s.layerMaps.find? fun entry =>
    (s.spaces.first.outputLocation entry.1).isSome && entry.2.surface = root).map
      fun entry => .layerSurface entry.2

/-- `XdgShellHandler::grab`. -/
def popupGrab (s : State) (popup : PopupSurface) : State :=
  match (W.popupRoot popup).bind (s.popupRootTarget W) with
  | none => s
  | some root =>
      if W.popupGrabs then s.setFocus ((W.currentPopup.map .popup).getD root) else s

/-- `request_activation`, with the age of the token in seconds. -/
def requestActivation (s : State) (surface : WlSurface) (age : Nat) : Except Panic State :=
  if age < 10 then do
    let spaceName ← expect .activeSpace (s.surfaceSpace surface)
    let space ← expect .space (s.spaces.get? spaceName)
    match space.windows.find? fun window => W.surfaceOf window = some surface with
    | some window => return s.focusWindow W window spaceName
    | none => return s
  else .ok s

end State

end Scape.Display
