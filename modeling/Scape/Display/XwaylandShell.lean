import Scape.Display.XdgShell

/-!
# Requests of X11 clients

The handlers of `xwayland_shell.rs`. An X11 window has a Wayland surface only from
some point on, and a request for one that has none is ignored. Every map request
makes a new window.
-/

namespace Scape.Display

open Scape Fallible

namespace State

variable (W : World)

/-- The look-up most handlers begin with. -/
def windowAndSpaceForX11 (s : State) (surface : X11Surface) :
    Option (WorkspaceWindow × String) :=
  (W.wlSurface surface).bind (s.windowAndSpaceForSurface W)

/-- `Space::element_bbox`, as far as where it begins. -/
def elementBbox (space : Space) (window : WorkspaceWindow) : Option Point :=
  (space.elementLocation window).map (· + W.bboxOffset window)

def mapWindowRequest (s : State) (surface : X11Surface) : Except Panic State :=
  if W.overrideRedirect surface then .ok s
  else if W.mapsX11 surface then do
    let (window, s) := s.freshWindow (.x11 surface)
    let s ← s.placeWindow W s.spaces.firstKey window none
    let space ← expect .space (s.spaces.get? s.spaces.firstKey)
    let _ ← expect .elementLocation (elementBbox W space window)
    return s.setFocus (.window window)
  else .ok s

def mappedOverrideRedirectWindow (s : State) (surface : X11Surface) : State :=
  let location := W.x11Location surface
  let (window, s) := s.freshWindow (.x11 surface)
  s.modifySpace s.spaces.firstKey fun space =>
    space.mapElement W.zIndex window (if 10000 < location.x then ⟨0, 0⟩ else location)

def unmappedWindow (s : State) (surface : X11Surface) : Except Panic State :=
  match s.windowAndSpaceForX11 W surface with
  | none => .ok s
  | some (window, spaceName) => do
      let _ ← expect .space (s.spaces.get? spaceName)
      let s := s.modifySpace spaceName fun space => space.unmapElem window
      return s.focusTop W spaceName

def configureNotify (s : State) (surface : X11Surface) (location : Point) :
    Except Panic State :=
  match s.windowAndSpaceForX11 W surface with
  | none => .ok s
  | some (window, spaceName) => do
      let _ ← expect .space (s.spaces.get? spaceName)
      return s.modifySpace spaceName fun space => space.mapElement W.zIndex window location

def maximizeRequestX11 (s : State) (surface : X11Surface) : Except Panic State :=
  match s.windowAndSpaceForX11 W surface with
  | none => .ok s
  | some (window, spaceName) => do
      let space ← expect .space (s.spaces.get? spaceName)
      let oldGeo ← expect .elementLocation (elementBbox W space window)
      let output ← expect .noOutput (outputFor W space window)
      let geometry ← expect .outputGeometry (space.outputGeometry output)
      let s := { s with oldGeometry := Function.update s.oldGeometry surface (some oldGeo) }
      return s.modifySpace spaceName fun space => space.mapElement W.zIndex window geometry.loc

/-- `OldGeometry::restore`: what was saved is taken. -/
def restoreGeometry (s : State) (surface : X11Surface) : Option Point × State :=
  (s.oldGeometry surface,
    { s with oldGeometry := Function.update s.oldGeometry surface none })

def unmaximizeRequestX11 (s : State) (surface : X11Surface) : Except Panic State :=
  match s.windowAndSpaceForX11 W surface with
  | none => .ok s
  | some (window, spaceName) => do
      let _ ← expect .space (s.spaces.get? spaceName)
      match s.restoreGeometry surface with
      | (some oldGeo, s) =>
          return s.modifySpace spaceName fun space => space.mapElement W.zIndex window oldGeo
      | (none, s) => return s

def fullscreenRequestX11 (s : State) (surface : X11Surface) : Except Panic State :=
  match s.windowAndSpaceForX11 W surface with
  | none => .ok s
  | some (window, spaceName) => do
      let space ← expect .space (s.spaces.get? spaceName)
      let output ← expect .noOutput (outputFor W space window)
      let _ ← expect .outputGeometry (space.outputGeometry output)
      return s

def unfullscreenRequestX11 (s : State) (surface : X11Surface) : Except Panic State :=
  match s.windowAndSpaceForX11 W surface with
  | none => .ok s
  | some (window, spaceName) => s.placeWindow W spaceName window none

/-- The start of the grab is unwrapped before anything else. -/
def resizeRequestX11 (s : State) (surface : X11Surface) (left top : Bool) :
    Except Panic State := do
  let startData ← expect .grabStartData W.pointerStart
  match W.wlSurface surface with
  | none => return s
  | some wlSurface =>
      match s.windowAndSpaceForSurface W wlSurface with
      | none => return s
      | some (window, spaceName) => do
          let s ← s.startResize W wlSurface window spaceName left top
          return { s with pointerGrab := some ⟨startData, window, some spaceName, .resize⟩ }

def moveRequestX11 (s : State) (surface : X11Surface) : Except Panic State :=
  match W.pointerStart with
  | none => .ok s
  | some startData =>
      match s.windowAndSpaceForX11 W surface with
      | none => .ok s
      | some (window, spaceName) => do
          let space ← expect .space (s.spaces.get? spaceName)
          let location ← expect .elementLocation (space.elementLocation window)
          if W.x11Maximized surface then
            let s := (s.restoreGeometry surface).2
            return { s with
              pointerGrab :=
                some ⟨startData, window, some spaceName, .move s.pointerLocation⟩ }
          else
            return { s with
              pointerGrab := some ⟨startData, window, some spaceName, .move location⟩ }

variable {W} {s : State} {surface : X11Surface} {window : WorkspaceWindow} {name : String}

theorem windowAndSpaceForX11_eq_some
    (h : s.windowAndSpaceForX11 W surface = some (window, name)) :
    name = s.spaces.firstKey ∧ window ∈ s.spaces.first.windows := by
  obtain ⟨_, -, hfound⟩ := Option.bind_eq_some_iff.mp h
  exact windowAndSpaceForSurface_eq_some hfound

end State

end Scape.Display
