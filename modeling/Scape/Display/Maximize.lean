import Scape.Display.XwaylandShell

/-!
# Maximized X11 windows

`maximize_request_x11` and `unmaximize_request` of `xwayland_shell.rs` again, with the sizes.
To maximize a window is to save its bounding box in a cell of its surface, and to configure
the surface to the geometry of an output. To unmaximize it is to take what was saved out of
the cell, and to configure the surface to that.

The bounding box comes from what the client has drawn. What the X server answers is good:
`set_maximized` and `configure` do not fail. The geometry of a surface is the one it was last
configured to.
-/

namespace Scape.Display

open Scape Fallible

/-- What a request finds: the world, and the sizes of the bounding boxes. -/
structure X11Request where
  W : World
  bboxSize : WorkspaceWindow → Int × Int

/-- `Space::element_bbox`. -/
def X11Request.elementBbox (r : X11Request) (space : Space) (window : WorkspaceWindow) :
    Option Rectangle :=
  (State.elementBbox r.W space window).map fun loc =>
    ⟨loc, (r.bboxSize window).1, (r.bboxSize window).2⟩

structure Xwm where
  state : State
  /-- `X11Surface::geometry` -/
  geometry : X11Surface → Rectangle
  /-- `OldGeometry` in the data of a surface -/
  oldGeometry : X11Surface → Option Rectangle

namespace Xwm

/-- `OldGeometry::save`. -/
def save (x : Xwm) (surface : X11Surface) (geo : Rectangle) : Xwm :=
  { x with
    oldGeometry := Function.update x.oldGeometry surface (some geo)
    state := { x.state with
      oldGeometry := Function.update x.state.oldGeometry surface (some geo.loc) } }

/-- `OldGeometry::restore`. -/
def restore (x : Xwm) (surface : X11Surface) : Option Rectangle × Xwm :=
  (x.oldGeometry surface,
    { x with
      oldGeometry := Function.update x.oldGeometry surface none
      state := (x.state.restoreGeometry surface).2 })

def configure (x : Xwm) (surface : X11Surface) (rect : Rectangle) : Xwm :=
  { x with geometry := Function.update x.geometry surface rect }

def mapElement (W : World) (x : Xwm) (spaceName : String) (window : WorkspaceWindow)
    (location : Point) : Xwm :=
  { x with state := x.state.modifySpace spaceName fun space =>
      space.mapElement W.zIndex window location }

def maximizeRequestX11 (x : Xwm) (r : X11Request) (surface : X11Surface) : Except Panic Xwm :=
  match x.state.windowAndSpaceForX11 r.W surface with
  | none => .ok x
  | some (window, spaceName) => do
      let space ← expect .space (x.state.spaces.get? spaceName)
      let oldGeo ← expect .elementLocation (r.elementBbox space window)
      let output ← expect .noOutput (State.outputFor r.W space window)
      let geometry ← expect .outputGeometry (space.outputGeometry output)
      return ((x.configure surface geometry).save surface oldGeo).mapElement r.W spaceName window
        geometry.loc

def unmaximizeRequest (x : Xwm) (r : X11Request) (surface : X11Surface) : Except Panic Xwm :=
  match x.state.windowAndSpaceForX11 r.W surface with
  | none => .ok x
  | some (window, spaceName) => do
      let _ ← expect .space (x.state.spaces.get? spaceName)
      match x.restore surface with
      | (some oldGeo, x) =>
          return (x.configure surface oldGeo).mapElement r.W spaceName window oldGeo.loc
      | (none, x) => return x

/-- Maximize requests, one after the other. -/
def maximizeRequests (x : Xwm) (surface : X11Surface) (requests : List X11Request) :
    Except Panic Xwm :=
  Fallible.run (fun x r => x.maximizeRequestX11 r surface) x requests

end Xwm

end Scape.Display
