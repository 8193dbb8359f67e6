import Scape.Display.Commands
import Scape.Display.Cursor

/-!
# What an output shows

`render_surface` of `udev.rs` collects the elements of an output, the topmost first: the
cursor and what is dragged, if the pointer is on the output, and the frames per second. To
these `output_elements` of `render.rs` adds the previews of windows and what smithay makes of
the space. While the session is locked it answers what the lock has for the output instead.

What has been rendered goes to the output, to the screen copies that wait and to the video
streams. The winit backend has one output and renders it by itself.

The scale of an output is one. A surface stands for itself and its subsurfaces.
-/

namespace Scape.Display

open Scape Fallible

structure DndIcon where
  surface : WlSurface
  offset : Point
  deriving DecidableEq, Repr

inductive CustomRenderElements where
  | pointer (buffer : MemoryRenderBuffer) (location : Point)
  | surface (surface : WlSurface) (location : Point)
  | fps (value : Nat)
  deriving DecidableEq, Repr

inductive SpaceRenderElements where
  | element (window : WorkspaceWindow)
  | surface (layer : LayerSurface)
  deriving DecidableEq, Repr

inductive OutputRenderElements where
  | space (element : SpaceRenderElements)
  | custom (element : CustomRenderElements)
  | waylandSurface (surface : LockSurface)
  | preview (window : WorkspaceWindow)
  deriving DecidableEq, Repr

/-- What is answered while an output is rendered. -/
structure RenderWorld where
  theme : CursorTheme
  overflowChecks : Bool
  now : Duration
  hotspot : WlSurface → Point
  surfaceAlive : WlSurface → Bool
  elementsForOutput : Space → SmithayOutput → List WorkspaceWindow
  spaceRenderElements : Space → SmithayOutput → List SpaceRenderElements
  /-- with the feature `debug` -/
  fps : Option Nat
  /-- whether `render_frame` works -/
  rendersFrame : Bool

/-- The display state with what a render reads and writes besides. -/
structure RenderState where
  state : State
  cursorState : CursorState
  dndIcon : Option DndIcon
  showWindowPreview : Bool
  screencopyFrames : List Screencopy
  videoStreams : List VideoStream

inductive RenderPanic where
  | state (panic : Panic)
  | cursor (panic : CursorPanic)
  deriving DecidableEq, Repr

/-- What a render has shown on the output, and what each copy and each stream has got of it. -/
structure Rendered where
  elements : List OutputRenderElements
  copies : List (Screencopy × List OutputRenderElements)
  streams : List (VideoStream × List OutputRenderElements)

variable (R : RenderWorld)

/-! ## Elements -/

/-- `session_lock_elements`. -/
def sessionLockElements (output : SmithayOutput) (sessionLock : SessionLock) :
    List OutputRenderElements :=
  match sessionLock.surfaces.find? fun entry => entry.1 = output with
  | some (_, surface) => [.waylandSurface surface]
  | none => []

def outputElements (output : SmithayOutput) (space : Space)
    (customElements : List CustomRenderElements) (showWindowPreview : Bool)
    (sessionLock : Option SessionLock) : List OutputRenderElements :=
  match sessionLock with
  | some sessionLock => sessionLockElements output sessionLock
  | none =>
      customElements.map .custom ++
        (if showWindowPreview then (R.elementsForOutput space output).map .preview else []) ++
        (R.spaceRenderElements space output).map .space

namespace CursorState

/-- The cursor is reset if its surface is no longer alive. -/
def resetDead (s : CursorState) : CursorState :=
  match s.status with
  | .surface surface =>
      if R.surfaceAlive surface then s else s.updateStatus R.theme (.named defaultIcon)
  | _ => s

def hotspot (s : CursorState) : Point :=
  match s.status with
  | .surface surface => R.hotspot surface
  | _ => ⟨0, 0⟩

def renderElements (s : CursorState) (location : Point) : List CustomRenderElements :=
  match s.status with
  | .hidden => []
  | .named _ => s.buffer.toList.map fun buffer => .pointer buffer location
  | .surface surface => [.surface surface location]

end CursorState

/-- The icon of a drag that is still alive. -/
def DndIcon.renderElements (icon : DndIcon) (cursorPos : Point) : List CustomRenderElements :=
  if R.surfaceAlive icon.surface then [.surface icon.surface (cursorPos + icon.offset)] else []

namespace RenderState

def onCursor {α : Type} (x : Except CursorPanic α) : Except RenderPanic α :=
  x.mapError .cursor

/-- The elements at the pointer, if it is on the output. The hotspot is that of the cursor
before it is reset. -/
def pointerElements (s : RenderState) (geometry : Rectangle) :
    Except RenderPanic (RenderState × List CustomRenderElements) :=
  if geometry.contains s.state.pointerLocation then do
    let hotspot := s.cursorState.hotspot R
    let cursorPos : Point :=
      ⟨s.state.pointerLocation.x - geometry.loc.x, s.state.pointerLocation.y - geometry.loc.y⟩
    let cursor ← onCursor ((s.cursorState.resetDead R).setScale R.overflowChecks ⟨1, 1⟩)
    let cursor ← onCursor (cursor.setTime R.now)
    return ({ s with cursorState := cursor },
      cursor.renderElements ⟨cursorPos.x - hotspot.x, cursorPos.y - hotspot.y⟩ ++
        s.dndIcon.elim [] fun icon => icon.renderElements R cursorPos)
  else .ok (s, [])

/-- The screen copies that wait are all taken, and told that they have failed if the frame
has not been rendered. To a copy and to a stream goes what the frame is made of, as
`blit_frame_result` has it from the frame. -/
def renderSurface (s : RenderState) (output : SmithayOutput) (space : Space) :
    Except RenderPanic (RenderState × Option Rendered) := do
  let geometry ← expect (.state .outputGeometry) (space.outputGeometry output)
  let (s, customElements) ← s.pointerElements R geometry
  let elements := outputElements R output space (customElements ++ R.fps.toList.map .fps)
    s.showWindowPreview s.state.sessionLock
  let rendered := { s with screencopyFrames := [] }
  if R.rendersFrame then
    return (rendered, some
      ⟨elements, s.screencopyFrames.map (·, elements), s.videoStreams.map (·, elements)⟩)
  else return (rendered, none)

/-- `render_surface_crtc`, from the output on. -/
def renderSurfaceCrtc (s : RenderState) (output : SmithayOutput) :
    Except RenderPanic (RenderState × Option Rendered) :=
  match s.state.activeSpace output with
  | none => .ok (s, none)
  | some spaceName => do
      let space ← expect (.state .space) (s.state.spaces.get? spaceName)
      s.renderSurface R output space

/-- The drawing of `winit.rs`, of the only output there is. The hotspot is that of the
cursor after it is reset. -/
def renderWindow (s : RenderState) : Except RenderPanic (RenderState × Option Rendered) := do
  let output ← expect (.state .noOutput) s.state.outputs.values.head?
  let cursor := s.cursorState.resetDead R
  let spaceName ← expect (.state .activeSpace) (s.state.activeSpace output)
  let space ← expect (.state .space) (s.state.spaces.get? spaceName)
  let hotspot := cursor.hotspot R
  let location := s.state.pointerLocation
  let customElements := cursor.renderElements ⟨location.x - hotspot.x, location.y - hotspot.y⟩ ++
    (s.dndIcon.elim [] fun icon => icon.renderElements R location) ++ R.fps.toList.map .fps
  let elements := outputElements R output space customElements s.showWindowPreview
    s.state.sessionLock
  let s := { s with cursorState := cursor }
  if R.rendersFrame then return (s, some ⟨elements, [], []⟩) else return (s, none)

end RenderState

end Scape.Display
