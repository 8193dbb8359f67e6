import Scape.Display.Scene
import Scape.Lib.Fallible

/-!
# Pointer constraints

A client may lock the pointer to where it is or confine it to a surface, or to a region of
one. smithay keeps a constraint for each surface and says whether it is active; whether the
pointer obeys is up to the handlers of `input_handler.rs` that move it. These are here over
a scene, with the location of the pointer and what it has last entered.

Pointer events do not change the scene. A grab may keep the pointer from entering what it
is moved to, so every event comes with whether one does.
-/

namespace Scape.Display

open Fallible

inductive ConstraintKind where
  | locked
  | confined
  deriving DecidableEq, Repr

structure PointerConstraint where
  kind : ConstraintKind
  /-- in the coordinates of the surface -/
  region : Option (Point → Bool)
  isActive : Bool

/-- Whether a position relative to the surface is in the region. -/
def PointerConstraint.admits (c : PointerConstraint) (position : Position) : Bool :=
  c.region.all fun contains => contains position.toI32Round

/-- A constraint in force: on the surface that begins at the origin. -/
structure Applied where
  surface : WlSurface
  origin : Position
  constraint : PointerConstraint

structure PointerState where
  scene : Scene
  /-- the Wayland surface of an X11 surface -/
  x11WlSurface : X11Surface → Option WlSurface
  location : Position
  currentFocus : Option PointerFocusTarget
  constraints : WlSurface → Option PointerConstraint

namespace PointerState

/-- `WaylandFocus::wl_surface`. -/
def wlSurface (s : PointerState) : PointerFocusTarget → Option WlSurface
  | .wlSurface surface => some surface
  | .x11Surface surface => s.x11WlSurface surface
  | .ssd _ => none
  | .egui _ => none

/-- The surface under a position, and where it begins. -/
def surfaceAt (s : PointerState) (pos : Position) : Option (WlSurface × Position) :=
  (s.scene.surfaceUnder pos).bind fun hit =>
    (s.wlSurface hit.1).map fun surface => (surface, hit.2)

/-- The active constraint of the surface under the pointer, if the pointer is in its
region. -/
def applied (s : PointerState) : Option Applied :=
  (s.surfaceAt s.location).bind fun under =>
    ((s.constraints under.1).filter fun c =>
      c.isActive && c.admits (s.location - under.2)).map fun c => ⟨under.1, under.2, c⟩

def setConstraint (s : PointerState) (surface : WlSurface) (c : PointerConstraint) :
    PointerState :=
  { s with constraints := Function.update s.constraints surface (some c) }

/-- What smithay does when the pointer enters a target: a constraint on the surface it
leaves is not active any more. -/
def enter (s : PointerState) (target : Option PointerFocusTarget) : PointerState :=
  let s' := { s with currentFocus := target }
  match s.currentFocus.bind s.wlSurface with
  | none => s'
  | some left =>
      if target.bind s.wlSurface = some left then s'
      else
        match s.constraints left with
        | none => s'
        | some c => s'.setConstraint left { c with isActive := false }

/-- `pointer.motion`. -/
def motion (s : PointerState) (grabbed : Bool) (under : Option (PointerFocusTarget × Position))
    (location : Position) : PointerState :=
  let s := { s with location }
  if grabbed then s else s.enter (under.map Prod.fst)

/-- The end of `on_pointer_move`: a constraint the pointer has come into is activated. -/
def activateAt (s : PointerState) (location : Position) : PointerState :=
  match s.surfaceAt location with
  | none => s
  | some (surface, origin) =>
      match s.constraints surface with
      | none => s
      | some c =>
          if !c.isActive && c.admits (location - origin) then
            s.setConstraint surface { c with isActive := true }
          else s

/-- Whether a confined pointer is kept from going to a location. -/
def escapes (s : PointerState) (confined : Applied) (location : Position) : Bool :=
  (s.surfaceAt location).map Prod.fst ≠ some confined.surface ||
    !confined.constraint.admits (location - confined.origin)

/-- The part of `on_pointer_move` that moves the pointer. The pointer is told to be over
what was under it before. -/
def moveBy (s : PointerState) (grabbed : Bool) (location : Position) : PointerState :=
  (s.motion grabbed (s.scene.surfaceUnder s.location) location).activateAt location

def onPointerMove (s : PointerState) (grabbed : Bool) (delta : Position) : PointerState :=
  let location := s.scene.clampCoords (s.location + delta)
  match s.applied with
  | none => s.moveBy grabbed location
  | some applied =>
      match applied.constraint.kind with
      | .locked => s
      | .confined => if s.escapes applied location then s else s.moveBy grabbed location

/-- What `pointer.motion` is called with: the focus, and where the pointer goes. -/
structure MotionCall where
  under : Option (PointerFocusTarget × Position)
  location : Position
  deriving DecidableEq

/-- The call of `on_pointer_move`, unless the constraint keeps the pointer where it is. -/
def relativeCall (s : PointerState) (delta : Position) : Option MotionCall :=
  let location := s.scene.clampCoords (s.location + delta)
  let call : MotionCall := ⟨s.scene.surfaceUnder s.location, location⟩
  match s.applied with
  | none => some call
  | some applied =>
      match applied.constraint.kind with
      | .locked => none
      | .confined => if s.escapes applied location then none else some call

/-- The part the other handlers share. None of them looks at the constraints. -/
def moveTo (s : PointerState) (grabbed : Bool) (location : Position) : PointerState :=
  s.motion grabbed (s.scene.surfaceUnder location) location

/-- Where an absolute position comes to lie: all outputs side by side, with the height of
the highest. -/
def absoluteLocation (s : PointerState) (transformed : Int → Int → Position) :
    Except Panic Position :=
  match s.scene.outputs with
  | [] => .error .noOutput
  | o :: outputs =>
      let maxY := outputs.foldl (fun h o => max h o.output.mode.height) o.output.mode.height
      .ok (s.scene.clampCoords (transformed s.scene.totalWidth maxY))

/-- The call of `on_pointer_move_absolute`. -/
def absoluteCall (s : PointerState) (transformed : Int → Int → Position) :
    Except Panic MotionCall := do
  let location ← s.absoluteLocation transformed
  return ⟨s.scene.surfaceUnder location, location⟩

def onPointerMoveAbsolute (s : PointerState) (grabbed : Bool)
    (transformed : Int → Int → Position) : Except Panic PointerState := do
  let location ← s.absoluteLocation transformed
  return s.moveTo grabbed location

/-- A position on an output. -/
def outputLocation (o : OutputView) (transformed : Int → Int → Position) : Position :=
  transformed o.output.mode.width o.output.mode.height + o.location.toF64

def windowedLocation (s : PointerState) (output : SmithayOutput)
    (transformed : Int → Int → Position) : Except Panic Position := do
  let o ← expect .outputGeometry (s.scene.outputs.find? fun o => o.output = output)
  return outputLocation o transformed

def onPointerMoveAbsoluteWindowed (s : PointerState) (grabbed : Bool) (output : SmithayOutput)
    (transformed : Int → Int → Position) : Except Panic PointerState := do
  let location ← s.windowedLocation output transformed
  return s.moveTo grabbed location

/-- `on_tablet_tool_axis`, for the pointer. -/
def onTabletToolAxis (s : PointerState) (grabbed : Bool)
    (transformed : Int → Int → Position) : PointerState :=
  match s.scene.outputs.head? with
  | none => s
  | some o => s.moveTo grabbed (outputLocation o transformed)

/-- `on_tablet_tool_proximity`, for the pointer. -/
def onTabletToolProximity (s : PointerState) (grabbed : Bool)
    (transformed : Int → Int → Position) : PointerState :=
  match s.scene.outputs.head? with
  | none => s
  | some o => s.moveTo grabbed (outputLocation o transformed)

/-- `PointerConstraintsHandler::new_constraint`. -/
def newConstraint (s : PointerState) (surface : WlSurface) (kind : ConstraintKind)
    (region : Option (Point → Bool)) : PointerState :=
  s.setConstraint surface
    ⟨kind, region, s.currentFocus.bind s.wlSurface = some surface⟩

/-- The root surface of a window. -/
def windowSurface (s : PointerState) (window : WorkspaceWindow) : Option WlSurface :=
  match window.kind with
  | .wayland surface => some surface
  | .x11 surface => s.x11WlSurface surface
  | .egui => none

/-- `window_and_space_for_surface`, as far as the window. -/
def windowForSurface (s : PointerState) (surface : WlSurface) : Option WindowView :=
  s.scene.windows.find? fun w => s.windowSurface w.window = some surface

/-- `PointerConstraintsHandler::cursor_position_hint`. -/
def cursorPositionHint (s : PointerState) (surface : WlSurface) (location : Position) :
    PointerState :=
  if (s.constraints surface).any PointerConstraint.isActive then
    match s.windowForSurface surface with
    | some w => { s with location := w.geometry.loc.toF64 + location }
    | none => s
  else s

end PointerState

/-! ## Steps -/

/-- What a device reports. An absolute position is a function of the size it is scaled
to. -/
inductive PointerEvent where
  | relative (delta : Position)
  | absolute (transformed : Int → Int → Position)
  | absoluteWindowed (output : SmithayOutput) (transformed : Int → Int → Position)
  | tabletAxis (transformed : Int → Int → Position)
  | tabletProximity (transformed : Int → Int → Position)
  | newConstraint (surface : WlSurface) (kind : ConstraintKind)
      (region : Option (Point → Bool))

namespace PointerState

/-- An event, with whether the pointer is grabbed. -/
def step (s : PointerState) (i : Bool × PointerEvent) : Except Panic PointerState :=
  match i.2 with
  | .relative delta => .ok (s.onPointerMove i.1 delta)
  | .absolute transformed => s.onPointerMoveAbsolute i.1 transformed
  | .absoluteWindowed output transformed =>
      s.onPointerMoveAbsoluteWindowed i.1 output transformed
  | .tabletAxis transformed => .ok (s.onTabletToolAxis i.1 transformed)
  | .tabletProximity transformed => .ok (s.onTabletToolProximity i.1 transformed)
  | .newConstraint surface kind region => .ok (s.newConstraint surface kind region)

end PointerState

end Scape.Display
