import Scape.Display.State
import Scape.Lib.Topmost
import Mathlib.Data.Rat.Floor

/-!
# What lies where on the screen

`Scene` is the first space as the hit tests of `input_handler.rs` see it: its outputs,
each with the layer surfaces of its layer map, and its windows, all with the shapes
their clients gave them. Three systems of coordinates meet here. Outputs and windows lie
in the space, layer surfaces lie on their output, and what a client draws lies in its
surface.

A pointer may be between two pixels, so positions are rational, and rounded as
`f64::round` does it. What a client accepts input in is a function of the position in
its own coordinates, with the surface below it and where that begins.

The laws say whose a surface is: a layer surface's, or a window's, and of which. A layer
surface is in one layer map, once.
-/

namespace Scape.Display

/-- `Point<f64, Logical>`. -/
structure Position where
  x : ℚ
  y : ℚ
  deriving DecidableEq

namespace Position

@[ext] theorem ext {p q : Position} (hx : p.x = q.x) (hy : p.y = q.y) : p = q := by
  cases p
  cases q
  cases hx
  cases hy
  rfl

instance : Add Position := ⟨fun p q => ⟨p.x + q.x, p.y + q.y⟩⟩

instance : Sub Position := ⟨fun p q => ⟨p.x - q.x, p.y - q.y⟩⟩

@[simp] theorem add_x (p q : Position) : (p + q).x = p.x + q.x := rfl

@[simp] theorem add_y (p q : Position) : (p + q).y = p.y + q.y := rfl

@[simp] theorem sub_x (p q : Position) : (p - q).x = p.x - q.x := rfl

@[simp] theorem sub_y (p q : Position) : (p - q).y = p.y - q.y := rfl

end Position

def Point.toF64 (p : Point) : Position := ⟨p.x, p.y⟩

@[simp] theorem Point.toF64_x (p : Point) : p.toF64.x = p.x := rfl

@[simp] theorem Point.toF64_y (p : Point) : p.toF64.y = p.y := rfl

@[ext] theorem Point.ext {p q : Point} (hx : p.x = q.x) (hy : p.y = q.y) : p = q := by
  cases p
  cases q
  cases hx
  cases hy
  rfl

theorem Point.toF64_injective : Function.Injective Point.toF64 := by
  intro p q h
  simp only [Point.toF64, Position.mk.injEq, Int.cast_inj] at h
  exact Point.ext h.1 h.2

@[simp] theorem Point.add_x (p q : Point) : (p + q).x = p.x + q.x := rfl

@[simp] theorem Point.add_y (p q : Point) : (p + q).y = p.y + q.y := rfl

instance : Sub Point := ⟨fun p q => ⟨p.x - q.x, p.y - q.y⟩⟩

@[simp] theorem Point.sub_x (p q : Point) : (p - q).x = p.x - q.x := rfl

@[simp] theorem Point.sub_y (p q : Point) : (p - q).y = p.y - q.y := rfl

/-- `f64::round`, half way cases away from zero. -/
def round (q : ℚ) : ℤ := if 0 ≤ q then ⌊q + 1 / 2⌋ else ⌈q - 1 / 2⌉

/-- `to_i32_round`. -/
def Position.toI32Round (p : Position) : Point := ⟨round p.x, round p.y⟩

/-- `to_f64().contains`. -/
def Rectangle.containsF64 (r : Rectangle) (p : Position) : Bool :=
  r.loc.x ≤ p.x && p.x < r.loc.x + r.width && r.loc.y ≤ p.y && p.y < r.loc.y + r.height

/-- `HEADER_BAR_HEIGHT`. -/
def headerBarHeight : Int := 0

/-! ## Windows -/

/-- A window in a space. For an application window, `underlying` is `surface_under` of
smithay's window, and `ownBbox` and `ownGeometry` are that window's; an egui window has
its area for both. -/
structure WindowView where
  window : WorkspaceWindow
  location : Point
  ownBbox : Rectangle
  ownGeometry : Rectangle
  isSsd : Bool
  overrideRedirect : Bool
  underlying : Position → Option (WlSurface × Point)

namespace WindowView

def decorated (w : WindowView) (r : Rectangle) : Rectangle :=
  if w.isSsd then { r with height := r.height + headerBarHeight } else r

def bbox (w : WindowView) : Rectangle := w.decorated w.ownBbox

def geometry (w : WindowView) : Rectangle := w.decorated w.ownGeometry

/-- Where the space draws a window. -/
def renderLocation (w : WindowView) : Point := w.location - w.geometry.loc

/-- `ApplicationWindow::is_in_input_region`. -/
def inInputRegion (w : WindowView) (point : Position) : Bool :=
  if w.isSsd then
    point.y < headerBarHeight ||
      (w.underlying (point - (⟨0, headerBarHeight⟩ : Point).toF64)).isSome
  else (w.underlying point).isSome

def isInInputRegion (w : WindowView) (point : Position) : Bool :=
  match w.window.kind with
  | .egui => w.geometry.contains point.toI32Round
  | _ => w.inInputRegion point

/-- `ApplicationWindow::surface_under`, with the target of a surface. -/
def surfaceUnderWith (w : WindowView) (target : WlSurface → PointerFocusTarget)
    (location : Position) : Option (PointerFocusTarget × Point) :=
  if w.isSsd && location.y < headerBarHeight then some (.ssd w.window, ⟨0, 0⟩)
  else
    let offset : Point := if w.isSsd then ⟨0, headerBarHeight⟩ else ⟨0, 0⟩
    (w.underlying (location - offset.toF64)).map fun hit => (target hit.1, hit.2 + offset)

def surfaceUnder (w : WindowView) (location : Position) :
    Option (PointerFocusTarget × Point) :=
  match w.window.kind with
  | .wayland _ => w.surfaceUnderWith .wlSurface location
  | .x11 surface => w.surfaceUnderWith (fun _ => .x11Surface surface) location
  | .egui => none

/-- The test of `Space::element_under`. -/
def covers (w : WindowView) (pos : Position) : Bool :=
  ({ w.bbox with loc := w.bbox.loc + w.renderLocation } : Rectangle).containsF64 pos &&
    w.isInInputRegion (pos - w.renderLocation.toF64)

/-- The surface of the window under a position of the space, and where it begins. -/
def focus (w : WindowView) (pos : Position) : Option (PointerFocusTarget × Point) :=
  (w.surfaceUnder (pos - w.renderLocation.toF64)).map fun hit =>
    (hit.1, hit.2 + w.renderLocation)

end WindowView

/-! ## Outputs and layers -/

/-- A layer surface in a layer map, with its place on the output. -/
structure LayerView where
  surface : LayerSurface
  layer : Layer
  geometry : Rectangle
  /-- the box of the surface and its popups -/
  bbox : Rectangle
  canReceiveKeyboardFocus : Bool
  surfaceUnder : Position → Option (WlSurface × Point)

structure OutputView where
  output : SmithayOutput
  location : Point
  /-- the topmost of a layer is the last -/
  layers : List LayerView

namespace OutputView

def geometry (o : OutputView) : Rectangle :=
  ⟨o.location, o.output.mode.width, o.output.mode.height⟩

/-- The layer surfaces on a layer, from the top. -/
def layersOn (o : OutputView) (layer : Layer) : List LayerView :=
  o.layers.reverse.filter fun l => l.layer = layer

/-- `LayerMap::layer_under`, which takes a position on the output. -/
def layerUnder (o : OutputView) (layer : Layer) (point : Position) : Option LayerView :=
  (o.layersOn layer).find? fun l => l.bbox.containsF64 point

/-- The layer surface that is asked on one of two layers. -/
def candidate (o : OutputView) (upper lower : Layer) (pos : Position) : Option LayerView :=
  (o.layerUnder upper pos).or (o.layerUnder lower pos)

/-- The surface of a layer surface under a position of the space. -/
def treeUnder (o : OutputView) (pos : Position) (l : LayerView) : Option (WlSurface × Point) :=
  l.surfaceUnder (pos - o.location.toF64 - l.geometry.loc.toF64)

def layerHit (o : OutputView) (pos : Position) (l : LayerView) :
    Option (PointerFocusTarget × Point) :=
  (o.treeUnder pos l).map fun hit => (.wlSurface hit.1, hit.2 + l.geometry.loc + o.location)

def focusable (o : OutputView) (pos : Position) (l : LayerView) : Bool :=
  l.canReceiveKeyboardFocus && (o.treeUnder pos l).isSome

end OutputView

/-! ## The scene -/

structure Scene where
  outputs : List OutputView
  /-- the topmost last -/
  windows : List WindowView
  /-- whether `xwayland_state` is there -/
  xwaylandRunning : Bool
  layerOf : WlSurface → Option LayerSurface
  layer_surfaces : ∀ o ∈ outputs, ∀ l ∈ o.layers, ∀ p hit, l.surfaceUnder p = some hit →
    layerOf hit.1 = some l.surface
  window_surfaces : ∀ w ∈ windows, ∀ p hit, w.underlying p = some hit → layerOf hit.1 = none
  layer_unique : ∀ o ∈ outputs, ∀ l ∈ o.layers, ∀ o' ∈ outputs, ∀ l' ∈ o'.layers,
    l.surface = l'.surface → o = o' ∧ l = l'

/-- What a press does to the keyboard's focus. -/
inductive FocusUpdate where
  | unchanged
  | raised (window : WorkspaceWindow)
  | focused (target : KeyboardFocusTarget)
  deriving DecidableEq

namespace Scene

def outputOf (scene : Scene) (pos : Position) : Option OutputView :=
  scene.outputs.find? fun o => o.geometry.contains pos.toI32Round

/-- `Space::element_under`. -/
def elementUnder (scene : Scene) (pos : Position) : Option WindowView :=
  scene.windows.reverse.find? fun w => w.covers pos

/-- Both layer look-ups of `surface_under` are given the position as it is. -/
def focusUnder (scene : Scene) (pos : Position) : Option (PointerFocusTarget × Point) :=
  (scene.outputOf pos).bind fun o =>
    ((o.candidate .overlay .top pos).bind (o.layerHit pos)).or
      (((scene.elementUnder pos).bind (·.focus pos)).or
        ((o.candidate .bottom .background pos).bind (o.layerHit pos)))

def surfaceUnder (scene : Scene) (pos : Position) : Option (PointerFocusTarget × Position) :=
  (scene.focusUnder pos).map fun hit => (hit.1, hit.2.toF64)

/-- `Space::output_under`, as far as its first. -/
def outputUnder (scene : Scene) (pos : Position) : Option OutputView :=
  scene.outputs.reverse.find? fun o => o.geometry.containsF64 pos

def focusableLayer (scene : Scene) (upper lower : Layer) (pos : Position) :
    Option LayerView :=
  (scene.outputUnder pos).bind fun o =>
    (o.candidate upper lower pos).filter (o.focusable pos)

def focusWindow (scene : Scene) (w : WindowView) : FocusUpdate :=
  match w.window.kind with
  | .x11 _ =>
      if w.overrideRedirect then .unchanged
      else if scene.xwaylandRunning then .focused (.window w.window)
      else .raised w.window
  | _ => .focused (.window w.window)

/-- `update_keyboard_focus`, when nothing is grabbed. -/
def updateKeyboardFocus (scene : Scene) (pos : Position) : FocusUpdate :=
  match scene.focusableLayer .overlay .top pos with
  | some l => .focused (.layerSurface l.surface)
  | none =>
      match scene.elementUnder pos with
      | some w => scene.focusWindow w
      | none =>
          match scene.focusableLayer .bottom .background pos with
          | some l => .focused (.layerSurface l.surface)
          | none => .unchanged

/-! ## Screen limits -/

def totalWidth (scene : Scene) : Int :=
  (scene.outputs.map fun o => o.output.mode.width).sum

/-- `f64::clamp`. -/
def clamp (q low high : ℚ) : ℚ := if q < low then low else if high < q then high else q

def clampCoords (scene : Scene) (pos : Position) : Position :=
  if scene.outputs.isEmpty then pos
  else
    let clampedX := clamp pos.x 0 scene.totalWidth
    -- a cast to an integer type cuts the fraction off
    let column : Int := if 0 ≤ clampedX then ⌊clampedX⌋ else ⌈clampedX⌉
    match scene.outputs.find? fun o => o.geometry.contains ⟨column, 0⟩ with
    | some o => ⟨clampedX, clamp pos.y 0 o.output.mode.height⟩
    | none => ⟨clampedX, pos.y⟩

end Scene

end Scape.Display
