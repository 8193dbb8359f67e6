import Scape.Display.Resize

/-!
# Positioning the window of a client

`ApplicationWindow::position` tells a client where its window goes and how large it is to
be. A toplevel gets it with its next configure. An X11 window is configured directly, and
its size hints are to be kept: the size is clamped between them, and a hint that is missing
is stood in for by the size itself.
-/

namespace Scape.Display

/-- The surface under an `ApplicationWindow`; an X11 window with the sizes of its normal
hints. -/
inductive WindowSurface where
  | wayland
  | x11 (minSize maxSize : Option (Int × Int))
  deriving DecidableEq, Repr

/-- What `position` has done to the surface. -/
inductive SurfaceCall where
  | withPendingState (bounds size : Int × Int)
  | sendPendingConfigure
  | configure (rect : Rectangle)
  deriving DecidableEq, Repr

/-- `Size::clamp`, one dimension after the other. -/
def clampSize (size lower upper : Int × Int) : Except ResizePanic (Int × Int) := do
  let w ← clampI32 size.1 lower.1 upper.1
  let h ← clampI32 size.2 lower.2 upper.2
  return (w, h)

theorem clampSize_eq_ok_iff {size lower upper clamped : Int × Int} :
    clampSize size lower upper = .ok clamped ↔
      (lower.1 ≤ upper.1 ∧ lower.2 ≤ upper.2) ∧
        clamped = (max lower.1 (min upper.1 size.1), max lower.2 (min upper.2 size.2)) := by
  simp only [clampSize, Fallible.bind_eq_ok_iff, clampI32_eq_ok_iff]
  constructor
  · intro h
    obtain ⟨w, ⟨hw, rfl⟩, l, ⟨hl, rfl⟩, hclamped⟩ := h
    cases hclamped
    exact ⟨⟨hw, hl⟩, rfl⟩
  · intro h
    obtain ⟨⟨hw, hl⟩, rfl⟩ := h
    exact ⟨_, ⟨hw, rfl⟩, _, ⟨hl, rfl⟩, rfl⟩

/-- `ApplicationWindow::position`. -/
def WindowSurface.position (surface : WindowSurface) (position : Point)
    (size bounds : Int × Int) (sendConfigure : Bool) : Except ResizePanic (List SurfaceCall) :=
  match surface with
  | .wayland =>
      .ok (.withPendingState bounds size ::
        if sendConfigure then [.sendPendingConfigure] else [])
  | .x11 minSize maxSize =>
      if sendConfigure then do
        let size ← clampSize size (minSize.getD size) (maxSize.getD size)
        return [.configure ⟨position, size.1, size.2⟩]
      else .ok []

end Scape.Display
