import Scape.Display.Resize
import Scape.Proofs.CommandRoutes
import Scape.Proofs.RequestSafety
import Scape.Proofs.SpaceNames
import Scape.Proofs.ZonePlacement

/-!
# When the display thread survives

A panic of a handler ends the thread, and a handler panics where it unwraps what is not
there. `StepSafe` says of every event what must not be missing: the zone a window is placed
by, what a request of a client needs, an output for the pointer, the space of a surface, a
size within the limits of a window. A command may need something outside as well
(`Compositor.Answered`): a thread to send to, or the backend that has a GPU.

A run ends with a state exactly when each of its steps has what it needs. Some things are
taken for granted: the backend and the seat, with a keyboard and a pointer, are those that
`State::init` has set up, what smithay and the X server are asked for they do (this includes
the clamp of a size to the hints of an X11 window), and no sum overflows.
-/

namespace Scape.Display

open Scape Fallible

namespace State

variable {s t u : State} {W : World} {e : Event} {window : WorkspaceWindow} {name : String}
  {zone : Option String} {surface : WlSurface} {x11 : X11Surface} {left top : Bool}
  {point location : Point}

/-- A window that the pointer resizes has limits that admit a size, if it is alive. -/
def LimitsAdmit (W : World) (s : State) : Prop :=
  ∀ grab, W.pointerGrab = .compositor → s.pointerGrab = some grab →
    W.alive grab.window = true → resizeClamps W grab = false

/-- What the events need that place no window and are none of the requests. -/
def Served (W : World) (s : State) : Event → Prop
  | .input (.pointerMotion _) => W.pointerHeld = false → LimitsAdmit W s
  | .input (.pointerMotionAbsolute _) => s.spaces.first.outputs ≠ [] ∧ LimitsAdmit W s
  | .input (.pointerMotionAbsoluteWindowed outputName _) =>
      (∃ output, s.outputs.values.find? (fun output => output.name = outputName) = some output ∧
        (s.spaces.first.outputLocation output).isSome) ∧ LimitsAdmit W s
  | .input (.tabletTool _) => s.spaces.first.outputs ≠ [] → LimitsAdmit W s
  | .surface (.commit surface) => s.surfaceSpace surface ≠ none
  | .xdg (.requestActivation surface age) => age < 10 → s.surfaceSpace surface ≠ none
  | .action (.changeScale _) | .action (.setScale _) | .action (.rotateOutput _ _) =>
      s.locked = true
  | _ => True

theorem limitsCross_eq_false_iff (lower upper value : Int) :
    limitsCross lower upper = false ↔
      Succeeds (clampI32 value (max lower 1) (if upper = 0 then 2 ^ 31 - 1 else upper)) := by
  rw [limitsCross, decide_eq_false_iff_not, not_lt, clampI32]
  norm_num only
  by_cases h : max lower 1 ≤ if upper = 0 then 2147483647 else upper
  · rw [if_pos h]
    exact iff_of_true h succeeds_ok
  · rw [if_neg h]
    exact iff_of_false h not_succeeds_error

/-- The limits cross exactly if a motion of the grab cannot compute a size (`Resize.lean`). -/
theorem resizeClamps_eq_false_iff {grab : SurfaceGrab} (resize : ResizeGrab)
    (position : Position) :
    resizeClamps W grab = false ↔
      (grab.kind = .resize → Succeeds
        (resize.newSize (W.minSize grab.window) (W.maxSize grab.window) position)) := by
  rw [resizeClamps, Bool.and_eq_false_imp, decide_eq_true_eq, Bool.or_eq_false_iff]
  refine forall_congr' fun _ => ?_
  rw [ResizeGrab.newSize, succeeds_bind]
  rw [limitsCross_eq_false_iff (W.minSize grab.window).1 (W.maxSize grab.window).1
      (ResizeGrab.newLength _ (position - resize.startLocation).x _ _), Succeeds,
    ← exists_and_right]
  refine exists_congr fun width => and_congr_right fun _ => ?_
  rw [succeeds_bind, limitsCross_eq_false_iff]
  exact exists_congr fun height => (and_iff_left succeeds_pure).symm

end State

/-! ## Commands -/

/-- There is a thread that a message for the config thread can go to, if only the one that is
asked to shut down. -/
def Host.Listens (H : Host) : Prop := H.peers.module .config = true ∨ H.peers.main = true

namespace Compositor

variable {W : World} {H : Host} {c d : Compositor} {e : Event} {a : Action}
  {m : DisplayMessage}

/-- A stream gets to the GPU only with the backend that has one. -/
def HasGbm (H : Host) (c : Compositor) : Prop :=
  c.backendData = .udev ∨ (c.pipewire <|> H.newPipewire) = none

/-- What a command needs outside is there. -/
def Answered (W : World) (H : Host) (c : Compositor) : Event → Prop
  | .action (.callback _) => c.state.locked = true ∨ H.Listens
  | .action .startVideoStream => c.state.locked = true ∨ c.HasGbm H
  | .message (.focusOrSpawn appId _ _) => (c.state.focusWindowByAppId W appId).2 = true ∨ H.Listens
  | .message .startVideoStream => c.HasGbm H
  | _ => True

end Compositor

end Scape.Display
