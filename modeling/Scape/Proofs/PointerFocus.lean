import Scape.Proofs.PointerConstraints

/-!
# What a motion hands to the pointer

A motion of the pointer comes with what it is moved onto, so that the client there is told
of it. The handler of absolute positions looks that up where the pointer goes. The handler
of relative motions looks it up where the pointer was, since the constraints go by that,
looks it up again where the pointer goes, and hands over the first. So the one motion that
crosses a border goes to the surface that the pointer has left.
-/

namespace Scape.Display.PointerState

open Fallible

variable {s : PointerState} {delta : Position} {grabbed : Bool}

/-- The constraint in force keeps the pointer from moving. -/
def Blocks (s : PointerState) (delta : Position) : Prop :=
  ∃ a, s.applied = some a ∧ (a.constraint.kind = .locked ∨ s.escapes a (s.movedTo delta))

/-- What the handlers of motions hand over is what lies under the new place of the pointer;
and a relative motion is handed over. -/
structure HandsOver (s : PointerState) (delta : Position) : Prop where
  relative : ∃ call, s.relativeCall delta = some call ∧ call.location = s.movedTo delta ∧
    call.under = s.scene.surfaceUnder call.location
  absolute : ∀ transformed call, s.absoluteCall transformed = .ok call →
    call.under = s.scene.surfaceUnder call.location

/-! ## The calls of the handlers -/

theorem onPointerMove_eq :
    s.onPointerMove grabbed delta = (s.relativeCall delta).elim s fun call =>
      (s.motion grabbed call.under call.location).activateAt call.location := by
  rw [onPointerMove, relativeCall]
  cases s.applied with
  | none => rfl
  | some applied =>
      dsimp only
      cases applied.constraint.kind with
      | locked => rfl
      | confined =>
          dsimp only
          split <;> rfl

theorem onPointerMoveAbsolute_eq {transformed : Int → Int → Position} :
    s.onPointerMoveAbsolute grabbed transformed = (do
      let call ← s.absoluteCall transformed
      return s.motion grabbed call.under call.location) := by
  rw [onPointerMoveAbsolute, absoluteCall]
  cases s.absoluteLocation transformed <;> rfl

theorem absoluteCall_under {transformed : Int → Int → Position} {call : MotionCall}
    (h : s.absoluteCall transformed = .ok call) :
    call.under = s.scene.surfaceUnder call.location := by
  obtain ⟨location, -, hcall⟩ := bind_eq_ok_iff.mp h
  cases hcall
  rfl

theorem relativeCall_of_not_blocks (h : ¬ s.Blocks delta) :
    s.relativeCall delta = some ⟨s.scene.surfaceUnder s.location, s.movedTo delta⟩ := by
  rw [relativeCall]
  cases ha : s.applied with
  | none => rfl
  | some applied =>
      have hfree : ¬ (applied.constraint.kind = .locked ∨ s.escapes applied (s.movedTo delta)) :=
        fun hblocks => h ⟨applied, ha, hblocks⟩
      rw [not_or] at hfree
      dsimp only
      cases hkind : applied.constraint.kind with
      | locked => exact absurd hkind hfree.1
      | confined => exact if_neg hfree.2

/-! ## Main result -/

/-- A motion that is not blocked is handed over with what lies under the new place exactly
if the same lies under the old one. -/
theorem handsOver_iff (h : ¬ s.Blocks delta) :
    s.HandsOver delta ↔
      s.scene.surfaceUnder s.location = s.scene.surfaceUnder (s.movedTo delta) := by
  have hcall := relativeCall_of_not_blocks h
  constructor
  · intro hands
    obtain ⟨call, hsome, -, hunder⟩ := hands.relative
    rw [hcall] at hsome
    cases hsome
    exact hunder
  · intro hsame
    exact ⟨⟨_, hcall, rfl, hsame⟩, fun transformed call hok => absoluteCall_under hok⟩

/-! ## A border -/

/-- A window of five by five at a point, which accepts input everywhere. -/
def smallWindow (location geometryLoc : Point) : WindowView where
  window := ⟨0, .wayland ⟨1⟩⟩
  location := location
  ownBbox := ⟨⟨0, 0⟩, 5, 5⟩
  ownGeometry := ⟨geometryLoc, 5, 5⟩
  isSsd := false
  overrideRedirect := false
  underlying := fun _ => some (⟨1⟩, ⟨0, 0⟩)

/-- An output of twenty columns and ten rows with that window. -/
def oneWindow (location geometryLoc : Point) : Scene where
  outputs := [⟨⟨0, "eDP-1", ⟨20, 10⟩⟩, ⟨0, 0⟩, []⟩]
  windows := [smallWindow location geometryLoc]
  xwaylandRunning := false
  layerOf := fun _ => none
  layer_surfaces := by
    intro o ho l hl
    rw [List.mem_singleton.mp ho] at hl
    cases hl
  window_surfaces := fun _ _ _ _ _ => rfl
  layer_unique := by
    intro o ho l hl
    rw [List.mem_singleton.mp ho] at hl
    cases hl

/-- The pointer at a place over it, with the constraint of the window. -/
def overWindow (location geometryLoc : Point) (pointer : Position)
    (constraint : Option PointerConstraint) : PointerState where
  scene := oneWindow location geometryLoc
  x11WlSurface := fun _ => none
  location := pointer
  currentFocus := some (.wlSurface ⟨1⟩)
  constraints := fun _ => constraint

theorem not_blocks_unconstrained (location geometryLoc : Point) (pointer delta : Position) :
    ¬ (overWindow location geometryLoc pointer none).Blocks delta := by
  intro h
  obtain ⟨a, ha, -⟩ := h
  have hnone : (overWindow location geometryLoc pointer none).applied = none := by
    rw [applied]
    cases (overWindow location geometryLoc pointer none).surfaceAt _ <;> rfl
  rw [hnone] at ha
  cases ha

theorem handsOver_inside : (overWindow ⟨0, 0⟩ ⟨0, 0⟩ ⟨1, 1⟩ none).HandsOver ⟨1, 1⟩ :=
  (handsOver_iff (not_blocks_unconstrained ⟨0, 0⟩ ⟨0, 0⟩ ⟨1, 1⟩ ⟨1, 1⟩)).mpr (by decide +kernel)

/-- The pointer leaves the window to the right, and is handed over to it. -/
theorem not_handsOver_leaving :
    ¬ (overWindow ⟨0, 0⟩ ⟨0, 0⟩ ⟨4, 4⟩ none).Blocks ⟨3, 0⟩ ∧
    (overWindow ⟨0, 0⟩ ⟨0, 0⟩ ⟨4, 4⟩ none).relativeCall ⟨3, 0⟩ =
      some ⟨some (.wlSurface ⟨1⟩, ⟨0, 0⟩), ⟨7, 4⟩⟩ ∧
    (oneWindow ⟨0, 0⟩ ⟨0, 0⟩).surfaceUnder ⟨7, 4⟩ = none ∧
    ¬ (overWindow ⟨0, 0⟩ ⟨0, 0⟩ ⟨4, 4⟩ none).HandsOver ⟨3, 0⟩ := by
  have hcall : (overWindow ⟨0, 0⟩ ⟨0, 0⟩ ⟨4, 4⟩ none).relativeCall ⟨3, 0⟩ =
      some ⟨some (.wlSurface ⟨1⟩, ⟨0, 0⟩), ⟨7, 4⟩⟩ := by decide +kernel
  have hnone : (oneWindow ⟨0, 0⟩ ⟨0, 0⟩).surfaceUnder ⟨7, 4⟩ = none := by decide +kernel
  refine ⟨not_blocks_unconstrained _ _ _ _, hcall, hnone, fun h => ?_⟩
  obtain ⟨call, hsome, -, hunder⟩ := h.relative
  rw [hcall] at hsome
  cases hsome
  cases hunder.trans hnone

end Scape.Display.PointerState
