import Scape.Display.Position

/-!
# The size hints of an X11 window

The size an X11 window is configured with should be within its hints. With both there,
the clamp sees to that. With one, the requested size is the other bound: a size that is
too small for the minimum is an upper bound below the lower one, and `clamp` panics over
it instead of raising the size to the minimum.
-/

namespace Scape.Display

open Scape Fallible

variable {minSize maxSize : Option (Int × Int)} {size : Int × Int}

/-- A size is within the hints that are there. -/
structure RespectsHints (minSize maxSize : Option (Int × Int)) (size : Int × Int) : Prop where
  atLeast : ∀ least ∈ minSize, least.1 ≤ size.1 ∧ least.2 ≤ size.2
  atMost : ∀ most ∈ maxSize, size.1 ≤ most.1 ∧ size.2 ≤ most.2

/-- The minimum is not larger than the maximum. -/
def HintsConsistent (minSize maxSize : Option (Int × Int)) : Prop :=
  ∀ least ∈ minSize, ∀ most ∈ maxSize, least.1 ≤ most.1 ∧ least.2 ≤ most.2

/-- The call ends, and what it configures is within the hints, and is the requested size
if that is. -/
structure PositionsWithin (minSize maxSize : Option (Int × Int)) (position : Point)
    (size bounds : Int × Int) (sendConfigure : Bool) : Prop where
  ends : ∃ calls, (WindowSurface.x11 minSize maxSize).position position size bounds
    sendConfigure = .ok calls
  configures : sendConfigure = true → ∃ rect,
    (WindowSurface.x11 minSize maxSize).position position size bounds sendConfigure =
      .ok [.configure rect] ∧
    RespectsHints minSize maxSize (rect.width, rect.height) ∧
    (RespectsHints minSize maxSize size → (rect.width, rect.height) = size)

/-- The bounds that stand in for missing hints are the right way round if nothing is
missing, or the size needs no clamping. -/
theorem bounds_iff (h : HintsConsistent minSize maxSize) :
    ((minSize.getD size).1 ≤ (maxSize.getD size).1 ∧
        (minSize.getD size).2 ≤ (maxSize.getD size).2) ↔
      (minSize.isSome ∧ maxSize.isSome) ∨ RespectsHints minSize maxSize size := by
  cases minSize with
  | none =>
      cases maxSize with
      | none =>
          exact iff_of_true ⟨le_refl _, le_refl _⟩ (.inr ⟨nofun, nofun⟩)
      | some most =>
          rw [or_iff_right (by simp)]
          refine ⟨fun hle => ⟨nofun, fun most' hmost => ?_⟩, fun hle => hle.atMost most rfl⟩
          cases hmost
          exact hle
  | some least =>
      cases maxSize with
      | none =>
          rw [or_iff_right (by simp)]
          refine ⟨fun hle => ⟨fun least' hleast => ?_, nofun⟩, fun hle => hle.atLeast least rfl⟩
          cases hleast
          exact hle
      | some most => exact iff_of_true (h least rfl most rfl) (.inl ⟨rfl, rfl⟩)

/-- Clamped between such bounds a size is within the hints, and as it was if it was. -/
theorem clamped_respects (h : (minSize.getD size).1 ≤ (maxSize.getD size).1 ∧
      (minSize.getD size).2 ≤ (maxSize.getD size).2) {clamped : Int × Int}
    (hclamped : clampSize size (minSize.getD size) (maxSize.getD size) = .ok clamped) :
    RespectsHints minSize maxSize clamped ∧
      (RespectsHints minSize maxSize size → clamped = size) := by
  obtain ⟨-, rfl⟩ := clampSize_eq_ok_iff.mp hclamped
  refine ⟨⟨fun least hleast => ?_, fun most hmost => ?_⟩, fun hsize => ?_⟩
  · rw [Option.mem_def.mp hleast]
    exact ⟨le_max_left _ _, le_max_left _ _⟩
  · rw [Option.mem_def.mp hmost] at h ⊢
    exact ⟨max_le h.1 (min_le_left _ _), max_le h.2 (min_le_left _ _)⟩
  · have hleast : (minSize.getD size).1 ≤ size.1 ∧ (minSize.getD size).2 ≤ size.2 := by
      cases minSize with
      | none => exact ⟨le_refl _, le_refl _⟩
      | some least => exact hsize.atLeast least rfl
    have hmost : size.1 ≤ (maxSize.getD size).1 ∧ size.2 ≤ (maxSize.getD size).2 := by
      cases maxSize with
      | none => exact ⟨le_refl _, le_refl _⟩
      | some most => exact hsize.atMost most rfl
    rw [min_eq_right hmost.1, min_eq_right hmost.2, max_eq_right hleast.1,
      max_eq_right hleast.2]

/-- What is configured is within the hints, and the call ends, exactly if nothing is
configured, both hints are there, or the size was within the hints before. -/
theorem positionsWithin_iff (h : HintsConsistent minSize maxSize) (position : Point)
    (size bounds : Int × Int) (sendConfigure : Bool) :
    PositionsWithin minSize maxSize position size bounds sendConfigure ↔
      sendConfigure = false ∨ (minSize.isSome ∧ maxSize.isSome) ∨
        RespectsHints minSize maxSize size := by
  cases sendConfigure with
  | false =>
      refine iff_of_true ⟨⟨[], rfl⟩, fun hsend => ?_⟩ (.inl rfl)
      cases hsend
  | true =>
      rw [or_iff_right (by simp), ← bounds_iff h]
      have hposition : ∀ calls,
          (WindowSurface.x11 minSize maxSize).position position size bounds true = .ok calls ↔
            ∃ clamped, clampSize size (minSize.getD size) (maxSize.getD size) = .ok clamped ∧
              [.configure ⟨position, clamped.1, clamped.2⟩] = calls := by
        intro calls
        rw [WindowSurface.position, if_pos rfl, bind_eq_ok_iff]
        refine exists_congr fun clamped => and_congr_right fun _ => ?_
        exact ⟨fun hcalls => Except.ok.inj hcalls, fun hcalls => congrArg Except.ok hcalls⟩
      constructor
      · intro hwithin
        obtain ⟨calls, hcalls⟩ := hwithin.ends
        obtain ⟨clamped, hclamped, -⟩ := (hposition calls).mp hcalls
        exact (clampSize_eq_ok_iff.mp hclamped).1
      · intro hbounds
        have hclamped := clampSize_eq_ok_iff.mpr (And.intro hbounds (Eq.refl
          (max (minSize.getD size).1 (min (maxSize.getD size).1 size.1),
            max (minSize.getD size).2 (min (maxSize.getD size).2 size.2))))
        have hcalls := (hposition _).mpr ⟨_, hclamped, rfl⟩
        exact ⟨⟨_, hcalls⟩, fun _ => ⟨_, hcalls, clamped_respects hbounds hclamped⟩⟩

theorem positionsWithin_bothHints :
    PositionsWithin (some (200, 100)) (some (400, 300)) ⟨0, 0⟩ (100, 500) (1920, 1080) true := by
  refine (positionsWithin_iff ?_ ⟨0, 0⟩ (100, 500) (1920, 1080) true).mpr (.inr (.inl ⟨rfl, rfl⟩))
  intro least hleast most hmost
  cases hleast
  cases hmost
  exact ⟨by decide, by decide⟩

/-- A window with a minimum and no maximum is asked to be smaller than that. -/
theorem minimum_clamp :
    HintsConsistent (some (200, 100)) none ∧
    (WindowSurface.x11 (some (200, 100)) none).position ⟨0, 0⟩ (100, 100) (1920, 1080) true =
      .error .clamp :=
  ⟨fun _ _ _ hmost => (by cases hmost), rfl⟩

end Scape.Display
