import Scape.Proofs.ResizeLifeCycle

/-!
# The size limits of a resize

A motion of the pointer clamps the size it would have between the limits the client has
committed, with zero for no limit. A maximum below the minimum is not looked for, and
`clamp` panics over it. Otherwise the size is positive and within the limits, wherever
the pointer went and whatever the size was.
-/

namespace Scape.Display

open Scape Fallible

/-- A limit that a client can commit: smithay refuses a negative one. -/
def IsLimit (n : Int) : Prop := 0 ≤ n ∧ n < 2 ^ 31

/-- The limits along one axis admit a length. -/
def Consistent (lower upper : Int) : Prop := upper = 0 ∨ lower ≤ upper

/-- A length that is positive, and within the limits if they admit one. -/
structure LengthWithin (lower upper length : Int) : Prop where
  pos : 1 ≤ length
  atLeast : Consistent lower upper → lower ≤ length
  atMost : Consistent lower upper → upper ≠ 0 → length ≤ upper

/-- The clamp of a motion, along one axis. -/
theorem clampI32_limits_iff {lower upper : Int} (hlower : IsLimit lower)
    (hupper : IsLimit upper) (value : Int) :
    (∃ length, clampI32 value (max lower 1) (if upper = 0 then 2 ^ 31 - 1 else upper) =
        .ok length ∧ LengthWithin lower upper length) ↔ Consistent lower upper := by
  have hbounds : max lower 1 ≤ (if upper = 0 then 2 ^ 31 - 1 else upper) ↔
      Consistent lower upper := by
    unfold IsLimit at hlower hupper
    unfold Consistent
    split <;> omega
  rw [← hbounds]
  constructor
  · intro h
    obtain ⟨length, hok, -⟩ := h
    exact (clampI32_eq_ok_iff.mp hok).1
  · intro h
    refine ⟨_, clampI32_eq_ok_iff.mpr ⟨h, rfl⟩, ?_, fun _ => ?_, fun _ hne => ?_⟩
    · exact le_trans (le_max_right lower 1) (le_max_left _ _)
    · exact le_trans (le_max_left lower 1) (le_max_left _ _)
    · rw [if_neg hne] at h ⊢
      exact max_le h (min_le_left _ _)

/-! ## A motion -/

/-- The limits admit a size. -/
def Toplevel.LimitsConsistent (t : Toplevel) : Prop :=
  Consistent t.minSize.1 t.maxSize.1 ∧ Consistent t.minSize.2 t.maxSize.2

/-- A size that is positive, and within the limits of a toplevel. -/
def Toplevel.SizeWithin (t : Toplevel) (size : Int × Int) : Prop :=
  LengthWithin t.minSize.1 t.maxSize.1 size.1 ∧ LengthWithin t.minSize.2 t.maxSize.2 size.2

theorem ResizeGrab.newSize_within_iff (grab : ResizeGrab) (location : Position)
    {t : Toplevel} (hmin : IsLimit t.minSize.1 ∧ IsLimit t.minSize.2)
    (hmax : IsLimit t.maxSize.1 ∧ IsLimit t.maxSize.2) :
    (∃ size, grab.newSize t.minSize t.maxSize location = .ok size ∧ t.SizeWithin size) ↔
      t.LimitsConsistent := by
  have hwidth := clampI32_limits_iff hmin.1 hmax.1
    (newLength grab.initialWindowSize.1 (location - grab.startLocation).x grab.edges.left
      grab.edges.right)
  have hheight := clampI32_limits_iff hmin.2 hmax.2
    (newLength grab.initialWindowSize.2 (location - grab.startLocation).y grab.edges.top
      grab.edges.bottom)
  rw [Toplevel.LimitsConsistent, ← hwidth, ← hheight]
  simp only [ResizeGrab.newSize, bind_eq_ok_iff]
  constructor
  · intro h
    obtain ⟨size, ⟨width, hw, height, hh, hsize⟩, hwithin⟩ := h
    cases hsize
    exact ⟨⟨width, hw, hwithin.1⟩, height, hh, hwithin.2⟩
  · intro h
    obtain ⟨⟨width, hw, hwidth⟩, height, hh, hheight⟩ := h
    exact ⟨(width, height), ⟨width, hw, height, hh, rfl⟩, hwidth, hheight⟩

namespace Toplevel

variable {t u : Toplevel} {grab : ResizeGrab}

theorem sendPendingConfigure_grab : t.sendPendingConfigure.grab = t.grab := by
  rw [sendPendingConfigure]
  split <;> rfl

/-- A motion ends, and the size it asked for is within the limits if the window is still
there. -/
structure MotionWithin (t : Toplevel) (alive mapped : Bool) (location : Position) : Prop where
  ends : ∃ u, t.motion alive mapped location = .ok u
  within : ∀ u, t.motion alive mapped location = .ok u → alive →
    ∃ grab, u.grab = some grab ∧ t.SizeWithin grab.lastWindowSize

theorem resize_grab {size : Int × Int} : (t.resize size).grab = t.grab :=
  sendPendingConfigure_grab

/-- The grab once a motion has computed a size. -/
def resized (t : Toplevel) (grab : ResizeGrab) (mapped : Bool) (size : Int × Int) : Toplevel :=
  if mapped then
    ({ t with grab := some { grab with lastWindowSize := size } } : Toplevel).resize size
  else { t with grab := some { grab with lastWindowSize := size } }

theorem resized_grab {mapped : Bool} {size : Int × Int} :
    (t.resized grab mapped size).grab = some { grab with lastWindowSize := size } := by
  rw [resized]
  split
  · exact resize_grab
  · rfl

/-- A motion while the window is there. -/
theorem motion_alive_iff (hgrab : t.grab = some grab) (htouch : grab.touch = false)
    (mapped : Bool) (location : Position) :
    t.motion true mapped location = .ok u ↔
      ∃ size, grab.newSize t.minSize t.maxSize location = .ok size ∧
        t.resized grab mapped size = u := by
  rw [motion, hgrab]
  dsimp only
  rw [if_neg (by simp [htouch]), if_neg (by simp), bind_eq_ok_iff]
  refine exists_congr fun size => and_congr_right fun _ => ?_
  exact ⟨fun h => Except.ok.inj h, fun h => congrArg Except.ok h⟩

/-- A motion is safe exactly if the window is gone or the limits admit a size. -/
theorem motionWithin_iff (hgrab : t.grab = some grab) (htouch : grab.touch = false)
    (hmin : IsLimit t.minSize.1 ∧ IsLimit t.minSize.2)
    (hmax : IsLimit t.maxSize.1 ∧ IsLimit t.maxSize.2) (alive mapped : Bool)
    (location : Position) :
    t.MotionWithin alive mapped location ↔ alive = false ∨ t.LimitsConsistent := by
  cases alive with
  | false =>
      have hends : t.motion false mapped location = .ok { t with grab := none } := by
        rw [motion, hgrab]
        dsimp only
        rw [if_neg (by simp [htouch]), if_pos (by simp)]
      exact iff_of_true ⟨⟨_, hends⟩, fun u _ halive => absurd halive (by simp)⟩ (.inl rfl)
  | true =>
      rw [or_iff_right (by simp),
        ← ResizeGrab.newSize_within_iff grab location hmin hmax]
      constructor
      · intro h
        obtain ⟨u, hu⟩ := h.ends
        obtain ⟨grab', hgrab', hwithin⟩ := h.within u hu rfl
        obtain ⟨size, hsize, rfl⟩ := (motion_alive_iff hgrab htouch mapped location).mp hu
        rw [resized_grab, Option.some.injEq] at hgrab'
        rw [← hgrab'] at hwithin
        exact ⟨size, hsize, hwithin⟩
      · intro h
        obtain ⟨size, hsize, hwithin⟩ := h
        refine ⟨⟨_, (motion_alive_iff hgrab htouch mapped location).mpr ⟨size, hsize, rfl⟩⟩,
          fun u hu _ => ?_⟩
        obtain ⟨size', hsize', rfl⟩ := (motion_alive_iff hgrab htouch mapped location).mp hu
        obtain rfl : size = size' := Except.ok.inj (hsize.symm.trans hsize')
        exact ⟨_, resized_grab, hwithin⟩

/-- A window of 200 by 100 that is resized by its right edge. -/
def rightGrab : ResizeGrab :=
  ⟨false, ⟨200, 50⟩, ⟨false, false, false, true⟩, ⟨0, 0⟩, (200, 100), (200, 100)⟩

theorem motionWithin_rightGrab :
    ({ opened with minSize := (100, 0), maxSize := (300, 0), grab := some rightGrab } :
      Toplevel).MotionWithin true true ⟨500, 50⟩ := by
  refine (motionWithin_iff rfl rfl ⟨⟨by decide, by decide⟩, by decide, by decide⟩
    ⟨⟨by decide, by decide⟩, by decide, by decide⟩ true true ⟨500, 50⟩).mpr (.inr ?_)
  exact ⟨.inr (by decide), .inl rfl⟩

/-- The client commits a minimum above its maximum, and resizes its window. -/
theorem inverted_clamp :
    run step opened
      (shown ++ [.commit ⟨(200, 100), (300, 0), (200, 0), none, true, true⟩,
        .resizeRequest none (some ⟨⟨200, 50⟩, true⟩) true ⟨false, false, false, true⟩,
        .motion true true ⟨210, 50⟩]) = .error .clamp := rfl

end Toplevel

end Scape.Display
