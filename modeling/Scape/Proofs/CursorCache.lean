import Scape.Display.Cursor

/-!
# The images that a cursor keeps

`set_scale` looks for the images of the icon that are nearest in size only if the icon or
the scale has changed, which a flag stands for. The flag is set too while there is no icon,
and whatever brings an icon back clears it. So with the flag set the images are always
those of the icon at the scale there is.

What is kept with them as the sum of their delays is that sum if it fits into a `u32`. In a
build that does not check for overflow it may be less.
-/

namespace Scape.Display.CursorState

open Fallible

variable {T : CursorTheme} {overflowChecks : Bool} {s t : CursorState} {scale : Scale}
  {call : CursorCall} {icon : CursorIcon}

/-- What is kept for an icon belongs to the icon and to the scale. -/
def CacheFresh (overflowChecks : Bool) (s : CursorState) : Prop :=
  ∀ icon, s.status = .named icon → s.nearestImagesLoaded = true →
    ∃ images, s.images icon = some images ∧
      Display.nearestImages overflowChecks s.nominalSize images = .ok s.nearestImages ∧
      s.totalDelay.toNat = delays s.nearestImages

/-- What a call looks for the nearest images of: a nominal size, and the images. -/
def lookUp (s : CursorState) : CursorCall → Option (UInt32 × List Image)
  | .setScale scale =>
      if s.nearestImagesLoaded = true ∧ s.scale = scale then none
      else
        match s.status with
        | .named icon => (s.images icon).map fun images => ({ s with scale }.nominalSize, images)
        | _ => none
  | _ => none

/-- The delays of the images that a call finds fit into a `u32`, or the build checks. -/
def DelaysFit (overflowChecks : Bool) (s : CursorState) (call : CursorCall) : Prop :=
  ∀ size images nearest, s.lookUp call = some (size, images) →
    Display.nearestImages overflowChecks size images = .ok nearest →
    overflowChecks = true ∨ delays nearest < 2 ^ 32

/-! ## The calls -/

/-- With the flag set and the scale as it is nothing is looked for. -/
theorem setScale_eq : s.setScale overflowChecks scale =
    if s.nearestImagesLoaded = true ∧ s.scale = scale then .ok s
    else ({ s with scale } : CursorState).loadNearest overflowChecks := by
  rw [setScale]
  by_cases hscale : s.scale = scale
  · have hsame : ({ s with scale } : CursorState) = s := by rw [← hscale]
    rw [hsame]
    simp only [hscale, if_true, and_true]
  · simp only [hscale, and_false, if_false, Bool.false_eq_true]
    rw [loadNearest, loadNearest]
    cases s.status <;> rfl

theorem loadNearest_named (h : s.status = .named icon) :
    s.loadNearest overflowChecks = .ok t ↔
      ∃ images nearest total, s.images icon = some images ∧
        Display.nearestImages overflowChecks s.nominalSize images = .ok nearest ∧
        sumDelays overflowChecks nearest = .ok total ∧
        t = { s with
          nearestImages := nearest, totalDelay := total, nearestImagesLoaded := true } := by
  rw [loadNearest, h]
  simp only [bind_eq_ok_iff, expect_eq_ok_iff]
  constructor
  · intro hok
    obtain ⟨images, himages, nearest, hnearest, total, htotal, ht⟩ := hok
    cases ht
    exact ⟨images, nearest, total, himages, hnearest, htotal, rfl⟩
  · intro hok
    obtain ⟨images, nearest, total, himages, hnearest, htotal, rfl⟩ := hok
    exact ⟨images, himages, nearest, hnearest, total, htotal, rfl⟩

theorem loadNearest_other (h : ∀ icon, s.status ≠ .named icon) :
    s.loadNearest overflowChecks = .ok { s with nearestImagesLoaded := true } := by
  rw [loadNearest]
  cases hs : s.status with
  | named icon => exact absurd hs (h icon)
  | hidden => rfl
  | surface surface => rfl

/-- The time and what is shown at it are no part of the cache. -/
theorem setTime_cache {time : Duration} (h : s.setTime time = .ok t) :
    t.status = s.status ∧ t.images = s.images ∧ t.nominalSize = s.nominalSize ∧
      t.nearestImagesLoaded = s.nearestImagesLoaded ∧ t.nearestImages = s.nearestImages ∧
      t.totalDelay = s.totalDelay := by
  have hshow : ∀ (s : CursorState) (image : Image),
      (s.showImage image).status = s.status ∧ (s.showImage image).images = s.images ∧
        (s.showImage image).nominalSize = s.nominalSize ∧
        (s.showImage image).nearestImagesLoaded = s.nearestImagesLoaded ∧
        (s.showImage image).nearestImages = s.nearestImages ∧
        (s.showImage image).totalDelay = s.totalDelay := by
    intro s image
    rw [showImage]
    split <;> exact ⟨rfl, rfl, rfl, rfl, rfl, rfl⟩
  rw [setTime] at h
  split at h
  · split at h
    · cases h
    · obtain ⟨image, -, ht⟩ := bind_eq_ok_iff.mp h
      cases ht
      exact hshow { s with time } image
  · cases h
    exact ⟨rfl, rfl, rfl, rfl, rfl, rfl⟩

/-- The images of the icon are found, and their sum. -/
theorem setScale_of_found (hlooks : ¬ (s.nearestImagesLoaded = true ∧ s.scale = scale))
    (hicon : s.status = .named icon) {images nearest : List Image} {total : UInt32}
    (himages : s.images icon = some images)
    (hnearest : Display.nearestImages overflowChecks { s with scale }.nominalSize images =
      .ok nearest)
    (htotal : sumDelays overflowChecks nearest = .ok total) :
    s.setScale overflowChecks scale = .ok { s with
      scale, nearestImages := nearest, totalDelay := total, nearestImagesLoaded := true } := by
  rw [setScale_eq, if_neg hlooks]
  exact (loadNearest_named (s := { s with scale }) hicon).mpr
    ⟨images, nearest, total, himages, hnearest, htotal, rfl⟩

/-- At a scale of one the size that is asked for is the nominal size. -/
theorem nominalSize_of_scale_one (h : s.scale = ⟨1, 1⟩) : s.nominalSize = s.size := by
  have hlt := s.size.toNat_lt
  rw [nominalSize, h, mul_one, Binary64.rounded_natCast (by omega), truncU32,
    max_eq_right (Nat.cast_nonneg _), Int.floor_natCast, Int.toNat_natCast,
    Nat.min_eq_right (by omega), UInt32.ofNat_toNat]

/-- At a scale of four thirds, or what is nearest to it, the product with 24 rounds up. -/
example (s : CursorState) (hsize : s.size = 24) (hscale : s.scale.x = 6004799503160661 / 2 ^ 52) :
    s.nominalSize = 32 := by
  rw [nominalSize, hsize, hscale]
  decide +kernel

/-- The first call, for the icon that there is from the start. -/
theorem setScale_new {size total : UInt32} {images nearest : List Image}
    (himages : T.loadFrames defaultIcon = some images)
    (hnearest : Display.nearestImages overflowChecks size images = .ok nearest)
    (htotal : sumDelays overflowChecks nearest = .ok total) :
    (new T size).step T overflowChecks (.setScale ⟨1, 1⟩) = .ok { new T size with
      nearestImages := nearest, totalDelay := total, nearestImagesLoaded := true } := by
  have hlooks : ¬ ((new T size).nearestImagesLoaded = true ∧ (new T size).scale = ⟨1, 1⟩) :=
    fun h => by cases h.1
  have himages' : (new T size).images defaultIcon = some images := by
    show Function.update (fun _ => none) defaultIcon
      (some ((T.loadFrames defaultIcon).getD T.loadFallbackFrames)) defaultIcon = _
    rw [Function.update_self, himages, Option.getD_some]
  have hsize : { new T size with scale := ⟨1, 1⟩ }.nominalSize = size :=
    nominalSize_of_scale_one rfl
  rw [← hsize] at hnearest
  exact setScale_of_found hlooks rfl himages' hnearest htotal

/-! ## One call -/

theorem lookUp_setScale_eq_some_iff {size : UInt32} {images : List Image} :
    s.lookUp (.setScale scale) = some (size, images) ↔
      ¬ (s.nearestImagesLoaded = true ∧ s.scale = scale) ∧
        ∃ icon, s.status = .named icon ∧ s.images icon = some images ∧
          size = { s with scale }.nominalSize := by
  rw [lookUp]
  split
  next hkept => exact iff_of_false (fun h => by cases h) fun h => h.1 hkept
  next hlooks =>
    rw [and_iff_right hlooks]
    split
    next icon hicon =>
      rw [Option.map_eq_some_iff]
      constructor
      · intro h
        obtain ⟨images', himages, hpair⟩ := h
        cases hpair
        exact ⟨icon, hicon, himages, rfl⟩
      · intro h
        obtain ⟨icon', hicon', himages, rfl⟩ := h
        cases hicon.symm.trans hicon'
        exact ⟨images, himages, rfl⟩
    next hother =>
      exact iff_of_false (fun h => by cases h) fun h => by
        obtain ⟨icon, hicon, -⟩ := h
        exact hother icon hicon

/-- What `set_scale` does: nothing, if what it keeps is of use; without an icon it sets the
flag only; or it looks for images. -/
theorem setScale_cases (h : s.setScale overflowChecks scale = .ok t) :
    (s.nearestImagesLoaded = true ∧ s.scale = scale ∧ t = s) ∨
    ((∀ icon, s.status ≠ .named icon) ∧ t = { s with scale, nearestImagesLoaded := true }) ∨
    ∃ icon images nearest total, s.status = .named icon ∧ s.images icon = some images ∧
      s.lookUp (.setScale scale) = some ({ s with scale }.nominalSize, images) ∧
      Display.nearestImages overflowChecks { s with scale }.nominalSize images = .ok nearest ∧
      sumDelays overflowChecks nearest = .ok total ∧
      t = { s with
        scale, nearestImages := nearest, totalDelay := total, nearestImagesLoaded := true } := by
  rw [setScale_eq] at h
  split at h
  next hkept =>
    cases h
    exact .inl ⟨hkept.1, hkept.2, rfl⟩
  next hlooks =>
    by_cases hnamed : ∃ icon, s.status = .named icon
    · obtain ⟨icon, hicon⟩ := hnamed
      obtain ⟨images, nearest, total, himages, hnearest, htotal, rfl⟩ :=
        (loadNearest_named (s := { s with scale }) hicon).mp h
      have hlook := lookUp_setScale_eq_some_iff.mpr ⟨hlooks, icon, hicon, himages, rfl⟩
      exact .inr (.inr ⟨icon, images, nearest, total, hicon, himages, hlook, hnearest, htotal, rfl⟩)
    · push Not at hnamed
      rw [loadNearest_other (s := { s with scale }) hnamed] at h
      cases h
      exact .inr (.inl ⟨hnamed, rfl⟩)

/-- Only what is summed anew can be wrong, and it is right exactly if it fits. -/
theorem cacheFresh_setScale (hs : s.CacheFresh overflowChecks)
    (h : s.setScale overflowChecks scale = .ok t) :
    t.CacheFresh overflowChecks ↔ s.DelaysFit overflowChecks (.setScale scale) := by
  rcases setScale_cases h with ⟨hloaded, hscale, rfl⟩ | ⟨hother, rfl⟩ |
    ⟨icon, images, nearest, total, hicon, himages, hlook, hnearest, htotal, rfl⟩
  · refine iff_of_true hs fun _ _ _ hlook => ?_
    exact absurd ⟨hloaded, hscale⟩ (lookUp_setScale_eq_some_iff.mp hlook).1
  · refine iff_of_true (fun icon hicon => absurd hicon (hother icon)) fun _ _ _ hlook => ?_
    obtain ⟨-, icon, hicon, -⟩ := lookUp_setScale_eq_some_iff.mp hlook
    exact absurd hicon (hother icon)
  · obtain ⟨hfits, hmod⟩ := sumDelays_eq_ok_iff.mp htotal
    constructor
    · intro hfresh size images' nearest' hlook' hnearest'
      obtain ⟨-, -, -, hsum⟩ := hfresh icon hicon rfl
      cases hlook.symm.trans hlook'
      cases hnearest.symm.trans hnearest'
      have htotal : total.toNat = delays nearest := hsum
      have hlt := total.toNat_lt
      exact .inr (by omega)
    · intro hfit icon' hicon' _
      cases hicon.symm.trans hicon'
      refine ⟨images, himages, hnearest, ?_⟩
      show total.toNat = delays nearest
      have hlt : delays nearest < 2 ^ 32 :=
        (hfit _ _ nearest hlook hnearest).elim hfits id
      rw [hmod, Nat.mod_eq_of_lt hlt]

/-- A call leaves a fresh cache behind exactly if the delays of what it finds fit. -/
theorem cacheFresh_step (hs : s.CacheFresh overflowChecks)
    (h : s.step T overflowChecks call = .ok t) :
    t.CacheFresh overflowChecks ↔ s.DelaysFit overflowChecks call := by
  cases call with
  | updateStatus status =>
      cases h
      refine iff_of_true (fun icon hicon hloaded => ?_) fun _ _ _ hlook => (by cases hlook)
      cases status with
      | named icon' => cases hloaded
      | hidden => cases hicon
      | surface surface => cases hicon
  | setScale scale => exact cacheFresh_setScale hs h
  | setTime time =>
      refine iff_of_true ?_ fun _ _ _ hlook => (by cases hlook)
      obtain ⟨hstatus, himages, hsize, hloaded, hnearest, htotal⟩ := setTime_cache h
      intro icon
      rw [hstatus, himages, hsize, hloaded, hnearest, htotal]
      exact hs icon

/-- Without checks the sum does not stop a call that has found images. -/
theorem delaysFit_of_error {e : CursorPanic} (h : s.step T overflowChecks call = .error e) :
    s.DelaysFit overflowChecks call := by
  intro size images nearest hlook hnearest
  cases overflowChecks with
  | true => exact .inl rfl
  | false =>
      cases call with
      | updateStatus status => cases hlook
      | setTime time => cases hlook
      | setScale scale =>
          obtain ⟨hlooks, icon, hicon, himages, rfl⟩ := lookUp_setScale_eq_some_iff.mp hlook
          have htotal : sumDelays false nearest = .ok (UInt32.ofNat (delays nearest)) :=
            sumDelays_eq_ok_iff.mpr ⟨fun h => (by cases h), UInt32.toNat_ofNat'⟩
          have herror : s.setScale false scale = .error e := h
          rw [setScale_of_found hlooks hicon himages hnearest htotal] at herror
          cases herror

/-- In every state of a run what is kept is what the icon and the scale ask for, if and
only if the delays of all the images that are found fit into a `u32` or the build checks
that they do. -/
theorem cacheFresh_states_iff (T : CursorTheme) (overflowChecks : Bool) (size : UInt32)
    (calls : List CursorCall) :
    (∀ t ∈ states (step T overflowChecks) (new T size) calls, t.CacheFresh overflowChecks) ↔
      ∀ p ∈ steps (step T overflowChecks) (new T size) calls,
        p.1.DelaysFit overflowChecks p.2 := by
  have hnew : (new T size).CacheFresh overflowChecks := fun _ _ hloaded => by cases hloaded
  exact forall_states_iff (fun _ _ _ => cacheFresh_step) (fun _ _ _ => delaysFit_of_error) hnew

/-- Two images with a delay of `2 ^ 31` each leave a sum of zero. -/
theorem not_cacheFresh_wrapped :
    ¬ ∀ (T : CursorTheme) (overflowChecks : Bool) (size : UInt32) (calls : List CursorCall),
      ∀ t ∈ states (step T overflowChecks) (new T size) calls, t.CacheFresh overflowChecks := by
  intro hclaim
  let image : Image := ⟨24, 1, 1, 0, 0, 2 ^ 31, [0, 0, 0, 0], []⟩
  let T : CursorTheme := ⟨fun _ => some [image, image], []⟩
  let t : CursorState := { new T 24 with
    nearestImages := [image, image], totalDelay := 0, nearestImagesLoaded := true }
  have hstep : (new T 24).step T false (.setScale ⟨1, 1⟩) = .ok t :=
    setScale_new rfl (by decide +kernel) (by decide +kernel)
  have hmem : t ∈ states (step T false) (new T 24) [.setScale ⟨1, 1⟩] := by
    rw [states, hstep]
    exact List.mem_cons_of_mem _ List.mem_cons_self
  obtain ⟨_, -, -, hsum⟩ := hclaim T false 24 _ t hmem defaultIcon rfl rfl
  exact absurd hsum (by decide)

end Scape.Display.CursorState
