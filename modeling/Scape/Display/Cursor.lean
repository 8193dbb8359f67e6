import Scape.Display.Space
import Scape.Lib.Binary64
import Scape.Lib.Fallible
import Scape.Lib.Segments

/-!
# The cursor

`CursorState` shows the cursor that a client has named, or leaves it to a surface of the
client. A named cursor is a list of images from a theme, of several sizes and, if it is
animated, of several moments. Of these it keeps the ones of the size that is nearest to
what the scale asks for, with the sum of their delays, until the icon or the scale changes;
the time then selects one of them.

Sums of `u32` and differences of `i32` may overflow. As elsewhere it is left open whether
the build checks that. A scale is finite.
-/

namespace Scape.Display

open Scape Fallible

structure CursorIcon where
  name : String
  deriving DecidableEq, Repr

/-- An image of a cursor file. -/
structure Image where
  size : UInt32
  width : UInt32
  height : UInt32
  xhot : UInt32
  yhot : UInt32
  /-- in milliseconds -/
  delay : UInt32
  pixelsRgba : List UInt8
  pixelsArgb : List UInt8
  deriving DecidableEq, Repr

inductive CursorImageStatus where
  | hidden
  | named (icon : CursorIcon)
  | surface (surface : WlSurface)
  deriving DecidableEq, Repr

/-- `Scale<f64>`. -/
structure Scale where
  x : ℚ
  y : ℚ
  deriving DecidableEq

structure Duration where
  nanos : Nat
  deriving DecidableEq, Repr

def Duration.asMillis (time : Duration) : Nat := time.nanos / 1000000

structure MemoryRenderBuffer where
  data : List UInt8
  width : Int
  height : Int
  deriving DecidableEq, Repr

/-- What the cursor files of the theme hold, and the cursor that is built in. -/
structure CursorTheme where
  /-- `load_frames` -/
  loadFrames : CursorIcon → Option (List Image)
  fallbackCursorData : List UInt8

structure CursorState where
  status : CursorImageStatus
  images : CursorIcon → Option (List Image)
  size : UInt32
  scale : Scale
  pointerImages : List (Image × MemoryRenderBuffer)
  buffer : Option MemoryRenderBuffer
  time : Duration
  nearestImagesLoaded : Bool
  nearestImages : List Image
  totalDelay : UInt32

inductive CursorPanic where
  | overflow
  | remainderByZero
  | unreachable
  | noImage
  | noIcon
  deriving DecidableEq, Repr

/-! ## Numbers -/

/-- `as i32`. -/
def asI32 (n : UInt32) : Int := Int.bmod n.toNat (2 ^ 32)

/-- `as u32`, of a floating-point number. -/
def truncU32 (q : ℚ) : UInt32 := UInt32.ofNat (min (2 ^ 32 - 1) ⌊max 0 q⌋.toNat)

/-- The result of an operation on `i32`. -/
def checkedI32 (overflowChecks : Bool) (n : Int) : Except CursorPanic Int :=
  if -(2 ^ 31) ≤ n ∧ n < 2 ^ 31 then .ok n
  else if overflowChecks then .error .overflow
  else .ok (Int.bmod n (2 ^ 32))

def u32Add (overflowChecks : Bool) (a b : UInt32) : Except CursorPanic UInt32 :=
  if a.toNat + b.toNat < 2 ^ 32 then .ok (a + b)
  else if overflowChecks then .error .overflow
  else .ok (a + b)

/-! ## Images -/

/-- `MemoryRenderBuffer::from_slice`, of an image. -/
def Image.buffer (image : Image) : MemoryRenderBuffer :=
  ⟨image.pixelsRgba, asI32 image.width, asI32 image.height⟩

/-- `load_fallback_frames`. -/
def CursorTheme.loadFallbackFrames (T : CursorTheme) : List Image :=
  [⟨32, 64, 64, 1, 1, 1, T.fallbackCursorData, []⟩]

/-- `(size as i32 - image.size as i32).abs()`. -/
def sizeDistance (overflowChecks : Bool) (size : UInt32) (image : Image) :
    Except CursorPanic Int := do
  let difference ← checkedI32 overflowChecks (asI32 size - asI32 image.size)
  checkedI32 overflowChecks difference.natAbs

/-- `nearest_images`: the images as large as the first of those nearest in nominal size. -/
def nearestImages (overflowChecks : Bool) (size : UInt32) (images : List Image) :
    Except CursorPanic (List Image) := do
  let distances ← images.mapM (sizeDistance overflowChecks size)
  let nearest ← expect .noImage ((distances.zip images).minOn? Prod.fst)
  return images.filter fun image =>
    image.width = nearest.2.width && image.height = nearest.2.height

def sumDelays (overflowChecks : Bool) (images : List Image) : Except CursorPanic UInt32 :=
  images.foldlM (fun acc image => u32Add overflowChecks acc image.delay) 0

/-- `frame`. -/
def frame (millis : Nat) : List Image → Except CursorPanic Image
  | [] => .error .unreachable
  | image :: images =>
      if millis < image.delay.toNat then .ok image
      else frame (millis - image.delay.toNat) images

namespace CursorState

variable (T : CursorTheme) (overflowChecks : Bool)

def loadIcon (s : CursorState) (icon : CursorIcon) : CursorState :=
  if (s.images icon).isSome then s
  else
    let frames := (T.loadFrames icon).getD T.loadFallbackFrames
    { s with images := Function.update s.images icon (some frames) }

/-- `CursorIcon::Default`. -/
def defaultIcon : CursorIcon := ⟨"default"⟩

/-- `CursorState::default`, with the size of `XCURSOR_SIZE`. -/
def new (size : UInt32) : CursorState :=
  loadIcon T
    { status := .named defaultIcon
      images := fun _ => none
      size
      scale := ⟨1, 1⟩
      pointerImages := []
      buffer := none
      time := ⟨0⟩
      nearestImagesLoaded := false
      nearestImages := []
      totalDelay := 0 } defaultIcon

def updateStatus (s : CursorState) (status : CursorImageStatus) : CursorState :=
  match status with
  | .named icon =>
      { loadIcon T { s with status := .named icon } icon with nearestImagesLoaded := false }
  | status => { s with status, nearestImagesLoaded := true }

/-- The nominal size that is asked for. Only the scale along the x axis is looked at. The
product is one of `f64`, and is rounded before it is cut off. -/
def nominalSize (s : CursorState) : UInt32 :=
  truncU32 (Binary64.rounded (s.size.toNat * s.scale.x))

/-- The part of `set_scale` that looks for the images. -/
def loadNearest (s : CursorState) : Except CursorPanic CursorState :=
  match s.status with
  | .named icon => do
      let images ← expect .noIcon (s.images icon)
      let nearest ← Display.nearestImages overflowChecks s.nominalSize images
      let totalDelay ← sumDelays overflowChecks nearest
      return { s with nearestImages := nearest, totalDelay, nearestImagesLoaded := true }
  | _ => .ok { s with nearestImagesLoaded := true }

def setScale (s : CursorState) (scale : Scale) : Except CursorPanic CursorState :=
  let s := if s.scale = scale then s else { s with scale, nearestImagesLoaded := false }
  if s.nearestImagesLoaded then .ok s else s.loadNearest overflowChecks

/-- The end of `set_time`: the buffer of an image is made once. -/
def showImage (s : CursorState) (image : Image) : CursorState :=
  match s.pointerImages.find? fun entry => entry.1 = image with
  | some entry => { s with buffer := some entry.2 }
  | none =>
      { s with
        pointerImages := s.pointerImages ++ [(image, image.buffer)]
        buffer := some image.buffer }

def setTime (s : CursorState) (time : Duration) : Except CursorPanic CursorState :=
  let s := { s with time }
  match s.status with
  | .named _ =>
      if s.totalDelay = 0 then .error .remainderByZero
      else do
        let image ← frame (time.asMillis % s.totalDelay.toNat) s.nearestImages
        return s.showImage image
  | _ => .ok s

end CursorState

inductive CursorCall where
  | updateStatus (status : CursorImageStatus)
  | setScale (scale : Scale)
  | setTime (time : Duration)

def CursorState.step (T : CursorTheme) (overflowChecks : Bool) (s : CursorState) :
    CursorCall → Except CursorPanic CursorState
  | .updateStatus status => .ok (s.updateStatus T status)
  | .setScale scale => s.setScale overflowChecks scale
  | .setTime time => s.setTime time

/-! ## Delays -/

/-- The delay as a number without a bound. -/
def Image.millis (image : Image) : Nat := image.delay.toNat

def delays (images : List Image) : Nat := (images.map Image.millis).sum

variable {overflowChecks : Bool} {images : List Image}

theorem u32Add_eq_ok_iff {a b sum : UInt32} :
    u32Add overflowChecks a b = .ok sum ↔
      (overflowChecks = true → a.toNat + b.toNat < 2 ^ 32) ∧ sum = a + b := by
  rw [u32Add]
  split
  next hfits => rw [Except.ok.injEq, and_iff_right fun _ => hfits, eq_comm]
  next hwraps =>
    cases overflowChecks with
    | true => exact iff_of_false (fun h => by cases h) fun h => hwraps (h.1 rfl)
    | false => simp [eq_comm]

/-- A sum that does not stop is that of the delays, up to what does not fit. -/
theorem foldlM_u32Add_eq_ok_iff {acc total : UInt32} :
    images.foldlM (fun acc image => u32Add overflowChecks acc image.delay) acc = .ok total ↔
      (overflowChecks = true → acc.toNat + delays images < 2 ^ 32) ∧
        total.toNat = (acc.toNat + delays images) % 2 ^ 32 := by
  induction images generalizing acc with
  | nil =>
      have hacc := acc.toNat_lt
      rw [List.foldlM_nil, delays, List.map_nil, List.sum_nil, Nat.add_zero,
        Nat.mod_eq_of_lt hacc, and_iff_right fun _ => hacc]
      constructor
      · intro h
        cases h
        rfl
      · intro h
        rw [UInt32.toNat_inj.mp h]
        rfl
  | cons image images ih =>
      have hsum : (acc + image.delay).toNat = (acc.toNat + image.millis) % 2 ^ 32 :=
        UInt32.toNat_add acc image.delay
      have hdelays : delays (image :: images) = image.millis + delays images := by
        rw [delays, List.map_cons, List.sum_cons, delays]
      rw [List.foldlM_cons, bind_eq_ok_iff, hdelays]
      constructor
      · intro h
        obtain ⟨sum, hstep, hrest⟩ := h
        obtain ⟨hfits, rfl⟩ := u32Add_eq_ok_iff.mp hstep
        obtain ⟨hlater, htotal⟩ := ih.mp hrest
        rw [hsum] at hlater htotal
        refine ⟨fun hchecks => ?_, by omega⟩
        have hfirst : acc.toNat + image.millis < 2 ^ 32 := hfits hchecks
        have hsecond := hlater hchecks
        omega
      · intro h
        refine ⟨acc + image.delay, u32Add_eq_ok_iff.mpr ⟨fun hchecks => ?_, rfl⟩,
          ih.mpr ⟨fun hchecks => ?_, ?_⟩⟩
        · have hfits := h.1 hchecks
          show acc.toNat + image.millis < 2 ^ 32
          omega
        · have hfits := h.1 hchecks
          rw [hsum]
          omega
        · rw [hsum, h.2]
          omega

theorem sumDelays_eq_ok_iff {total : UInt32} :
    sumDelays overflowChecks images = .ok total ↔
      (overflowChecks = true → delays images < 2 ^ 32) ∧
        total.toNat = delays images % 2 ^ 32 := by
  rw [sumDelays, foldlM_u32Add_eq_ok_iff, UInt32.toNat_zero, Nat.zero_add]

/-! ## Frames -/

/-- Laid end to end by their delays, the images are each shown for their own time. -/
theorem frame_eq_ok_iff_within (start millis : Nat) {image : Image} :
    frame millis images = .ok image ↔
      Segments.Within Image.millis start images (start + millis) image := by
  induction images generalizing start millis with
  | nil => exact iff_of_false (fun h => by cases h) Segments.not_within_nil
  | cons first images ih =>
      rw [Segments.within_cons_iff, frame]
      show (if millis < first.millis then _ else frame (millis - first.millis) images) = _ ↔ _
      split
      next hshown =>
        have hlater : ¬ Segments.Within Image.millis (start + first.millis) images
            (start + millis) image := by
          intro h
          have hle := h.start_le fun _ _ => Nat.zero_le _
          omega
        rw [or_iff_left hlater, Except.ok.injEq, eq_comm, and_iff_left]
        omega
      next hpast =>
        have hmillis : start + first.millis + (millis - first.millis) = start + millis := by omega
        rw [ih (start + first.millis), hmillis, or_iff_right]
        omega

end Scape.Display
