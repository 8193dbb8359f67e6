import Scape.Proofs.CursorCache

/-!
# The image that a cursor shows

`set_time` takes the time modulo the sum of the delays, and the frame loop goes from image
to image until what is left is less than a delay. The sum that is kept with the images is
theirs as long as it has fitted, so the loop ends on the image whose time it is.

A remainder needs a divisor. Delays may all be zero: a file with a single image that does
not move has no use for one. Nor are the numbers of a file bounded, so that both the search
for the nearest size and the sum may overflow.
-/

namespace Scape.Display

open Fallible

variable {overflowChecks : Bool} {size : UInt32} {image : Image} {images nearest : List Image}

/-! ## The nearest images -/

/-- How far an image is from a nominal size, as numbers without a bound. -/
def distance (size : UInt32) (image : Image) : Int := (asI32 size - asI32 image.size).natAbs

/-- The images as large as the first of those nearest in nominal size. -/
def nearestTo (size : UInt32) (images : List Image) : List Image :=
  match images.minOn? (distance size) with
  | none => []
  | some nearest => images.filter fun image =>
      image.width = nearest.width && image.height = nearest.height

theorem checkedI32_of_fits {n : Int} (h : -(2 ^ 31) ≤ n ∧ n < 2 ^ 31) :
    checkedI32 overflowChecks n = .ok n := by
  rw [checkedI32, if_pos h]

theorem checkedI32_eq_ok_iff {n m : Int} :
    checkedI32 true n = .ok m ↔ (-(2 ^ 31) ≤ n ∧ n < 2 ^ 31) ∧ m = n := by
  rw [checkedI32]
  split
  next hfits => rw [Except.ok.injEq, and_iff_right hfits, eq_comm]
  next hfits => exact iff_of_false (fun h => by cases h) fun h => hfits h.1

theorem sizeDistance_of_lt (h : distance size image < 2 ^ 31) :
    sizeDistance overflowChecks size image = .ok (distance size image) := by
  have hsize := h
  rw [distance] at hsize
  have hdifference : checkedI32 overflowChecks (asI32 size - asI32 image.size) =
      .ok (asI32 size - asI32 image.size) := checkedI32_of_fits (by omega)
  have habs : checkedI32 overflowChecks (distance size image) = .ok (distance size image) := by
    rw [distance]
    exact checkedI32_of_fits (by omega)
  rw [sizeDistance, bind_eq_ok_iff]
  exact ⟨_, hdifference, habs⟩

/-- The difference and what is left of its sign both fit if the distance does. -/
theorem sizeDistance_eq_ok {d : Int} (h : sizeDistance true size image = .ok d) :
    distance size image < 2 ^ 31 := by
  rw [sizeDistance, bind_eq_ok_iff] at h
  obtain ⟨difference, hdifference, habs⟩ := h
  rw [(checkedI32_eq_ok_iff.mp hdifference).2] at habs
  exact (checkedI32_eq_ok_iff.mp habs).1.2

/-- A minimum by keys that are computed once is one by the function of the keys. -/
theorem minOn?_zip_map {α β : Type*} [LE β] [DecidableLE β] (f : α → β) (l : List α) :
    ((l.map f).zip l).minOn? Prod.fst = (l.minOn? f).map fun a => (f a, a) := by
  have hfold : ∀ (l : List α) (a : α),
      ((l.map f).zip l).foldl (minOn Prod.fst) (f a, a) =
        (f (l.foldl (minOn f) a), l.foldl (minOn f) a) := by
    intro l
    induction l with
    | nil => exact fun a => rfl
    | cons b l ih =>
        intro a
        have hfirst : minOn Prod.fst (f a, a) (f b, b) = (f (minOn f a b), minOn f a b) := by
          rw [minOn_eq_if, minOn_eq_if]
          split <;> rfl
        rw [List.map_cons, List.zip_cons_cons, List.foldl_cons, List.foldl_cons, hfirst]
        exact ih _
  cases l with
  | nil => rfl
  | cons a l => exact congrArg some (hfold l a)

/-- Where all distances fit, the images are found, if there are any. -/
theorem nearestImages_of_lt (h : ∀ image ∈ images, distance size image < 2 ^ 31)
    (hne : images ≠ []) :
    nearestImages overflowChecks size images = .ok (nearestTo size images) := by
  have hdistances : images.mapM (sizeDistance overflowChecks size) =
      .ok (images.map (distance size)) :=
    mapM_of_forall fun image himage => sizeDistance_of_lt (h image himage)
  rw [nearestImages, hdistances]
  show (expect CursorPanic.noImage (((images.map (distance size)).zip images).minOn? Prod.fst) >>=
    fun nearest => _) = _
  rw [minOn?_zip_map, nearestTo]
  cases hfirst : images.minOn? (distance size) with
  | none =>
      have hsome : (images.minOn? (distance size)).isSome := List.isSome_minOn?_iff.mpr hne
      rw [hfirst] at hsome
      cases hsome
  | some first => rfl

theorem nearestImages_eq_ok_iff (hne : images ≠ []) :
    nearestImages true size images = .ok nearest ↔
      (∀ image ∈ images, distance size image < 2 ^ 31) ∧ nearest = nearestTo size images := by
  constructor
  · intro h
    obtain ⟨distances, hdistances, -⟩ := bind_eq_ok_iff.mp h
    have hfit : ∀ image ∈ images, distance size image < 2 ^ 31 := by
      intro image himage
      obtain ⟨d, hd⟩ := mapM_eq_ok hdistances image himage
      exact sizeDistance_eq_ok hd
    rw [nearestImages_of_lt hfit hne] at h
    cases h
    exact ⟨hfit, rfl⟩
  · intro h
    obtain ⟨hfit, rfl⟩ := h
    exact nearestImages_of_lt hfit hne

/-- The numbers of the images fit: the distances, and the sum of the delays of those that
are nearest. -/
def ImagesFit (size : UInt32) (images : List Image) : Prop :=
  (∀ image ∈ images, distance size image < 2 ^ 31) ∧ delays (nearestTo size images) < 2 ^ 32

theorem delays_pos_iff : 0 < delays images ↔ ∃ image ∈ images, 0 < image.millis := by
  rw [delays, List.sum_pos_iff_exists_pos_nat]
  simp only [List.mem_map, exists_exists_and_eq_and]

/-- The lists of images that the theme has are not empty. -/
def CursorTheme.NonEmpty (T : CursorTheme) : Prop :=
  ∀ icon images, T.loadFrames icon = some images → images ≠ []

theorem nonEmpty_const (h : images ≠ []) (data : List UInt8) :
    CursorTheme.NonEmpty ⟨fun _ => some images, data⟩ := by
  intro icon images' himages
  cases himages
  exact h

namespace CursorState

variable {T : CursorTheme} {s t : CursorState} {icon : CursorIcon} {scale : Scale}
  {time : Duration} {status : CursorImageStatus} {call : CursorCall}

/-- A call ends without an overflow or another panic, and `set_time` selects the image whose
time it is. -/
def CallRight (s : CursorState) : CursorCall → Prop
  | .updateStatus _ => True
  | .setScale scale => ∃ t, s.setScale true scale = .ok t
  | .setTime time =>
      ∃ t, s.setTime time = .ok t ∧
        ∀ icon, s.status = .named icon →
          ∃ image, Segments.Within Image.millis 0 s.nearestImages
              (time.asMillis % delays s.nearestImages) image ∧
            t.buffer = some image.buffer

/-- The numbers of the images that `set_scale` looks at fit, and `set_time` has an image
that is shown for some time. -/
def CallFits (s : CursorState) : CursorCall → Prop
  | .updateStatus _ => True
  | .setScale scale =>
      ∀ size images, s.lookUp (.setScale scale) = some (size, images) → ImagesFit size images
  | .setTime _ => ∀ icon, s.status = .named icon → ∃ image ∈ s.nearestImages, 0 < image.millis

/-- Every `set_time` comes right after a `set_scale`. -/
def ScaleFirst (calls : List CursorCall) : Prop :=
  ∀ before time after, calls = before ++ .setTime time :: after →
    ∃ earlier scale, before = earlier ++ [.setScale scale]

/-- What is kept belongs together: the sum with the images, each buffer with its image, and
images with every icon. -/
structure Kept (s : CursorState) : Prop where
  total : s.totalDelay.toNat = delays s.nearestImages
  buffers : ∀ entry ∈ s.pointerImages, entry.2 = entry.1.buffer
  named : ∀ icon, s.status = .named icon → ∃ images, s.images icon = some images
  nonempty : ∀ icon images, s.images icon = some images → images ≠ []

/-! ## Icons -/

theorem loadFallbackFrames_ne_nil : T.loadFallbackFrames ≠ [] := List.cons_ne_nil _ _

/-- An icon that is loaded has images, and the others keep theirs. -/
theorem loadIcon_images_nonempty
    (hT : T.NonEmpty) (hs : ∀ icon images, s.images icon = some images → images ≠ [])
    (icon : CursorIcon) :
    (∃ images, (loadIcon T s icon).images icon = some images) ∧
      ∀ icon' images, (loadIcon T s icon).images icon' = some images → images ≠ [] := by
  rw [loadIcon]
  split
  next hloaded => exact ⟨Option.isSome_iff_exists.mp hloaded, hs⟩
  next =>
    refine ⟨⟨_, Function.update_self ..⟩, fun icon' images himages => ?_⟩
    have hcases : Function.update s.images icon
        (some ((T.loadFrames icon).getD T.loadFallbackFrames)) icon' = some images := himages
    by_cases hicon : icon' = icon
    · rw [hicon, Function.update_self, Option.some.injEq] at hcases
      cases hframes : T.loadFrames icon with
      | none =>
          rw [hframes] at hcases
          rw [← hcases]
          exact loadFallbackFrames_ne_nil
      | some frames =>
          rw [hframes] at hcases
          rw [← hcases]
          exact hT icon frames hframes
    · rw [Function.update_of_ne hicon] at hcases
      exact hs icon' images hcases

theorem loadIcon_kept (s : CursorState) (icon : CursorIcon) :
    (loadIcon T s icon).status = s.status ∧ (loadIcon T s icon).totalDelay = s.totalDelay ∧
      (loadIcon T s icon).nearestImages = s.nearestImages ∧
      (loadIcon T s icon).pointerImages = s.pointerImages := by
  rw [loadIcon]
  split <;> exact ⟨rfl, rfl, rfl, rfl⟩

theorem kept_loadIcon (hT : T.NonEmpty)
    (hnonempty : ∀ icon images, s.images icon = some images → images ≠ [])
    (htotal : s.totalDelay.toNat = delays s.nearestImages)
    (hbuffers : ∀ entry ∈ s.pointerImages, entry.2 = entry.1.buffer)
    (hstatus : s.status = .named icon) : (loadIcon T s icon).Kept := by
  obtain ⟨hsame, htotal', hnearest, hpointer⟩ := loadIcon_kept (T := T) s icon
  obtain ⟨hloaded, hnonempty'⟩ := loadIcon_images_nonempty hT hnonempty icon
  constructor
  case total => rw [htotal', hnearest, htotal]
  case buffers =>
    rw [hpointer]
    exact hbuffers
  case named =>
    intro icon' hicon'
    rw [hsame, hstatus] at hicon'
    cases hicon'
    exact hloaded
  case nonempty => exact hnonempty'

theorem kept_new (hT : T.NonEmpty) (size : UInt32) : (new T size).Kept :=
  kept_loadIcon hT (fun _ _ h => by cases h) rfl (fun _ h => by cases h) rfl

/-! ## Images -/

/-- `set_scale` finds images exactly if the numbers of those it looks at fit. -/
theorem setScale_right_iff (hs : s.Kept) :
    s.CallRight (.setScale scale) ↔ s.CallFits (.setScale scale) := by
  show (∃ t, s.setScale true scale = .ok t) ↔ ∀ size images, _ → ImagesFit size images
  constructor
  · intro h size images hlook
    obtain ⟨t, ht⟩ := h
    obtain ⟨hlooks, icon', hicon', himages', rfl⟩ := lookUp_setScale_eq_some_iff.mp hlook
    rcases setScale_cases ht with ⟨hloaded, hscale, -⟩ | ⟨hother, -⟩ |
      ⟨icon, images, nearest, total, -, himages, hlook', hnearest, htotal, -⟩
    · exact absurd ⟨hloaded, hscale⟩ hlooks
    · exact absurd hicon' (hother icon')
    · cases hlook.symm.trans hlook'
      obtain ⟨hfit, rfl⟩ := (nearestImages_eq_ok_iff (hs.nonempty icon images himages)).mp hnearest
      exact ⟨hfit, (sumDelays_eq_ok_iff.mp htotal).1 rfl⟩
  · intro h
    by_cases hlooks : s.nearestImagesLoaded = true ∧ s.scale = scale
    · exact ⟨s, by rw [setScale_eq, if_pos hlooks]⟩
    · by_cases hnamed : ∃ icon, s.status = .named icon
      · obtain ⟨icon, hicon⟩ := hnamed
        obtain ⟨images, himages⟩ := hs.named icon hicon
        have hne := hs.nonempty icon images himages
        obtain ⟨hfit, hdelays⟩ := h _ _
          (lookUp_setScale_eq_some_iff.mpr ⟨hlooks, icon, hicon, himages, rfl⟩)
        have htotal : sumDelays true (nearestTo _ images) = .ok (UInt32.ofNat (delays _)) :=
          sumDelays_eq_ok_iff.mpr ⟨fun _ => hdelays, UInt32.toNat_ofNat'⟩
        exact ⟨_, setScale_of_found hlooks hicon himages (nearestImages_of_lt hfit hne) htotal⟩
      · push Not at hnamed
        rw [setScale_eq, if_neg hlooks]
        exact ⟨_, loadNearest_other (s := { s with scale }) hnamed⟩

theorem showImage_buffer (hbuffers : ∀ entry ∈ s.pointerImages, entry.2 = entry.1.buffer)
    (image : Image) :
    (s.showImage image).buffer = some image.buffer ∧
      ∀ entry ∈ (s.showImage image).pointerImages, entry.2 = entry.1.buffer := by
  rw [showImage]
  split
  next entry hfind =>
    have hmade := hbuffers entry (List.mem_of_find?_eq_some hfind)
    have himage : entry.1 = image := by simpa using List.find?_some hfind
    refine ⟨?_, hbuffers⟩
    show some entry.2 = some image.buffer
    rw [hmade, himage]
  next =>
    refine ⟨rfl, fun entry hentry => ?_⟩
    rcases List.mem_append.mp hentry with hold | hnew
    · exact hbuffers entry hold
    · rw [List.mem_singleton.mp hnew]

theorem setTime_named (hs : s.Kept) (hicon : s.status = .named icon) :
    s.setTime time = .ok t ↔ 0 < delays s.nearestImages ∧
      ∃ image, Segments.Within Image.millis 0 s.nearestImages
          (time.asMillis % delays s.nearestImages) image ∧
        t = ({ s with time } : CursorState).showImage image := by
  have hzero : s.totalDelay = 0 ↔ delays s.nearestImages = 0 := by
    rw [← hs.total, ← UInt32.toNat_inj, UInt32.toNat_zero]
  rw [setTime]
  split
  next icon' hicon' =>
    split
    next h =>
      refine iff_of_false (fun h => by cases h) fun hpos => ?_
      exact absurd (hzero.mp h) (Nat.pos_iff_ne_zero.mp hpos.1)
    next h =>
      rw [and_iff_right (Nat.pos_of_ne_zero fun hsum => h (hzero.mpr hsum)), bind_eq_ok_iff]
      refine exists_congr fun image => ?_
      show frame (time.asMillis % s.totalDelay.toNat) s.nearestImages = _ ∧ _ ↔ _
      rw [frame_eq_ok_iff_within 0, Nat.zero_add, hs.total]
      refine and_congr_right fun _ => ?_
      show Except.ok _ = Except.ok t ↔ _
      rw [Except.ok.injEq, eq_comm]
  next hother => exact absurd hicon (hother icon)

theorem setTime_other (hother : ∀ icon, s.status ≠ .named icon) :
    s.setTime time = .ok { s with time } := by
  rw [setTime]
  split
  next icon hicon => exact absurd hicon (hother icon)
  next => rfl

/-- `set_time` selects an image exactly if there is one that is shown for some time. -/
theorem setTime_right_iff (hs : s.Kept) :
    s.CallRight (.setTime time) ↔ s.CallFits (.setTime time) := by
  show (∃ t, s.setTime time = .ok t ∧ _) ↔ ∀ icon, s.status = .named icon → _
  by_cases hnamed : ∃ icon, s.status = .named icon
  · obtain ⟨icon, hicon⟩ := hnamed
    constructor
    · intro h _ _
      obtain ⟨t, ht, -⟩ := h
      exact delays_pos_iff.mp ((setTime_named hs hicon).mp ht).1
    · intro h
      have hpos := delays_pos_iff.mpr (h icon hicon)
      have hlt : time.asMillis % delays s.nearestImages <
          Segments.offset Image.millis 0 s.nearestImages := by
        rw [Segments.offset, Nat.zero_add]
        exact Nat.mod_lt _ hpos
      obtain ⟨image, himage⟩ := Segments.exists_within (Nat.zero_le _) hlt
      refine ⟨_, (setTime_named hs hicon).mpr ⟨hpos, image, himage, rfl⟩, fun _ _ => ?_⟩
      exact ⟨image, himage, (showImage_buffer (s := { s with time }) hs.buffers image).1⟩
  · push Not at hnamed
    exact iff_of_true ⟨_, setTime_other hnamed, fun icon hicon => absurd hicon (hnamed icon)⟩
      fun icon hicon => absurd hicon (hnamed icon)

theorem callRight_iff (hs : s.Kept) : s.CallRight call ↔ s.CallFits call := by
  cases call with
  | updateStatus status => exact Iff.rfl
  | setScale scale => exact setScale_right_iff hs
  | setTime time => exact setTime_right_iff hs

/-! ## Runs -/

theorem kept_updateStatus (hT : T.NonEmpty) (hs : s.Kept)
    (h : s.step T overflowChecks (.updateStatus status) = .ok t) : t.Kept := by
  cases h
  cases status with
  | named icon =>
      have hloaded : (loadIcon T { s with status := .named icon } icon).Kept :=
        kept_loadIcon hT hs.nonempty hs.total hs.buffers rfl
      exact ⟨hloaded.total, hloaded.buffers, hloaded.named, hloaded.nonempty⟩
  | hidden => exact ⟨hs.total, hs.buffers, fun _ h => (by cases h), hs.nonempty⟩
  | surface surface => exact ⟨hs.total, hs.buffers, fun _ h => (by cases h), hs.nonempty⟩

/-- The sum is that of the delays because it fits, whatever the build checks. -/
theorem kept_setScale (hs : s.Kept) (hfits : s.CallFits (.setScale scale))
    (h : s.setScale overflowChecks scale = .ok t) : t.Kept := by
  rcases setScale_cases h with ⟨-, -, rfl⟩ | ⟨-, rfl⟩ |
    ⟨icon, images, nearest, total, -, himages, hlook, hnearest, htotal, rfl⟩
  · exact hs
  · exact ⟨hs.total, hs.buffers, hs.named, hs.nonempty⟩
  · obtain ⟨hfit, hdelays⟩ := hfits _ _ hlook
    have hfound : Display.nearestImages overflowChecks _ images = .ok _ :=
      nearestImages_of_lt hfit (hs.nonempty icon images himages)
    cases hnearest.symm.trans hfound
    refine ⟨?_, hs.buffers, hs.named, hs.nonempty⟩
    show total.toNat = _
    rw [(sumDelays_eq_ok_iff.mp htotal).2, Nat.mod_eq_of_lt hdelays]

theorem kept_setTime (hs : s.Kept) (h : s.setTime time = .ok t) : t.Kept := by
  obtain ⟨hstatus, himages, -, -, hnearest, htotal⟩ := setTime_cache h
  constructor
  case total => rw [htotal, hnearest, hs.total]
  case buffers =>
    by_cases hnamed : ∃ icon, s.status = .named icon
    · obtain ⟨icon, hicon⟩ := hnamed
      obtain ⟨-, image, -, rfl⟩ := (setTime_named hs hicon).mp h
      exact (showImage_buffer (s := { s with time }) hs.buffers image).2
    · push Not at hnamed
      rw [setTime_other hnamed] at h
      cases h
      exact hs.buffers
  case named =>
    rw [hstatus, himages]
    exact hs.named
  case nonempty =>
    rw [himages]
    exact hs.nonempty

/-- A call whose numbers fit keeps together what belongs together, whatever the build
checks. -/
theorem kept_step (hT : T.NonEmpty) (hs : s.Kept) (hfits : s.CallFits call)
    (h : s.step T overflowChecks call = .ok t) : t.Kept := by
  cases call with
  | updateStatus status => exact kept_updateStatus hT hs h
  | setScale scale => exact kept_setScale hs hfits h
  | setTime time => exact kept_setTime hs h

/-- Every call of a run ends without a panic, and each `set_time` selects the image whose
time it is, if and only if all numbers fit and there always is an image that is shown for
some time. -/
theorem callsRight_iff (hT : T.NonEmpty)
    (overflowChecks : Bool) (size : UInt32) (calls : List CursorCall) :
    (∀ p ∈ steps (step T overflowChecks) (new T size) calls, p.1.CallRight p.2) ↔
      ∀ p ∈ steps (step T overflowChecks) (new T size) calls, p.1.CallFits p.2 :=
  forall_steps_iff (fun _ _ => callRight_iff) (fun _ _ _ => kept_step hT) (kept_new hT size)

/-- An animated cursor, in a build that checks nothing. -/
theorem callsRight_animated :
    let first : Image := ⟨24, 1, 1, 0, 0, 100, [0, 0, 0, 0], []⟩
    let second : Image := ⟨24, 1, 1, 0, 0, 50, [1, 1, 1, 1], []⟩
    let T : CursorTheme := ⟨fun _ => some [first, second], []⟩
    ∀ p ∈ steps (step T false) (new T 24) [.setScale ⟨1, 1⟩, .setTime ⟨250000000⟩],
      p.1.CallRight p.2 := by
  intro first second T
  have hT : T.NonEmpty := nonEmpty_const (List.cons_ne_nil _ _) []
  let t : CursorState := { new T 24 with
    nearestImages := [first, second], totalDelay := 150, nearestImagesLoaded := true }
  have hstep : (new T 24).step T false (.setScale ⟨1, 1⟩) = .ok t :=
    setScale_new rfl (by decide +kernel) (by decide +kernel)
  refine (callsRight_iff hT false 24 _).mpr ?_
  rw [steps_cons_of_ok hstep, steps_singleton, List.forall_mem_cons, List.forall_mem_singleton]
  constructor
  · intro size images hlook
    obtain ⟨-, icon, hicon, himages, rfl⟩ := lookUp_setScale_eq_some_iff.mp hlook
    have hsize : { new T 24 with scale := ⟨1, 1⟩ }.nominalSize = 24 :=
      nominalSize_of_scale_one rfl
    rw [hsize]
    cases hicon
    cases himages
    exact ⟨by decide +kernel, by decide +kernel⟩
  · intro _ _
    exact ⟨first, List.mem_cons_self, by decide⟩

/-- The delay of an image that does not move is zero. -/
theorem not_callsRight_still :
    ¬ ∀ T : CursorTheme, T.NonEmpty →
      ∀ (overflowChecks : Bool) (size : UInt32) (calls : List CursorCall), ScaleFirst calls →
        ∀ p ∈ steps (step T overflowChecks) (new T size) calls, p.1.CallRight p.2 := by
  intro hclaim
  let image : Image := ⟨24, 1, 1, 0, 0, 0, [0, 0, 0, 0], []⟩
  let T : CursorTheme := ⟨fun _ => some [image], []⟩
  have hT : T.NonEmpty := nonEmpty_const (List.cons_ne_nil _ _) []
  let t : CursorState := { new T 24 with
    nearestImages := [image], totalDelay := 0, nearestImagesLoaded := true }
  have hstep : (new T 24).step T true (.setScale ⟨1, 1⟩) = .ok t :=
    setScale_new rfl (by decide +kernel) (by decide +kernel)
  have hfirst : ScaleFirst [.setScale ⟨1, 1⟩, .setTime ⟨0⟩] := by
    intro before time after hsplit
    cases before with
    | nil => cases hsplit
    | cons first before =>
        cases before with
        | nil =>
            cases hsplit
            exact ⟨[], ⟨1, 1⟩, rfl⟩
        | cons second before =>
            have hlength := congrArg List.length hsplit
            simp only [List.length_append, List.length_cons, List.length_nil] at hlength
            omega
  have hmem : (t, .setTime ⟨0⟩) ∈
      steps (step T true) (new T 24) [.setScale ⟨1, 1⟩, .setTime ⟨0⟩] := by
    rw [steps_cons_of_ok hstep, steps_singleton]
    exact List.mem_cons_of_mem _ List.mem_cons_self
  obtain ⟨u, hu, -⟩ := hclaim T hT true 24 _ hfirst _ hmem
  cases hu

end CursorState

end Scape.Display
