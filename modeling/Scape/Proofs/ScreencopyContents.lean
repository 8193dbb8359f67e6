import Scape.Proofs.OutputStart
import Scape.Proofs.ScreencopyEvents
import Mathlib.Tactic.Ring

/-!
# What is in the buffer of a frame that is ready

A render that succeeds takes the whole queue and tells every frame in it that it is ready.
The frame that has been rendered is blitted, whatever output a request is for. The copy is
only made into a buffer of shared memory that has the format and the size, and it is read
from a texture of the buffer's size, at the place the region has on the output.

So a buffer is filled when the request is for the output that is rendered, the buffer is
one that is written to, and the region lies in the texture, as one does that begins where
the output does. In a run whose renders find only such requests, every frame that is told
that it is ready is right to be told so.
-/

namespace Scape.Display

open Scape Fallible Machine

variable {β : Type}

/-- The bytes that a buffer has in its pool are those of a region of a picture. -/
structure ShmBuffer.Shows (buffer : ShmBuffer) (bytes : Nat → β) (region : Rectangle)
    (picture : Picture β) : Prop where
  format : buffer.format = .argb8888
  width : region.width ≤ buffer.width
  height : region.height ≤ buffer.height
  byte : ∀ column row byte : Nat, column < region.width → row < region.height → byte < 4 →
    bytes (buffer.offset + row * buffer.stride + 4 * column + byte) =
      picture (region.loc.x + column) (region.loc.y + row) byte

/-- The buffer is one of shared memory, and it is filled with a region of an output. -/
def Seen.Filled (seen : Seen β) (region : Rectangle) (output : SmithayOutput) : Prop :=
  ∃ buffer, seen.buffer = .shm buffer ∧
    buffer.Shows (seen.pools buffer.pool).bytes region (seen.shown output)

/-- The buffer is one that is written to, and it takes the region at the place that the
region has on its output. -/
structure ShmBuffer.Takes (buffer : ShmBuffer) (pool : Pool β) (region : Rectangle) : Prop where
  stride : (buffer.stride : Int) = region.width * 4
  exact_height : (buffer.height : Int) = region.height
  len : pool.len = buffer.stride * buffer.height
  left : 0 ≤ region.loc.x
  right : region.loc.x + region.width ≤ buffer.width
  top : 0 ≤ region.loc.y
  bottom : region.loc.y + region.height ≤ buffer.height

def Rectangle.Empty (r : Rectangle) : Prop := r.width ≤ 0 ∨ r.height ≤ 0

namespace ScreencopyState

variable {R : Renderer β} {s t u : ScreencopyState β} {e : ScreencopyEvent β}
  {screencopy : Screencopy} {frame node crtc : Nat} {picture : Picture β} {output : SmithayOutput}

/-- The buffer of a request is large enough and has the format. Unless there is nothing to
be copied, the request is for the output, and its buffer takes the region. -/
structure Suits (s : ScreencopyState β) (output : SmithayOutput) (screencopy : Screencopy)
    (buffer : ShmBuffer) : Prop where
  shm : screencopy.buffer = .shm buffer
  format : buffer.format = .argb8888
  width : screencopy.region.width ≤ buffer.width
  height : screencopy.region.height ≤ buffer.height
  takes : screencopy.region.Empty ∨ (screencopy.output = output ∧
    buffer.Takes (s.pools buffer.pool) screencopy.region)

/-- A render that succeeds finds only requests that suit it, as far as their frames are
there. -/
def Suited (s : ScreencopyState β) : ScreencopyEvent β → Prop
  | .render node crtc (some _) =>
      ∀ output ∈ s.rendered node crtc, ∀ screencopy ∈ s.screencopyFrames,
        screencopy.frame ∉ s.destroyed → ∃ buffer, s.Suits output screencopy buffer
  | _ => True

/-- Requests that wait are for frames that there are, and their buffers fit. -/
structure Queued (s : ScreencopyState β) : Prop where
  fresh : ∀ frame data, s.frames.lookup frame = some data → frame < s.nextFrame
  known : ∀ screencopy ∈ s.screencopyFrames, ∃ data,
    s.frames.lookup screencopy.frame = some data ∧ screencopy.region = data.rect ∧
      screencopy.output = data.output
  fits : ∀ screencopy ∈ s.screencopyFrames, screencopy.buffer.Fits s.pools

/-- Every frame that has been told that it is ready had its buffer filled then with what
it was created for. -/
def Truthful (s : ScreencopyState β) : Prop :=
  ∀ frame seen, (frame, .ready seen) ∈ s.sent → ∃ data,
    s.frames.lookup frame = some data ∧ seen.Filled data.rect data.output

/-! ## One copy -/

/-- The bytes of a row follow those of the rows above. -/
theorem index_lt {column row byte width height : Nat} (hcolumn : column < width)
    (hrow : row < height) (hbyte : byte < 4) :
    4 * (row * width + column) + byte < 4 * width * height := by
  have hpixel : row * width + column < height * width := calc
    row * width + column < row * width + width := Nat.add_lt_add_left hcolumn _
    _ = (row + 1) * width := (Nat.succ_mul row width).symm
    _ ≤ height * width := Nat.mul_le_mul_right width hrow
  have hlen : 4 * width * height = 4 * (height * width) := by ring
  omega

/-- What is read back from the texture is the picture, where the region lies in it. -/
theorem copyFramebuffer_eq (hR : R.Lawful) {buffer : ShmBuffer} {pool : Pool β}
    {region : Rectangle} (htakes : buffer.Takes pool region) {column row byte : Nat}
    (hcolumn : column < region.width) (hrow : row < region.height) (hbyte : byte < 4) :
    R.copyFramebuffer
        (R.blitFrameResult picture region (R.createBuffer buffer.width buffer.height)) region
        (4 * (row * region.width.toNat + column) + byte) =
      picture (region.loc.x + column) (region.loc.y + row) byte := by
  have hleft := htakes.left
  have hright := htakes.right
  have htop := htakes.top
  have hbottom := htakes.bottom
  have hholds : (R.createBuffer buffer.width buffer.height).Holds (region.loc.x + column)
      (region.loc.y + row) := by
    rw [Target.Holds]
    rw [hR.createBuffer_width, hR.createBuffer_height]
    omega
  have hcontains : region.contains ⟨region.loc.x + column, region.loc.y + row⟩ := by
    simp only [Rectangle.contains, Bool.and_eq_true, decide_eq_true_eq]
    omega
  rw [hR.copy_byte _ _ _ _ _ hcolumn hrow hbyte, hR.blit_pixel _ _ _ _ _ hholds hcontains]
  unfold Target.Holds at hholds ⊢
  rw [hR.blit_width, hR.blit_height]
  exact hholds

/-- The state in which a request for shared memory is submitted. -/
def copied (R : Renderer β) (picture : Picture β) (s : ScreencopyState β) (buffer : ShmBuffer)
    (region : Rectangle) : ScreencopyState β :=
  s.copyContents buffer region (R.copyFramebuffer
    (R.blitFrameResult picture region (R.createBuffer buffer.width buffer.height)) region)

theorem copied_sent {buffer : ShmBuffer} {region : Rectangle} :
    (copied R picture s buffer region).sent = s.sent := by
  unfold copied copyContents
  dsimp only
  split <;> rfl

/-- A request is submitted, whatever its buffer is, and after the copy if that is one of
shared memory. -/
theorem copyFrame_submits (R : Renderer β) (picture : Picture β) (s : ScreencopyState β)
    (screencopy : Screencopy) :
    ∃ s', copyFrame R picture s screencopy = s'.submit screencopy ∧ Keeps s s' ∧
      s'.sent = s.sent ∧ ∀ buffer, screencopy.buffer = .shm buffer →
        s' = copied R picture s buffer screencopy.region := by
  rw [copyFrame]
  split
  next buffer hbuffer =>
    refine ⟨_, rfl, copyContents_keeps, copied_sent, fun other hother => ?_⟩
    obtain rfl := WlBuffer.shm.inj (hbuffer.symm.trans hother)
    rfl
  next hothers => exact ⟨s, rfl, .refl s, rfl, fun buffer h => absurd h (hothers buffer)⟩

theorem copied_shows (hR : R.Lawful) {buffer : ShmBuffer}
    (hsuits : s.Suits output screencopy buffer) (hfits : screencopy.buffer.Fits s.pools) :
    buffer.Shows ((copied R (s.shown output) s buffer screencopy.region).pools buffer.pool).bytes
      screencopy.region (s.shown screencopy.output) := by
  refine ⟨hsuits.format, hsuits.width, hsuits.height, ?_⟩
  intro column row byte hcolumn hrow hbyte
  rcases hsuits.takes with hempty | ⟨rfl, htakes⟩
  · unfold Rectangle.Empty at hempty
    omega
  · have hstride := htakes.stride
    have hheight := htakes.exact_height
    have hlen := htakes.len
    have hwidth : buffer.stride = 4 * screencopy.region.width.toNat := by omega
    have hoffset : buffer.offset = 0 := by
      rw [hsuits.shm] at hfits
      have hroom : buffer.offset + buffer.stride * buffer.height ≤ _ := hfits
      omega
    have hindex : buffer.offset + row * buffer.stride + 4 * column + byte =
        4 * (row * screencopy.region.width.toNat + column) + byte := by
      rw [hoffset, hwidth]
      ring
    have hinside : 4 * (row * screencopy.region.width.toNat + column) + byte <
        (s.pools buffer.pool).len := by
      rw [hlen, hwidth]
      exact index_lt (by omega) (by omega) hbyte
    unfold copied copyContents
    rw [if_neg (by simp [hsuits.format, hstride, hheight, hlen])]
    dsimp only
    rw [Function.update_self, hindex]
    dsimp only
    rw [if_pos hinside]
    exact copyFramebuffer_eq hR htakes hcolumn hrow hbyte

/-! ## Who is told that it is ready -/

/-- Whoever has been told that it is ready has been told so before, or is one of these. -/
def Adds (P : Nat → Seen β → Prop) (s t : ScreencopyState β) : Prop :=
  ∀ frame seen, (frame, .ready seen) ∈ t.sent → (frame, .ready seen) ∈ s.sent ∨ P frame seen

theorem Adds.trans {P : Nat → Seen β → Prop} (h : Adds P s t) (h' : Adds P t u) :
    Adds P s u := by
  intro frame seen hmem
  rcases h' frame seen hmem with hold | hnew
  · exact h frame seen hold
  · exact .inr hnew

theorem Adds.mono {P Q : Nat → Seen β → Prop} (h : Adds P s t)
    (hle : ∀ frame seen, P frame seen → Q frame seen) : Adds Q s t :=
  fun frame seen hmem => (h frame seen hmem).imp id (hle frame seen)

theorem Adds.of_sent {P : Nat → Seen β → Prop} (h : t.sent = s.sent) : Adds P s t := by
  intro frame seen hmem
  rw [h] at hmem
  exact .inl hmem

theorem send_adds (event : FrameEvent β) :
    Adds (fun other seen => other = frame ∧ frame ∉ s.destroyed ∧ event = .ready seen) s
      (s.send frame event) := by
  intro other seen hmem
  rw [send] at hmem
  split at hmem
  next => exact .inl hmem
  next hthere =>
    rcases List.mem_append.mp hmem with hold | hnew
    · exact .inl hold
    · obtain ⟨rfl, rfl⟩ := Prod.mk.inj (List.mem_singleton.mp hnew)
      exact .inr ⟨rfl, hthere, rfl⟩

/-- Only `ready` says that a frame is ready. -/
theorem send_adds_none {P : Nat → Seen β → Prop} {event : FrameEvent β}
    (h : ∀ seen, event ≠ .ready seen) : Adds P s (s.send frame event) :=
  (send_adds event).mono fun _ seen hready => absurd hready.2.2 (h seen)

theorem drop_adds {P : Nat → Seen β → Prop} : Adds P s (s.drop screencopy) := by
  rw [drop]
  split
  · exact .of_sent rfl
  · exact send_adds_none fun _ h => by cases h

theorem failed_adds {P : Nat → Seen β → Prop} : Adds P s (s.failed screencopy) :=
  (send_adds_none fun _ h => by cases h).trans drop_adds

theorem send_pools (event : FrameEvent β) : (s.send frame event).pools = s.pools := by
  rw [send]
  split <;> rfl

theorem submit_adds :
    Adds (fun frame seen => frame = screencopy.frame ∧ screencopy.frame ∉ s.destroyed ∧
      seen = ⟨screencopy.buffer, s.pools, s.shown⟩) s (s.submit screencopy) := by
  have hflags : Keeps s (s.send screencopy.frame .flags) := send_keeps .flags
  refine ((send_adds_none fun _ h => by cases h).trans ((send_adds _).mono ?_)).trans drop_adds
  intro frame seen ⟨hframe, hthere, hready⟩
  rw [hflags.destroyed] at hthere
  rw [send_pools, hflags.shown] at hready
  exact ⟨hframe, hthere, (FrameEvent.ready.inj hready).symm⟩

theorem createFrame_adds {P : Nat → Seen β → Prop} {data : ScreencopyFrameState}
    {version : Nat} : Adds P s (s.createFrame data version) := by
  have hbuffer : Adds P s ({ s with
      frames := s.frames.insert s.nextFrame data
      nextFrame := s.nextFrame + 1 }.send s.nextFrame (.buffer .argb8888 (asU32 data.rect.width)
        (asU32 data.rect.height) (asU32 data.rect.width * 4))) :=
    (Adds.of_sent rfl).trans (send_adds_none fun _ h => by cases h)
  unfold createFrame
  dsimp only
  split
  · exact hbuffer.trans (send_adds_none fun _ h => by cases h)
  · exact hbuffer

/-- The frame is that of a request, and its buffer has been filled. -/
def FilledFor (screencopies : List Screencopy) (frame : Nat) (seen : Seen β) : Prop :=
  ∃ screencopy ∈ screencopies, frame = screencopy.frame ∧
    seen.Filled screencopy.region screencopy.output

/-- A request suits as well after others have ended. -/
theorem Suits.of_len {buffer : ShmBuffer} (h : s.Suits output screencopy buffer)
    (hlen : ∀ pool, (t.pools pool).len = (s.pools pool).len) :
    t.Suits output screencopy buffer := by
  refine ⟨h.shm, h.format, h.width, h.height, h.takes.imp id fun ⟨houtput, htakes⟩ => ?_⟩
  refine ⟨houtput, htakes.stride, htakes.exact_height, ?_, htakes.left, htakes.right, htakes.top,
    htakes.bottom⟩
  rw [hlen]
  exact htakes.len

theorem fits_of_len {buffer : WlBuffer} (h : buffer.Fits s.pools)
    (hlen : ∀ pool, (s.pools pool).len ≤ (t.pools pool).len) : buffer.Fits t.pools := by
  cases buffer with
  | shm data => exact le_trans h (hlen data.pool)
  | _ => trivial

theorem copyFrame_adds (hR : R.Lawful) (hfits : screencopy.buffer.Fits s.pools)
    (hsuits : screencopy.frame ∉ s.destroyed → ∃ buffer, s.Suits output screencopy buffer) :
    Adds (FilledFor [screencopy]) s (copyFrame R (s.shown output) s screencopy) := by
  obtain ⟨s', heq, hkeeps, hsent, hcopied⟩ := copyFrame_submits R (s.shown output) s screencopy
  rw [heq]
  refine (Adds.of_sent hsent).trans (submit_adds.mono ?_)
  intro frame seen ⟨hframe, hthere, hseen⟩
  rw [hkeeps.destroyed] at hthere
  obtain ⟨buffer, hbuffer⟩ := hsuits hthere
  refine ⟨screencopy, List.mem_singleton_self _, hframe, buffer, ?_, ?_⟩
  · rw [hseen]
    exact hbuffer.shm
  · rw [hseen]
    dsimp only
    rw [hkeeps.shown, hcopied buffer hbuffer.shm]
    exact copied_shows hR hbuffer hfits

/-- While the queue is taken, only frames whose buffers have been filled are told that they
are ready. -/
theorem foldl_adds (hR : R.Lawful) {screencopies : List Screencopy}
    (hfits : ∀ screencopy ∈ screencopies, screencopy.buffer.Fits s.pools)
    (hsuits : ∀ screencopy ∈ screencopies, screencopy.frame ∉ s.destroyed →
      ∃ buffer, s.Suits output screencopy buffer) :
    Adds (FilledFor screencopies) s (screencopies.foldl (copyFrame R (s.shown output)) s) := by
  induction screencopies generalizing s with
  | nil => exact .of_sent rfl
  | cons first rest ih =>
      obtain ⟨hfit, hfits⟩ := List.forall_mem_cons.mp hfits
      obtain ⟨hsuit, hsuits⟩ := List.forall_mem_cons.mp hsuits
      have hkeeps : Keeps s (copyFrame R (s.shown output) s first) := copyFrame_keeps
      have hrest := ih (s := copyFrame R (s.shown output) s first) ?_ ?_
      · rw [hkeeps.shown] at hrest
        refine ((copyFrame_adds hR hfit hsuit).mono ?_).trans (hrest.mono ?_)
        · intro frame seen ⟨screencopy, hmem, hfilled⟩
          obtain rfl := List.mem_singleton.mp hmem
          exact ⟨screencopy, List.mem_cons_self, hfilled⟩
        · intro frame seen ⟨screencopy, hmem, hfilled⟩
          exact ⟨screencopy, List.mem_cons_of_mem _ hmem, hfilled⟩
      · exact fun screencopy h => fits_of_len (hfits screencopy h) fun pool => (hkeeps.len pool).ge
      · intro screencopy h hthere
        rw [hkeeps.destroyed] at hthere
        obtain ⟨buffer, hbuffer⟩ := hsuits screencopy h hthere
        exact ⟨buffer, hbuffer.of_len hkeeps.len⟩

theorem foldl_adds_none {P : Nat → Seen β → Prop}
    {f : ScreencopyState β → Screencopy → ScreencopyState β}
    (hf : ∀ s screencopy, Adds P s (f s screencopy)) {screencopies : List Screencopy} :
    Adds P s (screencopies.foldl f s) :=
  List.foldlRecOn (motive := Adds P s) _ _ (.of_sent rfl) fun u hu screencopy _ =>
    hu.trans (hf u screencopy)

/-! ## Steps -/

/-- Frames keep what they were created for, and pools do not shrink. -/
structure Grows (s t : ScreencopyState β) : Prop where
  frames : ∀ frame data, s.frames.lookup frame = some data → t.frames.lookup frame = some data
  fresh : ∀ frame data, t.frames.lookup frame = some data → frame < t.nextFrame
  len : ∀ pool, (s.pools pool).len ≤ (t.pools pool).len

theorem Keeps.grows (hs : s.Queued) (h : Keeps s t) : Grows s t where
  frames frame data hdata := by
    rw [h.frames]
    exact hdata
  fresh := by
    rw [h.frames, h.nextFrame]
    exact hs.fresh
  len pool := (h.len pool).ge

theorem createFrame_grows (hs : s.Queued) {data : ScreencopyFrameState} {version : Nat} :
    Grows s (s.createFrame data version) := by
  have hkeeps : Keeps _ (s.createFrame data version) := createFrame_keeps
  refine ⟨fun frame other hother => ?_, fun frame other hother => ?_, fun pool => ?_⟩
  · rw [hkeeps.frames, AList.lookup_insert_ne (hs.fresh frame other hother).ne]
    exact hother
  · rw [hkeeps.frames] at hother
    rw [hkeeps.nextFrame]
    by_cases hframe : frame = s.nextFrame
    · rw [hframe]
      exact Nat.lt_succ_self _
    · rw [AList.lookup_insert_ne hframe] at hother
      exact (hs.fresh frame other hother).trans (Nat.lt_succ_self _)
  · exact (hkeeps.len pool).ge

/-- The queue is taken. -/
theorem Keeps.grows_taken (h : Keeps { t with screencopyFrames := [] } u) (hs : s.Queued)
    (hframes : t.frames = s.frames) (hnext : t.nextFrame = s.nextFrame)
    (hpools : t.pools = s.pools) : Grows s u where
  frames frame data hdata := by
    rw [h.frames]
    exact hframes ▸ hdata
  fresh := by
    rw [h.frames, h.nextFrame]
    exact hframes ▸ hnext ▸ hs.fresh
  len pool := (congrArg (fun pools => (pools pool).len) hpools.symm).trans_le (h.len pool).ge

theorem step_grows (hs : s.Queued) (hstep : (system R).step s e t) : Grows s t := by
  have hsame : Grows s s := (Keeps.refl s).grows hs
  cases step_effect hstep with
  | hotplug => exact ⟨hsame.frames, hsame.fresh, hsame.len⟩
  | winitOutput => exact ⟨hsame.frames, hsame.fresh, hsame.len⟩
  | captureOutput => exact createFrame_grows hs
  | captureOutputRegion => exact createFrame_grows hs
  | queued => exact ⟨hsame.frames, hsame.fresh, hsame.len⟩
  | dropped => exact drop_keeps.grows hs
  | failed => exact failed_keeps.grows hs
  | destroy => exact ⟨hsame.frames, hsame.fresh, hsame.len⟩
  | @write pool contents hlen =>
      refine ⟨hsame.frames, hsame.fresh, fun other => ?_⟩
      dsimp only
      by_cases hpool : other = pool
      · rw [hpool, Function.update_self]
        exact hlen
      · rw [Function.update_of_ne hpool]
  | skipped => exact hsame
  | @rendered node crtc result output =>
      cases result with
      | some picture =>
          have hdrain : Keeps { s.present output (some picture) with screencopyFrames := [] }
              ((s.present output (some picture)).drain R (some picture)) := drain_keeps
          exact hdrain.grows_taken hs rfl rfl rfl
      | none =>
          have hdrain : Keeps { s with screencopyFrames := [] } (s.drain R none) := drain_keeps
          exact hdrain.grows_taken hs rfl rfl rfl
  | stop => exact stop_keeps.grows_taken hs rfl rfl rfl

theorem step_queued (hs : s.Queued) (hstep : (system R).step s e t) : t.Queued := by
  have hgrows := step_grows hs hstep
  refine ⟨hgrows.fresh, fun screencopy h => ?_, fun screencopy h => ?_⟩
  · rcases step_waits hstep h with hold | ⟨data, frame, sendDamage, buffer, hdata, -, rfl⟩
    · obtain ⟨data, hdata, hwhat⟩ := hs.known screencopy hold
      exact ⟨data, hgrows.frames _ _ hdata, hwhat⟩
    · exact ⟨data, hgrows.frames _ _ hdata, rfl, rfl⟩
  · rcases step_waits hstep h with hold | ⟨data, frame, sendDamage, buffer, -, hfits, rfl⟩
    · exact fits_of_len (hs.fits screencopy hold) hgrows.len
    · exact fits_of_len hfits hgrows.len

theorem reachable_queued {ok : ScreencopyState β → ScreencopyEvent β → Prop}
    (h : ReachableUnder (system R) ok s) : s.Queued := by
  refine h.invariant ?_ fun s e t hs _ hstep => step_queued hs hstep
  intro s hinit
  refine ⟨fun frame data hdata => ?_, fun screencopy h => ?_, fun screencopy h => ?_⟩
  · rw [hinit.frames, AList.lookup_empty] at hdata
    cases hdata
  · rw [hinit.screencopyFrames] at h
    cases h
  · rw [hinit.screencopyFrames] at h
    cases h

/-- A render that succeeds fills the buffers of requests that suit its output. -/
theorem drain_adds (hR : R.Lawful) (hs : s.Queued)
    (hsuits : ∀ screencopy ∈ s.screencopyFrames, screencopy.frame ∉ s.destroyed →
      ∃ buffer, s.Suits output screencopy buffer) :
    Adds (FilledFor s.screencopyFrames) s
      ((s.present output (some picture)).drain R (some picture)) := by
  let u := { s.present output (some picture) with screencopyFrames := [] }
  have hshown : u.shown output = picture := Function.update_self ..
  have hloop : Adds (FilledFor s.screencopyFrames) u
      (s.screencopyFrames.foldl (copyFrame R (u.shown output)) u) := by
    refine foldl_adds hR hs.fits fun screencopy h hthere => ?_
    obtain ⟨buffer, hbuffer⟩ := hsuits screencopy h hthere
    exact ⟨buffer, hbuffer.of_len fun _ => rfl⟩
  rw [hshown] at hloop
  exact (Adds.of_sent rfl).trans hloop

/-- The frames that a step tells that they are ready have waited, and their buffers have been
filled. -/
theorem step_adds (hR : R.Lawful) (hs : s.Queued) (hsuited : s.Suited e)
    (hstep : (system R).step s e t) : Adds (FilledFor s.screencopyFrames) s t := by
  cases step_effect hstep with
  | hotplug => exact .of_sent rfl
  | winitOutput => exact .of_sent rfl
  | captureOutput => exact createFrame_adds
  | captureOutputRegion => exact createFrame_adds
  | queued => exact .of_sent rfl
  | dropped => exact drop_adds
  | failed => exact failed_adds
  | destroy => exact .of_sent rfl
  | write => exact .of_sent rfl
  | skipped => exact .of_sent rfl
  | @rendered node crtc result output houtput =>
      cases result with
      | some picture => exact drain_adds hR hs (hsuited output houtput)
      | none => exact (Adds.of_sent rfl).trans (foldl_adds_none fun _ _ => failed_adds)
  | stop => exact (Adds.of_sent rfl).trans (foldl_adds_none fun _ _ => drop_adds)

theorem step_truthful (hR : R.Lawful) (hs : s.Queued) (htruthful : s.Truthful)
    (hsuited : s.Suited e) (hstep : (system R).step s e t) : t.Truthful := by
  have hgrows := step_grows hs hstep
  intro frame seen hmem
  rcases step_adds hR hs hsuited hstep frame seen hmem with hold | ⟨screencopy, h, rfl, hfilled⟩
  · obtain ⟨data, hdata, hfilled⟩ := htruthful frame seen hold
    exact ⟨data, hgrows.frames _ _ hdata, hfilled⟩
  · obtain ⟨data, hdata, hregion, houtput⟩ := hs.known screencopy h
    rw [hregion, houtput] at hfilled
    exact ⟨data, hgrows.frames _ _ hdata, hfilled⟩

/-- In a run whose renders find only requests that suit them, a frame is told that it is
ready only when its buffer has been filled with the region of the output that it was
created for. -/
theorem suited_truthful (hR : R.Lawful) (h : ReachableUnder (system R) Suited s) :
    s.Truthful := by
  refine h.invariant_using (J := Queued) (fun _ => reachable_queued) ?_ ?_
  · intro s hinit frame seen hmem
    rw [hinit.sent] at hmem
    cases hmem
  · exact fun s e t hs htruthful hsuited hstep => step_truthful hR hs htruthful hsuited hstep

/-- The picture of the panel that a client takes is one of the panel. -/
theorem screenshot_truthful :
    ∃ s, run (apply (.software 0)) (idle .udev) (requested ++ [.render 0 0 (some grey)]) = .ok s ∧
      (∃ seen, (0, .ready seen) ∈ s.sent) ∧ s.Truthful := by
  refine ⟨_, rfl, ⟨_, List.mem_of_mem_getLast? rfl⟩, ?_⟩
  refine suited_truthful (Renderer.software_lawful 0) (Run.reachableUnder (run_of_admitted
    (.init idle_initial) (requested_admitted (some grey)) rfl) ?_)
  refine List.forall_mem_cons.mpr ⟨trivial, List.forall_mem_cons.mpr ⟨trivial,
    List.forall_mem_cons.mpr ⟨trivial, List.forall_mem_cons.mpr ⟨trivial,
    List.forall_mem_cons.mpr ⟨trivial, List.forall_mem_cons.mpr ⟨trivial,
    List.forall_mem_cons.mpr ⟨?_, ?_⟩⟩⟩⟩⟩⟩⟩
  · intro output houtput screencopy hmem _
    obtain rfl := Option.some.inj houtput
    obtain rfl := List.mem_singleton.mp hmem
    exact ⟨_, rfl, rfl, le_rfl, le_rfl, .inr ⟨rfl, rfl, rfl, rfl, le_rfl, le_rfl, le_rfl, le_rfl⟩⟩
  · exact fun p hp => absurd hp List.not_mem_nil

/-- A second output comes, and a client asks for a copy of that one. Then the panel is
rendered. -/
def otherRendered : List (ScreencopyEvent Nat) :=
  panelComes ++ [.hotplug Hotplug.monitorAdded, .write 0 ⟨10240 * 1440, fun _ => 0⟩,
    .captureOutput false Hotplug.monitor 3,
    .copy 0 false (.shm ⟨0, 0, 2560, 1440, 10240, .argb8888⟩), .render 0 0 (some grey)]

theorem otherRendered_admitted :
    ∀ p ∈ steps (apply (.software 0)) (idle .udev) otherRendered, p.1.Admits p.2 := by
  rw [otherRendered, steps_append panelComes_run, List.forall_mem_append]
  refine ⟨panelComes_admitted, List.forall_mem_cons.mpr ⟨⟨rfl, trivial⟩,
    List.forall_mem_cons.mpr ⟨Nat.zero_le _, List.forall_mem_cons.mpr ⟨trivial,
    List.forall_mem_cons.mpr ⟨⟨rfl, List.not_mem_nil, le_of_eq rfl⟩,
    List.forall_mem_cons.mpr ⟨rfl, ?_⟩⟩⟩⟩⟩⟩
  exact fun p hp => absurd hp List.not_mem_nil

/-- The frame of the second output is told that it is ready, with a picture of the
panel. -/
theorem otherRendered_ready :
    ∃ trace s seen, Run (system (.software 0)) trace s ∧ (0, .ready seen) ∈ s.sent ∧
      ¬ s.Truthful := by
  refine ⟨_, _, _, run_of_admitted (.init idle_initial) otherRendered_admitted rfl,
    List.mem_of_mem_getLast? rfl, fun htruthful => ?_⟩
  obtain ⟨data, hdata, buffer, hbuffer, hshows⟩ := htruthful 0 _ (List.mem_of_mem_getLast? rfl)
  obtain rfl := Option.some.inj hdata
  obtain rfl := WlBuffer.shm.inj hbuffer
  have hbyte := hshows.byte 0 0 0 (by decide) (by decide) (by decide)
  exact absurd hbyte (by decide)

end ScreencopyState

end Scape.Display
