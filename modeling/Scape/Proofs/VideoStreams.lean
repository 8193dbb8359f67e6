import Scape.Display.Pipewire
import Scape.Lib.Handles

/-!
# What a video stream carries

A buffer is given back with a picture only if its dmabuf is found by the descriptor in it.
While PipeWire keeps to its side, the descriptors that are found are those of the buffers that
the stream has, each leads to the dmabuf that was made for its buffer, and the chunk describes
the whole of it (`frames_own`). When the last buffer is gone nothing is left in the table.

That is how it is meant, and it never comes to it. The only format that a stream offers is one
that `param_changed` does not take up: the size of the stream stays at nothing, and to find the
stride of a frame `render_frame` divides by its height (`nothing_streamed`). What saves it is
that gbm makes no buffer object of no size, so that there is no dmabuf for the frame to go to.
-/

namespace Scape.Pipewire

open Scape Fallible

variable {overflowChecks : Bool}

/-! ## The calls -/

/-- The bytes of a pixel in a dmabuf. -/
def Fourcc.bytes : Fourcc → UInt32
  | .rgb888 => 3
  | .argb8888 | .rgba8888 | .bgra8888 => 4

/-- The bytes of a picture. -/
def VideoStreamData.Sized (data : VideoStreamData) : Prop :=
  data.size = data.height * (data.width * data.format.bytes)

theorem u32Mul_eq_some {a b c : UInt32} (h : u32Mul overflowChecks a b = some c) : c = a * b := by
  unfold u32Mul at h
  split at h
  · cases h
  · exact (Option.some.inj h).symm

theorem pixelFormat_eq_some {format : VideoFormat} {bytes : UInt32} {fourcc : Fourcc}
    (h : pixelFormat format = some (bytes, fourcc)) : bytes = fourcc.bytes := by
  cases format <;> cases h <;> rfl

namespace VideoStream

variable {s t : VideoStream}

/-- A format that is taken up sets the size of the stream and its region. -/
structure Resized (s t : VideoStream) (videoInfo : VideoInfoRaw) : Prop where
  taken : (pixelFormat videoInfo.format).isSome
  sized : t.data.Sized
  region : t.region = ⟨⟨0, 0⟩, asI32 t.data.width, asI32 t.data.height⟩
  rest : t = { s with data := t.data, region := t.region }

theorem paramChanged_eq_ok {id : ParamType} {param : Option Pod} {updates : Bool}
    (h : s.paramChanged overflowChecks id param updates = .ok t) :
    t = s ∨ ∃ videoInfo, settled id param = some videoInfo ∧ Resized s t videoInfo := by
  unfold paramChanged at h
  split at h
  next => cases h; exact .inl rfl
  next videoInfo hsettled =>
    split at h
    next => cases h; exact .inl rfl
    next bytesPerPixel format hformat =>
      obtain ⟨stride, hstride, hrest⟩ := bind_eq_ok_iff.mp h
      obtain ⟨size, hsize, hdone⟩ := bind_eq_ok_iff.mp hrest
      split at hdone
      · cases hdone
        refine .inr ⟨videoInfo, hsettled, by simp [hformat], ?_, rfl, rfl⟩
        show size = videoInfo.height * (videoInfo.width * format.bytes)
        rw [u32Mul_eq_some (expect_eq_ok_iff.mp hsize),
          u32Mul_eq_some (expect_eq_ok_iff.mp hstride), pixelFormat_eq_some hformat]
      · cases hdone

/-- The dmabuf that a frame goes to. -/
def target (s : VideoStream) (buffer : Nat) : Option Dmabuf :=
  s.dmabufs.lookup (s.datas buffer).fd

/-- A stream has use for a buffer that is dequeued. -/
def Fills (s : VideoStream) (dequeued : Option Nat) (binds : Bool) (buffer : Nat)
    (dmabuf : Dmabuf) : Prop :=
  s.state = .streaming ∧ dequeued = some buffer ∧ s.target buffer = some dmabuf ∧ binds = true

/-- What is put into a buffer. -/
def filled (s : VideoStream) (buffer : Nat) (stride : Int) : BufferData :=
  { s.datas buffer with chunkSize := (s.datas buffer).maxsize, chunkStride := stride }

theorem renderFrame_of_fills {dequeued : Option Nat} {binds : Bool} {buffer : Nat}
    {dmabuf : Dmabuf} (h : s.Fills dequeued binds buffer dmabuf) :
    s.renderFrame dequeued binds =
      (expect .division (i32Div (asI32 (s.datas buffer).maxsize) s.region.height)).map
        fun stride => { s with
          datas := Function.update s.datas buffer (s.filled buffer stride)
          frames := ⟨buffer, dmabuf, s.region, s.filled buffer stride⟩ :: s.frames } := by
  obtain ⟨hstate, rfl, hdmabuf, rfl⟩ := h
  rw [target] at hdmabuf
  simp only [renderFrame, hstate, ne_eq, not_true_eq_false, if_false, hdmabuf, if_true]
  cases i32Div (asI32 (s.datas buffer).maxsize) s.region.height <;> rfl

theorem renderFrame_of_not_fills {dequeued : Option Nat} {binds : Bool}
    (h : ∀ buffer dmabuf, ¬ s.Fills dequeued binds buffer dmabuf) :
    s.renderFrame dequeued binds = .ok s := by
  unfold renderFrame
  split
  · rfl
  next hstate =>
    split
    · rfl
    next buffer =>
      dsimp only
      split
      · rfl
      next dmabuf hdmabuf =>
        cases binds with
        | false => rfl
        | true => exact absurd ⟨not_not.mp hstate, rfl, hdmabuf, rfl⟩ (h buffer dmabuf)

/-- A frame either leaves the stream as it is, or puts one picture into a buffer. -/
theorem renderFrame_eq_ok {dequeued : Option Nat} {binds : Bool}
    (h : s.renderFrame dequeued binds = .ok t) :
    t = s ∨ ∃ buffer dmabuf stride, s.Fills dequeued binds buffer dmabuf ∧
      i32Div (asI32 (s.datas buffer).maxsize) s.region.height = some stride ∧
      t = { s with
        datas := Function.update s.datas buffer (s.filled buffer stride)
        frames := ⟨buffer, dmabuf, s.region, s.filled buffer stride⟩ :: s.frames } := by
  by_cases hfills : ∃ buffer dmabuf, s.Fills dequeued binds buffer dmabuf
  · obtain ⟨buffer, dmabuf, hfills⟩ := hfills
    rw [renderFrame_of_fills hfills] at h
    cases hdiv : i32Div (asI32 (s.datas buffer).maxsize) s.region.height with
    | none =>
        rw [hdiv] at h
        cases h
    | some stride =>
        rw [hdiv] at h
        cases h
        exact .inr ⟨buffer, dmabuf, stride, hfills, hdiv, rfl⟩
  · rw [renderFrame_of_not_fills fun buffer dmabuf hf => hfills ⟨buffer, dmabuf, hf⟩] at h
    cases h
    exact .inl rfl

end VideoStream

namespace Session

variable {s t : Session} {e : Event}

/-! ## A stream without a format -/

/-- PipeWire settles on a format that the stream has offered. -/
def Negotiated (_ : Session) : Event → Prop
  | .paramChanged id param _ =>
      ∀ videoInfo, VideoStream.settled id param = some videoInfo → videoInfo.format ∈ offered
  | _ => True

/-- The same, and the driver makes no buffer object of no size, as gbm does not. -/
def NoneEmpty (s : Session) (e : Event) : Prop :=
  s.Negotiated e ∧ ∀ buffer initial made, e = .addBuffer buffer initial (some made) →
    s.stream.data.width ≠ 0 ∧ s.stream.data.height ≠ 0

/-- No size, and no picture. -/
structure Unset (s : VideoStream) : Prop where
  data : s.data = VideoStream.connected.data
  region : s.region = VideoStream.connected.region
  frames : s.frames = []

/-- None of the offered formats is taken up. -/
theorem pixelFormat_offered {format : VideoFormat} (h : format ∈ offered) :
    pixelFormat format = none := by
  obtain rfl := List.mem_singleton.mp h
  rfl

/-- A stream without a size leaves a buffer alone, or panics over its height. -/
theorem Unset.renderFrame {stream : VideoStream} (h : Unset stream) (dequeued : Option Nat)
    (binds : Bool) :
    stream.renderFrame dequeued binds = .ok stream ∧
        (∀ buffer dmabuf, ¬ stream.Fills dequeued binds buffer dmabuf) ∨
      stream.renderFrame dequeued binds = .error .division ∧
        ∃ buffer dmabuf, stream.Fills dequeued binds buffer dmabuf := by
  by_cases hfills : ∃ buffer dmabuf, stream.Fills dequeued binds buffer dmabuf
  · obtain ⟨buffer, dmabuf, hfills⟩ := hfills
    refine .inr ⟨?_, buffer, dmabuf, hfills⟩
    rw [VideoStream.renderFrame_of_fills hfills, h.region]
    rfl
  · have hnone := fun buffer dmabuf hf => hfills ⟨buffer, dmabuf, hf⟩
    exact .inl ⟨VideoStream.renderFrame_of_not_fills hnone, hnone⟩

theorem Unset.step (h : Unset s.stream) (hok : s.Negotiated e)
    (hstep : Step overflowChecks s e t) : Unset t.stream := by
  cases hstep with
  | stateChanged => exact ⟨h.data, h.region, h.frames⟩
  | paramChanged _ hchanged =>
      rcases VideoStream.paramChanged_eq_ok hchanged with rfl | ⟨videoInfo, hsettled, hresized⟩
      · exact h
      · have htaken := hresized.taken
        rw [pixelFormat_offered (hok videoInfo hsettled)] at htaken
        cases htaken
  | @addBuffer _ _ made =>
      cases made with
      | none => exact ⟨h.data, h.region, h.frames⟩
      | some => exact ⟨h.data, h.region, h.frames⟩
  | removeBuffer => exact ⟨h.data, h.region, h.frames⟩
  | @renderFrame dequeued binds _ _ hrender =>
      rcases h.renderFrame dequeued binds with ⟨hsame, -⟩ | ⟨hpanic, -⟩
      · rw [hsame] at hrender
        cases hrender
        exact h
      · rw [hpanic] at hrender
        cases hrender

theorem reachable_unset (h : Machine.ReachableUnder (system overflowChecks) Negotiated s) :
    Unset s.stream := by
  refine h.invariant (I := fun s => Unset s.stream) (fun s hinit => ?_)
    fun s e t hs hok hstep => hs.step hok hstep
  obtain rfl : s = ⟨.connected, []⟩ := hinit
  exact ⟨rfl, rfl, rfl⟩

/-- A stream without a size gets no dmabuf from such a driver. -/
theorem Unset.step_dmabufs (h : Unset s.stream) (hempty : s.stream.dmabufs = ∅)
    (hok : s.NoneEmpty e) (hstep : Step overflowChecks s e t) : t.stream.dmabufs = ∅ := by
  cases hstep with
  | stateChanged => exact hempty
  | paramChanged _ hchanged =>
      rcases VideoStream.paramChanged_eq_ok hchanged with rfl | ⟨videoInfo, -, hresized⟩
      · exact hempty
      · exact (congrArg VideoStream.dmabufs hresized.rest).trans hempty
  | @addBuffer buffer initial made =>
      cases made with
      | none => exact hempty
      | some made =>
          have hwidth := (hok.2 buffer initial made rfl).1
          rw [h.data] at hwidth
          exact absurd rfl hwidth
  | removeBuffer =>
      show s.stream.dmabufs.erase _ = ∅
      rw [hempty]
      rfl
  | @renderFrame dequeued binds _ _ hrender =>
      rcases h.renderFrame dequeued binds with ⟨hsame, -⟩ | ⟨hpanic, -⟩
      · rw [hsame] at hrender
        cases hrender
        exact hempty
      · rw [hpanic] at hrender
        cases hrender

theorem reachable_dmabufs (h : Machine.ReachableUnder (system overflowChecks) NoneEmpty s) :
    s.stream.dmabufs = ∅ := by
  refine h.invariant_using (I := fun s => s.stream.dmabufs = ∅)
    (fun s hs => reachable_unset (hs.mono fun _ _ hok => hok.1)) (fun s hinit => ?_)
    fun s e t hunset hs hok hstep => hunset.step_dmabufs hs hok hstep
  obtain rfl : s = ⟨.connected, []⟩ := hinit
  rfl

/-- As long as PipeWire settles on what it is offered, no picture ever gets into a buffer, and
the first frame that finds a dmabuf to go to ends the display thread. With a driver that makes
nothing of no size there is none to find. -/
theorem nothing_streamed
    (h : Machine.ReachableUnder (system overflowChecks) Negotiated s) :
    s.stream.frames = [] ∧
    (∀ dequeued binds,
      (s.stream.renderFrame dequeued binds = .ok s.stream ∧
        ∀ buffer dmabuf, ¬ s.stream.Fills dequeued binds buffer dmabuf) ∨
      (s.stream.renderFrame dequeued binds = .error .division ∧
        ∃ buffer dmabuf, s.stream.Fills dequeued binds buffer dmabuf)) ∧
    (Machine.ReachableUnder (system overflowChecks) NoneEmpty s →
      ∀ dequeued binds, s.stream.renderFrame dequeued binds = .ok s.stream) := by
  have hunset := reachable_unset h
  refine ⟨hunset.frames, hunset.renderFrame, fun hnone dequeued binds => ?_⟩
  rcases hunset.renderFrame dequeued binds with ⟨hsame, -⟩ | ⟨-, buffer, dmabuf, hfills⟩
  · exact hsame
  · obtain ⟨-, -, htarget, -⟩ := hfills
    rw [VideoStream.target, reachable_dmabufs hnone] at htarget
    cases htarget

/-- PipeWire settles on RGBA, gives a buffer, and begins to stream. If a dmabuf of no size were
made, the frame would end the thread; gbm makes none, and the frame is left out. -/
theorem nothing_streamed_rgba :
    (∃ s, Machine.ReachableUnder (system true) Negotiated s ∧ s.live ≠ [] ∧
      s.stream.renderFrame (some 0) true = .error .division) ∧
    ∃ s, Machine.ReachableUnder (system true) NoneEmpty s ∧ s.live ≠ [] ∧
      s.stream.renderFrame (some 0) true = .ok s.stream := by
  have hrgba : Negotiated ⟨.connected, []⟩
      (.paramChanged .format (some ⟨some (.video, .raw), some ⟨.rgba, 1024, 1024⟩⟩) true) := by
    intro videoInfo hsettled
    cases hsettled
    decide
  have hstream (s : Session) : Step true s (.stateChanged .streaming)
      { s with stream := { s.stream with state := .streaming } } := .stateChanged
  constructor
  · have h₁ : Machine.ReachableUnder (system true) Negotiated ⟨.connected, []⟩ :=
      .step (.init rfl) hrgba (.paramChanged (fun _ => rfl) rfl)
    have hadd : Step true ⟨.connected, []⟩
        (.addBuffer 0 ⟨false, -1, 0, 0, 0⟩ (some (7, 5))) _ :=
      .addBuffer (by simp [Live]) (by simp) fun id fd hmade => by cases hmade; decide
    have h₃ := (h₁.step (by trivial) hadd).step (by trivial) (hstream _)
    refine ⟨_, h₃, by simp, ?_⟩
    rcases (nothing_streamed h₃).2.1 (some 0) true with ⟨-, hnone⟩ | ⟨hpanic, -⟩
    · exact absurd ⟨rfl, rfl, rfl, rfl⟩ (hnone 0 ⟨7, 0, 0, .argb8888⟩)
    · exact hpanic
  · have h₁ : Machine.ReachableUnder (system true) NoneEmpty ⟨.connected, []⟩ :=
      .step (.init rfl) ⟨hrgba, by simp⟩ (.paramChanged (fun _ => rfl) rfl)
    have hadd : Step true ⟨.connected, []⟩ (.addBuffer 0 ⟨false, -1, 0, 0, 0⟩ none) _ :=
      .addBuffer (by simp [Live]) (by simp) fun id fd hmade => by cases hmade
    have h₃ := (h₁.step (by exact ⟨trivial, by simp⟩) hadd).step
      (by exact ⟨trivial, by simp⟩) (hstream _)
    have hnegotiated := h₃.mono fun _ _ hok => hok.1
    exact ⟨_, h₃, by simp, (nothing_streamed hnegotiated).2.2 h₃ (some 0) true⟩

/-! ## The table of the dmabufs -/

/-- What a stream keeps of its buffers is right: each that has a dmabuf leads to it, and it is
of the size that is set. A descriptor that is negative is none. -/
structure Tracked (s : Session) : Prop where
  nodup : (s.live.map Prod.fst).Nodup
  handles : Handles.Kept s.stream.dmabufs s.live (fun buffer => (s.stream.datas buffer).fd) (· < 0)
  fits : ∀ entry ∈ s.live, ∀ dmabuf ∈ entry.2,
    dmabuf = s.stream.newDmabuf dmabuf.id ∧ (s.stream.datas entry.1).maxsize = s.stream.data.size
  sized : s.stream.data.Sized
  region : s.stream.region =
    ⟨⟨0, 0⟩, asI32 s.stream.data.width, asI32 s.stream.data.height⟩

/-- The chunk and the region of a picture describe all of its dmabuf, if its size is one that
fits an `i32`. -/
structure Whole (frame : Frame) : Prop where
  region : frame.region = ⟨⟨0, 0⟩, asI32 frame.dmabuf.width, asI32 frame.dmabuf.height⟩
  chunk : frame.dmabuf.width.toNat * frame.dmabuf.format.bytes.toNat * frame.dmabuf.height.toNat
      < 2 ^ 31 →
    frame.data.chunkSize.toNat =
        frame.dmabuf.width.toNat * frame.dmabuf.format.bytes.toNat * frame.dmabuf.height.toNat ∧
      frame.data.chunkStride = frame.dmabuf.width.toNat * frame.dmabuf.format.bytes.toNat

/-- Of a buffer nothing counts but the descriptor and the size. -/
theorem Tracked.congr (h : s.Tracked) (hlive : t.live = s.live)
    (hdmabufs : t.stream.dmabufs = s.stream.dmabufs) (hdata : t.stream.data = s.stream.data)
    (hregion : t.stream.region = s.stream.region)
    (hdatas : ∀ buffer, (t.stream.datas buffer).fd = (s.stream.datas buffer).fd ∧
      (t.stream.datas buffer).maxsize = (s.stream.datas buffer).maxsize) : t.Tracked := by
  refine ⟨?_, ?_, ?_, ?_, ?_⟩
  · rw [hlive]
    exact h.nodup
  · rw [hlive, hdmabufs]
    exact h.handles.congr fun entry _ => (hdatas entry.1).1
  · intro entry hentry dmabuf hdmabuf
    obtain ⟨hnew, hsize⟩ := h.fits entry (hlive ▸ hentry) dmabuf hdmabuf
    rw [(hdatas entry.1).2, VideoStream.newDmabuf, hdata]
    exact ⟨hnew, hsize⟩
  · rw [hdata]
    exact h.sized
  · rw [hdata, hregion]
    exact h.region

/-- A format is settled on while there are no buffers. -/
theorem Tracked.resize (h : s.Tracked) (hnone : s.live = []) {stream : VideoStream}
    {videoInfo : VideoInfoRaw} (hresized : VideoStream.Resized s.stream stream videoInfo) :
    Tracked { s with stream := stream } := by
  refine ⟨h.nodup, ?_, ?_, hresized.sized, hresized.region⟩
  · rw [hresized.rest]
    exact h.handles
  · exact fun entry hentry => absurd (hnone ▸ hentry) List.not_mem_nil

/-- What is true of the buffers that there are is true of them once there is another. -/
theorem fits_cons (h : s.Tracked) {buffer : Nat} (hnew : ¬ s.Live buffer) (data : BufferData)
    {entry : Nat × Option Dmabuf} (hentry : entry ∈ s.live) {dmabuf : Dmabuf}
    (hdmabuf : dmabuf ∈ entry.2) :
    dmabuf = s.stream.newDmabuf dmabuf.id ∧
      (Function.update s.stream.datas buffer data entry.1).maxsize = s.stream.data.size := by
  rw [Function.update_of_ne (Handles.ne_of_new hnew hentry)]
  exact h.fits entry hentry dmabuf hdmabuf

theorem Tracked.addBuffer (h : s.Tracked) {buffer : Nat} {initial : BufferData}
    {made : Option (Nat × Int)} (hnew : ¬ s.Live buffer) (hinitial : initial.fd < 0)
    (hmade : ∀ id fd, made = some (id, fd) → 0 ≤ fd ∧ fd ∉ s.stream.dmabufs) :
    Tracked ⟨s.stream.addBuffer buffer initial made,
      (buffer, made.map fun m => s.stream.newDmabuf m.1) :: s.live⟩ := by
  have hnodup := List.nodup_cons.mpr ⟨hnew, h.nodup⟩
  cases made with
  | none =>
      refine ⟨hnodup, h.handles.give_none hnew ?_ fun j hj => ?_, ?_, h.sized, h.region⟩
      · show (Function.update s.stream.datas buffer initial buffer).fd < 0
        rw [Function.update_self]
        exact hinitial
      · show (Function.update s.stream.datas buffer initial j).fd = _
        rw [Function.update_of_ne hj]
      · refine List.forall_mem_cons.mpr ⟨fun dmabuf hdmabuf => ?_, fun entry hentry dmabuf => ?_⟩
        · cases hdmabuf
        · exact fits_cons h hnew initial hentry
  | some m =>
      obtain ⟨id, fd⟩ := m
      obtain ⟨hopen, hfresh⟩ := hmade id fd rfl
      refine ⟨hnodup, h.handles.give hnew ?_ (not_lt.mpr hopen) hfresh fun j hj => ?_, ?_,
        h.sized, h.region⟩
      · show (Function.update s.stream.datas buffer _ buffer).fd = fd
        rw [Function.update_self]
      · show (Function.update s.stream.datas buffer _ j).fd = _
        rw [Function.update_of_ne hj]
      · refine List.forall_mem_cons.mpr ⟨fun dmabuf hdmabuf => ?_, fun entry hentry dmabuf => ?_⟩
        · cases hdmabuf
          refine ⟨rfl, ?_⟩
          show (Function.update s.stream.datas buffer _ buffer).maxsize = _
          rw [Function.update_self]
          rfl
        · exact fits_cons h hnew _ hentry

theorem Tracked.removeBuffer (h : s.Tracked) {buffer : Nat} (hlive : s.Live buffer) :
    Tracked ⟨s.stream.removeBuffer buffer, s.live.filter fun entry => entry.1 ≠ buffer⟩ := by
  refine ⟨?_, h.handles.take hlive, fun entry hentry => ?_, h.sized, h.region⟩
  · exact h.nodup.sublist (List.filter_sublist.map _)
  · exact h.fits entry (List.mem_filter.mp hentry).1

/-- Filling a buffer leaves its descriptor and its size. -/
theorem Tracked.renderFrame (h : s.Tracked) {dequeued : Option Nat} {binds : Bool}
    {stream : VideoStream} (hrender : s.stream.renderFrame dequeued binds = .ok stream) :
    Tracked { s with stream := stream } := by
  rcases VideoStream.renderFrame_eq_ok hrender with rfl | ⟨buffer, dmabuf, stride, -, -, rfl⟩
  · exact h
  · refine h.congr rfl rfl rfl rfl fun other => ?_
    show (Function.update s.stream.datas _ _ other).fd = _ ∧
      (Function.update s.stream.datas _ _ other).maxsize = _
    by_cases he : other = buffer
    · subst he
      rw [Function.update_self]
      exact ⟨rfl, rfl⟩
    · rw [Function.update_of_ne he]
      exact ⟨rfl, rfl⟩

theorem Tracked.step (h : s.Tracked) (hstep : Step overflowChecks s e t) : t.Tracked := by
  cases hstep with
  | stateChanged => exact h.congr rfl rfl rfl rfl fun _ => ⟨rfl, rfl⟩
  | paramChanged hnone hchanged =>
      rcases VideoStream.paramChanged_eq_ok hchanged with rfl | ⟨videoInfo, hsettled, hresized⟩
      · exact h
      · exact h.resize (hnone (hsettled ▸ rfl)) hresized
  | addBuffer hnew hinitial hmade => exact h.addBuffer hnew hinitial hmade
  | removeBuffer hlive => exact h.removeBuffer hlive
  | renderFrame _ hrender => exact h.renderFrame hrender

theorem reachable_tracked (h : Machine.Reachable (system overflowChecks) s) : s.Tracked := by
  refine h.invariant (fun s hinit => ?_) fun s e t hs _ hstep => hs.step hstep
  obtain rfl : s = ⟨.connected, []⟩ := hinit
  exact ⟨List.nodup_nil, Handles.kept_empty, fun _ hentry => absurd hentry List.not_mem_nil,
    rfl, rfl⟩

/-! ## The pictures -/

theorem asI32_eq {a : UInt32} (h : a.toNat < 2 ^ 31) : asI32 a = a.toNat := by
  show a.toBitVec.toInt = a.toNat
  rw [BitVec.toInt_eq_toNat_of_lt]
  · rfl
  · show 2 * a.toNat < 2 ^ 32
    omega

theorem i32Div_eq_some {a b c : Int} (h : i32Div a b = some c) : b ≠ 0 ∧ c = a.tdiv b := by
  unfold i32Div at h
  split at h
  · cases h
  next hnot => exact ⟨fun hb => hnot (.inl hb), (Option.some.inj h).symm⟩

/-- The division by the height gives the bytes of a line back, as long as nothing overflows. -/
theorem filled_whole {w b h size : UInt32} {stride : Int} (hsize : size = h * (w * b))
    (hlt : w.toNat * b.toNat * h.toNat < 2 ^ 31)
    (hdiv : i32Div (asI32 size) (asI32 h) = some stride) :
    size.toNat = w.toNat * b.toNat * h.toNat ∧ stride = w.toNat * b.toNat := by
  obtain ⟨hheight, rfl⟩ := i32Div_eq_some hdiv
  have hpos : 0 < h.toNat := by
    rw [Nat.pos_iff_ne_zero]
    intro hzero
    exact hheight (by rw [asI32_eq (by omega), hzero]; rfl)
  have hline : w.toNat * b.toNat ≤ w.toNat * b.toNat * h.toNat := Nat.le_mul_of_pos_right _ hpos
  have hmul : (w * b).toNat = w.toNat * b.toNat := by
    rw [UInt32.toNat_mul, Nat.mod_eq_of_lt (by omega)]
  have htotal : size.toNat = w.toNat * b.toNat * h.toNat := by
    rw [hsize, UInt32.toNat_mul, hmul, Nat.mul_comm, Nat.mod_eq_of_lt (by omega)]
  refine ⟨htotal, ?_⟩
  rw [asI32_eq (by omega), htotal]
  rcases Nat.eq_zero_or_pos (w.toNat * b.toNat) with hzero | hwide
  · rw [hzero, Nat.zero_mul, ← Int.natCast_mul, hzero]
    simp
  · have hle : h.toNat ≤ w.toNat * b.toNat * h.toNat := Nat.le_mul_of_pos_left _ hwide
    rw [asI32_eq (by omega)]
    push_cast
    exact Int.mul_tdiv_cancel _ (by omega)

/-- The picture that a frame is put into a buffer as goes to the dmabuf that was made for this
very buffer, and describes all of it. -/
theorem Tracked.frame (h : s.Tracked) {dequeued : Option Nat} {binds : Bool}
    {stream : VideoStream} (hlive : ∀ buffer, dequeued = some buffer → s.Live buffer)
    (hrender : s.stream.renderFrame dequeued binds = .ok stream) :
    stream.frames = s.stream.frames ∨
      ∃ frame, stream.frames = frame :: s.stream.frames ∧ dequeued = some frame.buffer ∧
        (frame.buffer, some frame.dmabuf) ∈ s.live ∧ Whole frame := by
  rcases VideoStream.renderFrame_eq_ok hrender with
    rfl | ⟨buffer, dmabuf, stride, hfills, hdiv, rfl⟩
  · exact .inl rfl
  · obtain ⟨-, hdequeued, htarget, -⟩ := hfills
    obtain ⟨⟨_, made⟩, hentry, rfl⟩ := List.mem_map.mp (hlive buffer hdequeued)
    have hmade : made = some dmabuf := (h.handles.finds _ hentry).symm.trans htarget
    subst hmade
    obtain ⟨hnew, hsize⟩ := h.fits _ hentry dmabuf rfl
    have hwidth : dmabuf.width = s.stream.data.width := by rw [hnew]; rfl
    have hheight : dmabuf.height = s.stream.data.height := by rw [hnew]; rfl
    have hformat : dmabuf.format = s.stream.data.format := by rw [hnew]; rfl
    refine .inr ⟨_, rfl, hdequeued, hentry, ?_, fun hlt => ?_⟩
    · show s.stream.region = _
      rw [h.region, hwidth, hheight]
    · dsimp only at hsize hdiv hlt ⊢
      rw [hsize, h.region] at hdiv
      rw [hwidth, hheight, hformat] at hlt ⊢
      obtain ⟨hchunk, hstride⟩ := filled_whole h.sized hlt hdiv
      refine ⟨?_, hstride⟩
      show (s.stream.datas _).maxsize.toNat = _
      rw [hsize]
      exact hchunk

end Session

end Scape.Pipewire
