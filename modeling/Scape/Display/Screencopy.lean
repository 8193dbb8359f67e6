import Scape.Display.Hotplug

/-!
# Screen copies

A client has the screencopy manager create a frame, for an output or for a region of one,
and asks the frame to be copied into a buffer. What is asked for waits in one queue, for
all outputs, until something is rendered. Then the frame is told that it is ready, or that
it has failed, which it is told too when the request is dropped.

What the renderer draws and reads back is a parameter, with laws for what is documented.
The buffers of clients lie in pools, and a pool has its bytes at their addresses.

What is sent is kept, in order. Where a frame is told that it is ready, this comes with
what there is at that moment: the pools, and what each output shows.

The outputs of the udev backend are not transformed, and their scale is one.
-/

namespace Scape.Display

open Scape Fallible

inductive BackendData where
  | none
  | udev
  | winit
  deriving DecidableEq, Repr

inductive Transform where
  | normal
  | flipped180
  deriving DecidableEq, Repr

/-- `Transform::transform_rect_in`, in an area of the size of a mode. -/
def Transform.transformRectIn (transform : Transform) (rect : Rectangle) (area : Mode) :
    Rectangle :=
  match transform with
  | .normal => rect
  | .flipped180 => { rect with loc := ⟨rect.loc.x, area.height - rect.loc.y - rect.height⟩ }

/-- The whole of an output, in its own coordinates. -/
def SmithayOutput.rect (output : SmithayOutput) : Rectangle :=
  ⟨⟨0, 0⟩, output.mode.width, output.mode.height⟩

def Rectangle.overlaps (r other : Rectangle) : Bool :=
  r.loc.x < other.loc.x + other.width && other.loc.x < r.loc.x + r.width &&
    r.loc.y < other.loc.y + other.height && other.loc.y < r.loc.y + r.height

def Rectangle.intersection (r other : Rectangle) : Option Rectangle :=
  if r.overlaps other then
    let left := max r.loc.x other.loc.x
    let top := max r.loc.y other.loc.y
    let right := min (r.loc.x + r.width) (other.loc.x + other.width)
    let bottom := min (r.loc.y + r.height) (other.loc.y + other.height)
    some ⟨⟨left, top⟩, right - left, bottom - top⟩
  else none

/-! ## Buffers -/

inductive ShmFormat where
  | argb8888
  | xrgb8888
  | other (code : Nat)
  deriving DecidableEq, Repr

/-- `BufferData`, with the pool. -/
structure ShmBuffer where
  pool : Nat
  offset : Nat
  width : Nat
  height : Nat
  stride : Nat
  format : ShmFormat
  deriving DecidableEq, Repr

/-- A buffer of one of the types the renderer knows, or of none. -/
inductive WlBuffer where
  | shm (data : ShmBuffer)
  | egl
  | dma
  | singlePixel
  | unknown
  deriving DecidableEq, Repr

variable {β : Type}

/-- The bytes of the pixel at each point. -/
abbrev Picture (β : Type) := Int → Int → Nat → β

/-- The memory a client shares. -/
structure Pool (β : Type) where
  len : Nat
  bytes : Nat → β

/-- What smithay asks of a buffer when it is created. A pool only grows. -/
def WlBuffer.Fits (pools : Nat → Pool β) : WlBuffer → Prop
  | .shm data => data.offset + data.stride * data.height ≤ (pools data.pool).len
  | _ => True

/-! ## The renderer -/

/-- An offscreen texture that is bound. -/
structure Target (β : Type) where
  width : Int
  height : Int
  pixel : Picture β

def Target.Holds (target : Target β) (x y : Int) : Prop :=
  0 ≤ x ∧ x < target.width ∧ 0 ≤ y ∧ y < target.height

structure Renderer (β : Type) where
  createBuffer : Int → Int → Target β
  /-- of a frame that has been rendered, what is damaged -/
  blitFrameResult : Picture β → Rectangle → Target β → Target β
  /-- the bytes of a region, mapped row by row -/
  copyFramebuffer : Target β → Rectangle → Nat → β

structure Renderer.Lawful (R : Renderer β) : Prop where
  createBuffer_width : ∀ width height, (R.createBuffer width height).width = width
  createBuffer_height : ∀ width height, (R.createBuffer width height).height = height
  blit_width : ∀ picture damage target,
    (R.blitFrameResult picture damage target).width = target.width
  blit_height : ∀ picture damage target,
    (R.blitFrameResult picture damage target).height = target.height
  blit_pixel : ∀ picture damage target x y, target.Holds x y → damage.contains ⟨x, y⟩ →
    (R.blitFrameResult picture damage target).pixel x y = picture x y
  copy_byte : ∀ (target : Target β) (region : Rectangle) (column row byte : Nat),
    column < region.width → row < region.height → byte < 4 →
    target.Holds (region.loc.x + column) (region.loc.y + row) →
    R.copyFramebuffer target region (4 * (row * region.width.toNat + column) + byte) =
      target.pixel (region.loc.x + column) (region.loc.y + row) byte

instance (target : Target β) (x y : Int) : Decidable (target.Holds x y) :=
  inferInstanceAs (Decidable (_ ∧ _))

/-- One that does it in memory. What is read from outside a texture is blank. -/
def Renderer.software (blank : β) : Renderer β where
  createBuffer width height := ⟨width, height, fun _ _ _ => blank⟩
  blitFrameResult picture damage target :=
    { target with
      pixel := fun x y => if damage.contains ⟨x, y⟩ then picture x y else target.pixel x y }
  copyFramebuffer target region k :=
    let width := region.width.toNat
    let x := region.loc.x + (k / 4 % width : Nat)
    let y := region.loc.y + (k / 4 / width : Nat)
    if target.Holds x y then target.pixel x y (k % 4) else blank

theorem Renderer.software_lawful (blank : β) : (Renderer.software blank).Lawful where
  createBuffer_width _ _ := rfl
  createBuffer_height _ _ := rfl
  blit_width _ _ _ := rfl
  blit_height _ _ _ := rfl
  blit_pixel picture damage target x y _ hdamage := if_pos hdamage
  copy_byte target region column row byte hcolumn _ hbyte hholds := by
    have hwidth : column < region.width.toNat := by omega
    have hindex : (4 * (row * region.width.toNat + column) + byte) / 4 =
        column + region.width.toNat * row := by
      rw [Nat.mul_add_div (by decide), Nat.div_eq_of_lt hbyte, Nat.add_zero, Nat.mul_comm row,
        Nat.add_comm]
    have hbytes : (4 * (row * region.width.toNat + column) + byte) % 4 = byte := by
      rw [Nat.mul_add_mod, Nat.mod_eq_of_lt hbyte]
    dsimp only [Renderer.software]
    rw [hindex, hbytes, Nat.add_mul_mod_self_left, Nat.mod_eq_of_lt hwidth,
      Nat.add_mul_div_left _ _ (Nat.zero_lt_of_lt hwidth), Nat.div_eq_of_lt hwidth, Nat.zero_add]
    exact if_pos hholds

/-! ## The state -/

structure ScreencopyFrameState where
  rect : Rectangle
  overlayCursor : Bool
  output : SmithayOutput
  deriving DecidableEq, Repr

/-- A request to copy a frame. -/
structure Screencopy where
  region : Rectangle
  frame : Nat
  sendDamage : Bool
  buffer : WlBuffer
  submitted : Bool
  output : SmithayOutput
  overlayCursor : Bool
  deriving DecidableEq, Repr

/-- What a client asks for when it asks for a copy of its frame. -/
def ScreencopyFrameState.screencopy (data : ScreencopyFrameState) (frame : Nat)
    (sendDamage : Bool) (buffer : WlBuffer) : Screencopy :=
  ⟨data.rect, frame, sendDamage, buffer, false, data.output, data.overlayCursor⟩

/-- What there is when a frame is told that it is ready. -/
structure Seen (β : Type) where
  buffer : WlBuffer
  pools : Nat → Pool β
  shown : SmithayOutput → Picture β

inductive FrameEvent (β : Type) where
  | buffer (format : ShmFormat) (width height stride : Nat)
  | bufferDone
  | flags
  | ready (seen : Seen β)
  | failed

/-- After such an event nothing more is to come. -/
def FrameEvent.terminal : FrameEvent β → Bool
  | .ready _ | .failed => true
  | _ => false

structure ScreencopyState (β : Type) where
  hotplug : Hotplug
  backendData : BackendData
  frames : HashMap Nat ScreencopyFrameState
  nextFrame : Nat
  /-- the frames that a client, or its end, has destroyed -/
  destroyed : List Nat
  screencopyFrames : List Screencopy
  pools : Nat → Pool β
  /-- what each output was last rendered as -/
  shown : SmithayOutput → Picture β
  sent : List (Nat × FrameEvent β)

inductive ScreencopyPanic where
  | noBackend
  | output
  | render (panic : Panic)
  deriving DecidableEq, Repr

namespace ScreencopyState

/-! ## Frames -/

/-- An event for an object that is gone is lost. -/
def send (s : ScreencopyState β) (frame : Nat) (event : FrameEvent β) : ScreencopyState β :=
  if frame ∈ s.destroyed then s else { s with sent := s.sent ++ [(frame, event)] }

/-- `Screencopy::drop`. -/
def drop (s : ScreencopyState β) (screencopy : Screencopy) : ScreencopyState β :=
  if screencopy.submitted then s else s.send screencopy.frame .failed

/-- `Screencopy::submit`. -/
def submit (s : ScreencopyState β) (screencopy : Screencopy) : ScreencopyState β :=
  let s := s.send screencopy.frame .flags
  let s := s.send screencopy.frame (.ready ⟨screencopy.buffer, s.pools, s.shown⟩)
  s.drop { screencopy with submitted := true }

/-- `Screencopy::failed`, which takes the request and so drops it. -/
def failed (s : ScreencopyState β) (screencopy : Screencopy) : ScreencopyState β :=
  (s.send screencopy.frame .failed).drop screencopy

/-! ## Requests -/

def currentTransform (s : ScreencopyState β) : Transform :=
  match s.backendData with
  | .winit => .flipped180
  | _ => .normal

/-- `ScreencopyHandler::output`, of the output that owns the resource of the client. -/
def output (s : ScreencopyState β) (owner : SmithayOutput) :
    Except ScreencopyPanic SmithayOutput :=
  expect .output (s.hotplug.display.outputs.values.find? (· = owner))

/-- A number that is cast to `u32`. -/
def asU32 (n : Int) : Nat := (n % 4294967296).toNat

/-- The end of the manager's requests. -/
def createFrame (s : ScreencopyState β) (data : ScreencopyFrameState) (version : Nat) :
    ScreencopyState β :=
  let frame := s.nextFrame
  let s := { s with frames := s.frames.insert frame data, nextFrame := frame + 1 }
  let s := s.send frame
    (.buffer .argb8888 (asU32 data.rect.width) (asU32 data.rect.height)
      (asU32 data.rect.width * 4))
  if 3 ≤ version then s.send frame .bufferDone else s

def captureOutput (s : ScreencopyState β) (overlayCursor : Bool) (owner : SmithayOutput)
    (version : Nat) : Except ScreencopyPanic (ScreencopyState β) := do
  let output ← s.output owner
  return s.createFrame ⟨output.rect, overlayCursor, output⟩ version

def captureOutputRegion (s : ScreencopyState β) (overlayCursor : Bool) (rect : Rectangle)
    (owner : SmithayOutput) (version : Nat) : Except ScreencopyPanic (ScreencopyState β) := do
  let output ← s.output owner
  let rotatedRect := s.currentTransform.transformRectIn rect output.mode
  let clampedRect := (rotatedRect.intersection output.rect).getD ⟨⟨0, 0⟩, 0, 0⟩
  return s.createFrame ⟨clampedRect, overlayCursor, output⟩ version

/-- Some device has a surface for the output. -/
def hasSurface (s : ScreencopyState β) (output : SmithayOutput) : Bool :=
  s.hotplug.backends.values.any fun device =>
    device.surfaces.values.any fun surface => surface.output = output

/-- `ScreencopyHandler::frame`. The render that it schedules is a step of its own. A
request for an output without a surface is dropped. -/
def frame (s : ScreencopyState β) (screencopy : Screencopy) :
    Except ScreencopyPanic (ScreencopyState β) :=
  match s.backendData with
  | .none => .error .noBackend
  | .udev =>
      if s.hasSurface screencopy.output then
        .ok { s with screencopyFrames := s.screencopyFrames ++ [screencopy] }
      else .ok (s.drop screencopy)
  | .winit => .ok (s.failed screencopy)

/-- `Copy`, and `CopyWithDamage`. -/
def copy (s : ScreencopyState β) (frame : Nat) (sendDamage : Bool) (buffer : WlBuffer) :
    Except ScreencopyPanic (ScreencopyState β) :=
  match s.frames.lookup frame with
  | none => .ok s
  | some data => s.frame (data.screencopy frame sendDamage buffer)

/-! ## Rendering -/

variable (R : Renderer β)

/-- What `with_buffer_contents_mut` is given to do, with the bytes of the pool that the
buffer lies in. -/
def copyContents (s : ScreencopyState β) (data : ShmBuffer) (region : Rectangle)
    (mapping : Nat → β) : ScreencopyState β :=
  let pool := s.pools data.pool
  if data.format ≠ .argb8888 ∨ (data.stride : Int) ≠ region.width * 4 ∨
      (data.height : Int) ≠ region.height ∨ pool.len ≠ data.stride * data.height then s
  else
    let bytes := fun k => if k < pool.len then mapping k else pool.bytes k
    { s with pools := Function.update s.pools data.pool ⟨pool.len, bytes⟩ }

/-- The way of a request through a render that has succeeded. -/
def copyFrame (picture : Picture β) (s : ScreencopyState β) (screencopy : Screencopy) :
    ScreencopyState β :=
  match screencopy.buffer with
  | .shm data =>
      let region := screencopy.region
      let damage := Transform.normal.transformRectIn region screencopy.output.mode
      let target := R.createBuffer data.width data.height
      let target := R.blitFrameResult picture damage target
      (s.copyContents data region (R.copyFramebuffer target region)).submit screencopy
  -- an unsupported type of buffer is logged
  | _ => s.submit screencopy

/-- The loop over the queue, with the frame if the render has succeeded. -/
def drain (s : ScreencopyState β) (result : Option (Picture β)) : ScreencopyState β :=
  let screencopies := s.screencopyFrames
  let s := { s with screencopyFrames := [] }
  match result with
  | some picture => screencopies.foldl (copyFrame R picture) s
  | none => screencopies.foldl failed s

/-- A render that succeeds is what its output shows. -/
def present (s : ScreencopyState β) (output : SmithayOutput) (result : Option (Picture β)) :
    ScreencopyState β :=
  match result with
  | some picture => { s with shown := Function.update s.shown output picture }
  | none => s

/-- The output that a render of a CRTC is for, if it comes to one. -/
def rendered (s : ScreencopyState β) (node crtc : Nat) : Option SmithayOutput := do
  let device ← s.hotplug.backends.lookup node
  let _ ← device.surfaces.lookup crtc
  let output ← s.hotplug.outputFor node crtc
  let _ ← s.hotplug.display.activeSpace output
  return output

/-- `render_surface_crtc`, with what comes of `render_frame`. -/
def render (s : ScreencopyState β) (node crtc : Nat) (result : Option (Picture β)) :
    Except ScreencopyPanic (ScreencopyState β) :=
  match s.rendered node crtc with
  | none => .ok s
  | some output =>
      match s.hotplug.display.renderSurface output with
      | .error panic => .error (.render panic)
      | .ok () => .ok ((s.present output result).drain R result)

/-- The state is dropped, and the queue with it. -/
def stop (s : ScreencopyState β) : ScreencopyState β :=
  s.screencopyFrames.foldl drop { s with screencopyFrames := [] }

end ScreencopyState

/-! ## Steps -/

inductive ScreencopyEvent (β : Type) where
  | hotplug (e : HotplugEvent)
  /-- the one output of the winit backend comes -/
  | winitOutput (mode : Mode)
  | captureOutput (overlayCursor : Bool) (owner : SmithayOutput) (version : Nat)
  | captureOutputRegion (overlayCursor : Bool) (rect : Rectangle) (owner : SmithayOutput)
      (version : Nat)
  | copy (frame : Nat) (sendDamage : Bool) (buffer : WlBuffer)
  | destroy (frame : Nat)
  /-- a client writes to its pool, or resizes it -/
  | write (pool : Nat) (contents : Pool β)
  | render (node crtc : Nat) (result : Option (Picture β))
  | stop

namespace ScreencopyState

variable (R : Renderer β)

def withHotplug (s : ScreencopyState β) (hotplug : Hotplug) : ScreencopyState β :=
  { s with hotplug }

def winitOutput (s : ScreencopyState β) (mode : Mode) : ScreencopyState β :=
  s.withHotplug { s.hotplug with display := s.hotplug.display.connectorConnected "winit" mode }

def apply (s : ScreencopyState β) :
    ScreencopyEvent β → Except ScreencopyPanic (ScreencopyState β)
  | .hotplug e => .ok (s.withHotplug (s.hotplug.apply e))
  | .winitOutput mode => .ok (s.winitOutput mode)
  | .captureOutput overlayCursor owner version => s.captureOutput overlayCursor owner version
  | .captureOutputRegion overlayCursor rect owner version =>
      s.captureOutputRegion overlayCursor rect owner version
  | .copy frame sendDamage buffer => s.copy frame sendDamage buffer
  | .destroy frame => .ok { s with destroyed := frame :: s.destroyed }
  | .write pool contents => .ok { s with pools := Function.update s.pools pool contents }
  | .render node crtc result => s.render R node crtc result
  | .stop => .ok s.stop

/-- What a step asks of its event. A frame that has been destroyed gets no requests. -/
def Admits (s : ScreencopyState β) : ScreencopyEvent β → Prop
  | .hotplug e => s.backendData = .udev ∧ s.hotplug.Admits e
  | .winitOutput _ => s.backendData = .winit
  | .copy frame _ buffer =>
      (s.frames.lookup frame).isSome ∧ frame ∉ s.destroyed ∧ buffer.Fits s.pools
  | .write pool contents => (s.pools pool).len ≤ contents.len
  | .render _ _ _ => s.backendData = .udev
  | _ => True

/-- Before a client has come. -/
structure IsInitial (s : ScreencopyState β) : Prop where
  hotplug : s.hotplug.IsInitial
  frames : s.frames = ∅
  screencopyFrames : s.screencopyFrames = []
  sent : s.sent = []

def system : Machine.System (ScreencopyState β) (ScreencopyEvent β) where
  init := IsInitial
  step s e t := s.Admits e ∧ s.apply R e = .ok t

/-! ## What each function does -/

variable {R} {s t u : ScreencopyState β} {node crtc frame : Nat} {screencopy : Screencopy}
  {sendDamage : Bool} {buffer : WlBuffer} {e : ScreencopyEvent β}

/-- What the end of a request leaves alone. A pool may get other bytes. -/
structure Keeps (s t : ScreencopyState β) : Prop where
  frames : t.frames = s.frames
  nextFrame : t.nextFrame = s.nextFrame
  destroyed : t.destroyed = s.destroyed
  screencopyFrames : t.screencopyFrames = s.screencopyFrames
  shown : t.shown = s.shown
  len : ∀ pool, (t.pools pool).len = (s.pools pool).len

theorem Keeps.refl (s : ScreencopyState β) : Keeps s s :=
  ⟨rfl, rfl, rfl, rfl, rfl, fun _ => rfl⟩

theorem Keeps.trans (h : Keeps s t) (h' : Keeps t u) : Keeps s u where
  frames := h'.frames.trans h.frames
  nextFrame := h'.nextFrame.trans h.nextFrame
  destroyed := h'.destroyed.trans h.destroyed
  screencopyFrames := h'.screencopyFrames.trans h.screencopyFrames
  shown := h'.shown.trans h.shown
  len pool := (h'.len pool).trans (h.len pool)

theorem send_keeps (event : FrameEvent β) : Keeps s (s.send frame event) := by
  rw [send]
  split
  · exact .refl s
  · exact ⟨rfl, rfl, rfl, rfl, rfl, fun _ => rfl⟩

theorem drop_keeps : Keeps s (s.drop screencopy) := by
  rw [drop]
  split
  · exact .refl s
  · exact send_keeps _

theorem submit_keeps : Keeps s (s.submit screencopy) :=
  ((send_keeps _).trans (send_keeps _)).trans drop_keeps

theorem failed_keeps : Keeps s (s.failed screencopy) := (send_keeps _).trans drop_keeps

theorem copyContents_keeps {data : ShmBuffer} {region : Rectangle} {mapping : Nat → β} :
    Keeps s (s.copyContents data region mapping) := by
  rw [copyContents]
  dsimp only
  split
  · exact .refl s
  · refine ⟨rfl, rfl, rfl, rfl, rfl, fun pool => ?_⟩
    dsimp only
    by_cases hpool : pool = data.pool
    · rw [hpool, Function.update_self]
    · rw [Function.update_of_ne hpool]

theorem copyFrame_keeps {picture : Picture β} : Keeps s (copyFrame R picture s screencopy) := by
  rw [copyFrame]
  split
  · exact copyContents_keeps.trans submit_keeps
  · exact submit_keeps

theorem foldl_keeps {f : ScreencopyState β → Screencopy → ScreencopyState β}
    (hf : ∀ s screencopy, Keeps s (f s screencopy)) (screencopies : List Screencopy) :
    Keeps s (screencopies.foldl f s) :=
  List.foldlRecOn (motive := Keeps s) _ _ (.refl s) fun u hu screencopy _ =>
    hu.trans (hf u screencopy)

theorem drain_keeps {result : Option (Picture β)} :
    Keeps { s with screencopyFrames := [] } (s.drain R result) := by
  cases result with
  | some picture => exact foldl_keeps (fun _ _ => copyFrame_keeps) _
  | none => exact foldl_keeps (fun _ _ => failed_keeps) _

theorem stop_keeps : Keeps { s with screencopyFrames := [] } s.stop :=
  foldl_keeps (fun _ _ => drop_keeps) _

theorem createFrame_keeps {data : ScreencopyFrameState} {version : Nat} :
    Keeps { s with frames := s.frames.insert s.nextFrame data, nextFrame := s.nextFrame + 1 }
      (s.createFrame data version) := by
  unfold createFrame
  dsimp only
  split
  · exact (send_keeps _).trans (send_keeps _)
  · exact send_keeps _

theorem captureOutput_creates {overlayCursor : Bool} {owner : SmithayOutput} {version : Nat}
    (h : s.captureOutput overlayCursor owner version = .ok t) :
    ∃ data, t = s.createFrame data version := by
  rw [captureOutput] at h
  cases houtput : s.output owner with
  | error panic =>
      rw [houtput] at h
      cases h
  | ok output =>
      rw [houtput] at h
      cases h
      exact ⟨_, rfl⟩

theorem captureOutputRegion_creates {overlayCursor : Bool} {rect : Rectangle}
    {owner : SmithayOutput} {version : Nat}
    (h : s.captureOutputRegion overlayCursor rect owner version = .ok t) :
    ∃ data, t = s.createFrame data version := by
  rw [captureOutputRegion] at h
  cases houtput : s.output owner with
  | error panic =>
      rw [houtput] at h
      cases h
  | ok output =>
      rw [houtput] at h
      cases h
      exact ⟨_, rfl⟩

/-- A request for a copy waits, or it is dropped, or it is failed. -/
theorem copy_cases {data : ScreencopyFrameState} (hdata : s.frames.lookup frame = some data)
    (h : s.copy frame sendDamage buffer = .ok t) :
    (s.backendData = .udev ∧ s.hasSurface data.output ∧
      t = { s with
        screencopyFrames := s.screencopyFrames ++ [data.screencopy frame sendDamage buffer] }) ∨
    (s.backendData = .udev ∧ ¬ s.hasSurface data.output ∧
      t = s.drop (data.screencopy frame sendDamage buffer)) ∨
    (s.backendData = .winit ∧ t = s.failed (data.screencopy frame sendDamage buffer)) := by
  rw [copy, hdata] at h
  dsimp only at h
  rw [ScreencopyState.frame] at h
  cases hbackend : s.backendData with
  | none =>
      rw [hbackend] at h
      cases h
  | udev =>
      rw [hbackend] at h
      dsimp only at h
      split at h
      next hsurface =>
        cases h
        exact .inl ⟨rfl, hsurface, rfl⟩
      next hsurface =>
        cases h
        exact .inr (.inl ⟨rfl, hsurface, rfl⟩)
  | winit =>
      rw [hbackend] at h
      cases h
      exact .inr (.inr ⟨rfl, rfl⟩)

/-- A render comes to an output and takes the queue, or it does nothing. -/
theorem render_cases {result : Option (Picture β)} (h : s.render R node crtc result = .ok t) :
    (s.rendered node crtc = none ∧ t = s) ∨
    ∃ output, s.rendered node crtc = some output ∧
      t = (s.present output result).drain R result := by
  rw [render] at h
  cases hrendered : s.rendered node crtc with
  | none =>
      rw [hrendered] at h
      cases h
      exact .inl ⟨rfl, rfl⟩
  | some output =>
      rw [hrendered] at h
      dsimp only at h
      split at h
      next => cases h
      next =>
        cases h
        exact .inr ⟨output, rfl, rfl⟩

/-- All that a step can do, and when it does it. -/
inductive Effect (R : Renderer β) (s : ScreencopyState β) :
    ScreencopyEvent β → ScreencopyState β → Prop
  | hotplug {e : HotplugEvent} : Effect R s (.hotplug e) (s.withHotplug (s.hotplug.apply e))
  | winitOutput {mode : Mode} : Effect R s (.winitOutput mode) (s.winitOutput mode)
  | captureOutput {overlayCursor : Bool} {owner : SmithayOutput} {version : Nat}
      {data : ScreencopyFrameState} :
      Effect R s (.captureOutput overlayCursor owner version) (s.createFrame data version)
  | captureOutputRegion {overlayCursor : Bool} {rect : Rectangle} {owner : SmithayOutput}
      {version : Nat} {data : ScreencopyFrameState} :
      Effect R s (.captureOutputRegion overlayCursor rect owner version)
        (s.createFrame data version)
  | queued {frame : Nat} {sendDamage : Bool} {buffer : WlBuffer} {data : ScreencopyFrameState} :
      s.frames.lookup frame = some data → frame ∉ s.destroyed → buffer.Fits s.pools →
      s.backendData = .udev → s.hasSurface data.output →
      Effect R s (.copy frame sendDamage buffer) { s with
        screencopyFrames := s.screencopyFrames ++ [data.screencopy frame sendDamage buffer] }
  | dropped {frame : Nat} {sendDamage : Bool} {buffer : WlBuffer} {data : ScreencopyFrameState} :
      s.frames.lookup frame = some data → frame ∉ s.destroyed → s.backendData = .udev →
      ¬ s.hasSurface data.output →
      Effect R s (.copy frame sendDamage buffer)
        (s.drop (data.screencopy frame sendDamage buffer))
  | failed {frame : Nat} {sendDamage : Bool} {buffer : WlBuffer} {data : ScreencopyFrameState} :
      s.frames.lookup frame = some data → frame ∉ s.destroyed → s.backendData = .winit →
      Effect R s (.copy frame sendDamage buffer)
        (s.failed (data.screencopy frame sendDamage buffer))
  | destroy {frame : Nat} : Effect R s (.destroy frame) { s with destroyed := frame :: s.destroyed }
  | write {pool : Nat} {contents : Pool β} : (s.pools pool).len ≤ contents.len →
      Effect R s (.write pool contents) { s with pools := Function.update s.pools pool contents }
  | skipped {node crtc : Nat} {result : Option (Picture β)} : s.rendered node crtc = none →
      Effect R s (.render node crtc result) s
  | rendered {node crtc : Nat} {result : Option (Picture β)} {output : SmithayOutput} :
      s.rendered node crtc = some output →
      Effect R s (.render node crtc result) ((s.present output result).drain R result)
  | stop : Effect R s .stop s.stop

theorem step_effect (hstep : (system R).step s e t) : Effect R s e t := by
  obtain ⟨hadmits, happly⟩ := hstep
  cases e with
  | hotplug e =>
      cases happly
      exact .hotplug
  | winitOutput mode =>
      cases happly
      exact .winitOutput
  | captureOutput overlayCursor owner version =>
      obtain ⟨data, rfl⟩ := captureOutput_creates happly
      exact .captureOutput
  | captureOutputRegion overlayCursor rect owner version =>
      obtain ⟨data, rfl⟩ := captureOutputRegion_creates happly
      exact .captureOutputRegion
  | copy frame sendDamage buffer =>
      obtain ⟨hknown, hthere, hfits⟩ := hadmits
      obtain ⟨data, hdata⟩ := Option.isSome_iff_exists.mp hknown
      rcases copy_cases hdata happly with ⟨hudev, hsurface, rfl⟩ | ⟨hudev, hsurface, rfl⟩ |
        ⟨hwinit, rfl⟩
      · exact .queued hdata hthere hfits hudev hsurface
      · exact .dropped hdata hthere hudev hsurface
      · exact .failed hdata hthere hwinit
  | destroy frame =>
      cases happly
      exact .destroy
  | write pool contents =>
      cases happly
      exact .write hadmits
  | render node crtc result =>
      rcases render_cases happly with ⟨hnone, rfl⟩ | ⟨output, hsome, rfl⟩
      · exact .skipped hnone
      · exact .rendered hsome
  | stop =>
      cases happly
      exact .stop

/-- What waits after a step has waited before, or it is what the step asks for. -/
theorem step_waits (hstep : (system R).step s e t) (h : screencopy ∈ t.screencopyFrames) :
    screencopy ∈ s.screencopyFrames ∨ ∃ data frame sendDamage buffer,
      s.frames.lookup frame = some data ∧ buffer.Fits s.pools ∧
        screencopy = data.screencopy frame sendDamage buffer := by
  cases step_effect hstep with
  | hotplug => exact .inl h
  | winitOutput => exact .inl h
  | captureOutput =>
      rw [createFrame_keeps.screencopyFrames] at h
      exact .inl h
  | captureOutputRegion =>
      rw [createFrame_keeps.screencopyFrames] at h
      exact .inl h
  | queued hdata _ hfits =>
      rcases List.mem_append.mp h with hold | hnew
      · exact .inl hold
      · exact .inr ⟨_, _, _, _, hdata, hfits, List.mem_singleton.mp hnew⟩
  | dropped =>
      rw [drop_keeps.screencopyFrames] at h
      exact .inl h
  | failed =>
      rw [failed_keeps.screencopyFrames] at h
      exact .inl h
  | destroy => exact .inl h
  | write => exact .inl h
  | skipped => exact .inl h
  | rendered =>
      rw [drain_keeps.screencopyFrames] at h
      cases h
  | stop =>
      rw [stop_keeps.screencopyFrames] at h
      cases h

end ScreencopyState

end Scape.Display
