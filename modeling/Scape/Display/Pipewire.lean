import Scape.Display.Space
import Scape.Lib.Fallible
import Scape.Lib.Machine

/-!
# Video streams

A video stream of `pipewire.rs` offers a format to PipeWire and is called back from then on:
when a format has been settled on, when a buffer comes to the stream and when it goes. For a
buffer that comes a dmabuf of the settled size is made, and it is found again by its file
descriptor, which is written into the buffer. After each frame of an output
`render_frame` takes a buffer that is free, copies the frame into the dmabuf of the buffer, and
says in the chunk of the buffer how much of it is filled.

What a callback gets from PipeWire and from the GPU is part of its event. The transform of an
output is the normal one, and what becomes of the copy is only logged.
-/

namespace Scape.Pipewire

open Scape Fallible
open Scape.Display (Rectangle)

inductive VideoFormat where
  | rgb
  | rgbx
  | bgrx
  | rgba
  | other (raw : UInt32)
  deriving DecidableEq, Repr

inductive Fourcc where
  | argb8888
  | rgb888
  | rgba8888
  | bgra8888
  deriving DecidableEq, Repr

inductive MediaType where
  | video
  | other
  deriving DecidableEq, Repr

inductive MediaSubtype where
  | raw
  | other
  deriving DecidableEq, Repr

inductive ParamType where
  | format
  | other
  deriving DecidableEq, Repr

structure VideoInfoRaw where
  format : VideoFormat
  width : UInt32
  height : UInt32
  deriving DecidableEq, Repr

/-- A parameter, as far as `parse_format` and `VideoInfoRaw::parse` can make it out. -/
structure Pod where
  format : Option (MediaType × MediaSubtype)
  videoInfo : Option VideoInfoRaw
  deriving DecidableEq, Repr

inductive StreamState where
  | streaming
  | other
  deriving DecidableEq, Repr

structure Dmabuf where
  id : Nat
  width : UInt32
  height : UInt32
  format : Fourcc
  deriving DecidableEq, Repr

/-- The first data of a buffer, with its chunk. -/
structure BufferData where
  dmaBuf : Bool
  fd : Int
  maxsize : UInt32
  chunkSize : UInt32
  chunkStride : Int
  deriving DecidableEq, Repr

structure VideoStreamData where
  width : UInt32
  height : UInt32
  format : Fourcc
  size : UInt32
  deriving DecidableEq, Repr

/-- A picture that has been put into a buffer. -/
structure Frame where
  buffer : Nat
  dmabuf : Dmabuf
  region : Rectangle
  data : BufferData
  deriving DecidableEq, Repr

/-- A buffer is known by a number; `datas` is the memory that it shares with PipeWire.
`frames` records the pictures, the newest first. -/
structure VideoStream where
  data : VideoStreamData
  dmabufs : HashMap Int Dmabuf
  region : Rectangle
  state : StreamState
  datas : Nat → BufferData
  frames : List Frame

inductive Panic where
  | overflow
  | updateParams
  | division
  deriving DecidableEq, Repr

def u32Mul (overflowChecks : Bool) (a b : UInt32) : Option UInt32 :=
  if overflowChecks && UInt32.size ≤ a.toNat * b.toNat then none else some (a * b)

/-- `a as i32`. -/
def asI32 (a : UInt32) : Int := a.toInt32.toInt

/-- `a / b` on `i32`; `none` is the panic. -/
def i32Div (a b : Int) : Option Int :=
  if b = 0 ∨ (a = -2147483648 ∧ b = -1) then none else some (a.tdiv b)

/-- The formats that `Pipewire::start_video_stream` offers. -/
def offered : List VideoFormat := [.rgba]

/-- The bytes of a pixel and the format of the dmabufs. -/
def pixelFormat : VideoFormat → Option (UInt32 × Fourcc)
  | .rgb => some (3, .rgb888)
  | .rgbx => some (4, .rgba8888)
  | .bgrx => some (4, .bgra8888)
  | _ => none

namespace VideoStream

/-- A stream that has been connected. -/
def connected : VideoStream where
  data := ⟨0, 0, .argb8888, 0⟩
  dmabufs := ∅
  region := ⟨⟨0, 0⟩, 0, 0⟩
  state := .other
  datas := fun _ => ⟨false, -1, 0, 0, 0⟩
  frames := []

/-- The format that a parameter settles, if it gets as far as that. -/
def settled (id : ParamType) (param : Option Pod) : Option VideoInfoRaw :=
  match param with
  | none => none
  | some param =>
      if id ≠ .format then none
      else
        match param.format with
        | some (.video, .raw) => param.videoInfo
        | _ => none

/-- `param_changed`; `updates` is whether `update_params` works. -/
def paramChanged (overflowChecks : Bool) (s : VideoStream) (id : ParamType)
    (param : Option Pod) (updates : Bool) : Except Panic VideoStream :=
  match settled id param with
  | none => .ok s
  | some videoInfo =>
      match pixelFormat videoInfo.format with
      | none => .ok s
      | some (bytesPerPixel, format) => do
          let stride ← expect .overflow (u32Mul overflowChecks videoInfo.width bytesPerPixel)
          let size ← expect .overflow (u32Mul overflowChecks videoInfo.height stride)
          if updates then
            return { s with
              data := ⟨videoInfo.width, videoInfo.height, format, size⟩
              region := ⟨⟨0, 0⟩, asI32 videoInfo.width, asI32 videoInfo.height⟩ }
          else throw .updateParams

/-- The dmabuf that is made for a buffer, of the size the stream has then. -/
def newDmabuf (s : VideoStream) (id : Nat) : Dmabuf :=
  ⟨id, s.data.width, s.data.height, s.data.format⟩

/-- `add_buffer`. `made` is what is made of the buffer object and exported, if it is, and
`initial` what PipeWire has in the buffer. -/
def addBuffer (s : VideoStream) (buffer : Nat) (initial : BufferData)
    (made : Option (Nat × Int)) : VideoStream :=
  match made with
  | none => { s with datas := Function.update s.datas buffer initial }
  | some (id, fd) =>
      { s with
        datas := Function.update s.datas buffer
          { initial with dmaBuf := true, fd := fd, maxsize := s.data.size }
        dmabufs := s.dmabufs.insert fd (s.newDmabuf id) }

def removeBuffer (s : VideoStream) (buffer : Nat) : VideoStream :=
  { s with dmabufs := s.dmabufs.erase (s.datas buffer).fd }

/-- `render_frame`, with the buffer that is dequeued. -/
def renderFrame (s : VideoStream) (dequeued : Option Nat) (binds : Bool) :
    Except Panic VideoStream :=
  if s.state ≠ .streaming then .ok s
  else
    match dequeued with
    | none => .ok s
    | some buffer =>
        let bufferData := s.datas buffer
        match s.dmabufs.lookup bufferData.fd with
        | none => .ok s
        | some dmabuf =>
            if binds then do
              let stride ← expect .division
                (i32Div (asI32 bufferData.maxsize) s.region.height)
              let filled :=
                { bufferData with chunkSize := bufferData.maxsize, chunkStride := stride }
              return { s with
                datas := Function.update s.datas buffer filled
                frames := ⟨buffer, dmabuf, s.region, filled⟩ :: s.frames }
            else return s

end VideoStream

/-! ## The stream and PipeWire -/

inductive Event where
  | stateChanged (new : StreamState)
  | paramChanged (id : ParamType) (param : Option Pod) (updates : Bool)
  | addBuffer (buffer : Nat) (initial : BufferData) (made : Option (Nat × Int))
  | removeBuffer (buffer : Nat)
  | renderFrame (dequeued : Option Nat) (binds : Bool)
  deriving DecidableEq, Repr

/-- A stream with the buffers that it has been given, and the dmabuf that has been made for
each. -/
structure Session where
  stream : VideoStream
  live : List (Nat × Option Dmabuf)

namespace Session

variable (overflowChecks : Bool)

def Live (s : Session) (buffer : Nat) : Prop := buffer ∈ s.live.map Prod.fst

/-- What may happen. PipeWire settles on a format while the stream has no buffers, gives it a
buffer once, without a descriptor, and takes it away once; only what it has given can be
dequeued. The descriptor of a new dmabuf is not one that is open. -/
inductive Step : Session → Event → Session → Prop
  | stateChanged {s : Session} {new : StreamState} :
      Step s (.stateChanged new) { s with stream := { s.stream with state := new } }
  | paramChanged {s : Session} {id : ParamType} {param : Option Pod} {updates : Bool}
      {stream : VideoStream} :
      ((VideoStream.settled id param).isSome → s.live = []) →
      s.stream.paramChanged overflowChecks id param updates = .ok stream →
      Step s (.paramChanged id param updates) { s with stream := stream }
  | addBuffer {s : Session} {buffer : Nat} {initial : BufferData}
      {made : Option (Nat × Int)} :
      ¬ s.Live buffer → initial.fd < 0 →
      (∀ id fd, made = some (id, fd) → 0 ≤ fd ∧ fd ∉ s.stream.dmabufs) →
      Step s (.addBuffer buffer initial made)
        ⟨s.stream.addBuffer buffer initial made,
          (buffer, made.map fun m => s.stream.newDmabuf m.1) :: s.live⟩
  | removeBuffer {s : Session} {buffer : Nat} :
      s.Live buffer →
      Step s (.removeBuffer buffer)
        ⟨s.stream.removeBuffer buffer, s.live.filter fun entry => entry.1 ≠ buffer⟩
  | renderFrame {s : Session} {dequeued : Option Nat} {binds : Bool} {stream : VideoStream} :
      (∀ buffer, dequeued = some buffer → s.Live buffer) →
      s.stream.renderFrame dequeued binds = .ok stream →
      Step s (.renderFrame dequeued binds) { s with stream := stream }

def system : Machine.System Session Event where
  init s := s = ⟨.connected, []⟩
  step := Step overflowChecks

end Session

end Scape.Pipewire
