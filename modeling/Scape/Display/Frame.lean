import Scape.Lib.Machine
import Mathlib.Logic.Function.Basic
import Mathlib.Data.List.Count

/-!
# When an output is rendered

A surface is rendered by an idle action, and after a frame not before a timer has
given the clients time to draw. Three flags of the surface say how far it is:
`scheduled` that the idle action is queued, `pending` that a frame waits for its
timer, `waiting_for_schedule` that a render was asked for meanwhile.

The actions and the timers name the surface by its device and its CRTC, and look it
up when they run. A device that is gone and a surface that is gone are treated the
same, so the surfaces of all devices are one map here. When a timer expires depends
on the mode and on the GPU; here any timer that is outstanding may expire.
-/

namespace Scape.Display

/-- A device and one of its CRTCs. -/
structure SurfaceKey where
  node : UInt64
  crtc : UInt32
  deriving DecidableEq, Repr

structure SurfaceData where
  scheduled : Bool
  waitingForSchedule : Bool
  pending : Bool
  deriving DecidableEq, Repr

def SurfaceData.new : SurfaceData := ⟨false, false, false⟩

inductive DrmError where
  | deviceInactive
  | access (permissionDenied : Bool)
  | other
  deriving DecidableEq, Repr

inductive SwapBuffersError where
  | alreadySwapped
  | temporaryFailure (cause : DrmError)
  | contextLost
  deriving DecidableEq, Repr

/-- What `frame_finish` meets: the output of the CRTC if there is one, with the
refresh rate of its mode if it has one, what `frame_submitted` returns, and whether
the loop takes the timer. -/
structure FrameFinished where
  output : Option (Option Int)
  submitted : Except SwapBuffersError Unit
  sessionPaused : Bool
  videoStreams : Bool
  timerInserted : Bool

/-- `none` is the panic over a lost context. -/
def shouldScheduleRender : Except SwapBuffersError Unit → Option Bool
  | .ok () => some true
  | .error .alreadySwapped => some true
  | .error (.temporaryFailure .deviceInactive) => some false
  | .error (.temporaryFailure (.access permissionDenied)) => some permissionDenied
  | .error (.temporaryFailure .other) => some false
  | .error .contextLost => none

/-- The surfaces, the idle actions that render one, oldest first, and the timers. -/
structure UdevData where
  surfaces : SurfaceKey → Option SurfaceData
  idles : List SurfaceKey
  timers : List SurfaceKey

namespace UdevData

def setSurface (u : UdevData) (key : SurfaceKey) (surface : Option SurfaceData) : UdevData :=
  { u with surfaces := Function.update u.surfaces key surface }

/-- `schedule_render`. The first of its two tests may set the flag, and the second
is made on the surface as the first has left it. -/
def scheduleRender (u : UdevData) (key : SurfaceKey) : UdevData :=
  match u.surfaces key with
  | none => u
  | some surface =>
      let surface :=
        if !surface.scheduled && surface.pending then
          { surface with waitingForSchedule := true }
        else surface
      if !surface.scheduled && !surface.pending then
        { u.setSurface key (some { surface with scheduled := true }) with
          idles := u.idles ++ [key] }
      else u.setSurface key (some surface)

/-- The idle action. The rendering itself touches none of this. -/
def renderIdle (u : UdevData) (key : SurfaceKey) : UdevData :=
  match u.surfaces key with
  | none => u
  | some surface => u.setSurface key (some { surface with scheduled := false })

/-- `frame_finish`; `none` is a panic. -/
def frameFinish (u : UdevData) (key : SurfaceKey) (frame : FrameFinished) :
    Option UdevData :=
  match u.surfaces key with
  | none => some u
  | some surface =>
      match frame.output with
      | none => some u
      | some currentMode =>
          if frame.submitted.toOption.isNone && frame.sessionPaused then some u
          else
            match shouldScheduleRender frame.submitted with
            | none => none
            | some shouldSchedule =>
                if shouldSchedule || frame.videoStreams then
                  match currentMode with
                  | none => some u
                  | some _ =>
                      if frame.timerInserted then
                        some { u.setSurface key (some { surface with pending := true }) with
                          timers := u.timers ++ [key] }
                      else none
                else some u

/-- The callback of a timer. -/
def timerExpires (u : UdevData) (key : SurfaceKey) : UdevData :=
  match u.surfaces key with
  | none => u
  | some surface =>
      let surface := { surface with pending := false }
      if surface.waitingForSchedule then
        (u.setSurface key (some { surface with waitingForSchedule := false })).scheduleRender
          key
      else u.setSurface key (some surface)

inductive Action where
  | scheduleRender (key : SurfaceKey)
  | renderIdle (key : SurfaceKey)
  | frameFinish (key : SurfaceKey) (frame : FrameFinished)
  | timerExpires (key : SurfaceKey)
  | connected (key : SurfaceKey)
  | disconnected (key : SurfaceKey)

def Action.key : Action → SurfaceKey
  | .scheduleRender key | .renderIdle key | .frameFinish key _ | .timerExpires key
  | .connected key | .disconnected key => key

/-- A connector that is plugged in gets a new surface, also in the place of an old
one. -/
inductive Step : UdevData → Action → UdevData → Prop
  | scheduleRender {u : UdevData} {key : SurfaceKey} :
      Step u (.scheduleRender key) (u.scheduleRender key)
  | renderIdle {u : UdevData} {key : SurfaceKey} {rest : List SurfaceKey} :
      u.idles = key :: rest →
      Step u (.renderIdle key) ({ u with idles := rest }.renderIdle key)
  | frameFinish {u v : UdevData} {key : SurfaceKey} {frame : FrameFinished} :
      u.frameFinish key frame = some v → Step u (.frameFinish key frame) v
  | timerExpires {u : UdevData} {key : SurfaceKey} :
      key ∈ u.timers →
      Step u (.timerExpires key) ({ u with timers := u.timers.erase key }.timerExpires key)
  | connected {u : UdevData} {key : SurfaceKey} :
      Step u (.connected key) (u.setSurface key (some .new))
  | disconnected {u : UdevData} {key : SurfaceKey} :
      Step u (.disconnected key) (u.setSurface key none)

/-- Everything from the moment one surface is new. Other surfaces, and timers left
over from anything before, may be in any state. -/
def system (key : SurfaceKey) : Machine.System UdevData Action where
  init := fun u => u.surfaces key = some .new ∧ key ∉ u.idles
  step := Step

/-! ## What each function does -/

@[simp] theorem setSurface_surfaces (u : UdevData) (key : SurfaceKey)
    (surface : Option SurfaceData) :
    (u.setSurface key surface).surfaces = Function.update u.surfaces key surface := rfl

@[simp] theorem setSurface_idles (u : UdevData) (key : SurfaceKey)
    (surface : Option SurfaceData) : (u.setSurface key surface).idles = u.idles := rfl

@[simp] theorem setSurface_timers (u : UdevData) (key : SurfaceKey)
    (surface : Option SurfaceData) : (u.setSurface key surface).timers = u.timers := rfl

/-- One of three: an action is queued already, a frame is pending and the flag is
set, or an action is queued now. -/
theorem scheduleRender_cases {u : UdevData} {key : SurfaceKey} {surface : SurfaceData}
    (h : u.surfaces key = some surface) :
    (surface.scheduled = true ∧ u.scheduleRender key = u) ∨
    (surface.scheduled = false ∧ surface.pending = true ∧
      u.scheduleRender key =
        u.setSurface key (some { surface with waitingForSchedule := true })) ∨
    (surface.scheduled = false ∧ surface.pending = false ∧
      u.scheduleRender key =
        { u.setSurface key (some { surface with scheduled := true }) with
          idles := u.idles ++ [key] }) := by
  have hsame : u.setSurface key (some surface) = u := by
    rw [setSurface, ← h, Function.update_eq_self]
  obtain ⟨scheduled, waiting, pending⟩ := surface
  unfold scheduleRender
  rw [h]
  cases scheduled with
  | true => exact .inl ⟨rfl, hsame⟩
  | false =>
      cases pending with
      | true => exact .inr (.inl ⟨rfl, rfl, rfl⟩)
      | false => exact .inr (.inr ⟨rfl, rfl, rfl⟩)

theorem renderIdle_of_some {u : UdevData} {key : SurfaceKey} {surface : SurfaceData}
    (h : u.surfaces key = some surface) :
    u.renderIdle key = u.setSurface key (some { surface with scheduled := false }) := by
  unfold renderIdle
  rw [h]

theorem timerExpires_cases {u : UdevData} {key : SurfaceKey} {surface : SurfaceData}
    (h : u.surfaces key = some surface) :
    (surface.waitingForSchedule = true ∧
      u.timerExpires key =
        (u.setSurface key (some ⟨surface.scheduled, false, false⟩)).scheduleRender key) ∨
    (surface.waitingForSchedule = false ∧
      u.timerExpires key =
        u.setSurface key (some { surface with pending := false })) := by
  obtain ⟨scheduled, waiting, pending⟩ := surface
  unfold timerExpires
  rw [h]
  cases waiting with
  | true => exact .inl ⟨rfl, rfl⟩
  | false => exact .inr ⟨rfl, rfl⟩

theorem frameFinish_cases {u v : UdevData} {key : SurfaceKey} {frame : FrameFinished}
    (h : u.frameFinish key frame = some v) :
    v = u ∨ ∃ surface, u.surfaces key = some surface ∧
      v = { u.setSurface key (some { surface with pending := true }) with
        timers := u.timers ++ [key] } := by
  unfold frameFinish at h
  split at h
  next => cases h; exact .inl rfl
  next surface hsurface =>
    split at h
    next => cases h; exact .inl rfl
    next currentMode _ =>
      split at h
      next => cases h; exact .inl rfl
      next =>
        split at h
        next => cases h
        next =>
          split at h
          next =>
            split at h
            next => cases h; exact .inl rfl
            next =>
              split at h
              next => cases h; exact .inr ⟨surface, hsurface, rfl⟩
              next => cases h
          next => cases h; exact .inl rfl

end UdevData

end Scape.Display
