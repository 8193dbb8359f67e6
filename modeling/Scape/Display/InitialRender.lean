import Scape.Display.Frame

/-!
# The first render of an output

`start_output` renders the surface of an output once, so that the first frame is
submitted. If that fails for the time being it is tried again from an idle action, which
knows the surface by a device and a CRTC and looks it up when it runs.

As in the scheduling of frames, a device that is gone and a surface that is gone are
treated the same, so the surfaces of all devices are one map. Of a surface only its
render node matters: the node of the GPU it is rendered with, which need not be the node
the device is known by.
-/

namespace Scape.Display

/-- The render node of each surface, and what the idle actions have captured, oldest
first. After a panic the thread does nothing any more. -/
structure InitialRender where
  surfaces : SurfaceKey → Option UInt64
  idles : List SurfaceKey
  panicked : Bool

/-- What happens, with the result of `initial_render` where a surface may be rendered. -/
inductive InitialRenderEvent where
  | startOutput (key : SurfaceKey) (result : Except SwapBuffersError Unit)
  | idle (result : Except SwapBuffersError Unit)
  | connected (key : SurfaceKey) (renderNode : UInt64)
  | disconnected (key : SurfaceKey)

namespace InitialRender

/-- `schedule_initial_render`, and the surface that it renders. What the idle action
captures as `node` is the render node: the name is bound a second time before. -/
def scheduleInitialRender (s : InitialRender) (key : SurfaceKey)
    (result : Except SwapBuffersError Unit) : InitialRender × Option SurfaceKey :=
  match s.surfaces key with
  | none => (s, none)
  | some renderNode =>
      let node := renderNode
      match result with
      | .ok () => (s, some key)
      | .error .alreadySwapped => (s, some key)
      | .error (.temporaryFailure _) =>
          ({ s with idles := s.idles ++ [⟨node, key.crtc⟩] }, some key)
      | .error .contextLost => ({ s with panicked := true }, some key)

def setSurface (s : InitialRender) (key : SurfaceKey) (renderNode : Option UInt64) :
    InitialRender :=
  { s with surfaces := Function.update s.surfaces key renderNode }

def step (s : InitialRender) (e : InitialRenderEvent) : InitialRender × Option SurfaceKey :=
  if s.panicked then (s, none)
  else
    match e with
    | .startOutput key result => s.scheduleInitialRender key result
    | .idle result =>
        match s.idles with
        | [] => (s, none)
        | key :: rest => { s with idles := rest }.scheduleInitialRender key result
    | .connected key renderNode => (s.setSurface key (some renderNode), none)
    | .disconnected key => (s.setSurface key none, none)

end InitialRender

end Scape.Display
