import Scape.Input.Devices
import Scape.Renderer.State

/-!
# Files for the renderer

Only the input module may open the devices of the seat. The renderer asks it by message for
the file of each GPU, and gets the file by message, or no answer at all where the session
refuses to open it.

A `Handover` is the two threads and the channels between them. A thread that is over has no
receiver any more: what is sent to it reaches nobody, and the main thread is asked to shut
down instead. The main thread is there as long as the others are.
-/

namespace Scape.Renderer

open Scape Scape.Input

inductive Thread (σ : Type) where
  | starting
  | running (state : σ)
  | panicked
  | ended

/-- Whether the receiver of its channel is there. -/
def Thread.listens {σ : Type} : Thread σ → Bool
  | .starting | .running _ => true
  | .panicked | .ended => false

/-- What the session tells the input module. -/
inductive SessionEvent where
  | pauseSession
  | activateSession
  deriving DecidableEq, Repr

def SessionEvent.message : SessionEvent → RendererMessage
  | .pauseSession => .seatSessionPaused
  | .activateSession => .seatSessionResumed

structure Handover (X : Xkb) where
  input : Thread (InputState X)
  renderer : Thread RendererState
  toInput : List InputMessage
  toRenderer : List RendererMessage

inductive HandoverAction where
  /-- `InputState::new`, which fails if libinput does not start -/
  | inputStarts (seatName : String) (started : Bool)
  | inputMessage (opened : Option Nat)
  | inputEvent (event : InputEvent)
  | session (event : SessionEvent)
  | inputEnds
  | rendererMessage (udev : Udev) (vulkan : Vulkan)
  | udev (fromDevId : Nat → Option DrmNode) (event : UdevEvent)
  | rendererStops
  /-- another thread sends to the input thread -/
  | toInput (message : InputMessage)
  /-- another thread sends to the renderer -/
  | toRenderer (message : RendererMessage)

def rendererMessages {X : Xkb} (effects : List (Effect X)) : List RendererMessage :=
  effects.filterMap fun
    | .send (.renderer message) => some message
    | _ => none

def inputMessages (sent : List Envelope) : List InputMessage :=
  sent.filterMap fun
    | .input message => some message
    | _ => none

/-- The file a message asks for. -/
def askedPath : InputMessage → Option String
  | .openFileInSessionForRenderer path => some path
  | _ => none

/-- The file a message brings. -/
def openedFile : RendererMessage → Option (String × Nat)
  | .fileOpenedInSession path fd => some (path, fd)
  | _ => none

/-- The messages that main sends. -/
def IsShutdown : RendererMessage → Prop
  | .shutdown => True
  | _ => False

namespace Handover

variable {X : Xkb}

def sendInput (s : Handover X) (messages : List InputMessage) : Handover X :=
  { s with toInput := if s.input.listens then s.toInput ++ messages else s.toInput }

def sendRenderer (s : Handover X) (messages : List RendererMessage) : Handover X :=
  { s with toRenderer := if s.renderer.listens then s.toRenderer ++ messages else s.toRenderer }

inductive Step : Handover X → HandoverAction → Handover X → Prop
  | inputStarts {s : Handover X} {seatName : String} {started : Bool} {xkbState : X.State} :
      s.input = .starting →
      Step s (.inputStarts seatName started)
        ({ s with input := if started then .running (.new xkbState) else .ended }.sendRenderer
          [.seatSessionCreated seatName])
  | inputMessage {s : Handover X} {opened : Option Nat} {input : InputState X}
      {message : InputMessage} {queue : List InputMessage} :
      s.input = .running input → s.toInput = message :: queue →
      Step s (.inputMessage opened)
        ({ s with
            input := .running (input.handleMessage opened message).1
            toInput := queue }.sendRenderer
          (rendererMessages (input.handleMessage opened message).2))
  | inputEvent {s : Handover X} {event : InputEvent} {input input' : InputState X}
      {effects : List (Effect X)} :
      s.input = .running input → input.handleInputEvent event = .ok (input', effects) →
      Step s (.inputEvent event)
        ({ s with input := .running input' }.sendRenderer (rendererMessages effects))
  | inputPanics {s : Handover X} {event : InputEvent} {input : InputState X} {panic : Input.Panic} :
      s.input = .running input → input.handleInputEvent event = .error panic →
      Step s (.inputEvent event) { s with input := .panicked }
  | session {s : Handover X} {event : SessionEvent} {input : InputState X} :
      s.input = .running input → Step s (.session event) (s.sendRenderer [event.message])
  /-- It is shut down, or could not start. -/
  | inputEnds {s : Handover X} :
      s.input.listens = true → Step s .inputEnds { s with input := .ended }
  | rendererMessage {s : Handover X} {udev : Udev} {vulkan : Vulkan} {st st' : RendererState}
      {message : RendererMessage} {queue : List RendererMessage} {sent : List Envelope}
      {result : Except RendererError Unit} :
      s.renderer = .running st → s.toRenderer = message :: queue →
      st.handleMessage udev vulkan message = .ok (st', sent, result) →
      Step s (.rendererMessage udev vulkan)
        ({ s with renderer := .running st', toRenderer := queue }.sendInput
          (inputMessages sent))
  | rendererPanics {s : Handover X} {udev : Udev} {vulkan : Vulkan} {st : RendererState}
      {message : RendererMessage} {queue : List RendererMessage} {panic : Panic} :
      s.renderer = .running st → s.toRenderer = message :: queue →
      st.handleMessage udev vulkan message = .error panic →
      Step s (.rendererMessage udev vulkan)
        { s with renderer := .panicked, toRenderer := queue }
  | udev {s : Handover X} {fromDevId : Nat → Option DrmNode} {event : UdevEvent}
      {st : RendererState} :
      s.renderer = .running st → st.listening = true →
      Step s (.udev fromDevId event)
        ({ s with renderer := .running (st.udevEvent fromDevId event).1 }.sendInput
          (inputMessages (st.udevEvent fromDevId event).2))
  | rendererStops {s : Handover X} {st : RendererState} :
      s.renderer = .running st → st.shuttingDown = true →
      Step s .rendererStops { s with renderer := .ended }
  | toInput {s : Handover X} {message : InputMessage} :
      askedPath message = none → Step s (.toInput message) (s.sendInput [message])
  | toRenderer {s : Handover X} {message : RendererMessage} :
      IsShutdown message → Step s (.toRenderer message) (s.sendRenderer [message])

def start : Handover X := ⟨.starting, .running .new, [], []⟩

def system : Machine.System (Handover X) HandoverAction where
  init := (· = start)
  step := Step

end Handover

end Scape.Renderer
