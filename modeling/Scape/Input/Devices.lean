import Scape.Input.Keyboard
import Scape.Lib.Fallible

/-!
# Input devices

libinput tells the input module of devices that come and go, and of what they do. The module
keeps the keyboards, to set their LEDs, and knows what to do with keys; every other event is
still to be done, and ends the thread.

The desk is what is on the other side: which devices are plugged in, and what the LEDs of each
keyboard show.
-/

namespace Scape.Input

open Scape Fallible

structure Device where
  id : Nat
  /-- `has_capability(DeviceCapability::Keyboard)` -/
  keyboard : Bool
  deriving DecidableEq, Repr

/-- `InputEvent<LibinputInputBackend>`. -/
inductive InputEvent where
  | deviceAdded (device : Device)
  | deviceRemoved (device : Device)
  | keyboard (event : KeyEvent)
  | pointerMotion
  | pointerMotionAbsolute
  | pointerButton
  | pointerAxis
  | gestureSwipeBegin
  | gestureSwipeUpdate
  | gestureSwipeEnd
  | gesturePinchBegin
  | gesturePinchUpdate
  | gesturePinchEnd
  | gestureHoldBegin
  | gestureHoldEnd
  | touchDown
  | touchMotion
  | touchUp
  | touchCancel
  | touchFrame
  | tabletToolAxis
  | tabletToolProximity
  | tabletToolTip
  | tabletToolButton
  | switchToggle
  | special
  deriving DecidableEq, Repr

inductive Panic where
  | todo
  | lostMain
  deriving DecidableEq, Repr

variable {X : Xkb}

namespace InputState

def handleInputEvent (st : InputState X) (event : InputEvent) :
    Except Panic (InputState X × List (Effect X)) :=
  match event with
  | .deviceAdded device =>
      if device.keyboard then
        .ok ({ st with keyboards := st.keyboards ++ [device.id] },
          [.ledUpdate device.id st.keyboardState.ledState])
      else .ok (st, [])
  | .deviceRemoved device =>
      if device.keyboard then
        .ok ({ st with keyboards := st.keyboards.filter (· ≠ device.id) }, [])
      else .ok (st, [])
  | .keyboard event => .ok (st.handleKeyboardEvent event)
  | .pointerMotion | .pointerMotionAbsolute | .pointerButton | .pointerAxis
  | .gestureSwipeBegin | .gestureSwipeUpdate | .gestureSwipeEnd | .gesturePinchBegin
  | .gesturePinchUpdate | .gesturePinchEnd | .gestureHoldBegin | .gestureHoldEnd
  | .touchDown | .touchMotion | .touchUp | .touchCancel | .touchFrame | .tabletToolAxis
  | .tabletToolProximity | .tabletToolTip | .tabletToolButton | .switchToggle | .special =>
      .error .todo

end InputState

/-- The LED updates among the effects, in order. -/
def ledsSent (effects : List (Effect X)) : List (Nat × X.LedState) :=
  effects.filterMap fun
    | .ledUpdate keyboard leds => some (keyboard, leds)
    | _ => none

/-- The messages among the effects, in order. -/
def messagesSent (effects : List (Effect X)) : List Envelope :=
  effects.filterMap fun
    | .send e => some e
    | _ => none

/-- What is sent is not received by anyone if the thread that it is for is gone, and the main
thread too. -/
def deliver (peers : Peers) (effects : List (Effect X)) : Except Panic Unit :=
  (messagesSent effects).forM fun e => do
    let _ ← expect .lostMain (Comms.send peers e)

/-- The input module and its devices. -/
structure Seat (X : Xkb) where
  input : InputState X
  plugged : List Device
  /-- what a keyboard shows -/
  leds : Nat → Option X.LedState

/-- What happens, with the threads that are there. -/
inductive SeatEvent where
  | input (peers : Peers) (event : InputEvent)
  | message (peers : Peers) (opened : Option Nat) (message : InputMessage)

namespace Seat

/-- What the module does to the LEDs. -/
def light (leds : Nat → Option X.LedState) (effects : List (Effect X)) :
    Nat → Option X.LedState :=
  (ledsSent effects).foldl (fun leds update => Function.update leds update.1 (some update.2)) leds

/-- Which devices are plugged in after an event. -/
def plug (plugged : List Device) : InputEvent → List Device
  | .deviceAdded device => device :: plugged
  | .deviceRemoved device => plugged.erase device
  | _ => plugged

def step (s : Seat X) : SeatEvent → Except Panic (Seat X)
  | .input peers event => do
      let (input, effects) ← s.input.handleInputEvent event
      deliver peers effects
      return ⟨input, plug s.plugged event, light s.leds effects⟩
  | .message peers opened message => do
      let (input, effects) := s.input.handleMessage opened message
      deliver peers effects
      return ⟨input, s.plugged, light s.leds effects⟩

/-- The module before its first event. -/
def new (xkbState : X.State) : Seat X := ⟨.new xkbState, [], fun _ => none⟩

/-- A device is added when it is not there, and removed when it is. No two that are there have
one number. -/
def Plausible (s : Seat X) : SeatEvent → Prop
  | .input _ (.deviceAdded device) => ∀ other ∈ s.plugged, other.id ≠ device.id
  | .input _ (.deviceRemoved device) => device ∈ s.plugged
  | _ => True

def system : Machine.System (Seat X) SeatEvent :=
  Fallible.system (fun s => ∃ xkbState, s = .new xkbState) step

end Seat

end Scape.Input
