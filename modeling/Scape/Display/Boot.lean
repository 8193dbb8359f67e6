import Scape.Display.Desk
import Scape.Display.Hotplug

/-!
# Start-up

The user's configuration may give a function that is to be called once the compositor is up.
The config thread calls it when it gets `Startup`, and the display thread sends that when two
things have happened: an idle action of `start_outputs` has run, which a layout has queued, and
XWayland is there, with a window manager that has been given its cursor.

A `Boot` is the two threads and the channels between them. Other threads send on both, but
none of them sends `Startup` or a layout. Of the display thread it has the outputs and their
devices. Whatever else happens there may change anything but the outputs.
-/

namespace Scape.Display

open Scape Fallible
open Scape.Config (ConfigError ConfigState Interpreter Mlua)

/-- With whether the window manager starts, and whether it takes the cursor. -/
inductive XWaylandEvent where
  | ready (displayNumber : Nat) (wmStarted cursorSet : Bool)
  | error
  deriving DecidableEq, Repr

/-- `wm` is whether there is one. -/
structure XWaylandState where
  wm : Bool
  displayNumber : Option Nat
  deriving DecidableEq, Repr

structure Boot (M : Mlua) where
  config : ConfigState M
  display : Hotplug
  xwaylandState : Option XWaylandState
  toConfig : List ConfigMessage
  toDisplay : List DisplayMessage

inductive BootAction where
  | turn (peers : Peers) (turn : ConfigState.Turn)
  | configMessage
  /-- another thread sends to the config thread -/
  | toConfig (message : ConfigMessage)
  /-- another thread sends to the display thread -/
  | toDisplay (message : DisplayMessage)
  | message (W : World)
  | event
  | hotplug (e : HotplugEvent)
  | xwayland (e : XWaylandEvent)

def IsStartup : ConfigMessage → Bool
  | .startup => true
  | _ => false

namespace Hotplug

/-- What udev and the loop do by themselves. -/
def Own : HotplugEvent → Prop
  | .setLayout _ _ | .startOutputs | .xwaylandReady => False
  | _ => True

/-- The state may have become another, with the same outputs. -/
def SameOutputs (s : Hotplug) (display : State) : Prop :=
  display.outputs = s.display.outputs ∧ display.nextOutput = s.display.nextOutput

/-- The messages to the config thread between two states. -/
def sent (s t : Hotplug) : List ConfigMessage :=
  List.replicate (t.startups - s.startups) .startup

end Hotplug

namespace Boot

variable {M : Mlua}

/-- The callback of XWayland's source. -/
def xwaylandEvent (s : Boot M) : XWaylandEvent → Boot M
  | .ready displayNumber wmStarted cursorSet =>
      if !wmStarted then s
      else if !cursorSet then s
      else
        { s with
          xwaylandState := s.xwaylandState.map fun _ => ⟨true, some displayNumber⟩
          display := s.display.xwaylandReady
          toConfig := s.toConfig ++ s.display.sent s.display.xwaylandReady }
  | .error => { s with xwaylandState := none }

variable (I : Interpreter M) (overflowChecks : Bool)

inductive Step : Boot M → BootAction → Boot M → Prop
  | turn {s : Boot M} {peers : Peers} {turn : ConfigState.Turn} {config : ConfigState M}
      {effects : List Config.Effect} {result : Except (ConfigError M) Unit} :
      (∀ message, turn ≠ .message message) →
      s.config.turn I overflowChecks peers turn = .ok (config, effects, result) →
      Step s (.turn peers turn)
        { s with config := config, toDisplay := s.toDisplay ++ displayMessages effects }
  | configMessage {s : Boot M} {message : ConfigMessage} {queue : List ConfigMessage}
      {config : ConfigState M} {effects : List Config.Effect}
      {result : Except (ConfigError M) Unit} :
      s.toConfig = message :: queue →
      s.config.handleMessage I message = .ok (config, effects, result) →
      Step s .configMessage { s with config := config, toConfig := queue }
  | toConfig {s : Boot M} {message : ConfigMessage} :
      IsStartup message = false →
      Step s (.toConfig message) { s with toConfig := s.toConfig ++ [message] }
  | toDisplay {s : Boot M} {message : DisplayMessage} :
      ¬ IsLayout message →
      Step s (.toDisplay message) { s with toDisplay := s.toDisplay ++ [message] }
  | layout {s : Boot M} {W : World} {spaces : HashMap String (List Output)}
      {queue : List DisplayMessage} :
      s.toDisplay = .setLayout spaces :: queue →
      Step s (.message W)
        { s with display := s.display.setLayout W spaces, toDisplay := queue }
  | message {s : Boot M} {W : World} {message : DisplayMessage} {queue : List DisplayMessage}
      {display : State} :
      s.toDisplay = message :: queue → ¬ IsLayout message → s.display.SameOutputs display →
      Step s (.message W)
        { s with display := { s.display with display }, toDisplay := queue }
  | event {s : Boot M} {display : State} :
      s.display.SameOutputs display →
      Step s .event { s with display := { s.display with display } }
  | hotplug {s : Boot M} {e : HotplugEvent} :
      Hotplug.Own e → s.display.Admits e →
      Step s (.hotplug e)
        { s with
          display := s.display.apply e
          toConfig := s.toConfig ++ s.display.sent (s.display.apply e) }
  | xwayland {s : Boot M} {e : XWaylandEvent} :
      Step s (.xwayland e) (s.xwaylandEvent e)

/-- Both threads begin on their own. -/
def Starts (s : Boot M) : Prop :=
  ∃ (peers : Peers) (env : ConfigState.Surroundings) (sent : List Config.Effect),
    ConfigState.new I overflowChecks peers env = .ok (s.config, sent) ∧
    s.display = .fresh ∧ s.toConfig = [] ∧ s.toDisplay = []

def system : Machine.System (Boot M) BootAction where
  init := Starts I overflowChecks
  step := Step I overflowChecks

end Boot

end Scape.Display
