import Scape.Config.State
import Scape.Display.Render

/-!
# The config thread and the display thread

Which output is shown in which space is up to the user's configuration. A layout goes from
Lua to the config thread's loop, from there to the display thread, and names its outputs. The
config thread replaces the names by the outputs that `ConnectorChange` has last told it of,
and drops those it has not been told of.

No thread sends that message: the lines of `udev.rs` and `winit.rs` that would are comments.

A `Desk` is the two threads and the channel from the first to the second, which other threads
send on as well. Each takes its own steps, in any order.
-/

namespace Scape.Display

open Scape.Config (ConfigState Interpreter Mlua)

structure Desk (M : Mlua) where
  config : ConfigState M
  display : State
  toDisplay : List DisplayMessage

inductive DeskAction where
  | turn (peers : Peers) (turn : ConfigState.Turn)
  /-- another thread sends to the display thread -/
  | toDisplay (message : DisplayMessage)
  | message (W : World)
  | event (W : World) (e : Event)

def displayMessages (effects : List Config.Effect) : List DisplayMessage :=
  effects.filterMap fun
    | .send (.display message) => some message
    | _ => none

def IsLayout : DisplayMessage → Prop
  | .setLayout _ => True
  | _ => False

namespace Desk

variable {M : Mlua} (I : Interpreter M) (overflowChecks : Bool)

/-- The messages that the config thread can get: those that some thread sends. -/
def Sent : ConfigState.Turn → Prop
  | .message (.connectorChange _) => False
  | _ => True

inductive Step : Desk M → DeskAction → Desk M → Prop
  | turn {s : Desk M} {peers : Peers} {turn : ConfigState.Turn} {config : ConfigState M}
      {effects : List Config.Effect} {result : Except (Config.ConfigError M) Unit} :
      Sent turn → s.config.turn I overflowChecks peers turn = .ok (config, effects, result) →
      Step s (.turn peers turn)
        { s with config := config, toDisplay := s.toDisplay ++ displayMessages effects }
  | toDisplay {s : Desk M} {message : DisplayMessage} :
      ¬ IsLayout message →
      Step s (.toDisplay message) { s with toDisplay := s.toDisplay ++ [message] }
  | message {s : Desk M} {W : World} {message : DisplayMessage}
      {queue : List DisplayMessage} {display : State} :
      s.toDisplay = message :: queue → s.display.step W (.message message) = .ok display →
      Step s (.message W) { s with display := display, toDisplay := queue }
  | event {s : Desk M} {W : World} {e : Event} {display : State} :
      (∀ message, e ≠ .message message) → s.display.step W e = .ok display →
      Step s (.event W e) { s with display := display }

/-- Both threads begin on their own. -/
def Starts (s : Desk M) : Prop :=
  ∃ (peers : Peers) (env : ConfigState.Surroundings) (sent : List Config.Effect),
    ConfigState.new I overflowChecks peers env = .ok (s.config, sent) ∧
    s.display = State.new ∧ s.toDisplay = []

def system : Machine.System (Desk M) DeskAction where
  init := Starts I overflowChecks
  step := Step I overflowChecks

end Desk

end Scape.Display
