import Mathlib.Algebra.Group.Nat.Defs
import Mathlib.Data.List.AList
import Mathlib.Data.Fintype.Defs
import Mathlib.Data.Finset.Insert

/-!
# The messages between the threads

Five threads run the compositor, and everything one of them asks of another is
a message on that thread's channel. This file is the vocabulary: the message
types of `scape-shared`, and the few data types they carry.

A Rust `HashMap` is an association list with distinct keys. Lookup, insertion
and removal never see the order of its entries, and whatever iterates one is
stated for the entries in any order.

`usize` is 64 bits wide on every target the flake builds for. An addition on it
panics when overflow checks are compiled in and wraps when they are not, and
nothing in the workspace's profiles settles which, so `usizeAdd` takes that as
its first argument.
-/

namespace Scape

/-- `std::collections::HashMap`. -/
abbrev HashMap (κ : Type) (ν : Type) := AList fun _ : κ => ν

def HashMap.values {κ ν : Type} (m : HashMap κ ν) : List ν :=
  m.entries.map Sigma.snd

/-- A map collected from pairs; of two with one key the later stays. -/
def HashMap.collect {κ ν : Type} [DecidableEq κ] (pairs : List (κ × ν)) : HashMap κ ν :=
  pairs.foldl (fun (m : HashMap κ ν) pair => m.insert pair.1 pair.2) ∅

def usizeMax : Nat := 2 ^ 64 - 1

/-- `a + b` on `usize`; `none` is the overflow panic. -/
def usizeAdd (overflowChecks : Bool) (a b : Nat) : Option Nat :=
  if a + b ≤ usizeMax then some (a + b)
  else if overflowChecks then none
  else some ((a + b) % (usizeMax + 1))

theorem usizeAdd_of_le {overflowChecks : Bool} {a b : Nat}
    (h : a + b ≤ usizeMax) : usizeAdd overflowChecks a b = some (a + b) :=
  if_pos h

structure CallbackRef where
  callbackId : Nat
  deriving DecidableEq, Repr

structure Mods where
  ctrl : Bool := false
  alt : Bool := false
  shift : Bool := false
  logo : Bool := false
  deriving DecidableEq, Repr

/-- An xkb keycode: one physical key. -/
abbrev Keycode := UInt32

/-- An xkb keysym: what a key means under the layout and the modifiers. -/
abbrev Keysym := UInt32

inductive KeyState where
  | pressed
  | released
  deriving DecidableEq, Repr

/-- The size of a video mode; its refresh rate is read nowhere here. -/
structure Mode where
  width : Int
  height : Int
  deriving DecidableEq, Repr

/-- An output, as far as the config module reads it. -/
structure Output where
  name : String
  x : Int
  y : Int
  preferredMode : Option Mode
  deriving DecidableEq, Repr

def Output.setLocation (output : Output) (x y : Int) : Output :=
  { output with x := x, y := y }

structure Zone where
  name : String
  x : Int
  y : Int
  width : Int
  height : Int
  default : Bool
  deriving DecidableEq, Repr

structure WindowRule where
  appId : String
  zone : String
  deriving DecidableEq, Repr

inductive MainMessage where
  | shutdown
  deriving DecidableEq, Repr

/-- `Action` messages are left out: no thread sends one. -/
inductive DisplayMessage where
  | shutdown
  | keyboardInput (keycode : Keycode) (keyState : KeyState)
      (modifiersChanged : Bool) (time : UInt32)
  | setZones (zones : List Zone)
  | moveCurrentWindowToZone (name : String)
  | vtSwitch (vt : Int)
  | focusOrSpawn (appId command : String) (args : List String)
  | closeCurrentWindow
  | addWindowRule (rule : WindowRule)
  | toggleDebugUi
  | startVideoStream
  | setLayout (spaces : HashMap String (List Output))

/-- A file descriptor travels as the number it is. -/
inductive RendererMessage where
  | shutdown
  | seatSessionCreated (seatName : String)
  | seatSessionPaused
  | seatSessionResumed
  | fileOpenedInSession (path : String) (fd : Nat)

inductive InputMessage where
  | shutdown
  | keymap (keyName : String) (mods : Mods) (callback : CallbackRef)
  | openFileInSessionForRenderer (path : String)

inductive ConfigMessage where
  | shutdown
  | runCallback (callback : CallbackRef)
  | forgetCallback (callback : CallbackRef)
  | startup
  | connectorChange (outputs : List Output)
  | extraEnv (name value : String)
  | spawn (command : String) (args : List String)

inductive Module where
  | config
  | input
  | renderer
  | display
  deriving DecidableEq, Repr

instance : Fintype Module where
  elems := {.config, .input, .renderer, .display}
  complete := by intro m; cases m <;> decide

end Scape
