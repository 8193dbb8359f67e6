import Scape.Input.Keyboard

/-!
# Which callbacks a run of the input thread asks for

The input thread sees key events and `Keymap` messages in some order, and the
config thread should hear of a bound callback once for every press of its
binding.

`handle_keyboard_event` looks the shortcut up before it asks whether the event
is a press, so a release that finds a binding asks for the callback as well.
That is the only way the requests go wrong: over any stimuli and from any
state they are the ones due exactly when no release in the run finds a binding.
-/

namespace Scape.Input

open Scape Machine

variable {X : Xkb}

inductive Stimulus where
  | key (event : KeyEvent)
  | keymap (keyName : String) (mods : Mods) (callback : CallbackRef)
  deriving DecidableEq

def InputState.step (st : InputState X) : Stimulus → InputState X × List (Effect X)
  | .key event => st.handleKeyboardEvent event
  | .keymap keyName mods callback => st.keymap keyName mods callback

theorem callbacksSent_keymap (st : InputState X) (keyName : String) (mods : Mods)
    (callback : CallbackRef) :
    callbacksSent (st.keymap keyName mods callback).2 = [] := by
  unfold InputState.keymap callbacksSent
  split
  · rfl
  · simp

theorem callbacksSent_handleKeyboardEvent (st : InputState X) (event : KeyEvent) :
    callbacksSent (st.handleKeyboardEvent event).2 = (st.shortcut event).toList := by
  cases h : st.shortcut event with
  | some callback => exact (InputState.handleKeyboardEvent_bound h).1
  | none =>
      by_cases hs : st.Swallows event
      · exact (InputState.handleKeyboardEvent_swallowed h hs).1
      · exact (InputState.handleKeyboardEvent_forwarded h hs).1

/-- The callbacks a stimulus should run: the one bound, if it is a press. -/
def dueCallbacks (st : InputState X) : Stimulus → List CallbackRef
  | .key event =>
      match event.state with
      | .pressed => (st.shortcut event).toList
      | .released => []
  | .keymap .. => []

def ReleaseUnbound (st : InputState X) (stimulus : Stimulus) : Prop :=
  ∀ event, stimulus = .key event → event.state = .released →
    st.shortcut event = none

theorem callbacksSent_step_iff (st : InputState X) (stimulus : Stimulus) :
    callbacksSent (st.step stimulus).2 = dueCallbacks st stimulus ↔
      ReleaseUnbound st stimulus := by
  cases stimulus with
  | keymap keyName mods callback =>
      simp [InputState.step, callbacksSent_keymap, dueCallbacks, ReleaseUnbound]
  | key event =>
      simp only [InputState.step, callbacksSent_handleKeyboardEvent, dueCallbacks,
        ReleaseUnbound, Stimulus.key.injEq, forall_eq']
      cases event.state with
      | pressed => simp
      | released => simp

/-- From any state and over any stimuli, the callbacks requested at each one are
those due, exactly when no release in the run finds a binding. -/
theorem callbacksSent_eq_due_iff (st : InputState X) (stimuli : List Stimulus) :
    (runFrom InputState.step st stimuli).2.map callbacksSent =
        (steps InputState.step st stimuli).map (fun p => dueCallbacks p.1 p.2) ↔
      ∀ p ∈ steps InputState.step st stimuli, ReleaseUnbound p.1 p.2 := by
  rw [map_outputs_eq_iff]
  exact forall₂_congr fun p _ => callbacksSent_step_iff p.1 p.2

/-! ## A keyboard with two keys

Keycode 37 is the left control key, every other keycode is F1: enough to press
a shortcut and let go of it. Key names are read as they stand, which is what
the Unicode tables do with a lower-case ASCII name. -/

def controlF1 : Xkb where
  State := Bool
  LedState := Unit
  tables :=
    { toLowercase := id, isUppercase := Char.isUpper
      toUppercase := fun c => [c.toUpper], fromChar := fun c => c.val }
  updateKey := fun held keycode direction =>
    if keycode = 37 then (decide (direction = .down), 1) else (held, 0)
  modifiers := fun held => { ctrl := held }
  leds := fun _ => ()
  keyGetOneSym := fun _ keycode => if keycode = 37 then 0xffe3 else 0xffbe

def press (keycode : Keycode) : Stimulus := .key ⟨keycode, .pressed, 0⟩

def release (keycode : Keycode) : Stimulus := .key ⟨keycode, .released, 0⟩

/-- Control+F1 is bound, pressed, and let go of in the usual order: the F1
release still finds the binding and asks for the callback a second time. -/
theorem callbacksSent_ne_due :
    (runFrom InputState.step (InputState.new (X := controlF1) false)
        [.keymap "f1" { ctrl := true } ⟨1⟩, press 37, press 67, release 67,
          release 37]).2.map callbacksSent ≠
      (steps InputState.step (InputState.new (X := controlF1) false)
        [.keymap "f1" { ctrl := true } ⟨1⟩, press 37, press 67, release 67,
          release 37]).map (fun p => dueCallbacks p.1 p.2) := by
  decide

end Scape.Input
