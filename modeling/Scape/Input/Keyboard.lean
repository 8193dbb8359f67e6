import Scape.Input.Keymap
import Scape.Shared.Comms
import Scape.Lib.Machine
import Mathlib.Data.Finset.Basic

/-!
# The input module

`InputState` with its two entry points that matter to the other threads: a key
event from libinput, and a `Keymap` message from the config module. Both answer
the new state and what they did to the outside, in order.

xkbcommon and smithay's modifier and LED mirrors are a parameter, `Xkb`. The
keymap inside an `xkb::State` is the user's, so nothing is assumed of how a key
moves the state, of which modifiers it yields, or of which keysym a key gets:
in particular one key may well get different keysyms at its press and at its
release.
-/

namespace Scape.Input

open Scape

inductive KeyDirection where
  | down
  | up
  deriving DecidableEq, Repr

/-- smithay's mirror of the active modifiers, without the lock and level bits
that no code here reads. -/
structure ModifiersState where
  ctrl : Bool := false
  alt : Bool := false
  shift : Bool := false
  logo : Bool := false
  deriving DecidableEq, Repr

/-- The libraries behind the keyboard. -/
structure Xkb where
  State : Type
  LedState : Type
  [ledStateEq : DecidableEq LedState]
  tables : Tables
  /-- `xkb::State::update_key`, with the mask of changed components -/
  updateKey : State → Keycode → KeyDirection → State × Nat
  /-- what `ModifiersState::update_with` reads off -/
  modifiers : State → ModifiersState
  /-- what `LedState::update_with` reads off -/
  leds : State → LedState
  /-- `xkb::State::key_get_one_sym` -/
  keyGetOneSym : State → Keycode → Keysym

attribute [instance] Xkb.ledStateEq

structure KeyboardState (X : Xkb) where
  xkbState : X.State
  ledState : X.LedState
  pressedKeys : Finset Keycode
  modsState : ModifiersState

/-- The input module's state. The loop handle, the seat session and the
libinput context are handles to the outside and carry nothing a handler reads;
a keyboard device is known by a number. -/
structure InputState (X : Xkb) where
  shuttingDown : Bool
  keyboards : List Nat
  keyboardState : KeyboardState X
  tabIndex : Nat
  keymaps : Keymaps
  suppressedKeys : List Keysym

structure KeyEvent where
  keyCode : Keycode
  state : KeyState
  timeMsec : UInt32
  deriving DecidableEq, Repr

inductive Effect (X : Xkb) where
  | ledUpdate (keyboard : Nat) (leds : X.LedState)
  | send (e : Envelope)

variable {X : Xkb}

/-- The head of `handle_keyboard_event`, up to the LEDs: the keyboard state
after the event, and whether the modifiers changed. -/
def KeyboardState.update (ks : KeyboardState X) (event : KeyEvent) :
    KeyboardState X × Bool :=
  let pressedKeys := match event.state with
    | .pressed => insert event.keyCode ks.pressedKeys
    | .released => ks.pressedKeys.erase event.keyCode
  let direction := match event.state with
    | .pressed => KeyDirection.down
    | .released => KeyDirection.up
  let changed := X.updateKey ks.xkbState event.keyCode direction
  let modifiersChanged := changed.2 != 0
  ({ xkbState := changed.1
     ledState := X.leds changed.1
     pressedKeys := pressedKeys
     modsState := if modifiersChanged then X.modifiers changed.1 else ks.modsState },
   modifiersChanged)

def ModifiersState.mods (modifiers : ModifiersState) : Mods where
  ctrl := modifiers.ctrl
  alt := modifiers.alt
  shift := modifiers.shift
  logo := modifiers.logo

namespace InputState

def keyboardShortcut (st : InputState X) (modifiers : ModifiersState)
    (keysym : Keysym) : InputState X × Option CallbackRef :=
  (if modifiers.alt then st else { st with tabIndex := 0 },
    st.keymaps.bound modifiers.mods keysym)

/-- The LED updates an event owes the keyboards: all of them, if the LED state
moved. -/
def ledUpdates (st : InputState X) (ks : KeyboardState X) : List (Effect X) :=
  if ks.ledState = st.keyboardState.ledState then []
  else st.keyboards.map fun keyboard => .ledUpdate keyboard ks.ledState

def handleKeyboardEvent (st : InputState X) (event : KeyEvent) :
    InputState X × List (Effect X) :=
  let update := st.keyboardState.update event
  let leds := st.ledUpdates update.1
  let keysym := X.keyGetOneSym update.1.xkbState event.keyCode
  let checked :=
    { st with keyboardState := update.1 }.keyboardShortcut update.1.modsState keysym
  let st := checked.1
  match checked.2 with
  | some callback =>
      ({ st with suppressedKeys := st.suppressedKeys ++ [keysym] },
        leds ++ [.send (.config (.runCallback callback))])
  | none =>
      if event.state = .released ∧ keysym ∈ st.suppressedKeys then
        ({ st with suppressedKeys := st.suppressedKeys.filter (· ≠ keysym) }, leds)
      else
        (st, leds ++ [.send (.display
          (.keyboardInput event.keyCode event.state update.2 event.timeMsec))])

def keymap (st : InputState X) (keyName : String) (mods : Mods)
    (callback : CallbackRef) : InputState X × List (Effect X) :=
  match resolveKey X.tables keyName mods with
  | none => (st, [])
  | some (mods, key) =>
      let bound := st.keymaps.bind mods key callback
      ({ st with keymaps := bound.1 },
        bound.2.toList.map fun previous => .send (.config (.forgetCallback previous)))

/-- `InputState::handle_message`; `opened` is the descriptor the seat session
answers an `open` with, if it does. -/
def handleMessage (st : InputState X) (opened : Option Nat) :
    InputMessage → InputState X × List (Effect X)
  | .shutdown => ({ st with shuttingDown := true }, [])
  | .keymap keyName mods callback => st.keymap keyName mods callback
  | .openFileInSessionForRenderer path =>
      (st, match opened with
        | none => [] -- the error is logged by the message loop
        | some fd => [.send (.renderer (.fileOpenedInSession path fd))])

def new (xkbState : X.State) : InputState X where
  shuttingDown := false
  keyboards := []
  keyboardState :=
    { xkbState := xkbState, ledState := X.leds xkbState, pressedKeys := ∅
      modsState := {} }
  tabIndex := 0
  keymaps := ∅
  suppressedKeys := []

/-! ## What an event resolves to

Everything `handle_keyboard_event` decides, it decides from three things: the
keysym the event resolves to, the callback bound to it under the modifiers of
that moment, and whether the keysym is suppressed. -/

def keysymOf (st : InputState X) (event : KeyEvent) : Keysym :=
  X.keyGetOneSym (st.keyboardState.update event).1.xkbState event.keyCode

/-- The modifiers in force once the event has moved the keyboard. -/
def modifiersOf (st : InputState X) (event : KeyEvent) : ModifiersState :=
  (st.keyboardState.update event).1.modsState

/-- The callback bound to the event's modifiers and keysym, if any. -/
def shortcut (st : InputState X) (event : KeyEvent) : Option CallbackRef :=
  st.keymaps.bound (st.modifiersOf event).mods (st.keysymOf event)

/-- The event is a release whose keysym is on the suppression list. -/
def Swallows (st : InputState X) (event : KeyEvent) : Prop :=
  event.state = .released ∧ st.keysymOf event ∈ st.suppressedKeys

instance (st : InputState X) (event : KeyEvent) : Decidable (st.Swallows event) :=
  inferInstanceAs (Decidable (_ ∧ _))

end InputState

def callbacksSent (effects : List (Effect X)) : List CallbackRef :=
  effects.filterMap fun
    | .send (.config (.runCallback callback)) => some callback
    | _ => none

def configMessages (effects : List (Effect X)) : List ConfigMessage :=
  effects.filterMap fun
    | .send (.config message) => some message
    | _ => none

def keysForwarded (effects : List (Effect X)) : List (Keycode × KeyState) :=
  effects.filterMap fun
    | .send (.display (.keyboardInput keycode keyState _ _)) => some (keycode, keyState)
    | _ => none

@[simp] theorem callbacksSent_append (es es' : List (Effect X)) :
    callbacksSent (es ++ es') = callbacksSent es ++ callbacksSent es' :=
  List.filterMap_append

@[simp] theorem keysForwarded_append (es es' : List (Effect X)) :
    keysForwarded (es ++ es') = keysForwarded es ++ keysForwarded es' :=
  List.filterMap_append

@[simp] theorem configMessages_append (es es' : List (Effect X)) :
    configMessages (es ++ es') = configMessages es ++ configMessages es' :=
  List.filterMap_append

namespace InputState

@[simp] theorem configMessages_ledUpdates (st : InputState X) (ks : KeyboardState X) :
    configMessages (st.ledUpdates ks) = [] := by
  unfold ledUpdates configMessages
  split <;> simp

@[simp] theorem callbacksSent_ledUpdates (st : InputState X) (ks : KeyboardState X) :
    callbacksSent (st.ledUpdates ks) = [] := by
  unfold ledUpdates callbacksSent
  split <;> simp

@[simp] theorem keysForwarded_ledUpdates (st : InputState X) (ks : KeyboardState X) :
    keysForwarded (st.ledUpdates ks) = [] := by
  unfold ledUpdates keysForwarded
  split <;> simp

/-! The event handler is taken apart here and nowhere else: what an event does
when it is bound, when it is swallowed, and otherwise. -/

theorem handleKeyboardEvent_bound {st : InputState X} {event : KeyEvent}
    {callback : CallbackRef} (h : st.shortcut event = some callback) :
    callbacksSent (st.handleKeyboardEvent event).2 = [callback] ∧
    keysForwarded (st.handleKeyboardEvent event).2 = [] ∧
    (st.handleKeyboardEvent event).1.keymaps = st.keymaps ∧
    (st.handleKeyboardEvent event).1.suppressedKeys =
      st.suppressedKeys ++ [st.keysymOf event] := by
  simp only [shortcut, modifiersOf, keysymOf] at h ⊢
  simp only [handleKeyboardEvent, keyboardShortcut, h, callbacksSent_append,
    keysForwarded_append, callbacksSent_ledUpdates, keysForwarded_ledUpdates]
  refine ⟨rfl, rfl, ?_, ?_⟩
  · split <;> rfl
  · split <;> rfl

theorem handleKeyboardEvent_swallowed {st : InputState X} {event : KeyEvent}
    (h : st.shortcut event = none) (hs : st.Swallows event) :
    callbacksSent (st.handleKeyboardEvent event).2 = [] ∧
    keysForwarded (st.handleKeyboardEvent event).2 = [] ∧
    (st.handleKeyboardEvent event).1.keymaps = st.keymaps ∧
    (st.handleKeyboardEvent event).1.suppressedKeys =
      st.suppressedKeys.filter (· ≠ st.keysymOf event) := by
  simp only [Swallows, shortcut, modifiersOf, keysymOf] at h hs ⊢
  simp only [handleKeyboardEvent, keyboardShortcut, h, apply_ite suppressedKeys,
    ite_self, if_pos hs, callbacksSent_ledUpdates, keysForwarded_ledUpdates]
  refine ⟨trivial, trivial, ?_, rfl⟩
  split <;> rfl

theorem handleKeyboardEvent_forwarded {st : InputState X} {event : KeyEvent}
    (h : st.shortcut event = none) (hs : ¬ st.Swallows event) :
    callbacksSent (st.handleKeyboardEvent event).2 = [] ∧
    keysForwarded (st.handleKeyboardEvent event).2 = [(event.keyCode, event.state)] ∧
    (st.handleKeyboardEvent event).1.keymaps = st.keymaps ∧
    (st.handleKeyboardEvent event).1.suppressedKeys = st.suppressedKeys := by
  simp only [Swallows, shortcut, modifiersOf, keysymOf] at h hs ⊢
  simp only [handleKeyboardEvent, keyboardShortcut, h, apply_ite suppressedKeys,
    ite_self, if_neg hs, callbacksSent_append, keysForwarded_append,
    callbacksSent_ledUpdates, keysForwarded_ledUpdates]
  refine ⟨rfl, rfl, ?_, trivial⟩
  split <;> rfl

/-- To the config module an event is the callback it finds, if it finds one. -/
theorem configMessages_handleKeyboardEvent (st : InputState X) (event : KeyEvent) :
    configMessages (st.handleKeyboardEvent event).2 =
      (st.shortcut event).toList.map .runCallback := by
  cases h : st.shortcut event with
  | some callback =>
      simp only [shortcut, modifiersOf, keysymOf] at h
      simp only [handleKeyboardEvent, keyboardShortcut, h, configMessages_append,
        configMessages_ledUpdates]
      rfl
  | none =>
      simp only [shortcut, modifiersOf, keysymOf] at h
      by_cases hs : st.Swallows event
      · simp only [Swallows, keysymOf] at hs
        simp only [handleKeyboardEvent, keyboardShortcut, h, apply_ite suppressedKeys,
          ite_self, if_pos hs, configMessages_ledUpdates]
        rfl
      · simp only [Swallows, keysymOf] at hs
        simp only [handleKeyboardEvent, keyboardShortcut, h, apply_ite suppressedKeys,
          ite_self, if_neg hs, configMessages_append, configMessages_ledUpdates]
        rfl

theorem keymaps_handleKeyboardEvent (st : InputState X) (event : KeyEvent) :
    (st.handleKeyboardEvent event).1.keymaps = st.keymaps := by
  cases h : st.shortcut event with
  | some callback => exact (handleKeyboardEvent_bound h).2.2.1
  | none =>
      by_cases hs : st.Swallows event
      · exact (handleKeyboardEvent_swallowed h hs).2.2.1
      · exact (handleKeyboardEvent_forwarded h hs).2.2.1

theorem keymap_rejected {st : InputState X} {keyName : String} {mods : Mods}
    {callback : CallbackRef} (h : resolveKey X.tables keyName mods = none) :
    st.keymap keyName mods callback = (st, []) := by
  simp only [keymap, h]

/-- Any other is bound, and the callback it displaces is given back. -/
theorem keymap_accepted (st : InputState X) {keyName : String} {mods mods' : Mods}
    {key : Keysym} (callback : CallbackRef)
    (h : resolveKey X.tables keyName mods = some (mods', key)) :
    (st.keymap keyName mods callback).1.keymaps =
      (st.keymaps.bind mods' key callback).1 ∧
    configMessages (st.keymap keyName mods callback).2 =
      (st.keymaps.bound mods' key).toList.map .forgetCallback := by
  simp only [keymap, h, Keymaps.bind_snd]
  refine ⟨trivial, ?_⟩
  cases st.keymaps.bound mods' key <;> rfl

end InputState

end Scape.Input
