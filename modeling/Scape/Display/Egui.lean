import Scape.Input.Keyboard

/-!
# The keyboard of the debug UI

egui is told of keys by events, and of text by what xkbcommon makes of a key with a state
of its own. `EguiState` is a target of the seat's keyboard: the seat says which keys are
held when the focus comes, which of them go down and up, and that the focus leaves. What is
down is kept in a list, each keycode with the key egui knows it by, so that all of it can be
let go of when the focus leaves.

xkbcommon is a parameter.
-/

namespace Scape.Display.Egui

open Scape Scape.Input

/-- `egui::Key`, as far as there are keysyms for it. -/
inductive Key where
  | arrowDown | arrowLeft | arrowRight | arrowUp
  | escape | tab | backspace | enter | space
  | insert | delete | home | «end» | pageUp | pageDown
  | num0 | num1 | num2 | num3 | num4 | num5 | num6 | num7 | num8 | num9
  | a | b | c | d | e | f | g | h | i | j | k | l | m
  | n | o | p | q | r | s | t | u | v | w | x | y | z
  deriving DecidableEq, Repr

structure Modifiers where
  alt : Bool
  ctrl : Bool
  shift : Bool
  macCmd : Bool
  command : Bool
  deriving DecidableEq, Repr

inductive Event where
  | key (key : Key) (physicalKey : Option Key) (pressed repeated : Bool) (modifiers : Modifiers)
  | text (text : String)
  deriving DecidableEq, Repr

/-- A key as the seat hands it over. -/
structure KeysymHandle where
  rawCode : Keycode
  rawSyms : List Keysym
  deriving DecidableEq, Repr

/-- The state that xkbcommon keeps for egui. -/
structure KbdInternal where
  State : Type
  /-- `None` if the keymap does not compile -/
  new : Option State
  /-- `xkb::State::update_key` -/
  updateKey : State → Keycode → KeyDirection → State
  /-- `xkb::State::key_get_utf8` -/
  keyGetUtf8 : State → Keycode → String
  /-- how often a key is down, for xkbcommon -/
  held : State → Keycode → Nat

/-! ## Conversions -/

/-- The arms of `TryFrom<KeysymConv>`. -/
def keysyms : List (Keysym × Key) :=
  [(0xff54, .arrowDown), (0xff51, .arrowLeft), (0xff53, .arrowRight), (0xff52, .arrowUp),
   (0xff1b, .escape), (0xff09, .tab), (0xff08, .backspace), (0xff0d, .enter), (0x20, .space),
   (0xff63, .insert), (0xffff, .delete), (0xff50, .home), (0xff57, .end),
   (0xff55, .pageUp), (0xff56, .pageDown),
   (0x30, .num0), (0x31, .num1), (0x32, .num2), (0x33, .num3), (0x34, .num4),
   (0x35, .num5), (0x36, .num6), (0x37, .num7), (0x38, .num8), (0x39, .num9),
   (0x61, .a), (0x62, .b), (0x63, .c), (0x64, .d), (0x65, .e), (0x66, .f), (0x67, .g),
   (0x68, .h), (0x69, .i), (0x6a, .j), (0x6b, .k), (0x6c, .l), (0x6d, .m), (0x6e, .n),
   (0x6f, .o), (0x70, .p), (0x71, .q), (0x72, .r), (0x73, .s), (0x74, .t), (0x75, .u),
   (0x76, .v), (0x77, .w), (0x78, .x), (0x79, .y), (0x7a, .z)]

def tryFrom (sym : Keysym) : Option Key := keysyms.lookup sym

/-- `convert_key`: the first of the keysyms that egui knows. -/
def convertKey (keys : List Keysym) : Option Key := keys.findSome? tryFrom

/-- `convert_modifiers`, on a system that is not macOS. -/
def convertModifiers (modifiers : ModifiersState) : Modifiers where
  alt := modifiers.alt
  ctrl := modifiers.ctrl
  shift := modifiers.shift
  macCmd := false
  command := modifiers.ctrl

/-! ## The state -/

structure EguiInner (K : KbdInternal) where
  lastModifiers : ModifiersState
  pressed : List (Option Key × Keycode)
  focused : Bool
  events : List Event
  kbd : Option K.State

variable {K : KbdInternal}

/-- `KbdInternal::key_input`. -/
def keyInput (kbd : K.State) (keycode : Keycode) (pressed : Bool) : K.State :=
  K.updateKey kbd keycode (match pressed with
    | true => .down
    | false => .up)

namespace EguiInner

/-- `EguiState::new`. -/
def new (K : KbdInternal) : EguiInner K where
  lastModifiers := {}
  pressed := []
  focused := false
  events := []
  kbd := K.new

/-- The event of a key, if egui knows it. -/
def pushKey (inner : EguiInner K) (key : Option Key) (pressed : Bool) (modifiers : Modifiers) :
    EguiInner K :=
  match key with
  | some key =>
      { inner with events := inner.events ++ [.key key none pressed false modifiers] }
  | none => inner

@[simp] theorem pushKey_pressed (inner : EguiInner K) (key : Option Key) (pressed : Bool)
    (modifiers : Modifiers) : (inner.pushKey key pressed modifiers).pressed = inner.pressed := by
  cases key <;> rfl

@[simp] theorem pushKey_kbd (inner : EguiInner K) (key : Option Key) (pressed : Bool)
    (modifiers : Modifiers) : (inner.pushKey key pressed modifiers).kbd = inner.kbd := by
  cases key <;> rfl

/-- The end of `handle_keyboard`: xkbcommon is told of the key, and makes text of it. -/
def typeKey (inner : EguiInner K) (code : Keycode) (pressed : Bool) : EguiInner K :=
  match inner.kbd with
  | some kbd =>
      let kbd := keyInput kbd code pressed
      let inner := { inner with kbd := some kbd }
      if pressed then { inner with events := inner.events ++ [.text (K.keyGetUtf8 kbd code)] }
      else inner
  | none => inner

@[simp] theorem typeKey_pressed (inner : EguiInner K) (code : Keycode) (pressed : Bool) :
    (inner.typeKey code pressed).pressed = inner.pressed := by
  unfold typeKey
  split
  · cases pressed <;> rfl
  · rfl

@[simp] theorem typeKey_kbd (inner : EguiInner K) (code : Keycode) (pressed : Bool) :
    (inner.typeKey code pressed).kbd = inner.kbd.map fun kbd => keyInput kbd code pressed := by
  unfold typeKey
  split
  next kbd hkbd =>
    rw [hkbd]
    cases pressed <;> rfl
  next hnone =>
    rw [hnone]
    rfl

def handleKeyboard (inner : EguiInner K) (handle : KeysymHandle) (pressed : Bool)
    (modifiers : ModifiersState) : EguiInner K :=
  let inner := { inner with lastModifiers := modifiers }
  let key := convertKey handle.rawSyms
  let inner := inner.pushKey key pressed (convertModifiers modifiers)
  let inner :=
    if pressed then { inner with pressed := inner.pressed ++ [(key, handle.rawCode)] }
    else { inner with pressed := inner.pressed.filter fun entry => entry.2 ≠ handle.rawCode }
  inner.typeKey handle.rawCode pressed

/-- A key that is held when the focus comes. -/
def enterKey (inner : EguiInner K) (handle : KeysymHandle) : EguiInner K :=
  let key := convertKey handle.rawSyms
  let inner := inner.pushKey key true (convertModifiers inner.lastModifiers)
  { inner with
    pressed := inner.pressed ++ [(key, handle.rawCode)]
    kbd := inner.kbd.map fun kbd => keyInput kbd handle.rawCode true }

def enter (inner : EguiInner K) (keys : List KeysymHandle) : EguiInner K :=
  keys.foldl enterKey { inner with focused := true }

/-- A key that is let go of when the focus leaves. -/
def leaveKey (inner : EguiInner K) (entry : Option Key × Keycode) : EguiInner K :=
  let inner := inner.pushKey entry.1 false (convertModifiers inner.lastModifiers)
  { inner with kbd := inner.kbd.map fun kbd => keyInput kbd entry.2 false }

def leave (inner : EguiInner K) : EguiInner K :=
  inner.pressed.foldl leaveKey { inner with focused := false, pressed := [] }

def key (inner : EguiInner K) (key : KeysymHandle) (state : KeyState) : EguiInner K :=
  inner.handleKeyboard key (state == .pressed) inner.lastModifiers

def modifiers (inner : EguiInner K) (modifiers : ModifiersState) : EguiInner K :=
  { inner with lastModifiers := modifiers }

end EguiInner

/-- The part of egui's `RawInput` that the keyboard has a say in. -/
structure RawInput where
  modifiers : Modifiers
  events : List Event
  focused : Bool
  deriving DecidableEq, Repr

/-- `render`, as far as it takes the events. -/
def EguiInner.render (inner : EguiInner K) : EguiInner K × RawInput :=
  ({ inner with events := [] },
    { modifiers := convertModifiers inner.lastModifiers
      events := inner.events
      focused := inner.focused })

end Scape.Display.Egui
