import Scape.Shared.Message

/-!
# Key names and the keymaps

A `Keymap` message names a key by a string. `InputState::keymap` turns the name
into a keysym, possibly adjusting the modifiers on the way, or drops the
message; then it binds the keysym and learns which callback the binding
displaced.

The Unicode tables of the Rust standard library and `Keysym::from_char` of
xkbcommon are `Tables`: the code passes characters through them and relies on
nothing in particular about the result.
-/

namespace Scape.Input

open Scape

structure Tables where
  toLowercase : String → String
  isUppercase : Char → Bool
  /-- `char::to_uppercase`, the iterator drained -/
  toUppercase : Char → List Char
  fromChar : Char → Keysym

/-- The key names the source spells out, in its order, each with the keysym
xkbcommon gives the constant it is mapped to. -/
def namedKeys : List (String × Keysym) :=
  [("left", 0xff51), ("right", 0xff53), ("up", 0xff52), ("down", 0xff54),
   ("f1", 0xffbe), ("f2", 0xffbf), ("f3", 0xffc0), ("f4", 0xffc1),
   ("f5", 0xffc2), ("f6", 0xffc3), ("f7", 0xffc4), ("f8", 0xffc5),
   ("f9", 0xffc6), ("f10", 0xffc7), ("f11", 0xffc8), ("f12", 0xffc9),
   ("f13", 0xffca), ("f14", 0xffcb), ("f15", 0xffcc), ("f16", 0xffcd),
   ("f17", 0xffce), ("f18", 0xffcf), ("f19", 0xffd0), ("f20", 0xffd1),
   ("f21", 0xffd2), ("f22", 0xffd3), ("f23", 0xffd4), ("f24", 0xffd5),
   ("f25", 0xffd6), ("f26", 0xffd7), ("f27", 0xffd8), ("f28", 0xffd9),
   ("f29", 0xffda), ("f30", 0xffdb), ("f31", 0xffdc), ("f32", 0xffdd),
   ("f33", 0xffde), ("f34", 0xffdf), ("f35", 0xffe0),
   ("xf86_audioplay", 0x1008ff14), ("xf86_audionext", 0x1008ff17),
   ("xf86_audioprev", 0x1008ff16), ("xf86_audiomute", 0x1008ff12),
   ("xf86_audioraisevolume", 0x1008ff13),
   ("xf86_audiolowervolume", 0x1008ff11), ("backspace", 0xff08)]

/-- The `match` at the head of `keymap`: the modifiers and the keysym a binding
is stored under, or `none` where the source logs and returns. -/
def resolveKey (t : Tables) (keyName : String) (mods : Mods) :
    Option (Mods × Keysym) :=
  let key := t.toLowercase keyName
  match namedKeys.lookup key with
  | some keysym => some (mods, keysym)
  | none =>
      match key.toList.head? with
      | none => none -- "Key for keymap is empty"
      | some c =>
          let mods := if t.isUppercase c then { mods with shift := true } else mods
          if mods.shift then
            match (t.toUppercase c).head? with
            | none => none -- "Changing the case of {c} to uppercase failed"
            | some uppercaseC => some (mods, t.fromChar uppercaseC)
          else some (mods, t.fromChar c)

/-- `HashMap<Mods, HashMap<Keysym, CallbackRef>>`. -/
abbrev Keymaps := HashMap Mods (HashMap Keysym CallbackRef)

namespace Keymaps

/-- The two lookups of `keyboard_shortcut`. -/
def bound (keymaps : Keymaps) (mods : Mods) (keysym : Keysym) :
    Option CallbackRef :=
  match keymaps.lookup mods with
  | none => none
  | some keymap => keymap.lookup keysym

/-- `self.keymaps.entry(mods).or_default().insert(key, callback)`: the maps
after it, and the callback the binding had before. -/
def bind (keymaps : Keymaps) (mods : Mods) (key : Keysym)
    (callback : CallbackRef) : Keymaps × Option CallbackRef :=
  let keymap := (keymaps.lookup mods).getD ∅
  (keymaps.insert mods (keymap.insert key callback), keymap.lookup key)

theorem bound_bind (keymaps : Keymaps) (mods mods' : Mods) (key key' : Keysym)
    (callback : CallbackRef) :
    (keymaps.bind mods key callback).1.bound mods' key' =
      if mods' = mods ∧ key' = key then some callback
      else keymaps.bound mods' key' := by
  unfold bound bind
  by_cases hm : mods' = mods
  · subst hm
    simp only [AList.lookup_insert, true_and]
    by_cases hk : key' = key
    · subst hk; simp
    · rw [AList.lookup_insert_ne hk, if_neg hk]
      cases keymaps.lookup mods' <;> simp
  · rw [AList.lookup_insert_ne hm, if_neg (by simp [hm])]

theorem bind_snd (keymaps : Keymaps) (mods : Mods) (key : Keysym)
    (callback : CallbackRef) :
    (keymaps.bind mods key callback).2 = keymaps.bound mods key := by
  unfold bound bind
  cases keymaps.lookup mods <;> simp

end Keymaps

end Scape.Input
