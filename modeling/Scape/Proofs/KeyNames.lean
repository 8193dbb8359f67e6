import Scape.Proofs.Shortcuts

/-!
# What a key name is bound as

`keymap` lower-cases a name before it looks at it. What is not one of the names
in the table is bound by its first character, and upper-cased once shift is
among the modifiers.

Both halves of the fallback miss something. The test that should turn an
upper-case letter into shift and the letter runs on the lower-cased name, so it
never finds one: `A` alone binds the key `a`. And the rest of a name is dropped
instead of refused, so `foo` and `far` are one key, and the second takes the
binding of the first.
-/

namespace Scape.Input

open Scape

variable {X : Xkb}

/-! ## How a name resolves -/

/-- The character a name outside the table is bound by, of the names that have
one: its first, in upper case where shift applies. -/
def boundChar (t : Tables) (mods : Mods) (keyName : String) : Option Char :=
  (t.toLowercase keyName).toList.head?.bind fun c =>
    if mods.shift || t.isUppercase c then (t.toUppercase c).head? else some c

/-- The modifiers a name outside the table is bound under. -/
def boundMods (t : Tables) (mods : Mods) (keyName : String) : Mods :=
  { mods with
    shift := mods.shift || (t.toLowercase keyName).toList.head?.any t.isUppercase }

theorem boundMods_shift (t : Tables) {mods : Mods} (h : mods.shift = true)
    (keyName : String) : boundMods t mods keyName = mods := by
  have hset : { mods with shift := true } = mods := by rw [← h]
  simp only [boundMods, h, Bool.true_or]
  exact hset

theorem resolveKey_table {t : Tables} {keyName : String} {keysym : Keysym}
    (h : namedKeys.lookup (t.toLowercase keyName) = some keysym) (mods : Mods) :
    resolveKey t keyName mods = some (mods, keysym) := by
  simp only [resolveKey, h]

theorem resolveKey_fallback {t : Tables} {keyName : String}
    (h : namedKeys.lookup (t.toLowercase keyName) = none) (mods : Mods) :
    resolveKey t keyName mods =
      (boundChar t mods keyName).map fun c =>
        (boundMods t mods keyName, t.fromChar c) := by
  simp only [resolveKey, h, boundChar, boundMods]
  cases hc : (t.toLowercase keyName).toList.head? with
  | none => rfl
  | some c =>
      cases hu : t.isUppercase c with
      | true =>
          simp only [Option.bind_some, Option.any_some, hu, Bool.or_true, if_true]
          cases (t.toUppercase c).head? <;> rfl
      | false =>
          simp only [Option.bind_some, Option.any_some, hu, Bool.or_false]
          by_cases hs : mods.shift = true
          · simp only [Bool.false_eq_true, if_false, if_pos hs]
            cases (t.toUppercase c).head? <;> rfl
          · simp only [Bool.false_eq_true, if_false, if_neg hs]
            rfl

/-! ## The case of a letter -/

/-- Every name in the table has two characters or more. -/
theorem lookup_singleton (c : Char) : namedKeys.lookup (String.singleton c) = none := by
  rw [List.lookup_eq_none_iff]
  intro entry hentry
  have hlength : ∀ entry ∈ namedKeys, entry.1.length ≠ 1 := by decide
  rw [bne_iff_ne]
  intro h
  exact hlength entry hentry (by rw [← h, String.length_singleton])

/-- What Unicode says of a character with a single upper case and a single lower
case that are not the same: in lower case the upper case is one character, not
an upper-case one, and that character and the lower case agree on what they are
in upper case; the lower case is its own lower case. -/
structure Tables.CaseLaws (t : Tables) : Prop where
  toLowercase_upper : ∀ {c u l : Char}, t.toUppercase c = [u] →
    t.toLowercase (String.singleton c) = String.singleton l → u ≠ l →
    ∃ k, t.toLowercase (String.singleton u) = String.singleton k ∧
      t.isUppercase k = false ∧ (t.toUppercase k).head? = (t.toUppercase l).head?
  toLowercase_lower : ∀ {c u l : Char}, t.toUppercase c = [u] →
    t.toLowercase (String.singleton c) = String.singleton l → u ≠ l →
    t.toLowercase (String.singleton l) = String.singleton l

namespace Tables.CaseLaws

variable {t : Tables} (laws : t.CaseLaws) {c u l : Char}
  (hu : t.toUppercase c = [u])
  (hl : t.toLowercase (String.singleton c) = String.singleton l) (hne : u ≠ l)
include laws hu hl hne

/-- The upper-case name is bound under the modifiers as they are. -/
theorem boundMods_upper (mods : Mods) : boundMods t mods (String.singleton u) = mods := by
  obtain ⟨k, hk, hlower, -⟩ := laws.toLowercase_upper hu hl hne
  simp only [boundMods, hk, String.toList_singleton, List.head?_cons, Option.any_some,
    hlower, Bool.or_false]

/-- With shift, one character binds both names. -/
theorem boundChar_upper_eq {mods : Mods} (hshift : mods.shift = true) :
    boundChar t mods (String.singleton u) = boundChar t mods (String.singleton l) := by
  obtain ⟨k, hk, -, hhead⟩ := laws.toLowercase_upper hu hl hne
  simp only [boundChar, hk, laws.toLowercase_lower hu hl hne, String.toList_singleton,
    List.head?_cons, Option.bind_some, hshift, Bool.true_or, if_true, hhead]

/-- Without it the upper-case name is bound by its lower case. -/
theorem boundChar_upper {mods : Mods} (hshift : mods.shift = false) :
    ∃ k, boundChar t mods (String.singleton u) = some k := by
  obtain ⟨k, hk, hlower, -⟩ := laws.toLowercase_upper hu hl hne
  refine ⟨k, ?_⟩
  simp only [boundChar, hk, String.toList_singleton, List.head?_cons, Option.bind_some,
    hshift, hlower, Bool.or_false, Bool.false_eq_true, if_false]

theorem lookup_upper :
    namedKeys.lookup (t.toLowercase (String.singleton u)) = none := by
  obtain ⟨k, hk, -⟩ := laws.toLowercase_upper hu hl hne
  rw [hk]
  exact lookup_singleton k

theorem lookup_lower :
    namedKeys.lookup (t.toLowercase (String.singleton l)) = none := by
  rw [laws.toLowercase_lower hu hl hne]
  exact lookup_singleton l

end Tables.CaseLaws

/-- What a message binds, it binds under the modifiers it resolved to: any other
modifiers keep what they had. -/
theorem bound_keymap_of_ne {st : InputState X} {keyName : String} {mods : Mods}
    {callback : CallbackRef} {mods' : Mods}
    (h : ∀ key, resolveKey X.tables keyName mods = some key → key.1 ≠ mods')
    (keysym : Keysym) :
    (st.keymap keyName mods callback).1.keymaps.bound mods' keysym =
      st.keymaps.bound mods' keysym := by
  cases hr : resolveKey X.tables keyName mods with
  | none => rw [InputState.keymap_rejected hr]
  | some key =>
      rw [(InputState.keymap_accepted st callback hr).1, Keymaps.bound_bind,
        if_neg fun heq => h key hr heq.1.symm]

theorem bound_keymap (st : InputState X) (callback : CallbackRef) {keyName : String}
    {mods : Mods} {key : Mods × Keysym}
    (h : resolveKey X.tables keyName mods = some key) :
    (st.keymap keyName mods callback).1.keymaps.bound key.1 key.2 = some callback := by
  rw [(InputState.keymap_accepted st callback h).1, Keymaps.bound_bind,
    if_pos ⟨rfl, rfl⟩]

/-- One key cannot have every callback. -/
theorem not_bound_to_each (keymaps : Keymaps) (key : Mods × Keysym) :
    ¬ ∀ callback, keymaps.bound key.1 key.2 = some callback := by
  intro h
  have htwo := (h ⟨0⟩).symm.trans (h ⟨1⟩)
  cases htwo

/-- An upper-case name binds what its lower case binds with shift exactly when
shift is among the modifiers anyway. -/
theorem keymap_upper_eq_lower_iff (laws : X.tables.CaseLaws) {c u l : Char}
    (hu : X.tables.toUppercase c = [u])
    (hl : X.tables.toLowercase (String.singleton c) = String.singleton l) (hne : u ≠ l)
    (mods : Mods) (st : InputState X) :
    (∀ callback, st.keymap (String.singleton u) mods callback =
        st.keymap (String.singleton l) { mods with shift := true } callback) ↔
      mods.shift = true := by
  have hupper := resolveKey_fallback (laws.lookup_upper hu hl hne)
  have hlower := resolveKey_fallback (laws.lookup_lower hu hl hne)
  constructor
  · intro heq
    by_contra hshift
    rw [Bool.not_eq_true] at hshift
    -- The upper-case name is bound without shift, where the other never writes.
    obtain ⟨k, hk⟩ := laws.boundChar_upper hu hl hne hshift
    have hresolve := hupper mods
    rw [hk, laws.boundMods_upper hu hl hne, Option.map_some] at hresolve
    refine not_bound_to_each st.keymaps (mods, X.tables.fromChar k) fun callback => ?_
    have hbound := bound_keymap st callback hresolve
    rw [heq callback, bound_keymap_of_ne] at hbound
    · exact hbound
    · intro key hkey hmods
      rw [hlower, boundMods_shift X.tables rfl] at hkey
      obtain ⟨d, -, rfl⟩ := Option.map_eq_some_iff.mp hkey
      have hset : mods.shift = true := (congrArg Mods.shift hmods).symm
      rw [hshift] at hset
      cases hset
  · intro hshift callback
    have hmods : { mods with shift := true } = mods := by rw [← hshift]
    have hresolve : resolveKey X.tables (String.singleton u) mods =
        resolveKey X.tables (String.singleton l) { mods with shift := true } := by
      rw [hmods, hupper, hlower, boundMods_shift X.tables hshift,
        boundMods_shift X.tables hshift, laws.boundChar_upper_eq hu hl hne hshift]
    simp only [InputState.keymap, hresolve]

/-- The keyboard of `controlF1` with the case of ASCII letters: what Unicode has
for every ASCII name. -/
def asciiKeys : Xkb :=
  { controlF1 with
    tables :=
      { controlF1.tables with
        toLowercase := fun s => String.ofList (s.toList.map Char.toLower) } }

theorem toLowercase_singleton (c : Char) :
    asciiKeys.tables.toLowercase (String.singleton c) = String.singleton c.toLower := by
  show String.ofList ((String.singleton c).toList.map Char.toLower) = _
  rw [String.toList_singleton, List.map_singleton, String.singleton_eq_ofList]

theorem ascii_case (c : Char) :
    c.toUpper.toLower.isUpper = false ∧ c.toUpper.toLower.toUpper = c.toLower.toUpper ∧
      c.toLower.toLower = c.toLower := by
  by_cases hascii : c.toNat < 128
  · have hcase : ∀ n < 128, (Char.ofNat n).toUpper.toLower.isUpper = false ∧
        (Char.ofNat n).toUpper.toLower.toUpper = (Char.ofNat n).toLower.toUpper ∧
        (Char.ofNat n).toLower.toLower = (Char.ofNat n).toLower := by decide
    have hc := hcase c.toNat hascii
    rwa [Char.ofNat_toNat] at hc
  · -- Past ASCII a character is left as it is.
    have hgt : ∀ d : Char, d.toNat < 128 → ¬ c.val ≤ d.val := by
      intro d hd hle
      have hnat := UInt32.le_iff_toNat_le.mp hle
      exact hascii (Nat.lt_of_le_of_lt hnat hd)
    have hlower : c.toLower = c := dif_neg fun h => hgt 'Z' (by decide) h.2
    have hupper : c.toUpper = c := dif_neg fun h => hgt 'z' (by decide) h.2
    rw [hupper, hlower, hlower]
    exact ⟨decide_eq_false fun h => hgt 'Z' (by decide) h.2, rfl, rfl⟩

theorem caseLaws_asciiKeys : asciiKeys.tables.CaseLaws where
  toLowercase_upper := by
    intro c u l hu hl hne
    rw [toLowercase_singleton, String.singleton_inj] at hl
    obtain rfl : c.toUpper = u := List.singleton_inj.mp hu
    refine ⟨c.toUpper.toLower, toLowercase_singleton _, (ascii_case c).1, ?_⟩
    show some c.toUpper.toLower.toUpper = some l.toUpper
    rw [← hl, (ascii_case c).2.1]
  toLowercase_lower := by
    intro c u l hu hl hne
    rw [toLowercase_singleton, String.singleton_inj] at hl
    rw [toLowercase_singleton, ← hl, (ascii_case c).2.2]

theorem keymap_upper_eq_lower_shift :
    (∀ callback, (InputState.new (X := asciiKeys) false).keymap (String.singleton 'A')
        { shift := true } callback =
      (InputState.new (X := asciiKeys) false).keymap (String.singleton 'a')
        { shift := true } callback) ↔ (({ shift := true } : Mods)).shift = true :=
  keymap_upper_eq_lower_iff caseLaws_asciiKeys (c := 'a') (by decide)
    (toLowercase_singleton 'a') (by decide) { shift := true } _

/-- `A` without modifiers is bound as the key `a` without shift. -/
theorem keymap_upper_ne_lower :
    asciiKeys.tables.toUppercase 'a' = ['A'] ∧
    asciiKeys.tables.toLowercase (String.singleton 'a') = String.singleton 'a' ∧
    (InputState.new (X := asciiKeys) false).keymap (String.singleton 'A') {} ⟨1⟩ ≠
      (InputState.new (X := asciiKeys) false).keymap (String.singleton 'a')
        { shift := true } ⟨1⟩ := by
  refine ⟨by decide, toLowercase_singleton 'a', fun heq => ?_⟩
  have hbound := congrArg (fun result => result.1.keymaps.bound {} 0x61) heq
  revert hbound
  decide +kernel

/-! ## Names that are bound as one key -/

/-- Each name in the table stands for a keysym of its own. -/
theorem lookup_ne_of_ne {a b : String} {keysym keysym' : Keysym}
    (ha : namedKeys.lookup a = some keysym) (hb : namedKeys.lookup b = some keysym')
    (hne : a ≠ b) : keysym ≠ keysym' := by
  have hnodup : (namedKeys.map Prod.snd).Nodup := by decide +kernel
  have hmem : ∀ {name : String} {keysym : Keysym},
      namedKeys.lookup name = some keysym → (name, keysym) ∈ namedKeys := by
    intro name keysym h
    obtain ⟨before, after, hsplit, -⟩ := List.lookup_eq_some_iff.mp h
    rw [hsplit]
    exact List.mem_append_right before List.mem_cons_self
  intro h
  have hentry := List.inj_on_of_nodup_map hnodup (hmem ha) (hmem hb) h
  exact hne (congrArg Prod.fst hentry)

/-- A name that changes nothing whatever the callback resolves to no key. -/
theorem resolveKey_of_unchanged {st : InputState X} {mods : Mods} {keyName : String}
    (h : ∀ callback, st.keymap keyName mods callback = (st, [])) (key : Mods × Keysym) :
    resolveKey X.tables keyName mods ≠ some key := by
  intro hkey
  refine not_bound_to_each st.keymaps key fun callback => ?_
  have hbound := bound_keymap st callback hkey
  rw [h callback] at hbound
  exact hbound

/-- The second of two names leaves the first its binding: their keysyms differ,
or one of them is refused. -/
def KeptApart (st : InputState X) (mods : Mods) (a b : String) : Prop :=
  (∀ callback callback' key, resolveKey X.tables a mods = some key →
    ((st.keymap a mods callback).1.keymap b mods callback').1.keymaps.bound key.1 key.2 =
      some callback) ∧
  ((∃ key key', resolveKey X.tables a mods = some key ∧
      resolveKey X.tables b mods = some key' ∧ key.2 ≠ key'.2) ∨
    (∀ callback, st.keymap a mods callback = (st, [])) ∨
    (∀ callback, st.keymap b mods callback = (st, [])))

/-- Two names in the table are told apart. A name outside it counts by its first
character only, and that must be no key of the other's. -/
def NamesApart (t : Tables) (mods : Mods) (a b : String) : Prop :=
  match namedKeys.lookup (t.toLowercase a), namedKeys.lookup (t.toLowercase b) with
  | some _, some _ => True
  | some keysym, none => ∀ c, boundChar t mods b = some c → keysym ≠ t.fromChar c
  | none, some keysym => ∀ c, boundChar t mods a = some c → t.fromChar c ≠ keysym
  | none, none => ∀ c d, boundChar t mods a = some c → boundChar t mods b = some d →
      t.fromChar c ≠ t.fromChar d

/-- The keysym a name resolves to, of the names that are not refused. -/
theorem resolveKey_keysym (t : Tables) (mods : Mods) (keyName : String) :
    (resolveKey t keyName mods).map Prod.snd =
      match namedKeys.lookup (t.toLowercase keyName) with
      | some keysym => some keysym
      | none => (boundChar t mods keyName).map t.fromChar := by
  cases h : namedKeys.lookup (t.toLowercase keyName) with
  | some keysym => rw [resolveKey_table h mods]; rfl
  | none => rw [resolveKey_fallback h mods, Option.map_map]; rfl

theorem forall_map_eq_some_iff {α β : Type*} {o : Option α} {f : α → β} {P : β → Prop} :
    (∀ b, o.map f = some b → P b) ↔ ∀ a, o = some a → P (f a) := by
  constructor
  · intro h a ha
    exact h (f a) (by rw [ha, Option.map_some])
  · intro h b hb
    obtain ⟨a, ha, rfl⟩ := Option.map_eq_some_iff.mp hb
    exact h a ha

/-- Names are told apart if the keysyms they resolve to differ. -/
theorem namesApart_keysym_iff {t : Tables} {mods : Mods} {a b : String}
    (hne : t.toLowercase a ≠ t.toLowercase b) :
    NamesApart t mods a b ↔
      ∀ keysym, (resolveKey t a mods).map Prod.snd = some keysym →
        ∀ keysym', (resolveKey t b mods).map Prod.snd = some keysym' → keysym ≠ keysym' := by
  rw [resolveKey_keysym, resolveKey_keysym, NamesApart]
  cases ha : namedKeys.lookup (t.toLowercase a) with
  | some keysym =>
      cases hb : namedKeys.lookup (t.toLowercase b) with
      | some keysym' =>
          refine iff_of_true trivial fun first hfirst second hsecond => ?_
          cases hfirst
          cases hsecond
          exact lookup_ne_of_ne ha hb hne
      | none => simp only [Option.some.injEq, forall_eq', forall_map_eq_some_iff]
  | none =>
      cases hb : namedKeys.lookup (t.toLowercase b) with
      | some keysym' => simp only [Option.some.injEq, forall_eq', forall_map_eq_some_iff]
      | none =>
          simp only [forall_map_eq_some_iff]
          exact forall_congr' fun c => forall_comm

theorem namesApart_iff {t : Tables} {mods : Mods} {a b : String}
    (hne : t.toLowercase a ≠ t.toLowercase b) :
    NamesApart t mods a b ↔
      ∀ key, resolveKey t a mods = some key → ∀ key', resolveKey t b mods = some key' →
        key.2 ≠ key'.2 := by
  rw [namesApart_keysym_iff hne]
  simp only [forall_map_eq_some_iff]

/-- Two names that differ in more than case keep their bindings apart exactly
when they are told apart by the table and by first characters. -/
theorem keptApart_iff (st : InputState X) (mods : Mods) {a b : String}
    (hne : X.tables.toLowercase a ≠ X.tables.toLowercase b) :
    KeptApart st mods a b ↔ NamesApart X.tables mods a b := by
  rw [namesApart_iff hne]
  constructor
  · intro h key ha key' hb
    rcases h.2 with ⟨known, known', hknown, hknown', hkeysym⟩ | hrefused | hrefused
    · rw [ha] at hknown
      rw [hb] at hknown'
      cases hknown
      cases hknown'
      exact hkeysym
    · exact absurd ha (resolveKey_of_unchanged hrefused key)
    · exact absurd hb (resolveKey_of_unchanged hrefused key')
  · intro h
    refine ⟨fun callback callback' key ha => ?_, ?_⟩
    · have hfirst := bound_keymap st callback ha
      cases hb : resolveKey X.tables b mods with
      | none => rw [InputState.keymap_rejected hb, hfirst]
      | some key' =>
          rw [(InputState.keymap_accepted _ callback' hb).1, Keymaps.bound_bind,
            if_neg fun heq => h key ha key' hb heq.2, hfirst]
    · cases ha : resolveKey X.tables a mods with
      | none => exact .inr (.inl fun callback => InputState.keymap_rejected ha)
      | some key =>
          cases hb : resolveKey X.tables b mods with
          | none => exact .inr (.inr fun callback => InputState.keymap_rejected hb)
          | some key' => exact .inl ⟨key, key', rfl, rfl, h key ha key' hb⟩

theorem keptApart_left_right :
    KeptApart (InputState.new (X := asciiKeys) false) {} "left" "Right" ↔
      NamesApart asciiKeys.tables {} "left" "Right" :=
  keptApart_iff _ _ (by decide +kernel)

/-- `foo` and `far` are both the key `f`, and the second takes it. -/
theorem not_keptApart_first_letter :
    asciiKeys.tables.toLowercase "foo" ≠ asciiKeys.tables.toLowercase "far" ∧
    ¬ KeptApart (InputState.new (X := asciiKeys) false) {} "foo" "far" := by
  refine ⟨by decide +kernel, fun h => ?_⟩
  have hkept := h.1 ⟨1⟩ ⟨2⟩ ({}, 0x66) (by decide +kernel)
  revert hkept
  decide +kernel

end Scape.Input
