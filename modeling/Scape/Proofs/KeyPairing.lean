import Scape.Proofs.Shortcuts

/-!
# Which keys the display sees pressed and released

A key that ran a shortcut should be invisible to the clients, release and all;
any other key should reach them twice. So the release of a key is forwarded
exactly when its press was.

The suppression list is what the code has for that, and it misses in two ways.
A release that finds a binding is taken for a shortcut itself: it is not
forwarded even if its press was, and it puts a keysym on the list that no
release of that key takes off again. And the list remembers keysyms, not keys:
a key whose keysym changes while it is held is not recognised when it comes up,
while a key that merely shares a keysym with a suppressed one is.

`observed_matched` is the converse. Call the keys still held since a press that
ran a shortcut the shortcut keys. If no release finds a binding, and the
shortcut keys with the keysym a release resolves to are just the released key or
none, according to whether it is one of them, then the list holds precisely the
keysyms the shortcut keys were pressed with, and releases pair up with presses.
-/

namespace Scape.Input

open Scape Machine

variable {X : Xkb}

/-! ## What is observed -/

def forwards (st : InputState X) (event : KeyEvent) : Bool :=
  (keysForwarded (st.handleKeyboardEvent event).2).contains (event.keyCode, event.state)

/-- A key event, and whether the display got it. -/
structure Observation where
  keyCode : Keycode
  state : KeyState
  forwarded : Bool
  deriving DecidableEq, Repr

/-- The key events of a run as the display sees them. -/
def observed (st : InputState X) : List Stimulus → List Observation
  | [] => []
  | .keymap keyName mods callback :: rest =>
      observed (st.keymap keyName mods callback).1 rest
  | .key event :: rest =>
      ⟨event.keyCode, event.state, forwards st event⟩ ::
        observed (st.handleKeyboardEvent event).1 rest

/-- Every release is forwarded exactly if the press it ends was. -/
def Matched (observations : List Observation) : Prop :=
  ∀ before press between release after,
    observations = before ++ press :: (between ++ release :: after) →
    press.state = .pressed → release.state = .released →
    release.keyCode = press.keyCode →
    (∀ o ∈ between, o.keyCode ≠ press.keyCode) →
    release.forwarded = press.forwarded

def KeyEvent.downAfter (event : KeyEvent) (down : Finset Keycode) : Finset Keycode :=
  match event.state with
  | .pressed => insert event.keyCode down
  | .released => down.erase event.keyCode

/-- Each key goes down and up in turn; `down` are the keys down now. -/
def Alternating (down : Finset Keycode) : List Stimulus → Prop
  | [] => True
  | .keymap .. :: rest => Alternating down rest
  | .key event :: rest =>
      (event.keyCode ∈ down ↔ event.state = .released) ∧
      Alternating (event.downAfter down) rest

instance decidableAlternating :
    (down : Finset Keycode) → (stimuli : List Stimulus) →
      Decidable (Alternating down stimuli)
  | _, [] => inferInstanceAs (Decidable True)
  | down, .keymap .. :: rest => decidableAlternating down rest
  | down, .key event :: rest =>
      let _ := decidableAlternating (event.downAfter down) rest
      inferInstanceAs (Decidable (_ ∧ _))

/-! ## The keys that are held -/

structure Press where
  shortcut : Bool
  keysym : Keysym
  deriving DecidableEq, Repr

abbrev Held := HashMap Keycode Press

def Held.after (held : Held) (st : InputState X) (event : KeyEvent) : Held :=
  match event.state with
  | .pressed =>
      held.insert event.keyCode ⟨(st.shortcut event).isSome, st.keysymOf event⟩
  | .released => held.erase event.keyCode

/-- A release that the suppression list can tell apart: it finds no binding, and
a shortcut key was pressed with its keysym exactly if it is the released one. -/
def CleanRelease (st : InputState X) (held : Held) (event : KeyEvent) : Prop :=
  event.state = .released →
    st.shortcut event = none ∧
    ∀ entry ∈ held.entries, entry.2.shortcut = true →
      (entry.2.keysym = st.keysymOf event ↔ entry.1 = event.keyCode)

instance (st : InputState X) (held : Held) (event : KeyEvent) :
    Decidable (CleanRelease st held event) :=
  inferInstanceAs (Decidable (_ → _ ∧ _))

theorem CleanRelease.own {st : InputState X} {held : Held} {event : KeyEvent}
    (hc : CleanRelease st held event) (hr : event.state = .released) {key : Keycode}
    {press : Press} (hkey : held.lookup key = some press)
    (hshort : press.shortcut = true) :
    press.keysym = st.keysymOf event ↔ key = event.keyCode :=
  (hc hr).2 ⟨key, press⟩ (AList.mem_lookup_iff.mp hkey) hshort

def CleanRun (st : InputState X) (held : Held) : List Stimulus → Prop
  | [] => True
  | .keymap keyName mods callback :: rest =>
      CleanRun (st.keymap keyName mods callback).1 held rest
  | .key event :: rest =>
      CleanRelease st held event ∧
      CleanRun (st.handleKeyboardEvent event).1 (held.after st event) rest

instance decidableCleanRun :
    (st : InputState X) → (held : Held) → (stimuli : List Stimulus) →
      Decidable (CleanRun st held stimuli)
  | _, _, [] => inferInstanceAs (Decidable True)
  | st, held, .keymap keyName mods callback :: rest =>
      decidableCleanRun (st.keymap keyName mods callback).1 held rest
  | st, held, .key event :: rest =>
      let _ := decidableCleanRun (st.handleKeyboardEvent event).1
        (held.after st event) rest
      inferInstanceAs (Decidable (_ ∧ _))

/-- The suppression list is right: it holds the keysyms the shortcut keys were
pressed with. -/
def ListsShortcutKeys (st : InputState X) (held : Held) : Prop :=
  ∀ keysym, keysym ∈ st.suppressedKeys ↔
    ∃ key press, held.lookup key = some press ∧ press.shortcut = true ∧
      press.keysym = keysym

theorem listsShortcutKeys_keymap {st : InputState X} {held : Held}
    (h : ListsShortcutKeys st held) (keyName : String) (mods : Mods)
    (callback : CallbackRef) :
    ListsShortcutKeys (st.keymap keyName mods callback).1 held := by
  have hsup : (st.keymap keyName mods callback).1.suppressedKeys = st.suppressedKeys := by
    unfold InputState.keymap; split <;> rfl
  intro keysym
  rw [hsup]
  exact h keysym

/-! ## One event

A press never consults the suppression list, so it is forwarded unless it found
a binding. A clean release consults nothing else, and the list answers for the
released key alone. -/

theorem forwards_iff (st : InputState X) (event : KeyEvent) :
    forwards st event = true ↔ st.shortcut event = none ∧ ¬ st.Swallows event := by
  unfold forwards
  cases h : st.shortcut event with
  | some callback => simp [(InputState.handleKeyboardEvent_bound h).2.1]
  | none =>
      by_cases hs : st.Swallows event
      · simp [(InputState.handleKeyboardEvent_swallowed h hs).2.1, hs]
      · simp [(InputState.handleKeyboardEvent_forwarded h hs).2.1, hs]

theorem forwards_press {st : InputState X} {event : KeyEvent}
    (hp : event.state = .pressed) :
    forwards st event = !(st.shortcut event).isSome := by
  have hns : ¬ st.Swallows event := by simp [InputState.Swallows, hp]
  rw [Bool.eq_iff_iff, forwards_iff]
  simp [hns]

theorem forwards_release {st : InputState X} {held : Held} {event : KeyEvent}
    {press : Press} (hl : ListsShortcutKeys st held) (hc : CleanRelease st held event)
    (hr : event.state = .released) (hpress : held.lookup event.keyCode = some press) :
    forwards st event = !press.shortcut := by
  have hunbound := (hc hr).1
  have hlisted : st.keysymOf event ∈ st.suppressedKeys ↔ press.shortcut = true := by
    rw [hl]
    constructor
    · rintro ⟨key, other, hkey, hshort, hsym⟩
      obtain rfl := (hc.own hr hkey hshort).mp hsym
      rw [hpress] at hkey
      cases hkey
      exact hshort
    · intro hshort
      exact ⟨event.keyCode, press, hpress, hshort, (hc.own hr hpress hshort).mpr rfl⟩
  rw [Bool.eq_iff_iff, forwards_iff]
  simp [hunbound, InputState.Swallows, hr, hlisted]

theorem listsShortcutKeys_press {st : InputState X} {held : Held} {event : KeyEvent}
    (hl : ListsShortcutKeys st held) (hp : event.state = .pressed)
    (hup : held.lookup event.keyCode = none) :
    ListsShortcutKeys (st.handleKeyboardEvent event).1 (held.after st event) := by
  have hother : ∀ key press, held.lookup key = some press → key ≠ event.keyCode := by
    rintro key press hkey rfl
    rw [hup] at hkey
    cases hkey
  have hns : ¬ st.Swallows event := by simp [InputState.Swallows, hp]
  intro keysym
  simp only [Held.after, hp]
  cases hsc : st.shortcut event with
  | some callback =>
      rw [(InputState.handleKeyboardEvent_bound hsc).2.2.2, List.mem_append,
        List.mem_singleton, hl]
      constructor
      · rintro (⟨key, press, hkey, hshort, hsym⟩ | rfl)
        · refine ⟨key, press, ?_, hshort, hsym⟩
          rw [AList.lookup_insert_ne (hother key press hkey)]
          exact hkey
        · exact ⟨event.keyCode, _, AList.lookup_insert _, rfl, rfl⟩
      · rintro ⟨key, press, hkey, hshort, hsym⟩
        by_cases hk : key = event.keyCode
        · subst hk
          rw [AList.lookup_insert] at hkey
          cases hkey
          exact .inr hsym.symm
        · rw [AList.lookup_insert_ne hk] at hkey
          exact .inl ⟨key, press, hkey, hshort, hsym⟩
  | none =>
      rw [(InputState.handleKeyboardEvent_forwarded hsc hns).2.2.2, hl]
      refine exists₂_congr fun key press => ?_
      by_cases hk : key = event.keyCode
      · -- The key was up before and its press is no shortcut: neither side.
        subst hk
        rw [AList.lookup_insert, hup]
        constructor
        · rintro ⟨h, -, -⟩; cases h
        · rintro ⟨h, hshort, -⟩
          cases h
          cases hshort
      · rw [AList.lookup_insert_ne hk]

theorem listsShortcutKeys_release {st : InputState X} {held : Held} {event : KeyEvent}
    (hl : ListsShortcutKeys st held) (hc : CleanRelease st held event)
    (hr : event.state = .released) :
    ListsShortcutKeys (st.handleKeyboardEvent event).1 (held.after st event) := by
  have hunbound := (hc hr).1
  -- Swallowed or not, the list loses the released keysym and nothing else.
  have hsup : (st.handleKeyboardEvent event).1.suppressedKeys =
      st.suppressedKeys.filter (· ≠ st.keysymOf event) := by
    by_cases hs : st.Swallows event
    · exact (InputState.handleKeyboardEvent_swallowed hunbound hs).2.2.2
    · rw [(InputState.handleKeyboardEvent_forwarded hunbound hs).2.2.2, eq_comm,
        List.filter_eq_self]
      intro keysym hmem
      simp only [InputState.Swallows, hr, true_and] at hs
      simp only [decide_eq_true_eq]
      rintro rfl
      exact hs hmem
  intro keysym
  rw [hsup, List.mem_filter, decide_eq_true_eq, hl]
  simp only [Held.after, hr]
  constructor
  · rintro ⟨⟨key, press, hkey, hshort, rfl⟩, hne⟩
    have hk : key ≠ event.keyCode := fun hk => hne ((hc.own hr hkey hshort).mpr hk)
    exact ⟨key, press, by rw [AList.lookup_erase_ne hk]; exact hkey, hshort, rfl⟩
  · rintro ⟨key, press, hkey, hshort, rfl⟩
    have hk : key ≠ event.keyCode := by
      rintro rfl
      rw [AList.lookup_erase] at hkey
      cases hkey
    rw [AList.lookup_erase_ne hk] at hkey
    exact ⟨⟨key, press, hkey, hshort, rfl⟩, fun he => hk ((hc.own hr hkey hshort).mp he)⟩

/-! ## A run -/

/-- The same pairing as `Matched`, read from left to right: `sent` is what
became of the press of each key that is down. -/
def Tracked (sent : Keycode → Option Bool) : List Observation → Prop
  | [] => True
  | o :: rest =>
      match o.state with
      | .pressed => Tracked (Function.update sent o.keyCode (some o.forwarded)) rest
      | .released =>
          sent o.keyCode = some o.forwarded ∧
          Tracked (Function.update sent o.keyCode none) rest

theorem Tracked.release_eq {sent : Keycode → Option Bool} {release : Observation}
    {after : List Observation} {b : Bool} :
    ∀ {between : List Observation},
      Tracked sent (between ++ release :: after) → release.state = .released →
      sent release.keyCode = some b →
      (∀ o ∈ between, o.keyCode ≠ release.keyCode) → release.forwarded = b := by
  intro between
  induction between generalizing sent with
  | nil =>
      intro ht hr hsent _
      simp only [List.nil_append, Tracked, hr] at ht
      rw [hsent] at ht
      exact (Option.some.inj ht.1).symm
  | cons o between ih =>
      intro ht hr hsent hbetween
      have ho : release.keyCode ≠ o.keyCode := (hbetween o (by simp)).symm
      have hrest : ∀ o ∈ between, o.keyCode ≠ release.keyCode :=
        fun o' ho' => hbetween o' (by simp [ho'])
      simp only [List.cons_append, Tracked] at ht
      cases hs : o.state with
      | pressed =>
          rw [hs] at ht
          exact ih ht hr (by rw [Function.update_of_ne ho, hsent]) hrest
      | released =>
          rw [hs] at ht
          exact ih ht.2 hr (by rw [Function.update_of_ne ho, hsent]) hrest

theorem Tracked.matched {observations : List Observation} :
    ∀ {sent : Keycode → Option Bool}, Tracked sent observations →
      Matched observations := by
  intro sent ht before press between release after hobs hp hr hkey hbetween
  induction before generalizing sent observations with
  | nil =>
      subst hobs
      simp only [List.nil_append, Tracked, hp] at ht
      exact ht.release_eq hr (by rw [hkey, Function.update_self])
        (by rw [hkey]; exact hbetween)
  | cons o before ih =>
      subst hobs
      simp only [List.cons_append, Tracked] at ht
      cases hs : o.state with
      | pressed => rw [hs] at ht; exact ih ht rfl
      | released => rw [hs] at ht; exact ih ht.2 rfl

def Held.sent (held : Held) (key : Keycode) : Option Bool :=
  (held.lookup key).map fun press => !press.shortcut

theorem Held.sent_press {held : Held} {st : InputState X} {event : KeyEvent}
    (hp : event.state = .pressed) :
    (held.after st event).sent =
      Function.update held.sent event.keyCode (some (forwards st event)) := by
  funext key
  simp only [Held.sent, Held.after, hp]
  by_cases hk : key = event.keyCode
  · subst hk
    rw [AList.lookup_insert, Function.update_self, forwards_press hp]
    rfl
  · rw [AList.lookup_insert_ne hk, Function.update_of_ne hk]
    rfl

theorem Held.sent_release {held : Held} {st : InputState X} {event : KeyEvent}
    (hr : event.state = .released) :
    (held.after st event).sent = Function.update held.sent event.keyCode none := by
  funext key
  simp only [Held.sent, Held.after, hr]
  by_cases hk : key = event.keyCode
  · subst hk
    rw [AList.lookup_erase, Function.update_self]
    rfl
  · rw [AList.lookup_erase_ne hk, Function.update_of_ne hk]
    rfl

theorem observed_tracked :
    ∀ {stimuli : List Stimulus} {st : InputState X} {held : Held}
      {down : Finset Keycode},
      ListsShortcutKeys st held → (∀ key, key ∈ down ↔ key ∈ held) →
      Alternating down stimuli → CleanRun st held stimuli →
      Tracked held.sent (observed st stimuli) := by
  intro stimuli
  induction stimuli with
  | nil => intro st held down _ _ _ _; trivial
  | cons stimulus rest ih =>
      intro st held down hl hdown ha hc
      cases stimulus with
      | keymap keyName mods callback =>
          exact ih (listsShortcutKeys_keymap hl keyName mods callback) hdown ha hc
      | key event =>
          obtain ⟨hclean, hc⟩ := hc
          simp only [Alternating, KeyEvent.downAfter] at ha
          simp only [observed, Tracked]
          cases hs : event.state with
          | pressed =>
              simp only [hs] at ha ⊢
              have hup : held.lookup event.keyCode = none := by
                rw [AList.lookup_eq_none, ← hdown, ha.1]
                simp
              rw [← Held.sent_press hs]
              refine ih (listsShortcutKeys_press hl hs hup) (fun key => ?_) ha.2 hc
              simp only [Finset.mem_insert, hdown, Held.after, hs, AList.mem_insert]
          | released =>
              simp only [hs] at ha ⊢
              obtain ⟨press, hpress⟩ := Option.isSome_iff_exists.mp
                (AList.lookup_isSome.mpr ((hdown _).mp (ha.1.mpr trivial)))
              rw [← Held.sent_release hs]
              refine ⟨?_, ih (listsShortcutKeys_release hl hclean hs) (fun key => ?_)
                ha.2 hc⟩
              · rw [forwards_release hl hclean hs hpress, Held.sent, hpress]
                rfl
              · simp only [Finset.mem_erase, hdown, Held.after, hs, AList.mem_erase]

/-- In a run that starts with no key down and in which every release is clean,
a release is forwarded to the display exactly if its press was. -/
theorem observed_matched (xkbState : X.State) (stimuli : List Stimulus)
    (ha : Alternating ∅ stimuli) (hc : CleanRun (InputState.new xkbState) ∅ stimuli) :
    Matched (observed (InputState.new xkbState) stimuli) := by
  have hlist : ListsShortcutKeys (InputState.new xkbState) (∅ : Held) := by
    intro keysym
    simp [InputState.new]
  have hdown : ∀ key : Keycode, key ∈ (∅ : Finset Keycode) ↔ key ∈ (∅ : Held) := by
    intro key
    simp
  exact (observed_tracked hlist hdown ha hc).matched

/-- A clean run with a shortcut in it: control comes up before F1 does. -/
theorem observed_matched_controlF1 :
    Matched (observed (InputState.new (X := controlF1) false)
      [.keymap "f1" { ctrl := true } ⟨1⟩, press 37, press 67, release 37, release 67]) :=
  observed_matched _ _ (by decide) (by decide)

/-! ## Why the runs have to be clean -/

/-- Control+F1 is bound and used once, in the usual order. The release of F1
finds the binding again and leaves its keysym suppressed, so the next time F1 is
typed on its own the display sees it go down and never come up. -/
theorem observed_not_matched :
    ∃ stimuli, Alternating ∅ stimuli ∧
      ¬ Matched (observed (InputState.new (X := controlF1) false) stimuli) := by
  refine ⟨[.keymap "f1" { ctrl := true } ⟨1⟩, press 37, press 67, release 67,
    release 37, press 67, release 67], by decide, fun h => ?_⟩
  have hobs : observed (InputState.new (X := controlF1) false)
      [.keymap "f1" { ctrl := true } ⟨1⟩, press 37, press 67, release 67,
        release 37, press 67, release 67] =
      [⟨37, .pressed, true⟩, ⟨67, .pressed, false⟩, ⟨67, .released, false⟩,
        ⟨37, .released, true⟩] ++ ⟨67, .pressed, true⟩ ::
        ([] ++ ⟨67, .released, false⟩ :: []) := by decide
  have hsent := h _ _ _ _ _ hobs rfl rfl rfl (by simp)
  cases hsent

end Scape.Input
