import Scape.Proofs.KeyPairing
import Mathlib.Data.Finset.Card

/-!
# How long the suppression list gets

A keysym is on the list because a key that is still down ran a shortcut. So the
list should have no keysym twice, and no more keysyms than there are keys down;
with all keys up it should be empty.

It does not stay within that, for the two reasons releases are not matched with
presses: a release that finds a binding adds to the list as its key goes up, and
a release whose keysym is not the one its press had takes nothing off. What each
event needs so that the list stays in bounds can be read off the state before
it, and a run stays in bounds exactly if all its events have what they need.
-/

namespace Scape.Input

open Scape Machine

variable {X : Xkb}

structure SuppressionBounded (st : InputState X) : Prop where
  nodup : st.suppressedKeys.Nodup
  length_le : st.suppressedKeys.length ≤ st.keyboardState.pressedKeys.card
  empty : st.keyboardState.pressedKeys = ∅ → st.suppressedKeys = []

theorem suppressionBounded_iff (st : InputState X) :
    SuppressionBounded st ↔ st.suppressedKeys.Nodup ∧
      st.suppressedKeys.length ≤ st.keyboardState.pressedKeys.card := by
  constructor
  · intro h
    exact ⟨h.nodup, h.length_le⟩
  · intro h
    refine ⟨h.1, h.2, fun hup => ?_⟩
    have hlength := h.2
    rw [hup, Finset.card_empty, Nat.le_zero] at hlength
    exact List.length_eq_zero_iff.mp hlength

/-- A key goes down that was up, or up that was down. -/
def Alternates (st : InputState X) (stimulus : Stimulus) : Prop :=
  ∀ event, stimulus = .key event →
    (event.keyCode ∈ st.keyboardState.pressedKeys ↔ event.state = .released)

/-- What the list needs of an event: it takes a keysym that is not listed, and a
release needs a key that stays down for each keysym that stays listed. -/
def KeepsBounded (st : InputState X) (stimulus : Stimulus) : Prop :=
  ∀ event, stimulus = .key event →
    match event.state, st.shortcut event with
    | .pressed, none => True
    | .pressed, some _ => st.keysymOf event ∉ st.suppressedKeys
    | .released, none => st.keysymOf event ∈ st.suppressedKeys ∨
        st.suppressedKeys.length < st.keyboardState.pressedKeys.card
    | .released, some _ => st.keysymOf event ∉ st.suppressedKeys ∧
        st.suppressedKeys.length + 2 ≤ st.keyboardState.pressedKeys.card

/-! ## The keys that are down -/

theorem pressedKeys_handleKeyboardEvent (st : InputState X) (event : KeyEvent) :
    (st.handleKeyboardEvent event).1.keyboardState.pressedKeys =
      event.downAfter st.keyboardState.pressedKeys := by
  have hupdate : (st.keyboardState.update event).1.pressedKeys =
      event.downAfter st.keyboardState.pressedKeys := by
    cases h : event.state <;> simp only [KeyboardState.update, KeyEvent.downAfter, h]
  simp only [InputState.handleKeyboardEvent, InputState.keyboardShortcut]
  split
  · split <;> exact hupdate
  · split <;> split <;> exact hupdate

theorem keyboardState_keymap (st : InputState X) (keyName : String) (mods : Mods)
    (callback : CallbackRef) :
    (st.keymap keyName mods callback).1.keyboardState = st.keyboardState ∧
    (st.keymap keyName mods callback).1.suppressedKeys = st.suppressedKeys := by
  unfold InputState.keymap
  split <;> exact ⟨rfl, rfl⟩

theorem alternates_of_alternating :
    ∀ {stimuli : List Stimulus} {st : InputState X},
      Alternating st.keyboardState.pressedKeys stimuli →
      ∀ p ∈ steps InputState.step st stimuli, Alternates p.1 p.2 := by
  intro stimuli
  induction stimuli with
  | nil => intro st _ p hp; cases hp
  | cons stimulus rest ih =>
      intro st h
      rw [steps_cons, List.forall_mem_cons]
      cases stimulus with
      | keymap keyName mods callback =>
          refine ⟨nofun, ih ?_⟩
          show Alternating (st.keymap keyName mods callback).1.keyboardState.pressedKeys rest
          rw [(keyboardState_keymap st keyName mods callback).1]
          exact h
      | key event =>
          refine ⟨fun event he => (by cases he; exact h.1), ih ?_⟩
          show Alternating (st.handleKeyboardEvent event).1.keyboardState.pressedKeys rest
          rw [pressedKeys_handleKeyboardEvent]
          exact h.2

theorem card_downAfter {st : InputState X} {event : KeyEvent}
    (h : Alternates st (.key event)) :
    (event.downAfter st.keyboardState.pressedKeys).card =
      match event.state with
      | .pressed => st.keyboardState.pressedKeys.card + 1
      | .released => st.keyboardState.pressedKeys.card - 1 := by
  have hdown := h event rfl
  cases hs : event.state with
  | pressed =>
      rw [hs] at hdown
      simp only [KeyEvent.downAfter, hs]
      exact Finset.card_insert_of_notMem fun hmem => (by cases hdown.mp hmem)
  | released =>
      simp only [KeyEvent.downAfter, hs]
      exact Finset.card_erase_of_mem (hdown.mpr hs)

/-! ## One event -/

theorem nodup_append_singleton {keysyms : List Keysym} {keysym : Keysym}
    (h : keysyms.Nodup) : (keysyms ++ [keysym]).Nodup ↔ keysym ∉ keysyms := by
  rw [List.nodup_append_comm, List.singleton_append, List.nodup_cons]
  exact and_iff_left h

theorem length_filter_ne {keysyms : List Keysym} {keysym : Keysym}
    (h : keysyms.Nodup) (hmem : keysym ∈ keysyms) :
    (keysyms.filter (· ≠ keysym)).length + 1 = keysyms.length := by
  have herase : keysyms.filter (· ≠ keysym) = keysyms.erase keysym := by
    rw [h.erase_eq_filter]
    refine List.filter_congr fun other _ => ?_
    rw [decide_not]
    rfl
  rw [herase, List.length_erase_of_mem hmem]
  exact Nat.sub_add_cancel (List.length_pos_of_mem hmem)

/-- From a state in bounds, the events that lead to one in bounds. -/
theorem suppressionBounded_step {st : InputState X} {stimulus : Stimulus}
    (h : SuppressionBounded st) (ha : Alternates st stimulus) :
    SuppressionBounded (st.step stimulus).1 ↔ KeepsBounded st stimulus := by
  cases stimulus with
  | keymap keyName mods callback =>
      have hkeep := keyboardState_keymap st keyName mods callback
      rw [suppressionBounded_iff] at h ⊢
      simp only [InputState.step, hkeep.1, hkeep.2, h, and_self, true_iff]
      exact fun event he => (by cases he)
  | key event =>
      have hcard := card_downAfter ha
      have hdown := ha event rfl
      have hlength := h.length_le
      rw [suppressionBounded_iff]
      simp only [InputState.step, KeepsBounded, Stimulus.key.injEq, forall_eq',
        pressedKeys_handleKeyboardEvent, hcard]
      cases hsc : st.shortcut event with
      | some callback =>
          rw [(InputState.handleKeyboardEvent_bound hsc).2.2.2,
            nodup_append_singleton h.nodup, List.length_append, List.length_singleton]
          cases hs : event.state with
          | pressed => exact and_iff_left (Nat.add_le_add_right hlength 1)
          | released =>
              show _ ∧ _ + 1 ≤ _ - 1 ↔ _ ∧ _ + 2 ≤ _
              refine and_congr_right fun _ => ?_
              omega
      | none =>
          cases hs : event.state with
          | pressed =>
              have hns : ¬ st.Swallows event := fun hsw => (by cases hs.symm.trans hsw.1)
              rw [(InputState.handleKeyboardEvent_forwarded hsc hns).2.2.2]
              exact iff_of_true ⟨h.nodup, Nat.le_succ_of_le hlength⟩ trivial
          | released =>
              have hheld : 0 < st.keyboardState.pressedKeys.card :=
                Finset.card_pos.mpr ⟨event.keyCode, hdown.mpr hs⟩
              by_cases hmem : st.keysymOf event ∈ st.suppressedKeys
              · rw [(InputState.handleKeyboardEvent_swallowed hsc ⟨hs, hmem⟩).2.2.2]
                have hfewer := length_filter_ne h.nodup hmem
                refine iff_of_true ⟨h.nodup.filter _, ?_⟩ (.inl hmem)
                show _ ≤ _ - 1
                omega
              · rw [(InputState.handleKeyboardEvent_forwarded hsc fun hsw => hmem hsw.2).2.2.2]
                show _ ∧ _ ≤ _ - 1 ↔ _ ∨ _
                rw [and_iff_right h.nodup, or_iff_right hmem]
                omega

/-! ## A run -/

/-- Over keys that go down and up in turn, the suppression list stays in bounds
exactly when every event has what it needs. -/
theorem suppressionBounded_states_iff (xkbState : X.State) {stimuli : List Stimulus}
    (ha : Alternating ∅ stimuli) :
    (∀ st ∈ states InputState.step (InputState.new xkbState) stimuli,
        SuppressionBounded st) ↔
      ∀ p ∈ steps InputState.step (InputState.new xkbState) stimuli,
        KeepsBounded p.1 p.2 := by
  refine forall_states_iff (fun st stimulus => suppressionBounded_step) ?_
    (alternates_of_alternating ha)
  exact ⟨List.nodup_nil, Nat.le_refl 0, fun _ => rfl⟩

theorem suppressionBounded_controlF1 :
    (∀ st ∈ states InputState.step (InputState.new (X := controlF1) false)
        [.keymap "f1" { ctrl := true } ⟨1⟩, press 37, press 67, release 37, release 67],
        SuppressionBounded st) ↔
      ∀ p ∈ steps InputState.step (InputState.new (X := controlF1) false)
        [.keymap "f1" { ctrl := true } ⟨1⟩, press 37, press 67, release 37, release 67],
        KeepsBounded p.1 p.2 :=
  suppressionBounded_states_iff (X := controlF1) false (by decide)

/-- Control+F1 is used once, in the usual order: both keys are up again, and F1
is on the list twice. -/
theorem not_suppressionBounded :
    ∃ stimuli, Alternating ∅ stimuli ∧
      ∃ st ∈ states InputState.step (InputState.new (X := controlF1) false) stimuli,
        st.keyboardState.pressedKeys = ∅ ∧ st.suppressedKeys = [0xffbe, 0xffbe] ∧
        ¬ SuppressionBounded st := by
  refine ⟨[.keymap "f1" { ctrl := true } ⟨1⟩, press 37, press 67, release 67,
    release 37], by decide, _, List.mem_of_getLast? rfl, rfl, rfl, fun h => ?_⟩
  exact absurd (h.empty rfl) (List.cons_ne_nil _ _)

end Scape.Input
