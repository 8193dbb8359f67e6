import Scape.Proofs.StepEffects

/-!
# Who gets the focus while the session is locked

Only `execute` asks whether the session is locked. Every other handler gives the focus
away as it always does, and smithay gives the keyboard back where a grab from before ends.
So the focus is safe for as long as none of them has anything to give it to: `LockSafe` is
that condition on a step, and `lock_guards_focus` says that it is the right one.

The first toplevel that a client opens does not meet it (`toplevel_takes_focus`).
-/

namespace Scape.Display.State

open Scape Fallible Machine

/-- While the session is locked, the event finds nothing to give focus to. -/
def LockSafe (s : State) (i : World × Event) : Prop :=
  s.locked = true → ¬ GivesFocus i.1 s i.2

/-- While the session is locked, lock surfaces are all that has been given focus. -/
def LockGuards (s : State) : Prop := s.locked = true → s.Guarded

variable {s t : State} {W : World} {e : Event}

theorem lock_guarded (h : s.LockGuards) : (s.lock W).Guarded := by
  rw [lock]
  split
  next hrefused =>
    rw [Bool.and_eq_true] at hrefused
    exact h hrefused.1
  next =>
    intro target hmem
    dsimp only at hmem
    split at hmem
    next hlocked => exact h hlocked target hmem
    next => exact absurd hmem List.not_mem_nil

theorem unlock_not_locked : s.unlock.locked = false := by
  rw [unlock]
  dsimp only
  split <;> rfl

/-- A lock begins with nothing given away, or goes on; an unlock ends it. -/
theorem step_keepsFocus (hs : s.Known) (hlock : e ≠ .lock .lock) (hunlock : e ≠ .lock .unlock) :
    Ensures (KeepsFocus (GivesFocus W s e) s) (s.step W e) := by
  rcases event_cases e with hordinary | he | he | hchanges
  · exact (step_framed hs hordinary).mono fun _ ht => ht.focus
  · exact absurd he hlock
  · exact absurd he hunlock
  · have hnothing : GivesFocus W s e = False := by
      rcases changesOutputs_cases hchanges with ⟨layout, rfl⟩ | ⟨name, mode, rfl⟩ | ⟨output, rfl⟩
      · rfl
      · rfl
      · rfl
    rw [hnothing]
    exact (step_keepsRest hchanges).mono fun _ ht => ht.2

/-- One step gives nothing but lock surfaces focus exactly if it is safe. -/
theorem step_guarded_iff (hs : s.Known) (h : s.LockGuards) (hstep : s.step W e = .ok t)
    (ht : t.locked = true) : t.Guarded ↔ LockSafe s (W, e) := by
  by_cases hlock : e = .lock .lock
  · subst hlock
    cases hstep
    exact iff_of_true (lock_guarded h) fun _ => id
  by_cases hunlock : e = .lock .unlock
  · subst hunlock
    cases hstep
    exact absurd unlock_not_locked (by rw [State.handleLock] at ht; rw [ht]; decide)
  obtain ⟨hlocked, hguarded⟩ := step_keepsFocus hs hlock hunlock t hstep
  rw [hlocked] at ht
  rw [hguarded, and_iff_right (h ht)]
  exact ⟨fun hnot _ => hnot, fun hsafe => hsafe ht⟩

theorem reachable_lockGuards (h : ReachableUnder system LockSafe s) : s.LockGuards := by
  refine reachable_invariant (J := fun _ => True) (fun _ _ => trivial) ?_ ?_ h
  · exact fun _ _ hmem => absurd hmem List.not_mem_nil
  · intro s t W e hs _ hguards hsafe hstep ht
    exact (step_guarded_iff hs hguards hstep ht).mpr hsafe

/-- In every run whose steps are safe while the session is locked, nothing but lock
surfaces is given focus as long as it is; and a step that is not safe gives it away. -/
theorem lock_guards_focus :
    (ReachableUnder system LockSafe s → s.locked = true → s.Guarded) ∧
    (ReachableUnder system LockSafe s → s.step W e = .ok t → t.locked = true →
      ¬ LockSafe s (W, e) → ¬ t.Guarded) := by
  refine ⟨fun h => reachable_lockGuards h, fun h hstep ht hnot hguarded => hnot ?_⟩
  exact (step_guarded_iff (reachable_known h) (reachable_lockGuards h) hstep ht).mp hguarded

/-- The session is locked, and the one lock surface has been shown. -/
def lockShown : State :=
  { State.new with
    sessionLock := some ⟨[(⟨0, "eDP-1", ⟨1920, 1080⟩⟩, ⟨0⟩)]⟩
    keyboardFocus := some (.lockScreen ⟨0⟩)
    focusSet := [.keyboard (.lockScreen ⟨0⟩)] }

theorem lockShown_reached : ReachableUnder system LockSafe lockShown := by
  let W := { World.quiet with fromResource := fun _ => some ⟨0, "eDP-1", ⟨1920, 1080⟩⟩ }
  have hlocked : ReachableUnder system LockSafe { State.new with sessionLock := some ⟨[]⟩ } :=
    .step (i := (W, .lock .lock)) (.init rfl) (fun _ => id) rfl
  exact .step (i := (W, .lock (.newSurface ⟨0⟩ ⟨0⟩))) hlocked (fun _ => id) rfl

/-- A key goes to the lock surface, which keeps the focus. -/
theorem lockShown_guarded :
    (lockShown.Guarded ∧ lockShown.focusSet ≠ []) ∧
      lockShown.step World.quiet (.input .key) = .ok lockShown := by
  have hguarded := (lock_guards_focus (W := World.quiet) (e := .input .key) (t := lockShown)).1
    lockShown_reached rfl
  exact ⟨⟨hguarded, List.cons_ne_nil _ _⟩, rfl⟩

/-- A client that opens a toplevel while the session is locked gets the keyboard. -/
theorem toplevel_takes_focus :
    ∃ s, Reachable system s ∧ s.locked = true ∧
      s.focusSet = [.keyboard (.window ⟨0, .wayland ⟨0⟩⟩)] ∧ ¬ s.Guarded := by
  have hreached : Reachable system _ := reachable_run
    (show run next new [(World.quiet, .lock .lock), (World.quiet, .xdg (.newToplevel ⟨0⟩))] = _
      from rfl)
  exact ⟨_, hreached, rfl, rfl, fun hguarded => hguarded _ (List.mem_singleton_self _)⟩

end Scape.Display.State
