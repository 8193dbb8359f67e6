import Scape.Proofs.CommandRoutes

/-!
# Which window a command closes

`CloseCurrentWindow` is documented to close the window with the keyboard's focus, and the
action to close does the same. Both take the window on top of the first space instead. The
focus may be elsewhere: on a layer surface, a popup or the lock screen, on a window of
another space, or on one that something has been mapped above. Then the wrong window is
closed, or one where none should be.

While the session is locked actions are not executed, and the message is handled as ever.
-/

namespace Scape.Display.Compositor

variable {W : World} {H : Host} {c c' : Compositor} {window : WorkspaceWindow}

def focusedWindow (c : Compositor) : Option WorkspaceWindow :=
  match c.state.keyboardFocus with
  | some (.window window) => some window
  | _ => none

/-- The window on top of the first space. -/
def topWindow (c : Compositor) : Option WorkspaceWindow := c.state.spaces.first.windows.getLast?

/-- A window is closed from one state to the next: its client is asked to, or it is taken
out of a space. -/
def Closes (c c' : Compositor) (window : WorkspaceWindow) : Prop :=
  c'.effects = .sendClose window :: c.effects ∨
    ∃ name ∈ c.state.spaces.keys, (c.state.spaces.value name).Holds window ∧
      ¬ (c'.state.spaces.value name).Holds window

/-- What a dispatcher closes is the window with the focus, and nothing else. -/
def ClosesFocused (c : Compositor) (result : Except Failure Compositor) : Prop :=
  ∃ c', result = .ok c' ∧ ∀ window, Closes c c' window ↔ c.focusedWindow = some window

/-! ## What is closed -/

theorem not_closes_self : ¬ Closes c c window := by
  intro h
  rcases h with heffects | ⟨name, -, hholds, hnot⟩
  · exact absurd (congrArg List.length heffects) (by simp)
  · exact hnot hholds

/-- Asking a client to close its window closes that. -/
theorem closes_log_iff {asked : WorkspaceWindow} :
    Closes c (c.log (.sendClose asked)) window ↔ window = asked := by
  constructor
  · intro h
    rcases h with heffects | ⟨name, -, hholds, hnot⟩
    · have hhead := (List.cons.inj heffects).1
      cases hhead
      rfl
    · exact absurd hholds hnot
  · intro h
    rw [h]
    exact .inl rfl

/-- What is taken out of the first space is closed if it was there. -/
theorem closes_unmap_iff {taken : WorkspaceWindow} (h : c.state.spaces.first.Holds taken)
    (hspaces : c'.state = c.state.modifySpace c.state.spaces.firstKey (·.unmapElem taken))
    (heffects : c'.effects = c.effects) : Closes c c' window ↔ window = taken := by
  have hvalue : ∀ name, (c'.state.spaces.value name).Holds window ↔
      (c.state.spaces.value name).Holds window ∧
        (name = c.state.spaces.firstKey → window ≠ taken) := by
    intro name
    rw [hspaces, State.modifySpace, Registry.modify_value]
    by_cases hname : name = c.state.spaces.firstKey
    · subst hname
      rw [Function.update_self, Space.Holds, Space.mem_windows_unmapElem]
      simp [Space.Holds]
    · rw [Function.update_of_ne hname]
      exact (and_iff_left fun he => absurd he hname).symm
  constructor
  · intro hcloses
    rcases hcloses with hlogged | ⟨name, -, hholds, hnot⟩
    · rw [heffects] at hlogged
      exact absurd (congrArg List.length hlogged) (by simp)
    · rw [hvalue, not_and] at hnot
      have hsame := hnot hholds
      push Not at hsame
      exact hsame.2
  · intro he
    subst he
    refine .inr ⟨_, c.state.spaces.firstKey_mem, h, fun hafter => ?_⟩
    exact ((hvalue _).mp hafter).2 rfl rfl

theorem closes_closeCurrentWindow_iff :
    Closes c c.closeCurrentWindow window ↔ c.topWindow = some window := by
  rw [closeCurrentWindow, topWindow]
  cases htop : c.state.spaces.first.windows.getLast? with
  | none => exact iff_of_false not_closes_self (by simp)
  | some top =>
      have hholds : c.state.spaces.first.Holds top := List.mem_of_getLast? htop
      have hclosed : ∀ c', (if top.close then
            { c with state := c.state.modifySpace c.state.spaces.firstKey (·.unmapElem top) }
          else c.log (.sendClose top)) = c' → (Closes c c' window ↔ window = top) := by
        intro c' hc'
        split at hc'
        · subst hc'
          exact closes_unmap_iff hholds rfl rfl
        · subst hc'
          exact closes_log_iff
      rw [Option.some.injEq, eq_comm (a := top)]
      exact hclosed _ rfl

/-! ## Main result -/

theorem closesFocused_closeCurrentWindow_iff :
    ClosesFocused c (.ok c.closeCurrentWindow) ↔ c.topWindow = c.focusedWindow := by
  constructor
  · intro h
    obtain ⟨c', hok, hcloses⟩ := h
    cases hok
    refine Option.ext fun window => ?_
    rw [← closes_closeCurrentWindow_iff, hcloses window]
  · intro h
    refine ⟨_, rfl, fun window => ?_⟩
    rw [closes_closeCurrentWindow_iff, h]

theorem closesFocused_unchanged_iff :
    ClosesFocused c (.ok c) ↔ c.focusedWindow = none := by
  constructor
  · intro h
    obtain ⟨c', hok, hcloses⟩ := h
    cases hok
    refine Option.eq_none_iff_forall_ne_some.mpr fun window hfocused => ?_
    exact not_closes_self ((hcloses window).mpr hfocused)
  · intro h
    refine ⟨c, rfl, fun window => ?_⟩
    rw [h]
    exact iff_of_false not_closes_self (by simp)

/-- The message and the action close the window with the focus exactly if that is the one
on top of the first space, or there is neither; and if the session is locked, only if no
window has the focus. -/
theorem closesFocused_iff (c : Compositor) :
    (ClosesFocused c (c.handleDisplayMessage W H .closeCurrentWindow) ∧
        ClosesFocused c (c.execute W H .close)) ↔
      c.topWindow = c.focusedWindow ∧ (c.state.locked = true → c.focusedWindow = none) := by
  rw [handleDisplayMessage, closesFocused_closeCurrentWindow_iff]
  refine and_congr_right fun htop => ?_
  cases hlocked : c.state.locked with
  | true =>
      rw [execute_locked hlocked (fun _ he => by cases he), closesFocused_unchanged_iff]
      exact (imp_iff_right rfl).symm
  | false =>
      rw [execute.eq_def, hlocked, Bool.false_and, if_neg Bool.false_ne_true]
      dsimp only
      rw [closesFocused_closeCurrentWindow_iff]
      exact iff_of_true htop fun hne => absurd hne Bool.false_ne_true

/-- A window is open, and a layer surface has the focus. -/
def layerFocused : Compositor :=
  { started with
    state := { State.new with keyboardFocus := some (.layerSurface ⟨1, ⟨1⟩⟩) }.modifySpace "main"
      fun space => space.mapElement (fun _ => 0) ⟨0, .wayland ⟨0⟩⟩ ⟨0, 0⟩ }

theorem not_closesFocused_layer :
    layerFocused.focusedWindow = none ∧
      layerFocused.handleDisplayMessage .quiet idleHost .closeCurrentWindow =
        .ok (layerFocused.log (.sendClose ⟨0, .wayland ⟨0⟩⟩)) ∧
      ¬ ClosesFocused layerFocused
        (layerFocused.handleDisplayMessage .quiet idleHost .closeCurrentWindow) := by
  have hcloses : layerFocused.handleDisplayMessage .quiet idleHost .closeCurrentWindow =
      .ok (layerFocused.log (.sendClose ⟨0, .wayland ⟨0⟩⟩)) := rfl
  refine ⟨rfl, hcloses, fun h => ?_⟩
  obtain ⟨c', hok, honly⟩ := h
  rw [hcloses] at hok
  cases hok
  have hfocused := (honly ⟨0, .wayland ⟨0⟩⟩).mp (.inl rfl)
  cases hfocused

end Scape.Display.Compositor
