import Scape.Proofs.FocusEffects
import Scape.Proofs.WindowExclusion

/-!
# A focus on a window that is gone

The focus is kept apart from the spaces, and a handler that takes a window out of a space
has to see to it. When a toplevel is destroyed or an X11 window unmapped, the window then
on top gets the focus, if there is one; with the last window of a space the focus stays
where it was. To close the debug window, or to drop the windows that have died, does not
see to it at all. A move to a zone takes whatever window has the focus, and maps it.

So the focus stays on a mapped window exactly through the steps that `KeepsMapped` admits
(`step_focusMapped_iff`). A window that is gone then stays so, if nothing else keeps it or
brings it back: the handlers look into the first space only, and a grab drags its window
on after it has been taken out.
-/

namespace Scape.Display.State

open Scape Fallible Machine

/-- A focus that is a window is in some space. -/
def FocusMapped (s : State) : Prop :=
  ∀ window, s.keyboardFocus = some (.window window) → s.Mapped window

/-- A window is in a space that is not the first. -/
def MappedElsewhere (s : State) (window : WorkspaceWindow) : Prop :=
  ∃ name ∈ s.spaces.keys, name ≠ s.spaces.firstKey ∧ (s.spaces.value name).Holds window

/-- The window that is closed, if the one on top lets itself be closed. -/
def closed (s : State) : Option WorkspaceWindow :=
  s.spaces.first.windows.getLast?.filter (·.close)

/-- The window that a step takes out of the first space. -/
def taken (W : World) (s : State) : Event → Option WorkspaceWindow
  | .xdg (.toplevelDestroyed surface) => (s.windowAndSpaceForSurface W surface).map Prod.fst
  | .x11 (.unmapped surface) => (s.windowAndSpaceForX11 W surface).map Prod.fst
  | .message .closeCurrentWindow => s.closed
  | .action .close => if s.locked then none else s.closed
  | .message .toggleDebugUi => s.debugUi
  | _ => none

/-- The handler gives the focus to the window on top. -/
def HandsOver : Event → Prop
  | .xdg (.toplevelDestroyed _) | .x11 (.unmapped _) => True
  | _ => False

/-- The window with the focus is not dropped, and if it is taken out of the first space it
is in another as well, or the focus is handed over to one that stays. -/
def KeepsMapped (s : State) (i : World × Event) : Prop :=
  ∀ window, s.keyboardFocus = some (.window window) →
    (i.2 = .refresh → i.1.alive window = true) ∧
    (taken i.1 s i.2 = some window → s.MappedElsewhere window ∨
      (HandsOver i.2 ∧ ∃ other ∈ s.spaces.first.windows, other ≠ window))

/-- The focus is what `set_focus` has stored last. -/
def StoredFocus (e : Event) : Prop := ∀ target, e ≠ .focusMoved target

/-- What a client has destroyed or unmapped. -/
def Destroys : Event → WorkspaceWindow → Prop
  | .xdg (.toplevelDestroyed surface), window => window.kind = .wayland surface
  | .x11 (.unmapped surface), window => window.kind = .x11 surface
  | _, _ => False

/-- A window that is destroyed or unmapped is mapped nowhere but where it is taken out. -/
def RemovesAll (s : State) (i : World × Event) : Prop :=
  ∀ window, Destroys i.2 window → s.Mapped window →
    taken i.1 s i.2 = some window ∧ ¬ s.MappedElsewhere window

/-- A window that a grab drags is mapped. -/
def DragsMapped (s : State) (i : World × Event) : Prop :=
  ∀ input, i.2 = .input input → ∀ placed ∈ moved i.1 s i.2, s.Mapped placed.2

structure Orderly (s : State) (i : World × Event) : Prop where
  stored : StoredFocus i.2
  keeps : s.KeepsMapped i
  removes : s.RemovesAll i
  drags : s.DragsMapped i

/-- In a run a window has been destroyed or unmapped, or has been taken out of every space
it was in. -/
def Gone (trace : List (State × World × Event)) (window : WorkspaceWindow) : Prop :=
  ∃ p ∈ trace, window.id < p.1.nextWindow ∧ (Destroys p.2.2 window ∨
    (p.1.Mapped window ∧ ∃ t, p.1.step p.2.1 p.2.2 = .ok t ∧ ¬ t.Mapped window))

/-- A move to a zone. -/
def ZoneMoves : Event → Prop
  | .message (.moveCurrentWindowToZone _) | .action (.moveWindow _ _) => True
  | _ => False

variable {s t : State} {W : World} {e : Event} {name : String} {window other : WorkspaceWindow}
  {trace : List (State × World × Event)}

/-! ## Taking a window out -/

theorem Retains.focusMapped (h : Retains s t) (hs : s.FocusMapped) : t.FocusMapped := by
  intro window hfocus
  exact (h.focus window hfocus).elim (fun hold => h.mapped window (hs window hold)) id

theorem mapped_iff :
    s.Mapped window ↔ window ∈ s.spaces.first.windows ∨ s.MappedElsewhere window := by
  constructor
  · rintro ⟨name, hkey, hholds⟩
    by_cases he : name = s.spaces.firstKey
    · subst he
      exact .inl hholds
    · exact .inr ⟨name, hkey, he, hholds⟩
  · rintro (hfirst | ⟨name, hkey, -, hholds⟩)
    · exact mapped_of_first hfirst
    · exact ⟨name, hkey, hholds⟩

/-- The first space without a window. -/
def takeOut (s : State) (window : WorkspaceWindow) : State :=
  s.modifySpace s.spaces.firstKey fun space => space.unmapElem window

theorem mem_first_takeOut :
    other ∈ (s.takeOut window).spaces.first.windows ↔
      other ∈ s.spaces.first.windows ∧ other ≠ window := by
  have hfirst : (s.takeOut window).spaces.first = s.spaces.first.unmapElem window :=
    Function.update_self ..
  rw [hfirst]
  exact Space.mem_windows_unmapElem

theorem mappedElsewhere_takeOut :
    (s.takeOut window).MappedElsewhere other ↔ s.MappedElsewhere other := by
  refine exists_congr fun name => and_congr_right fun _ => and_congr_right fun hne => ?_
  have hvalue : (s.takeOut window).spaces.value name = s.spaces.value name :=
    Function.update_of_ne hne _ _
  rw [hvalue]

theorem mapped_takeOut_iff :
    (s.takeOut window).Mapped other ↔
      (other ∈ s.spaces.first.windows ∧ other ≠ window) ∨ s.MappedElsewhere other := by
  rw [mapped_iff, mem_first_takeOut, mappedElsewhere_takeOut]

theorem takeOut_focusMapped_iff (hs : s.FocusMapped) :
    (s.takeOut window).FocusMapped ↔
      (s.keyboardFocus = some (.window window) → s.MappedElsewhere window) := by
  constructor
  · intro h hfocus
    rcases mapped_takeOut_iff.mp (h window hfocus) with ⟨-, hne⟩ | helse
    · exact absurd rfl hne
    · exact helse
  · intro h other hfocus
    rw [mapped_takeOut_iff]
    by_cases he : other = window
    · subst he
      exact .inr (h hfocus)
    · exact (mapped_iff.mp (hs other hfocus)).imp_left fun hmem => ⟨hmem, he⟩

/-- The window on top is raised and gets the focus, if there is one. -/
theorem focusTop_cases :
    (s.spaces.first.windows = [] ∧ s.focusTop W s.spaces.firstKey = s) ∨
      ∃ top ∈ s.spaces.first.windows, s.focusTop W s.spaces.firstKey =
        (s.modifySpace s.spaces.firstKey fun space => space.raiseElement W.zIndex top).setFocus
          (.window top) := by
  have htop : s.spaces.first.windows.getLast? =
      (s.spaces.value s.spaces.firstKey).windows.getLast? := rfl
  rw [focusTop, ← htop]
  cases hlast : s.spaces.first.windows.getLast? with
  | none => exact .inl ⟨List.getLast?_eq_none_iff.mp hlast, rfl⟩
  | some top =>
      refine .inr ⟨top, List.mem_of_getLast? hlast, ?_⟩
      dsimp only
      rw [focusWindow, Registry.get?_of_mem s.spaces.firstKey_mem]

theorem focusTop_mapped_iff :
    (s.focusTop W s.spaces.firstKey).Mapped window ↔ s.Mapped window := by
  rcases focusTop_cases (W := W) with ⟨-, heq⟩ | ⟨top, htop, heq⟩
  · rw [heq]
  · rw [heq]
    refine exists_congr fun name => and_congr_right fun _ => ?_
    dsimp only [setFocus, modifySpace]
    rw [Registry.modify_value, Function.update_apply]
    split
    next he =>
      subst he
      exact Space.mem_windows_raiseElement
    next => exact Iff.rfl

/-- What the handlers do that hand the focus over. -/
theorem takeOutTop_focusMapped_iff (hs : s.FocusMapped) :
    ((s.takeOut window).focusTop W s.spaces.firstKey).FocusMapped ↔
      (s.keyboardFocus = some (.window window) → s.MappedElsewhere window ∨
        ∃ other ∈ s.spaces.first.windows, other ≠ window) := by
  have hothers : (s.takeOut window).spaces.first.windows = [] ↔
      ¬ ∃ other ∈ s.spaces.first.windows, other ≠ window := by
    rw [List.eq_nil_iff_forall_not_mem, not_exists]
    exact forall_congr' fun other => not_congr mem_first_takeOut
  show ((s.takeOut window).focusTop W (s.takeOut window).spaces.firstKey).FocusMapped ↔ _
  rcases focusTop_cases (s := s.takeOut window) (W := W) with ⟨hempty, heq⟩ | ⟨top, htop, heq⟩
  · rw [heq, takeOut_focusMapped_iff hs]
    exact forall_congr' fun _ => (or_iff_left (hothers.mp hempty)).symm
  · refine iff_of_true (fun w hfocus => ?_) fun _ => .inr ?_
    · rw [heq] at hfocus
      obtain rfl := KeyboardFocusTarget.window.inj (Option.some.inj hfocus)
      exact focusTop_mapped_iff.mpr (mapped_of_first htop)
    · exact ⟨top, mem_first_takeOut.mp htop⟩

/-! ## Steps -/

/-- A step that may take a window out of the first space takes it out or does nothing. -/
theorem toplevelDestroyed_eq {surface : WlSurface} :
    s.toplevelDestroyed W surface =
      .ok (match (s.windowAndSpaceForSurface W surface).map Prod.fst with
        | none => s
        | some window => (s.takeOut window).focusTop W s.spaces.firstKey) := by
  rw [toplevelDestroyed]
  cases hfound : s.windowAndSpaceForSurface W surface with
  | none => rfl
  | some found =>
      obtain ⟨window, name⟩ := found
      obtain ⟨rfl, -⟩ := windowAndSpaceForSurface_eq_some hfound
      dsimp only
      rw [Registry.get?_of_mem s.spaces.firstKey_mem]
      rfl

theorem unmappedWindow_eq {x11 : X11Surface} :
    s.unmappedWindow W x11 =
      .ok (match (s.windowAndSpaceForX11 W x11).map Prod.fst with
        | none => s
        | some window => (s.takeOut window).focusTop W s.spaces.firstKey) := by
  rw [unmappedWindow]
  cases hfound : s.windowAndSpaceForX11 W x11 with
  | none => rfl
  | some found =>
      obtain ⟨window, name⟩ := found
      obtain ⟨rfl, -⟩ := windowAndSpaceForX11_eq_some hfound
      dsimp only
      rw [Registry.get?_of_mem s.spaces.firstKey_mem]
      rfl

theorem closeCurrentWindow_eq :
    s.closeCurrentWindow = s.closed.elim s s.takeOut := by
  rw [closeCurrentWindow, closed]
  cases s.spaces.first.windows.getLast? with
  | none => rfl
  | some window =>
      dsimp only
      rw [Option.filter_some]
      split <;> rfl

theorem holds_refresh_iff {space : Space} {alive : WorkspaceWindow → Bool} :
    (space.refresh alive).Holds window ↔ space.Holds window ∧ alive window = true := by
  simp only [Space.Holds, Space.windows, Space.refresh, List.mem_map, List.mem_filter]
  constructor
  · rintro ⟨element, ⟨hmem, halive⟩, rfl⟩
    exact ⟨⟨element, hmem, rfl⟩, halive⟩
  · rintro ⟨⟨element, hmem, rfl⟩, halive⟩
    exact ⟨element, ⟨hmem, halive⟩, rfl⟩

theorem refresh_mapped_iff :
    Mapped { s with spaces := s.spaces.map (·.refresh W.alive) } window ↔
      s.Mapped window ∧ W.alive window = true := by
  refine (exists_congr fun name => and_congr_right fun _ => holds_refresh_iff).trans ?_
  constructor
  · rintro ⟨name, hkey, hholds, halive⟩
    exact ⟨⟨name, hkey, hholds⟩, halive⟩
  · rintro ⟨⟨name, hkey, hholds⟩, halive⟩
    exact ⟨name, hkey, hholds, halive⟩

/-- What a step does to the first space and the focus when it takes a window out. -/
structure Takes (W : World) (e : Event) (window : WorkspaceWindow) (s t : State) : Prop where
  hands : HandsOver e → t = (s.takeOut window).focusTop W s.spaces.firstKey
  spaces : ¬ HandsOver e → t.spaces = (s.takeOut window).spaces
  focus : ¬ HandsOver e → t.keyboardFocus = s.keyboardFocus

theorem execute_close (hlocked : s.locked = false) :
    s.execute W .close = .ok s.closeCurrentWindow := by
  simp only [execute, hlocked, Bool.false_and, Bool.false_eq_true, if_false]

theorem step_takes (htaken : taken W s e = some window) (hstep : s.step W e = .ok t) :
    Takes W e window s t := by
  have hclosed : s.closed = some window → s.closeCurrentWindow = s.takeOut window := by
    intro hsome
    rw [closeCurrentWindow_eq, hsome]
    rfl
  unfold taken at htaken
  split at htaken
  next surface =>
    have hok : s.toplevelDestroyed W surface = .ok t := hstep
    rw [toplevelDestroyed_eq, htaken] at hok
    cases hok
    exact ⟨fun _ => rfl, fun hnot => absurd trivial hnot, fun hnot => absurd trivial hnot⟩
  next x11 =>
    have hok : s.unmappedWindow W x11 = .ok t := hstep
    rw [unmappedWindow_eq, htaken] at hok
    cases hok
    exact ⟨fun _ => rfl, fun hnot => absurd trivial hnot, fun hnot => absurd trivial hnot⟩
  next =>
    have hok : Except.ok s.closeCurrentWindow = Except.ok t := hstep
    rw [hclosed htaken] at hok
    cases hok
    exact ⟨False.elim, fun _ => rfl, fun _ => rfl⟩
  next =>
    cases hlocked : s.locked with
    | true =>
        rw [hlocked] at htaken
        cases htaken
    | false =>
        rw [hlocked] at htaken
        have hok : s.execute W .close = .ok t := hstep
        rw [execute_close hlocked, hclosed htaken] at hok
        cases hok
        exact ⟨False.elim, fun _ => rfl, fun _ => rfl⟩
  next =>
    have hok : s.toggleDebugUi W = .ok t := hstep
    rw [toggleDebugUi, htaken] at hok
    cases hok
    exact ⟨False.elim, fun _ => rfl, fun _ => rfl⟩
  next => cases htaken

theorem step_takesNone (htaken : taken W s e = none) (hrefresh : e ≠ .refresh)
    (hstored : StoredFocus e) (hstep : s.step W e = .ok t) : Retains s t := by
  have hclosed : s.closed = none → s.closeCurrentWindow = s := by
    intro hnone
    rw [closeCurrentWindow_eq, hnone]
    rfl
  by_cases he : MayTake e
  · unfold MayTake at he
    split at he
    next surface =>
      have hok : s.toplevelDestroyed W surface = .ok t := hstep
      dsimp only [taken] at htaken
      rw [toplevelDestroyed_eq, htaken] at hok
      cases hok
      exact retains_refl s
    next x11 =>
      have hok : s.unmappedWindow W x11 = .ok t := hstep
      dsimp only [taken] at htaken
      rw [unmappedWindow_eq, htaken] at hok
      cases hok
      exact retains_refl s
    next =>
      have hok : Except.ok s.closeCurrentWindow = Except.ok t := hstep
      rw [hclosed htaken] at hok
      cases hok
      exact retains_refl s
    next =>
      exact toggleDebugUi_retains htaken t hstep
    next =>
      have hok : s.execute W .close = .ok t := hstep
      cases hlocked : s.locked with
      | true =>
          rw [execute_locked hlocked] at hok
          cases hok
          exact retains_refl s
      | false =>
          dsimp only [taken] at htaken
          rw [hlocked] at htaken
          rw [execute_close hlocked, hclosed htaken] at hok
          cases hok
          exact retains_refl s
    next => exact absurd rfl hrefresh
    next target => exact absurd rfl (hstored target)
    next => cases he
  · exact step_retains he t hstep

theorem focusMapped_congr (hspaces : t.spaces = s.spaces)
    (hfocus : t.keyboardFocus = s.keyboardFocus) : t.FocusMapped ↔ s.FocusMapped := by
  unfold FocusMapped Mapped
  rw [hspaces, hfocus]

theorem keepsMapped_iff_of_taken (htaken : taken W s e = some window) :
    s.KeepsMapped (W, e) ↔ (s.keyboardFocus = some (.window window) →
      s.MappedElsewhere window ∨
        (HandsOver e ∧ ∃ other ∈ s.spaces.first.windows, other ≠ window)) := by
  have hrefresh : e ≠ .refresh := by
    rintro rfl
    cases htaken
  constructor
  · exact fun h hfocus => (h window hfocus).2 htaken
  · intro h other hfocus
    refine ⟨fun he => absurd he hrefresh, fun hother => ?_⟩
    obtain rfl := Option.some.inj (htaken.symm.trans hother)
    exact h hfocus

theorem step_focusMapped_iff (hs : s.FocusMapped) (hstored : StoredFocus e)
    (hstep : s.step W e = .ok t) : t.FocusMapped ↔ s.KeepsMapped (W, e) := by
  by_cases hrefresh : e = .refresh
  · subst hrefresh
    cases hstep
    constructor
    · intro h window hfocus
      exact ⟨fun _ => (refresh_mapped_iff.mp (h window hfocus)).2, fun htaken => by cases htaken⟩
    · intro h window hfocus
      exact refresh_mapped_iff.mpr ⟨hs window hfocus, (h window hfocus).1 rfl⟩
  · cases htaken : taken W s e with
    | none =>
        refine iff_of_true ((step_takesNone htaken hrefresh hstored hstep).focusMapped hs) ?_
        refine fun window _ => ⟨fun he => absurd he hrefresh, fun hsome => ?_⟩
        rw [htaken] at hsome
        cases hsome
    | some window =>
        have htakes := step_takes htaken hstep
        rw [keepsMapped_iff_of_taken htaken]
        by_cases hover : HandsOver e
        · rw [htakes.hands hover, takeOutTop_focusMapped_iff hs]
          simp only [hover, true_and]
        · rw [focusMapped_congr (s := s.takeOut window) (htakes.spaces hover) (htakes.focus hover),
            takeOut_focusMapped_iff hs]
          simp only [hover, false_and, or_false]

/-! ## Windows that are gone -/

theorem zoneMoves_moved (he : ZoneMoves e) (hmoved : moved W s e = some (name, window)) :
    s.keyboardFocus = some (.window window) := by
  unfold ZoneMoves at he
  split at he
  · exact (currentMoved_eq_some hmoved).2
  · dsimp only [moved] at hmoved
    split at hmoved
    · cases hmoved
    · exact (currentMoved_eq_some hmoved).2
  · cases he

theorem moved_cases (hmoved : moved W s e = some (name, window)) :
    (∃ input, e = .input input) ∨ ZoneMoves e := by
  unfold moved at hmoved
  split at hmoved
  · exact .inl ⟨_, rfl⟩
  · exact .inl ⟨_, rfl⟩
  · exact .inl ⟨_, rfl⟩
  · exact .inl ⟨_, rfl⟩
  · exact .inl ⟨_, rfl⟩
  · exact .inr trivial
  · exact .inr trivial
  · cases hmoved

/-- A step maps a window only when it is made, or when it is dragged or moved to a zone,
and then it is mapped already. -/
theorem step_mapped (hs : s.Known) (hw : s.Within) (hfocus : s.FocusMapped)
    (hdrags : s.DragsMapped (W, e)) (hstep : s.step W e = .ok t)
    (hlt : window.id < s.nextWindow) (ht : t.Mapped window) : s.Mapped window := by
  obtain ⟨name, -, hholds⟩ := ht
  rcases (step_keepsWindows hs t hstep).windows name window hholds with hold | ⟨-, hid⟩ | hmoved
  · exact ⟨name, hw name window hold, hold⟩
  · rw [hid] at hlt
    exact absurd hlt (lt_irrefl _)
  · rcases moved_cases hmoved with ⟨input, rfl⟩ | hzone
    · exact hdrags input rfl (name, window) hmoved
    · exact hfocus window (zoneMoves_moved hzone hmoved)

theorem destroys_unmaps (hdestroys : Destroys e window) (htaken : taken W s e = some window)
    (helse : ¬ s.MappedElsewhere window) (hstep : s.step W e = .ok t) : ¬ t.Mapped window := by
  have hover : HandsOver e := by
    unfold Destroys at hdestroys
    split at hdestroys
    · trivial
    · trivial
    · cases hdestroys
  rw [(step_takes htaken hstep).hands hover]
  show ¬ ((s.takeOut window).focusTop W (s.takeOut window).spaces.firstKey).Mapped window
  rw [focusTop_mapped_iff, mapped_takeOut_iff, not_or]
  exact ⟨fun hfirst => hfirst.2 rfl, helse⟩

/-- The windows that are gone are in no space, and no window is made with their number. -/
def StaysGone (trace : List (State × World × Event)) (s : State) : Prop :=
  ∀ window, Gone trace window → ¬ s.Mapped window ∧ window.id < s.nextWindow

theorem step_staysGone (hs : s.Known) (hw : s.Within) (hfocus : s.FocusMapped)
    (hgone : StaysGone trace s) (horderly : s.Orderly (W, e)) (hstep : s.step W e = .ok t) :
    StaysGone (trace ++ [(s, (W, e))]) t := by
  have hnext := (step_keepsWindows hs t hstep).next
  have hstays : ∀ window, window.id < s.nextWindow → ¬ s.Mapped window → ¬ t.Mapped window :=
    fun window hlt hnot ht => hnot (step_mapped hs hw hfocus horderly.drags hstep hlt ht)
  rintro window ⟨p, hp, hlt, hleft⟩
  rcases List.mem_append.mp hp with hold | hlast
  · obtain ⟨hnot, hlt'⟩ := hgone window ⟨p, hold, hlt, hleft⟩
    exact ⟨hstays window hlt' hnot, hlt'.trans_le hnext⟩
  · obtain rfl := List.mem_singleton.mp hlast
    refine ⟨?_, Nat.lt_of_lt_of_le hlt hnext⟩
    rcases hleft with hdestroys | ⟨-, t', hstep', hnot⟩
    · by_cases hmapped : s.Mapped window
      · obtain ⟨htaken, helse⟩ := horderly.removes window hdestroys hmapped
        exact destroys_unmaps hdestroys htaken helse hstep
      · exact hstays window hlt hmapped
    · obtain rfl := Except.ok.inj (hstep'.symm.trans hstep)
      exact hnot

/-! ## Runs -/

theorem run_orderly (h : Run system trace s) (horderly : ∀ p ∈ trace, p.1.Orderly p.2) :
    s.FocusMapped ∧ StaysGone trace s := by
  induction h with
  | init hinit =>
      have hnew : _ = State.new := hinit
      subst hnew
      constructor
      · intro window hfocus
        cases hfocus
      · rintro window ⟨p, hp, -⟩
        cases hp
  | @step trace s t i hrun hst ih =>
      obtain ⟨hfocus, hgone⟩ := ih fun p hp => horderly p (List.mem_append_left _ hp)
      have hlast : s.Orderly i :=
        horderly (s, i) (List.mem_append_right _ (List.mem_singleton_self _))
      have hs := reachable_known hrun.reachable
      refine ⟨(step_focusMapped_iff hfocus hlast.stored hst).mpr hlast.keeps, ?_⟩
      exact step_staysGone hs (reachable_within hrun.reachable) hfocus hgone hlast hst

/-- After an orderly run a focus that is a window is mapped, and a move to a zone maps no
window that is gone; and the first step that does not keep the window with the focus
leaves the focus on one that is not mapped. -/
theorem orderly_focusMapped (h : Run system trace s) (horderly : ∀ p ∈ trace, p.1.Orderly p.2) :
    (s.FocusMapped ∧ (ZoneMoves e → s.step W e = .ok t → ∀ window, Gone trace window →
      ¬ t.Mapped window)) ∧
    (StoredFocus e → s.step W e = .ok t → ¬ s.KeepsMapped (W, e) → ¬ t.FocusMapped) := by
  obtain ⟨hfocus, hgone⟩ := run_orderly h horderly
  refine ⟨⟨hfocus, fun hzone hstep window hleft ht => ?_⟩, fun hstored hstep hnot ht => ?_⟩
  · obtain ⟨hnot, hlt⟩ := hgone window hleft
    have hdrags : s.DragsMapped (W, e) := by
      intro input hinput
      rw [show e = .input input from hinput] at hzone
      cases hzone
    exact hnot (step_mapped (reachable_known h.reachable) (reachable_within h.reachable) hfocus
      hdrags hstep hlt ht)
  · exact hnot ((step_focusMapped_iff hfocus hstored hstep).mp ht)

/-- A step that takes nothing out and is no input is orderly. -/
theorem orderly_of_plain {i : World × Event} (hmay : ¬ MayTake i.2)
    (hinput : ∀ input, i.2 ≠ .input input) : s.Orderly i where
  stored target he := by
    rw [he] at hmay
    exact hmay trivial
  keeps window _ := by
    refine ⟨fun he => ?_, fun htaken => ?_⟩
    · rw [he] at hmay
      exact absurd trivial hmay
    · unfold taken at htaken
      split at htaken
      next he => exact absurd (he ▸ trivial) hmay
      next he => exact absurd (he ▸ trivial) hmay
      next he => exact absurd (he ▸ trivial) hmay
      next he => exact absurd (he ▸ trivial) hmay
      next he => exact absurd (he ▸ trivial) hmay
      next => cases htaken
  removes window hdestroys := by
    unfold Destroys at hdestroys
    split at hdestroys
    next he => exact absurd (he ▸ trivial) hmay
    next he => exact absurd (he ▸ trivial) hmay
    next => cases hdestroys
  drags input he := absurd he (hinput input)

/-- The toplevel of the examples. -/
def terminal : WorkspaceWindow := ⟨0, .wayland ⟨0⟩⟩

/-- A toplevel is opened, and there is a zone. -/
def openTerminal : List (World × Event) :=
  [(World.quiet, .xdg (.newToplevel ⟨0⟩)),
    (World.quiet, .message (.setZones [⟨"left", 0, 0, 1280, 1440, false⟩]))]

def closeTerminal : World × Event := (World.quiet, .xdg (.toplevelDestroyed ⟨0⟩))

def moveLeft : World × Event := (World.quiet, .message (.moveCurrentWindowToZone "left"))

/-- A toplevel that is opened on top of it. -/
def editor : WorkspaceWindow := ⟨1, .wayland ⟨1⟩⟩

def openBoth : List (World × Event) := openTerminal ++ [(World.quiet, .xdg (.newToplevel ⟨1⟩))]

def closeEditor : World × Event := (World.quiet, .xdg (.toplevelDestroyed ⟨1⟩))

theorem openBoth_orderly :
    ∀ p ∈ [] ++ Fallible.steps next State.new openBoth, p.1.Orderly p.2 := by
  intro p hp
  have hnew : Reachable (Fallible.system (· = State.new) next) State.new := .init rfl
  have hmem := (reachable_of_mem_steps hnew hp).2
  simp only [openBoth, openTerminal, List.mem_append, List.mem_cons, List.not_mem_nil,
    or_false] at hmem
  rcases hmem with (hi | hi) | hi <;> refine orderly_of_plain ?_ fun input => ?_ <;> rw [hi]
  · exact id
  · simp
  · exact id
  · simp
  · exact id
  · simp

/-- To destroy the editor hands the focus over to the terminal. -/
theorem closeEditor_orderly (hkeys : s.spaces.keys = ["main"])
    (hwindows : s.spaces.first.windows = [terminal, editor])
    (htaken : taken World.quiet s closeEditor.2 = some editor)
    (hfocus : s.keyboardFocus = some (.window editor)) : s.Orderly closeEditor where
  stored target he := by cases he
  keeps window hwindow := by
    obtain rfl : editor = window := by simpa [hfocus] using hwindow
    refine ⟨fun he => ?_, fun _ => .inr ⟨trivial, terminal, ?_, by decide⟩⟩
    · cases he
    · rw [hwindows]
      exact List.mem_cons_self
  removes window hdestroys hmapped := by
    have hnowhere : ¬ s.MappedElsewhere window := by
      rintro ⟨name, hname, hne, -⟩
      rw [hkeys, List.mem_singleton] at hname
      have hfirst : s.spaces.firstKey ∈ ["main"] := hkeys ▸ s.spaces.firstKey_mem
      exact hne (hname.trans (List.mem_singleton.mp hfirst).symm)
    have hmem := (mapped_iff.mp hmapped).resolve_right hnowhere
    rw [hwindows] at hmem
    have hkind : window.kind = .wayland ⟨1⟩ := hdestroys
    have heditor : window = editor := by
      simp only [List.mem_cons, List.not_mem_nil, or_false] at hmem
      rcases hmem with rfl | rfl
      · cases hkind
      · rfl
    rw [heditor] at hnowhere ⊢
    exact ⟨htaken, hnowhere⟩
  drags input he := by cases he

theorem closeEditor_run :
    ∃ trace s t, Run system trace s ∧ (∀ p ∈ trace, p.1.Orderly p.2) ∧ Gone trace editor ∧
      s.step moveLeft.1 moveLeft.2 = .ok t ∧ t.Mapped terminal := by
  have hnew : Run (Fallible.system (· = State.new) next) [] State.new := .init rfl
  have hends : Fallible.run next State.new openBoth = .ok _ := rfl
  have hopen : Run system _ _ := run_steps hnew hends
  refine ⟨_, _, _, hopen.step (i := closeEditor) rfl, ?_, ?_, rfl, by decide⟩
  · rw [List.forall_mem_append, List.forall_mem_singleton]
    exact ⟨openBoth_orderly, closeEditor_orderly rfl rfl rfl rfl⟩
  · exact ⟨_, List.mem_append_right _ (List.mem_singleton_self _), by decide, .inl rfl⟩

/-- The editor is destroyed, and the terminal, which has the focus then, is moved to a zone. The
editor stays gone. -/
theorem openTerminal_focusMapped :
    ∃ trace s t, Run system trace s ∧ s.FocusMapped ∧ Gone trace editor ∧
      s.step moveLeft.1 moveLeft.2 = .ok t ∧ t.Mapped terminal ∧ ¬ t.Mapped editor := by
  obtain ⟨trace, s, t, hrun, horderly, hgone, hstep, hmapped⟩ := closeEditor_run
  have hkept := (orderly_focusMapped (W := moveLeft.1) (e := moveLeft.2) (t := t) hrun horderly).1
  exact ⟨trace, s, t, hrun, hkept.1, hgone, hstep, hmapped,
    hkept.2 trivial hstep editor hgone⟩

/-- The last toplevel is destroyed and keeps the focus, and a move to a zone maps it
again. -/
theorem closeTerminal_mappedAgain :
    ∃ trace s t, Run system trace s ∧ s.keyboardFocus = some (.window terminal) ∧
      Gone trace terminal ∧ ¬ s.Mapped terminal ∧ s.step moveLeft.1 moveLeft.2 = .ok t ∧
      t.Mapped terminal := by
  have hnew : Run (Fallible.system (· = State.new) next) [] State.new := .init rfl
  have hends : Fallible.run next State.new (openTerminal ++ [closeTerminal]) = .ok _ := rfl
  have hrun : Run system _ _ := run_steps hnew hends
  refine ⟨_, _, _, hrun, rfl, ?_, by decide, rfl, by decide⟩
  exact ⟨_, .tail _ (.tail _ (.head _)), by decide, .inl rfl⟩

end Scape.Display.State
