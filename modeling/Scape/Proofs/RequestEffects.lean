import Scape.Proofs.Effects

/-!
# What the requests of clients change

Each request handler is taken apart once, here. A window comes into a space only when a
client maps a new one, since what a handler finds it finds in the space it then writes
to. Focus is given by six of them, each under a condition of its own.
-/

namespace Scape.Display

open Scape Fallible

namespace State

variable {s : State} {W : World} {name : String} {window : WorkspaceWindow}

/-! ## Requests of Wayland clients -/

variable {surface : WlSurface} {left top : Bool}

/-- A window is placed in the first space that has just been made. -/
def Fresh (s : State) (name : String) (window : WorkspaceWindow) : Prop :=
  name = s.spaces.firstKey ∧ window.id = s.nextWindow

/-- A window is found, and it is not the only one of its space. -/
def LeavesOthers (s : State) (found : Option (WorkspaceWindow × String)) : Prop :=
  ∃ window name, found = some (window, name) ∧
    ∃ other ∈ (s.spaces.value name).windows, other ≠ window

theorem newSurface_shifts : Shifts s (s.newSurface surface) := by
  rw [newSurface]
  split
  · exact shifts_refl s
  · exact .kept rfl rfl

theorem commitOffset_shifts : Ensures (Shifts s) (s.commitOffset W surface) := by
  rw [commitOffset]
  split
  · exact ensures_ok.mpr (shifts_refl s)
  split
  · exact ensures_ok.mpr (shifts_refl s)
  next window name hfound =>
    obtain ⟨rfl, hmem⟩ := windowAndSpaceForSurface_eq_some hfound
    split
    · split
      · exact ensures_ok.mpr (shifts_refl s)
      · split
        · exact ensures_ok.mpr (shifts_refl s)
        · rw [ensures_expect_bind]
          intro location _
          exact ensures_pure.mpr (.moved rfl rfl hmem)
    · exact ensures_ok.mpr (shifts_refl s)

theorem ensureSurfaceData_shifts : Shifts s (s.ensureSurfaceData surface) := by
  rw [ensureSurfaceData]
  split
  · exact shifts_refl s
  · exact .kept rfl rfl

theorem handleToplevelCommit_shifts : Shifts s (s.handleToplevelCommit W surface) := by
  unfold handleToplevelCommit
  dsimp only
  split
  · exact shifts_refl s
  next window hfound =>
    split
    · split
      · exact .moved rfl rfl (List.mem_of_find?_eq_some hfound)
      · exact shifts_refl s
    · exact shifts_refl s

theorem commit_framed : Ensures (Framed NoPlaces False s) (s.commit W surface) := by
  rw [commit, ensures_bind]
  intro u hu
  have hoffset := (commitOffset_shifts u hu).framed
  rw [ensures_expect_bind]
  intro _ _
  rw [ensures_expect_bind]
  intro _ _
  exact ensures_pure.mpr
    (hoffset.after (ensureSurfaceData_shifts.framed.after handleToplevelCommit_shifts.framed))

/-- What both kinds of clients do with a new window. -/
theorem placeFresh_framed {kind : WindowKind} :
    Ensures (fun t => Framed (Fresh s) False s t ∧ s.nextWindow < t.nextWindow)
      ((s.freshWindow kind).2.placeWindow W s.spaces.firstKey (s.freshWindow kind).1 none) := by
  refine (placeWindow_framed (Nat.lt_succ_self _)).mono fun t ht => ⟨?_, ht.windows.next⟩
  refine (framed_freshWindow.after ht).mono (fun n w hplaced => ?_) Iff.rfl
  exact ⟨hplaced.1, hplaced.2 ▸ rfl⟩

theorem newToplevel_framed : Ensures (Framed (Fresh s) True s) (s.newToplevel W surface) := by
  rw [newToplevel, ensures_bind]
  intro u hu
  obtain ⟨hplaced, hnext⟩ := placeFresh_framed u hu
  rw [ensures_pure]
  exact (hplaced.trans (framed_setFocus_window hnext)).mono
    (fun _ _ hor => hor.resolve_right id) (by rw [false_or])

/-- A window leaves its space, and the one then on top gets the focus. -/
theorem unmapTop_framed (hs : s.Known) (hname : name ∈ s.spaces.keys) :
    Framed NoPlaces (∃ other ∈ (s.spaces.value name).windows, other ≠ window) s
      ((s.modifySpace name fun space => space.unmapElem window).focusTop W name) := by
  have hunmap : Framed NoPlaces False s (s.modifySpace name fun space => space.unmapElem window) :=
    framed_unmapElem
  refine (hunmap.after (focusTop_framed (hunmap.windows.known hs) hname)).mono
    (fun _ _ => id) ?_
  have hvalue : ((s.modifySpace name fun space => space.unmapElem window).spaces.value name) =
      (s.spaces.value name).unmapElem window := Function.update_self ..
  rw [hvalue, ne_eq, List.eq_nil_iff_forall_not_mem, not_forall]
  simp only [not_not, Space.mem_windows_unmapElem]

theorem toplevelDestroyed_framed (hs : s.Known) :
    Ensures (Framed NoPlaces (LeavesOthers s (s.windowAndSpaceForSurface W surface)) s)
      (s.toplevelDestroyed W surface) := by
  rw [toplevelDestroyed, LeavesOthers]
  split
  next hfound =>
    refine ensures_ok.mpr ((framed_refl s).mono (fun _ _ => id) (iff_of_false id ?_))
    simp [hfound]
  next window name hfound =>
    obtain ⟨rfl, -⟩ := windowAndSpaceForSurface_eq_some hfound
    rw [ensures_expect_bind]
    intro _ _
    rw [ensures_pure]
    refine (unmapTop_framed hs s.spaces.firstKey_mem).mono (fun _ _ => id) ?_
    simp [hfound]

theorem appIdChanged_shifts : Ensures (Shifts s) (s.appIdChanged W surface) := by
  rw [appIdChanged]
  split
  · exact ensures_ok.mpr (shifts_refl s)
  next window name hfound =>
    obtain ⟨rfl, hmem⟩ := windowAndSpaceForSurface_eq_some hfound
    exact placeWindow_shifts hmem

theorem maximizeRequest_shifts : Ensures (Shifts s) (s.maximizeRequest W surface) := by
  rw [maximizeRequest]
  split
  · rw [ensures_expect_bind]
    rintro ⟨window, name⟩ hfound
    obtain ⟨rfl, hmem⟩ := windowAndSpaceForSurface_eq_some hfound
    rw [ensures_expect_bind]
    intro _ _
    rw [ensures_expect_bind]
    intro _ _
    rw [ensures_expect_bind]
    intro _ _
    exact ensures_pure.mpr (.moved rfl rfl hmem)
  · exact ensures_ok.mpr (shifts_refl s)

theorem fullscreenRequest_shifts {wlOutput : Option WlOutput} :
    Ensures (Shifts s) (s.fullscreenRequest W surface wlOutput) := by
  rw [fullscreenRequest]
  split
  · split
    · exact ensures_ok.mpr (shifts_refl s)
    · split
      · exact ensures_ok.mpr (shifts_refl s)
      · split
        · exact ensures_ok.mpr (shifts_refl s)
        · rw [ensures_expect_bind]
          intro _ _
          exact ensures_pure.mpr (.kept rfl rfl)
  · exact ensures_ok.mpr (shifts_refl s)

theorem unfullscreenRequest_shifts :
    Ensures (Shifts s) (s.unfullscreenRequest W surface) := by
  rw [unfullscreenRequest]
  split
  · split
    · exact ensures_ok.mpr (shifts_refl s)
    · rw [ensures_expect_bind]
      intro _ _
      exact ensures_pure.mpr (.kept rfl rfl)
  · exact ensures_ok.mpr (shifts_refl s)

variable {startData : GrabStartData} {point : Point} {grabSpace : Option String}

theorem startMove_window :
    Ensures (fun grab => grab.window = window)
      (s.startMove W surface window name startData point grabSpace) := by
  rw [startMove, ensures_expect_bind]
  intro _ _
  rw [ensures_expect_bind]
  intro _ _
  exact ensures_pure.mpr rfl

theorem movePointerRequest_framed (hs : s.Known) :
    Ensures (Framed NoPlaces False s) (s.movePointerRequest W surface) := by
  rw [movePointerRequest]
  split
  · exact ensures_ok.mpr (framed_refl s)
  · rw [ensures_expect_bind]
    rintro ⟨window, name⟩ hfound
    obtain ⟨rfl, hmem⟩ := windowAndSpaceForSurface_eq_some hfound
    dsimp only
    split
    · rw [ensures_bind]
      intro grab hgrab
      refine ensures_pure.mpr (framed_pointerGrab ?_)
      rintro _ ⟨⟩
      exact startMove_window grab hgrab ▸ hs.of_mem hmem
    · exact ensures_pure.mpr (framed_refl s)

theorem moveRequestXdg_framed (hs : s.Known) :
    Ensures (Framed NoPlaces False s) (s.moveRequestXdg W surface) := by
  rw [moveRequestXdg]
  split
  · split
    · exact movePointerRequest_framed hs
    · split
      · exact ensures_ok.mpr (framed_refl s)
      next window name hfound =>
        obtain ⟨rfl, hmem⟩ := windowAndSpaceForSurface_eq_some hfound
        split
        · rw [ensures_bind]
          intro grab hgrab
          refine ensures_pure.mpr (framed_touchGrab ?_)
          rintro _ ⟨⟩
          exact startMove_window grab hgrab ▸ hs.of_mem hmem
        · exact ensures_ok.mpr (framed_refl s)
  · exact movePointerRequest_framed hs

theorem startResize_shifts :
    Ensures (fun t => Shifts s t ∧ t.nextWindow = s.nextWindow)
      (s.startResize W surface window name left top) := by
  rw [startResize, ensures_expect_bind]
  intro _ _
  rw [ensures_expect_bind]
  intro _ _
  rw [ensures_expect_bind]
  intro _ _
  exact ensures_pure.mpr ⟨.kept rfl rfl, rfl⟩

theorem resizePointerRequest_framed (hs : s.Known) :
    Ensures (Framed NoPlaces False s) (s.resizePointerRequest W surface left top) := by
  rw [resizePointerRequest]
  split
  · exact ensures_ok.mpr (framed_refl s)
  · split
    · exact ensures_ok.mpr (framed_refl s)
    next window name hfound =>
      obtain ⟨rfl, hmem⟩ := windowAndSpaceForSurface_eq_some hfound
      split
      · rw [ensures_bind]
        intro u hu
        obtain ⟨hshifts, hnext⟩ := startResize_shifts u hu
        refine ensures_pure.mpr (hshifts.framed.after (framed_pointerGrab ?_))
        rintro _ ⟨⟩
        exact hnext ▸ hs.of_mem hmem
      · exact ensures_ok.mpr (framed_refl s)

theorem resizeRequest_framed (hs : s.Known) :
    Ensures (Framed NoPlaces False s) (s.resizeRequest W surface left top) := by
  rw [resizeRequest]
  split
  · split
    · exact resizePointerRequest_framed hs
    · split
      · exact ensures_ok.mpr (framed_refl s)
      next window name hfound =>
        obtain ⟨rfl, hmem⟩ := windowAndSpaceForSurface_eq_some hfound
        split
        · rw [ensures_bind]
          intro u hu
          obtain ⟨hshifts, hnext⟩ := startResize_shifts u hu
          refine ensures_pure.mpr (hshifts.framed.after (framed_touchGrab ?_))
          rintro _ ⟨⟩
          exact hnext ▸ hs.of_mem hmem
        · exact ensures_ok.mpr (framed_refl s)
  · exact resizePointerRequest_framed hs

theorem popupRootTarget_spec (hs : s.Known) {target : KeyboardFocusTarget}
    (h : s.popupRootTarget W surface = some target) :
    s.knows target ∧ ¬ (FocusTarget.keyboard target).IsLockSurface := by
  rw [popupRootTarget, Option.orElse_eq_some, Option.map_eq_some_iff,
    Option.map_eq_some_iff] at h
  rcases h with ⟨window, hfound, rfl⟩ | ⟨-, entry, -, rfl⟩
  · exact ⟨decide_eq_true (hs.of_mem (List.mem_of_find?_eq_some hfound)), id⟩
  · exact ⟨rfl, id⟩

theorem popupGrab_framed (hs : s.Known) {popup : PopupSurface} :
    Framed NoPlaces
      (W.popupGrabs = true ∧ ((W.popupRoot popup).bind (s.popupRootTarget W)).isSome = true) s
      (s.popupGrab W popup) := by
  rw [popupGrab]
  split
  next hnone =>
    refine (framed_refl s).mono (fun _ _ => id) (iff_of_false id ?_)
    simp [hnone]
  next root hroot =>
    obtain ⟨surface, -, htarget⟩ := Option.bind_eq_some_iff.mp hroot
    obtain ⟨hknows, hlock⟩ := popupRootTarget_spec hs htarget
    have hgiven : s.knows ((W.currentPopup.map .popup).getD root) ∧
        ¬ (FocusTarget.keyboard ((W.currentPopup.map .popup).getD root)).IsLockSurface := by
      cases W.currentPopup with
      | none => exact ⟨hknows, hlock⟩
      | some popup => exact ⟨rfl, id⟩
    split
    next hgrabs =>
      refine (framed_setFocus hgiven.1).mono (fun _ _ => id) ?_
      exact iff_of_true hgiven.2 ⟨hgrabs, by rw [hroot]; rfl⟩
    next hgrabs =>
      exact (framed_refl s).mono (fun _ _ => id) (iff_of_false id fun h => hgrabs h.1)

/-- A token is young enough, and the surface is that of a window in the space it
remembers. -/
def Activates (W : World) (s : State) (surface : WlSurface) (age : Nat) : Prop :=
  age < 10 ∧ ∃ name ∈ s.spaces.keys, s.surfaceSpace surface = some name ∧
    ∃ window ∈ (s.spaces.value name).windows, W.surfaceOf window = some surface

theorem requestActivation_framed (hs : s.Known) {age : Nat} :
    Ensures (Framed NoPlaces (Activates W s surface age) s)
      (s.requestActivation W surface age) := by
  rw [requestActivation]
  split
  next hage =>
    rw [ensures_expect_bind]
    intro name hactive
    rw [ensures_expect_bind]
    intro space hspace
    obtain ⟨hname, rfl⟩ := Registry.get?_eq_some_iff.mp hspace
    split
    next window hfound =>
      have hmem := List.mem_of_find?_eq_some hfound
      have howner := List.find?_some hfound
      rw [ensures_pure]
      refine (focusWindow_framed hname (hs.of_mem hmem)).mono (fun _ _ => id) ?_
      exact iff_of_true trivial
        ⟨hage, name, hname, hactive, window, hmem, of_decide_eq_true howner⟩
    next hnone =>
      rw [ensures_pure]
      refine (framed_refl s).mono (fun _ _ => id) (iff_of_false id ?_)
      rintro ⟨-, name', -, hactive', window, hmem, howner⟩
      cases hactive.symm.trans hactive'
      exact List.find?_eq_none.mp hnone window hmem (decide_eq_true howner)
  next hage =>
    exact ensures_ok.mpr ((framed_refl s).mono (fun _ _ => id)
      (iff_of_false id fun h => hage h.1))

/-! ## Requests of X11 clients -/

variable {x11 : X11Surface} {location : Point}

theorem mapWindowRequest_framed :
    Ensures (Framed (Fresh s) (W.overrideRedirect x11 = false ∧ W.mapsX11 x11 = true) s)
      (s.mapWindowRequest W x11) := by
  rw [mapWindowRequest]
  split
  next hoverride =>
    refine ensures_ok.mpr ((framed_refl s).mono (fun _ _ => False.elim) (iff_of_false id ?_))
    simp [hoverride]
  next hoverride =>
    split
    next hmaps =>
      rw [ensures_bind]
      intro u hu
      obtain ⟨hplaced, hnext⟩ := placeFresh_framed u hu
      rw [ensures_expect_bind]
      intro _ _
      rw [ensures_expect_bind]
      intro _ _
      rw [ensures_pure]
      refine (hplaced.trans (framed_setFocus_window hnext)).mono
        (fun _ _ hor => hor.resolve_right id) ?_
      exact iff_of_true (.inr trivial) ⟨Bool.eq_false_of_not_eq_true hoverride, hmaps⟩
    next hmaps =>
      exact ensures_ok.mpr ((framed_refl s).mono (fun _ _ => False.elim)
        (iff_of_false id fun h => hmaps h.2))

theorem mappedOverrideRedirectWindow_framed :
    Framed (Fresh s) False s (s.mappedOverrideRedirectWindow W x11) := by
  have hmap : Framed (fun n w => n = s.spaces.firstKey ∧ w = (s.freshWindow (.x11 x11)).1) False
      (s.freshWindow (.x11 x11)).2 (s.mappedOverrideRedirectWindow W x11) :=
    framed_mapElement (Nat.lt_succ_self _)
  refine (framed_freshWindow.after hmap).mono (fun n w hplaced => ?_) Iff.rfl
  exact ⟨hplaced.1, hplaced.2 ▸ rfl⟩

theorem unmappedWindow_framed (hs : s.Known) :
    Ensures (Framed NoPlaces (LeavesOthers s (s.windowAndSpaceForX11 W x11)) s)
      (s.unmappedWindow W x11) := by
  rw [unmappedWindow, LeavesOthers]
  split
  next hfound =>
    refine ensures_ok.mpr ((framed_refl s).mono (fun _ _ => id) (iff_of_false id ?_))
    simp [hfound]
  next window name hfound =>
    obtain ⟨rfl, -⟩ := windowAndSpaceForX11_eq_some hfound
    rw [ensures_expect_bind]
    intro _ _
    rw [ensures_pure]
    refine (unmapTop_framed hs s.spaces.firstKey_mem).mono (fun _ _ => id) ?_
    simp [hfound]

theorem configureNotify_shifts : Ensures (Shifts s) (s.configureNotify W x11 location) := by
  rw [configureNotify]
  split
  · exact ensures_ok.mpr (shifts_refl s)
  next window name hfound =>
    obtain ⟨rfl, hmem⟩ := windowAndSpaceForX11_eq_some hfound
    rw [ensures_expect_bind]
    intro _ _
    exact ensures_pure.mpr (.moved rfl rfl hmem)

theorem maximizeRequestX11_shifts : Ensures (Shifts s) (s.maximizeRequestX11 W x11) := by
  rw [maximizeRequestX11]
  split
  · exact ensures_ok.mpr (shifts_refl s)
  next window name hfound =>
    obtain ⟨rfl, hmem⟩ := windowAndSpaceForX11_eq_some hfound
    rw [ensures_expect_bind]
    intro _ _
    rw [ensures_expect_bind]
    intro oldGeo _
    rw [ensures_expect_bind]
    intro _ _
    rw [ensures_expect_bind]
    intro _ _
    let saved : State := { s with oldGeometry := Function.update s.oldGeometry x11 (some oldGeo) }
    have hmoved : ∀ location, Shifts s (saved.modifySpace s.spaces.firstKey fun space =>
        space.mapElement W.zIndex window location) := fun _ => .moved rfl rfl hmem
    exact ensures_pure.mpr (hmoved _)

theorem unmaximizeRequestX11_shifts : Ensures (Shifts s) (s.unmaximizeRequestX11 W x11) := by
  rw [unmaximizeRequestX11]
  split
  · exact ensures_ok.mpr (shifts_refl s)
  next window name hfound =>
    obtain ⟨rfl, hmem⟩ := windowAndSpaceForX11_eq_some hfound
    rw [ensures_expect_bind]
    intro _ _
    split
    next oldGeo restored hrestored =>
      obtain rfl : (s.restoreGeometry x11).2 = restored := congrArg Prod.snd hrestored
      exact ensures_pure.mpr (.moved rfl rfl hmem)
    next restored hrestored =>
      obtain rfl : (s.restoreGeometry x11).2 = restored := congrArg Prod.snd hrestored
      exact ensures_pure.mpr (.kept rfl rfl)

theorem fullscreenRequestX11_shifts : Ensures (Shifts s) (s.fullscreenRequestX11 W x11) := by
  rw [fullscreenRequestX11]
  split
  · exact ensures_ok.mpr (shifts_refl s)
  · rw [ensures_expect_bind]
    intro _ _
    rw [ensures_expect_bind]
    intro _ _
    rw [ensures_expect_bind]
    intro _ _
    exact ensures_pure.mpr (shifts_refl s)

theorem unfullscreenRequestX11_shifts :
    Ensures (Shifts s) (s.unfullscreenRequestX11 W x11) := by
  rw [unfullscreenRequestX11]
  split
  · exact ensures_ok.mpr (shifts_refl s)
  next window name hfound =>
    obtain ⟨rfl, hmem⟩ := windowAndSpaceForX11_eq_some hfound
    exact placeWindow_shifts hmem

theorem resizeRequestX11_framed (hs : s.Known) :
    Ensures (Framed NoPlaces False s) (s.resizeRequestX11 W x11 left top) := by
  rw [resizeRequestX11, ensures_expect_bind]
  intro startData _
  split
  · exact ensures_pure.mpr (framed_refl s)
  · split
    · exact ensures_pure.mpr (framed_refl s)
    next window name hfound =>
      obtain ⟨rfl, hmem⟩ := windowAndSpaceForSurface_eq_some hfound
      rw [ensures_bind]
      intro u hu
      obtain ⟨hshifts, hnext⟩ := startResize_shifts u hu
      refine ensures_pure.mpr (hshifts.framed.after (framed_pointerGrab ?_))
      rintro _ ⟨⟩
      exact hnext ▸ hs.of_mem hmem

theorem moveRequestX11_framed (hs : s.Known) :
    Ensures (Framed NoPlaces False s) (s.moveRequestX11 W x11) := by
  rw [moveRequestX11]
  split
  · exact ensures_ok.mpr (framed_refl s)
  · split
    · exact ensures_ok.mpr (framed_refl s)
    next window name hfound =>
      obtain ⟨rfl, hmem⟩ := windowAndSpaceForX11_eq_some hfound
      rw [ensures_expect_bind]
      intro _ _
      rw [ensures_expect_bind]
      intro _ _
      split
      · have hrestored : Shifts s (s.restoreGeometry x11).2 := .kept rfl rfl
        refine ensures_pure.mpr (hrestored.framed.after (framed_pointerGrab ?_))
        rintro _ ⟨⟩
        exact hs.of_mem hmem
      · refine ensures_pure.mpr (framed_pointerGrab ?_)
        rintro _ ⟨⟩
        exact hs.of_mem hmem

end State

end Scape.Display
