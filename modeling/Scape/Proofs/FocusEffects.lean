import Scape.Proofs.StepEffects

/-!
# What a step does to the windows that are mapped, and to the focus

Few steps take a window out of a space. All others retain what is mapped, and the focus
they leave is the one there was, or a window that is mapped by then: a window is placed
before it gets the focus, and what is focused otherwise has been found in a space.

`Retains` says so of two states, and composes. This file has it for every event but those
that take a window out, and the one by which the focus moves by itself.
-/

namespace Scape.Display.State

open Scape Fallible

/-- A window is in some space. -/
def Mapped (s : State) (window : WorkspaceWindow) : Prop :=
  ∃ name ∈ s.spaces.keys, (s.spaces.value name).Holds window

instance (s : State) (window : WorkspaceWindow) : Decidable (s.Mapped window) :=
  inferInstanceAs (Decidable (∃ name ∈ s.spaces.keys, (s.spaces.value name).Holds window))

structure Retains (s t : State) : Prop where
  mapped : ∀ window, s.Mapped window → t.Mapped window
  focus : ∀ window, t.keyboardFocus = some (.window window) →
    s.keyboardFocus = some (.window window) ∨ t.Mapped window

variable {s t u : State} {W : World} {name : String} {window : WorkspaceWindow}
  {location : Point}

theorem Retains.trans (h : Retains s t) (h' : Retains t u) : Retains s u where
  mapped window hs := h'.mapped window (h.mapped window hs)
  focus window hu := by
    rcases h'.focus window hu with ht | hmapped
    · exact (h.focus window ht).imp_right (h'.mapped window)
    · exact .inr hmapped

theorem retains_of_same (hspaces : t.spaces = s.spaces)
    (hfocus : t.keyboardFocus = s.keyboardFocus) : Retains s t where
  mapped window hs := by
    rw [Mapped, hspaces]
    exact hs
  focus _ ht := .inl (hfocus.symm.trans ht)

theorem retains_refl (s : State) : Retains s s := retains_of_same rfl rfl

theorem mapped_of_first (h : window ∈ s.spaces.first.windows) : s.Mapped window :=
  ⟨s.spaces.firstKey, s.spaces.firstKey_mem, h⟩

/-! ## Updates -/

theorem retains_modifySpace {f : Space → Space}
    (h : ∀ window, (s.spaces.value name).Holds window → (f (s.spaces.value name)).Holds window) :
    Retains s (s.modifySpace name f) where
  mapped := by
    rintro window ⟨name', hkey, hholds⟩
    refine ⟨name', hkey, ?_⟩
    rw [modifySpace, Registry.modify_value, Function.update_apply]
    split
    next he =>
      subst he
      exact h window hholds
    next => exact hholds
  focus _ := .inl

theorem retains_mapElement {zIndex : WorkspaceWindow → Nat} :
    Retains s (s.modifySpace name fun space => space.mapElement zIndex window location) :=
  retains_modifySpace fun _ hholds => Space.mem_windows_mapElement.mpr (.inl hholds)

theorem retains_raiseElement :
    Retains s (s.modifySpace name fun space => space.raiseElement W.zIndex window) :=
  retains_modifySpace fun _ hholds => Space.mem_windows_raiseElement.mpr hholds

theorem Shifts.retains (h : Shifts s t) : Retains s t := by
  have hkept : ∀ {t : State}, t.fixed = s.fixed → t.references = s.references → Retains s t :=
    fun hfixed hrefs =>
      retains_of_same (congrArg Prod.fst hfixed) (congrArg (fun refs => refs.2.1) hrefs)
  cases h with
  | kept hfixed hrefs => exact hkept hfixed hrefs
  | moved hfixed hrefs => exact (hkept hfixed hrefs).trans retains_mapElement

theorem retains_of_shifts {x : Except Panic State} (h : Ensures (Shifts s) x) :
    Ensures (Retains s) x :=
  h.mono fun _ => Shifts.retains

theorem retains_setFocus {target : KeyboardFocusTarget}
    (h : ∀ window, target = .window window → s.Mapped window) : Retains s (s.setFocus target) where
  mapped _ := id
  focus window ht := .inr (h window (Option.some.inj ht))

theorem retains_setFocus_window (h : s.Mapped window) : Retains s (s.setFocus (.window window)) :=
  retains_setFocus fun _ he => KeyboardFocusTarget.window.inj he ▸ h

theorem retains_setFocus_layer {layer : LayerSurface} :
    Retains s (s.setFocus (.layerSurface layer)) :=
  retains_setFocus fun _ he => by cases he

theorem placeWindow_retains {zone : Option String} :
    Ensures (fun t => Retains s t ∧ t.Mapped window) (s.placeWindow W name window zone) := by
  rw [placeWindow, ensures_expect_bind]
  intro space hspace
  rw [ensures_bind]
  intro rect _
  refine ensures_pure.mpr ⟨retains_mapElement, name, (Registry.get?_eq_some_iff.mp hspace).1, ?_⟩
  rw [modifySpace, Registry.modify_value, Function.update_self]
  exact Space.mem_windows_mapElement.mpr (.inr rfl)

theorem placeWindow_retained {zone : Option String} :
    Ensures (Retains s) (s.placeWindow W name window zone) :=
  placeWindow_retains.mono fun _ ht => ht.1

theorem focusWindow_retains (h : s.Mapped window) : Retains s (s.focusWindow W window name) := by
  rw [focusWindow]
  split
  · exact retains_refl s
  · exact retains_raiseElement.trans (retains_setFocus_window (retains_raiseElement.mapped _ h))

theorem focusWindowByAppId_retains {appId : String} :
    Retains s (s.focusWindowByAppId W appId).1 := by
  obtain ⟨window, hmem, -, heq⟩ | ⟨-, heq⟩ := focusWindowByAppId_eq s W appId
  · rw [heq]
    exact focusWindow_retains (mapped_of_first (List.mem_filter.mp hmem).1)
  · rw [heq]
    exact retains_refl s

/-! ## Requests of Wayland clients -/

variable {surface : WlSurface} {left top : Bool}

theorem commit_retains : Ensures (Retains s) (s.commit W surface) := by
  rw [commit, ensures_bind]
  intro u hu
  rw [ensures_expect_bind]
  intro _ _
  rw [ensures_expect_bind]
  intro _ _
  exact ensures_pure.mpr ((commitOffset_shifts u hu).retains.trans
    (ensureSurfaceData_shifts.retains.trans handleToplevelCommit_shifts.retains))

/-- A window that has just been made is placed, and then it gets the focus. -/
theorem placeFresh_retains {kind : WindowKind} :
    Ensures (fun t => Retains s t ∧ t.Mapped (s.freshWindow kind).1)
      ((s.freshWindow kind).2.placeWindow W name (s.freshWindow kind).1 none) := by
  refine placeWindow_retains.mono fun t ht => ⟨?_, ht.2⟩
  have hfresh : Retains s (s.freshWindow kind).2 := retains_of_same rfl rfl
  exact hfresh.trans ht.1

theorem newToplevel_retains : Ensures (Retains s) (s.newToplevel W surface) := by
  rw [newToplevel, ensures_bind]
  intro u hu
  obtain ⟨hplaced, hmapped⟩ := placeFresh_retains u hu
  exact ensures_pure.mpr (hplaced.trans (retains_setFocus_window hmapped))

theorem movePointerRequest_retains : Ensures (Retains s) (s.movePointerRequest W surface) := by
  rw [movePointerRequest]
  split
  · exact ensures_ok.mpr (retains_refl s)
  · rw [ensures_expect_bind]
    intro _ _
    dsimp only
    split
    · rw [ensures_bind]
      intro grab _
      exact ensures_pure.mpr (retains_of_same rfl rfl)
    · exact ensures_pure.mpr (retains_refl s)

theorem moveRequestXdg_retains : Ensures (Retains s) (s.moveRequestXdg W surface) := by
  rw [moveRequestXdg]
  split
  · split
    · exact movePointerRequest_retains
    · split
      · exact ensures_ok.mpr (retains_refl s)
      · split
        · rw [ensures_bind]
          intro grab _
          exact ensures_pure.mpr (retains_of_same rfl rfl)
        · exact ensures_ok.mpr (retains_refl s)
  · exact movePointerRequest_retains

theorem resizePointerRequest_retains :
    Ensures (Retains s) (s.resizePointerRequest W surface left top) := by
  rw [resizePointerRequest]
  split
  · exact ensures_ok.mpr (retains_refl s)
  · split
    · exact ensures_ok.mpr (retains_refl s)
    · split
      · rw [ensures_bind]
        intro u hu
        have hresized := (startResize_shifts u hu).1.retains
        exact ensures_pure.mpr (hresized.trans (retains_of_same rfl rfl))
      · exact ensures_ok.mpr (retains_refl s)

theorem resizeRequest_retains :
    Ensures (Retains s) (s.resizeRequest W surface left top) := by
  rw [resizeRequest]
  split
  · split
    · exact resizePointerRequest_retains
    · split
      · exact ensures_ok.mpr (retains_refl s)
      · split
        · rw [ensures_bind]
          intro u hu
          have hresized := (startResize_shifts u hu).1.retains
          exact ensures_pure.mpr (hresized.trans (retains_of_same rfl rfl))
        · exact ensures_ok.mpr (retains_refl s)
  · exact resizePointerRequest_retains

theorem popupGrab_retains {popup : PopupSurface} : Retains s (s.popupGrab W popup) := by
  rw [popupGrab]
  split
  · exact retains_refl s
  next root hroot =>
    split
    · refine retains_setFocus fun window he => ?_
      cases hpopup : W.currentPopup with
      | some popup =>
          rw [hpopup] at he
          cases he
      | none =>
          rw [hpopup] at he
          obtain ⟨surface, -, htarget⟩ := Option.bind_eq_some_iff.mp hroot
          rw [popupRootTarget, Option.orElse_eq_some, Option.map_eq_some_iff,
            Option.map_eq_some_iff] at htarget
          rcases htarget with ⟨found, hfound, rfl⟩ | ⟨-, entry, -, rfl⟩
          · obtain rfl := KeyboardFocusTarget.window.inj he
            exact mapped_of_first (List.mem_of_find?_eq_some hfound)
          · cases he
    · exact retains_refl s

theorem requestActivation_retains {age : Nat} :
    Ensures (Retains s) (s.requestActivation W surface age) := by
  rw [requestActivation]
  split
  · rw [ensures_expect_bind]
    intro name _
    rw [ensures_expect_bind]
    intro space hspace
    obtain ⟨hname, rfl⟩ := Registry.get?_eq_some_iff.mp hspace
    split
    next window hfound =>
      refine ensures_pure.mpr (focusWindow_retains ⟨name, hname, ?_⟩)
      exact List.mem_of_find?_eq_some hfound
    next => exact ensures_pure.mpr (retains_refl s)
  · exact ensures_ok.mpr (retains_refl s)

/-! ## Requests of X11 clients -/

variable {x11 : X11Surface}

theorem mapWindowRequest_retains : Ensures (Retains s) (s.mapWindowRequest W x11) := by
  rw [mapWindowRequest]
  split
  · exact ensures_ok.mpr (retains_refl s)
  · split
    · rw [ensures_bind]
      intro u hu
      obtain ⟨hplaced, hmapped⟩ := placeFresh_retains u hu
      rw [ensures_expect_bind]
      intro _ _
      rw [ensures_expect_bind]
      intro _ _
      exact ensures_pure.mpr (hplaced.trans (retains_setFocus_window hmapped))
    · exact ensures_ok.mpr (retains_refl s)

theorem mappedOverrideRedirectWindow_retains :
    Retains s (s.mappedOverrideRedirectWindow W x11) := by
  have hfresh : Retains s (s.freshWindow (.x11 x11)).2 := retains_of_same rfl rfl
  exact hfresh.trans retains_mapElement

theorem resizeRequestX11_retains :
    Ensures (Retains s) (s.resizeRequestX11 W x11 left top) := by
  rw [resizeRequestX11, ensures_expect_bind]
  intro startData _
  split
  · exact ensures_pure.mpr (retains_refl s)
  · split
    · exact ensures_pure.mpr (retains_refl s)
    · rw [ensures_bind]
      intro u hu
      have hresized := (startResize_shifts u hu).1.retains
      exact ensures_pure.mpr (hresized.trans (retains_of_same rfl rfl))

theorem moveRequestX11_retains : Ensures (Retains s) (s.moveRequestX11 W x11) := by
  rw [moveRequestX11]
  split
  · exact ensures_ok.mpr (retains_refl s)
  · split
    · exact ensures_ok.mpr (retains_refl s)
    · rw [ensures_expect_bind]
      intro _ _
      rw [ensures_expect_bind]
      intro _ _
      split
      · exact ensures_pure.mpr (retains_of_same rfl rfl)
      · exact ensures_pure.mpr (retains_of_same rfl rfl)

/-! ## Input -/

theorem keyboardKey_retains : Retains s (s.keyboardKey W) := by
  rw [keyboardKey]
  split
  · exact retains_setFocus_layer
  · exact retains_refl s

theorem focusElement_retains (h : window ∈ s.spaces.first.windows) :
    Retains s (s.focusElement W window) := by
  have hraised : Retains s
      (s.modifySpace s.spaces.firstKey fun space => space.raiseElement W.zIndex window) :=
    retains_raiseElement
  have hfocused := hraised.trans
    (retains_setFocus_window (hraised.mapped window (mapped_of_first h)))
  unfold focusElement
  dsimp only
  split
  · exact hfocused
  · split
    · exact retains_refl s
    · split
      · exact hfocused
      · exact hraised

theorem updateKeyboardFocus_retains :
    Ensures (Retains s) (s.updateKeyboardFocus W location) := by
  rw [updateKeyboardFocus]
  split
  · exact ensures_ok.mpr (retains_refl s)
  rw [ensures_bind]
  intro above _
  split
  · exact ensures_pure.mpr retains_setFocus_layer
  split
  next window hunder =>
    exact ensures_pure.mpr (focusElement_retains (W.elementUnder_mem _ _ _ hunder))
  rw [ensures_bind]
  intro below _
  split
  · exact ensures_pure.mpr retains_setFocus_layer
  · exact ensures_pure.mpr (retains_refl s)

theorem grabMotion_retains {grab : SurfaceGrab} :
    Ensures (Retains s) (s.grabMotion W grab location) := by
  rw [grabMotion]
  cases grab.kind with
  | move initial =>
      dsimp only
      rw [ensures_expect_bind]
      intro _ _
      exact ensures_pure.mpr retains_mapElement
  | resize => exact ensures_ok.mpr (retains_refl s)

theorem handleMotion_retains : Ensures (Retains s) (s.handleMotion W) := by
  rw [handleMotion]
  cases W.pointerGrab with
  | nobody => exact ensures_ok.mpr (retains_of_same rfl rfl)
  | smithay passes =>
      refine ensures_ok.mpr ?_
      cases passes with
      | false => exact retains_refl s
      | true => exact retains_of_same rfl rfl
  | compositor =>
      cases s.pointerGrab with
      | none => exact ensures_ok.mpr (retains_refl s)
      | some grab =>
          dsimp only
          split
          · exact ensures_ok.mpr (retains_of_same rfl rfl)
          split
          · exact ensures_error
          · exact grabMotion_retains

theorem pointerMotion_retains {under : Option PointerFocusTarget} :
    Ensures (Retains s) (s.pointerMotion W under location) := by
  have hmotion : Retains s { s with pointerLocation := location, pendingFocus := under } :=
    retains_of_same rfl rfl
  exact handleMotion_retains.mono fun t ht => hmotion.trans ht

theorem onPointerMove_retains : Ensures (Retains s) (s.onPointerMove W location) := by
  unfold onPointerMove
  dsimp only
  split
  · exact ensures_ok.mpr (retains_of_same rfl rfl)
  · exact pointerMotion_retains

theorem onPointerMoveAbsolute_retains :
    Ensures (Retains s) (s.onPointerMoveAbsolute W location) := by
  rw [onPointerMoveAbsolute, ensures_expect_bind]
  intro _ _
  exact pointerMotion_retains

theorem onPointerMoveAbsoluteWindowed_retains {outputName : String} :
    Ensures (Retains s) (s.onPointerMoveAbsoluteWindowed W outputName location) := by
  rw [onPointerMoveAbsoluteWindowed, ensures_expect_bind]
  intro _ _
  rw [ensures_expect_bind]
  intro _ _
  exact pointerMotion_retains

theorem onTabletTool_retains : Ensures (Retains s) (s.onTabletTool W location) := by
  rw [onTabletTool]
  split
  · exact ensures_ok.mpr (retains_refl s)
  · exact pointerMotion_retains

theorem onPointerButton_retains {pressed : Bool} :
    Ensures (Retains s) (s.onPointerButton W pressed) := by
  rw [onPointerButton, ensures_bind]
  intro u hu
  have hpress : Retains s u := by
    split at hu
    · exact updateKeyboardFocus_retains u hu
    · cases hu
      exact retains_refl s
  rw [ensures_pure]
  split
  · exact hpress.trans (retains_of_same rfl rfl)
  · exact hpress

theorem onTouchDown_retains : Ensures (Retains s) (s.onTouchDown W location) := by
  rw [onTouchDown]
  split
  · exact updateKeyboardFocus_retains
  · exact ensures_ok.mpr (retains_refl s)

theorem onTouchMotion_retains {slot : Nat} :
    Ensures (Retains s) (s.onTouchMotion W slot location) := by
  rw [onTouchMotion]
  split
  · split
    · exact grabMotion_retains
    · exact ensures_ok.mpr (retains_refl s)
  · exact ensures_ok.mpr (retains_refl s)

theorem onTouchUp_retains {slot : Nat} : Retains s (s.onTouchUp W slot) := by
  rw [onTouchUp]
  split
  · exact retains_of_same rfl rfl
  · exact retains_refl s

theorem onTouchCancel_retains : Retains s (s.onTouchCancel W) := by
  rw [onTouchCancel]
  split
  · exact retains_of_same rfl rfl
  · exact retains_refl s

/-! ## The session lock and layer surfaces -/

theorem lock_retains : Retains s (s.lock W) := by
  rw [lock]
  split
  · exact retains_refl s
  · exact retains_of_same rfl rfl

theorem unlock_retains : Retains s s.unlock := by
  have hunlocked : Retains s { s with sessionLock := none } := retains_of_same rfl rfl
  rw [unlock]
  dsimp only
  split
  next window htop =>
    refine hunlocked.trans (retains_setFocus_window (mapped_of_first ?_))
    exact List.mem_of_getLast? htop
  next => exact hunlocked

theorem newLockSurface_retains {surface : LockSurface} {wlOutput : WlOutput} :
    Retains s (s.newLockSurface W surface wlOutput) := by
  rw [newLockSurface]
  split
  next =>
    have hlocked : ∀ sessionLock, Retains s { s with sessionLock } :=
      fun _ => retains_of_same rfl rfl
    exact (hlocked _).trans (retains_setFocus fun _ he => by cases he)
  next => exact retains_refl s

theorem newLayerSurface_retains {surface : LayerSurface} {wlOutput : Option WlOutput} :
    Ensures (Retains s) (s.newLayerSurface W surface wlOutput) := by
  rw [newLayerSurface]
  dsimp only
  rw [ensures_expect_bind]
  intro _ _
  exact ensures_pure.mpr (retains_of_same rfl rfl)

/-! ## Messages and actions -/

theorem setZones_retains {zones : List Zone} : Retains s (s.setZones zones) := by
  rw [setZones]
  refine List.foldlRecOn zones setZone ?_ fun u hu zone _ => ?_
  · exact retains_of_same rfl rfl
  · exact hu.trans (retains_of_same rfl rfl)

/-- A debug window that is shown, not taken away. -/
theorem toggleDebugUi_retains (h : s.debugUi = none) :
    Ensures (Retains s) (s.toggleDebugUi W) := by
  rw [toggleDebugUi, h]
  have hmade : Retains s
      { (s.freshWindow .egui).2 with debugUi := some (s.freshWindow .egui).1 } :=
    retains_of_same rfl rfl
  exact placeWindow_retained.mono fun t ht => hmade.trans ht

theorem moveCurrentWindow_retains {zoneName : String} :
    Ensures (Retains s) (s.moveCurrentWindow W zoneName) := by
  rw [moveCurrentWindow]
  split
  · exact placeWindow_retained
  · exact ensures_ok.mpr (retains_refl s)

theorem tab_retains {index : Nat} : Retains s (s.tab W index) := by
  rw [tab]
  split
  next window hfound =>
    refine focusWindow_retains (mapped_of_first ?_)
    exact List.mem_reverse.mp (List.mem_of_getElem? hfound)
  next => exact retains_refl s

/-! ## Layouts -/

theorem LayoutUpdate.retains (h : LayoutUpdate s t) : Retains s t := by
  cases h with
  | outputs name f hf =>
      refine retains_modifySpace fun window hholds => ?_
      rw [Space.Holds, Space.windows, hf]
      exact hholds
  | ensure name =>
      refine ⟨fun window hmapped => ?_, fun _ => .inl⟩
      obtain ⟨name', hkey, hholds⟩ := hmapped
      refine ⟨name', Registry.mem_ensure.mpr (.inr hkey), ?_⟩
      rw [Registry.ensure_value hkey]
      exact hholds
  | reorder keys h =>
      refine ⟨fun window hmapped => ?_, fun _ => .inl⟩
      obtain ⟨name', hkey, hholds⟩ := hmapped
      exact ⟨name', h.mem_iff.mpr hkey, hholds⟩
  | activeSpace => exact retains_of_same rfl rfl

theorem setLayout_retains {layout : HashMap String (List Output)} :
    Retains s (s.setLayout W layout) :=
  setLayout_of_updates retains_refl (fun _ _ _ => Retains.trans) fun _ _ => LayoutUpdate.retains

/-! ## Steps -/

/-- The events by which a window may leave the spaces, and the one by which the focus
moves by itself. -/
def MayTake : Event → Prop
  | .xdg (.toplevelDestroyed _) | .x11 (.unmapped _) | .message .closeCurrentWindow
  | .message .toggleDebugUi | .action .close | .refresh | .focusMoved _ => True
  | _ => False

variable {e : Event}

theorem processInputEvent_retains (i : InputEvent) :
    Ensures (Retains s) (s.processInputEvent W i) := by
  cases i with
  | key => exact ensures_ok.mpr keyboardKey_retains
  | pointerMotion => exact onPointerMove_retains
  | pointerMotionAbsolute => exact onPointerMoveAbsolute_retains
  | pointerMotionAbsoluteWindowed => exact onPointerMoveAbsoluteWindowed_retains
  | pointerButton => exact onPointerButton_retains
  | tabletTool => exact onTabletTool_retains
  | tabletToolTip => exact updateKeyboardFocus_retains
  | touchDown => exact onTouchDown_retains
  | touchMotion => exact onTouchMotion_retains
  | touchUp => exact ensures_ok.mpr onTouchUp_retains
  | touchCancel => exact ensures_ok.mpr onTouchCancel_retains

theorem handleXdg_retains {i : XdgEvent} (he : ¬ MayTake (.xdg i)) :
    Ensures (Retains s) (s.handleXdg W i) := by
  cases i with
  | newToplevel => exact newToplevel_retains
  | toplevelDestroyed => exact absurd trivial he
  | appIdChanged => exact retains_of_shifts appIdChanged_shifts
  | maximize => exact retains_of_shifts maximizeRequest_shifts
  | unmaximize => exact ensures_ok.mpr (retains_refl s)
  | fullscreen => exact retains_of_shifts fullscreenRequest_shifts
  | unfullscreen => exact retains_of_shifts unfullscreenRequest_shifts
  | move => exact moveRequestXdg_retains
  | resize => exact resizeRequest_retains
  | grab => exact ensures_ok.mpr popupGrab_retains
  | requestActivation => exact requestActivation_retains

theorem handleX11_retains {i : X11Event} (he : ¬ MayTake (.x11 i)) :
    Ensures (Retains s) (s.handleX11 W i) := by
  cases i with
  | mapWindow => exact mapWindowRequest_retains
  | mappedOverrideRedirect => exact ensures_ok.mpr mappedOverrideRedirectWindow_retains
  | unmapped => exact absurd trivial he
  | configureNotify => exact retains_of_shifts configureNotify_shifts
  | maximize => exact retains_of_shifts maximizeRequestX11_shifts
  | unmaximize => exact retains_of_shifts unmaximizeRequestX11_shifts
  | fullscreen => exact retains_of_shifts fullscreenRequestX11_shifts
  | unfullscreen => exact retains_of_shifts unfullscreenRequestX11_shifts
  | move => exact moveRequestX11_retains
  | resize => exact resizeRequestX11_retains

theorem handleDisplayMessage_retains {m : DisplayMessage} (he : ¬ MayTake (.message m)) :
    Ensures (Retains s) (s.handleDisplayMessage W m) := by
  cases m with
  | setZones => exact ensures_ok.mpr setZones_retains
  | moveCurrentWindowToZone => exact moveCurrentWindow_retains
  | focusOrSpawn => exact ensures_ok.mpr focusWindowByAppId_retains
  | closeCurrentWindow => exact absurd trivial he
  | toggleDebugUi => exact absurd trivial he
  | setLayout => exact ensures_ok.mpr setLayout_retains
  | addWindowRule => exact ensures_ok.mpr (retains_of_same rfl rfl)
  | _ => exact ensures_ok.mpr (retains_refl s)

theorem execute_retains {a : Action} (he : ¬ MayTake (.action a)) :
    Ensures (Retains s) (s.execute W a) := by
  cases hlocked : s.locked with
  | true =>
      rw [execute_locked hlocked]
      exact ensures_ok.mpr (retains_refl s)
  | false =>
      unfold execute
      simp only [hlocked, Bool.false_and, Bool.false_eq_true, if_false]
      cases a with
      | changeScale => exact ensures_error
      | setScale => exact ensures_error
      | rotateOutput => exact ensures_error
      | moveWindow => exact moveCurrentWindow_retains
      | close => exact absurd trivial he
      | tab => exact ensures_ok.mpr tab_retains
      | focusOrSpawn => exact ensures_ok.mpr focusWindowByAppId_retains
      | _ => exact ensures_ok.mpr (retains_refl s)

theorem step_retains (he : ¬ MayTake e) : Ensures (Retains s) (s.step W e) := by
  cases e with
  | input i => exact processInputEvent_retains i
  | surface i =>
      cases i with
      | newSurface => exact ensures_ok.mpr newSurface_shifts.retains
      | commit => exact commit_retains
  | xdg i => exact handleXdg_retains he
  | x11 i => exact handleX11_retains he
  | lock i =>
      cases i with
      | lock => exact ensures_ok.mpr lock_retains
      | unlock => exact ensures_ok.mpr unlock_retains
      | newSurface => exact ensures_ok.mpr newLockSurface_retains
  | layer i =>
      cases i with
      | newLayerSurface => exact newLayerSurface_retains
      | layerDestroyed => exact ensures_ok.mpr (retains_of_same rfl rfl)
  | message m => exact handleDisplayMessage_retains he
  | action a => exact execute_retains he
  | connectorConnected => exact ensures_ok.mpr (retains_of_same rfl rfl)
  | connectorDisconnected => exact ensures_ok.mpr (retains_of_same rfl rfl)
  | focusMoved => exact absurd trivial he
  | refresh => exact absurd trivial he

end Scape.Display.State
