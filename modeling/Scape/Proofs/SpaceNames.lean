import Scape.Proofs.StepEffects

/-!
# The names of spaces that the state remembers

A surface is recorded to be in a space, and so is the window that a grab of the pointer
moves. The record is the name of the space, which is looked up much later.

The only name that is ever recorded is that of the first space, and no space is ever
removed. So in every state that is reached each recorded name is that of a space.

Going through the handlers for this shows as well that none of them touches the session
lock, but for those that are there for it.
-/

namespace Scape.Display

open Scape Fallible

namespace State

variable {s t u : State} {W : World} {e : Event} {window : WorkspaceWindow} {name : String}
  {zone : Option String} {surface : WlSurface} {x11 : X11Surface} {left top : Bool}
  {point location : Point}

/-! ## The spaces that are remembered -/

/-- A surface is in a space of this name, or a grab moves a window of it. -/
def Remembers (s : State) (name : String) : Prop :=
  (∃ surface, s.surfaceSpace surface = some name) ∨
    (∃ grab, s.pointerGrab = some grab ∧ grab.spaceName = some name) ∨
    ∃ grab, s.touchGrab = some grab ∧ grab.spaceName = some name

/-- The only name a step takes down is that of the first space. -/
def Recalls (s t : State) : Prop :=
  ∀ name, t.Remembers name → s.Remembers name ∨ name = s.spaces.firstKey

/-- A step that has nothing to do with the session lock. -/
structure Leaves (s t : State) : Prop where
  recalls : Recalls s t
  sessionLock : t.sessionLock = s.sessionLock

/-- Where names are remembered, and the session lock. -/
def anchors (s : State) := (s.surfaceSpace, s.pointerGrab, s.touchGrab, s.sessionLock)

/-- Nothing is remembered anew. -/
def KeepsAnchors (s t : State) : Prop := t.anchors = s.anchors

theorem KeepsAnchors.trans (h : KeepsAnchors s t) (h' : KeepsAnchors t u) : KeepsAnchors s u :=
  Eq.trans h' h

theorem KeepsAnchors.leaves (h : KeepsAnchors s t) : Leaves s t := by
  simp only [KeepsAnchors, anchors, Prod.mk.injEq] at h
  obtain ⟨hsurface, hpointer, htouch, hlock⟩ := h
  refine ⟨fun name hname => .inl ?_, hlock⟩
  rwa [Remembers, hsurface, hpointer, htouch] at hname

theorem leaves_of_anchors {x : Except Panic State} (h : Ensures (KeepsAnchors s) x) :
    Ensures (Leaves s) x :=
  h.mono fun _ => KeepsAnchors.leaves

theorem Leaves.after (h : KeepsAnchors s t) (hfirst : t.spaces.firstKey = s.spaces.firstKey)
    (h' : Leaves t u) : Leaves s u := by
  refine ⟨fun name hname => ?_, h'.sessionLock.trans h.leaves.sessionLock⟩
  rcases h'.recalls name hname with hold | hnew
  · exact h.leaves.recalls name hold
  · exact .inr (hnew.trans hfirst)

theorem leaves_pointerGrab {grab : SurfaceGrab}
    (h : grab.spaceName = some s.spaces.firstKey) :
    Leaves s { s with pointerGrab := some grab } := by
  refine ⟨?_, rfl⟩
  rintro name (hsurface | ⟨_, ⟨⟩, hname⟩ | htouch)
  · exact .inl (.inl hsurface)
  · exact .inr (Option.some_injective _ (hname.symm.trans h))
  · exact .inl (.inr (.inr htouch))

/-- A grab of a touch point remembers no space. -/
theorem leaves_touchGrab {grab : Option SurfaceGrab}
    (h : ∀ g, grab = some g → g.spaceName = none) : Leaves s { s with touchGrab := grab } := by
  refine ⟨?_, rfl⟩
  rintro name (hsurface | hpointer | ⟨g, hg, hname⟩)
  · exact .inl (.inl hsurface)
  · exact .inl (.inr (.inl hpointer))
  · rw [h g hg] at hname
    cases hname

theorem leaves_touchGrab_none : Leaves s { s with touchGrab := none } :=
  leaves_touchGrab fun _ h => absurd h (Option.some_ne_none _).symm

theorem releasePointer_leaves (h : KeepsAnchors s t) : Leaves s t.releasePointer := by
  refine ⟨?_, h.leaves.sessionLock⟩
  rintro name (hsurface | ⟨_, hgrab, -⟩ | htouch)
  · exact h.leaves.recalls name (.inl hsurface)
  · cases hgrab
  · exact h.leaves.recalls name (.inr (.inr htouch))

theorem newSurface_leaves : Leaves s (s.newSurface surface) := by
  rw [newSurface]
  split
  · exact KeepsAnchors.leaves rfl
  · refine ⟨?_, rfl⟩
    rintro name (⟨other, hother⟩ | hgrab)
    · dsimp only at hother
      by_cases he : other = surface
      · subst he
        rw [Function.update_self, Option.some.injEq] at hother
        exact .inr hother.symm
      · rw [Function.update_of_ne he] at hother
        exact .inl (.inl ⟨other, hother⟩)
    · exact .inl (.inr hgrab)

/-! ## Parts of the handlers -/

theorem placeWindow_anchors : Ensures (KeepsAnchors s) (s.placeWindow W name window zone) := by
  rw [placeWindow]
  simp only [ensures_bind, ensures_pure]
  intros
  rfl

theorem focusWindow_anchors : KeepsAnchors s (s.focusWindow W window name) := by
  rw [focusWindow]
  split <;> rfl

theorem focusTop_anchors : KeepsAnchors s (s.focusTop W name) := by
  rw [focusTop]
  split
  · exact focusWindow_anchors
  · rfl

theorem focusWindowByAppId_anchors {appId : String} :
    KeepsAnchors s (s.focusWindowByAppId W appId).1 := by
  rw [focusWindowByAppId]
  split
  · exact focusWindow_anchors
  · rfl

theorem focusElement_anchors : KeepsAnchors s (s.focusElement W window) := by
  unfold focusElement
  dsimp only
  split
  · rfl
  · split
    · rfl
    · split <;> rfl

theorem updateKeyboardFocus_anchors : Ensures (KeepsAnchors s) (s.updateKeyboardFocus W point) := by
  rw [updateKeyboardFocus]
  split
  · exact ensures_ok.mpr rfl
  rw [ensures_bind]
  intro above _
  split
  · exact ensures_pure.mpr rfl
  split
  · exact ensures_pure.mpr focusElement_anchors
  rw [ensures_bind]
  intro below _
  split <;> exact ensures_pure.mpr rfl

theorem grabMotion_anchors {grab : SurfaceGrab} :
    Ensures (KeepsAnchors s) (s.grabMotion W grab location) := by
  rw [grabMotion]
  split
  · simp only [ensures_expect_bind, ensures_pure]
    intros
    rfl
  · exact ensures_ok.mpr rfl

theorem pointerMotion_leaves {under : Option PointerFocusTarget} :
    Ensures (Leaves s) (s.pointerMotion W under location) := by
  rw [pointerMotion, handleMotion]
  split
  · exact ensures_ok.mpr (KeepsAnchors.leaves rfl)
  · split
    · exact ensures_ok.mpr (KeepsAnchors.leaves rfl)
    · exact ensures_ok.mpr (KeepsAnchors.leaves rfl)
  · split
    · exact ensures_ok.mpr (releasePointer_leaves rfl)
    split
    · exact ensures_error
    · exact leaves_of_anchors (grabMotion_anchors.mono fun _ h => h)
  · exact ensures_ok.mpr (KeepsAnchors.leaves rfl)

/-! ## Requests of clients -/

theorem commit_anchors : Ensures (KeepsAnchors s) (s.commit W surface) := by
  have hoffset : Ensures (KeepsAnchors s) (s.commitOffset W surface) := by
    rw [commitOffset]
    split
    · exact ensures_ok.mpr rfl
    split
    · exact ensures_ok.mpr rfl
    split
    · split
      · exact ensures_ok.mpr rfl
      · split
        · exact ensures_ok.mpr rfl
        · rw [ensures_expect_bind]
          intro _ _
          exact ensures_pure.mpr rfl
    · exact ensures_ok.mpr rfl
  rw [commit, ensures_bind]
  intro u hu
  refine Ensures.mono ?_ fun t ht => (hoffset u hu).trans ht
  simp only [ensures_expect_bind, ensures_pure]
  intro _ _ _ _
  have hdata : KeepsAnchors u (u.ensureSurfaceData surface) := by
    rw [ensureSurfaceData]
    split <;> rfl
  refine hdata.trans ?_
  unfold handleToplevelCommit
  dsimp only
  split
  · rfl
  · split
    · split <;> rfl
    · rfl

/-- A window that has been placed gets the focus. -/
theorem newToplevel_anchors : Ensures (KeepsAnchors s) (s.newToplevel W surface) := by
  rw [newToplevel, ensures_bind]
  intro u hu
  have hplaced : KeepsAnchors (s.freshWindow (.wayland surface)).2 u := placeWindow_anchors u hu
  exact ensures_pure.mpr hplaced

theorem toplevelDestroyed_anchors :
    Ensures (KeepsAnchors s) (s.toplevelDestroyed W surface) := by
  rw [toplevelDestroyed]
  split
  · exact ensures_ok.mpr rfl
  · rw [ensures_expect_bind]
    intro _ _
    exact ensures_pure.mpr focusTop_anchors

theorem appIdChanged_anchors : Ensures (KeepsAnchors s) (s.appIdChanged W surface) := by
  rw [appIdChanged]
  split
  · exact ensures_ok.mpr rfl
  · exact placeWindow_anchors

theorem maximizeRequest_anchors : Ensures (KeepsAnchors s) (s.maximizeRequest W surface) := by
  rw [maximizeRequest]
  split
  · simp only [ensures_expect_bind, ensures_pure]
    intros
    rfl
  · exact ensures_ok.mpr rfl

theorem fullscreenRequest_anchors {wlOutput : Option WlOutput} :
    Ensures (KeepsAnchors s) (s.fullscreenRequest W surface wlOutput) := by
  rw [fullscreenRequest]
  split
  · split
    · exact ensures_ok.mpr rfl
    · split
      · exact ensures_ok.mpr rfl
      · split
        · exact ensures_ok.mpr rfl
        · rw [ensures_expect_bind]
          intro _ _
          exact ensures_pure.mpr rfl
  · exact ensures_ok.mpr rfl

theorem unfullscreenRequest_anchors :
    Ensures (KeepsAnchors s) (s.unfullscreenRequest W surface) := by
  rw [unfullscreenRequest]
  split
  · split
    · exact ensures_ok.mpr rfl
    · rw [ensures_expect_bind]
      intro _ _
      exact ensures_pure.mpr rfl
  · exact ensures_ok.mpr rfl

theorem startMove_spaceName {startData : GrabStartData} {grabSpace : Option String} :
    Ensures (fun grab => grab.spaceName = grabSpace)
      (s.startMove W surface window name startData point grabSpace) := by
  rw [startMove, ensures_expect_bind]
  intro _ _
  rw [ensures_expect_bind]
  intro _ _
  exact ensures_pure.mpr rfl

theorem movePointerRequest_leaves :
    Ensures (Leaves s) (s.movePointerRequest W surface) := by
  rw [movePointerRequest]
  split
  · exact ensures_ok.mpr (KeepsAnchors.leaves rfl)
  · rw [ensures_expect_bind]
    rintro ⟨window, name⟩ hfound
    obtain ⟨rfl, -⟩ := windowAndSpaceForSurface_eq_some hfound
    dsimp only
    split
    · rw [ensures_bind]
      intro grab hgrab
      exact ensures_pure.mpr (leaves_pointerGrab (startMove_spaceName grab hgrab))
    · exact ensures_pure.mpr (KeepsAnchors.leaves rfl)

theorem moveRequestXdg_leaves : Ensures (Leaves s) (s.moveRequestXdg W surface) := by
  rw [moveRequestXdg]
  split
  · split
    · exact movePointerRequest_leaves
    · split
      · exact ensures_ok.mpr (KeepsAnchors.leaves rfl)
      · split
        · rw [ensures_bind]
          intro grab hgrab
          refine ensures_pure.mpr (leaves_touchGrab ?_)
          rintro _ ⟨⟩
          exact startMove_spaceName grab hgrab
        · exact ensures_ok.mpr (KeepsAnchors.leaves rfl)
  · exact movePointerRequest_leaves

theorem startResize_anchors :
    Ensures (fun t => KeepsAnchors s t ∧ t.spaces = s.spaces)
      (s.startResize W surface window name left top) := by
  rw [startResize, ensures_expect_bind]
  intro _ _
  rw [ensures_expect_bind]
  intro _ _
  rw [ensures_expect_bind]
  intro _ _
  exact ensures_pure.mpr ⟨rfl, rfl⟩

theorem resizePointerRequest_leaves :
    Ensures (Leaves s) (s.resizePointerRequest W surface left top) := by
  rw [resizePointerRequest]
  split
  · exact ensures_ok.mpr (KeepsAnchors.leaves rfl)
  · split
    · exact ensures_ok.mpr (KeepsAnchors.leaves rfl)
    next window name hfound =>
      obtain ⟨rfl, -⟩ := windowAndSpaceForSurface_eq_some hfound
      split
      · rw [ensures_bind]
        intro u hu
        obtain ⟨hkept, hspaces⟩ := startResize_anchors u hu
        refine ensures_pure.mpr (.after hkept (by rw [hspaces]) (leaves_pointerGrab ?_))
        rw [hspaces]
      · exact ensures_ok.mpr (KeepsAnchors.leaves rfl)

theorem resizeRequest_leaves :
    Ensures (Leaves s) (s.resizeRequest W surface left top) := by
  rw [resizeRequest]
  split
  · split
    · exact resizePointerRequest_leaves
    · split
      · exact ensures_ok.mpr (KeepsAnchors.leaves rfl)
      · split
        · rw [ensures_bind]
          intro u hu
          obtain ⟨hkept, hspaces⟩ := startResize_anchors u hu
          refine ensures_pure.mpr (.after hkept (by rw [hspaces]) (leaves_touchGrab ?_))
          rintro _ ⟨⟩
          rfl
        · exact ensures_ok.mpr (KeepsAnchors.leaves rfl)
  · exact resizePointerRequest_leaves

theorem popupGrab_anchors {popup : PopupSurface} : KeepsAnchors s (s.popupGrab W popup) := by
  rw [popupGrab]
  split
  · rfl
  · split <;> rfl

theorem requestActivation_anchors {age : Nat} :
    Ensures (KeepsAnchors s) (s.requestActivation W surface age) := by
  rw [requestActivation]
  split
  · rw [ensures_expect_bind]
    intro _ _
    rw [ensures_expect_bind]
    intro _ _
    split
    · exact ensures_pure.mpr focusWindow_anchors
    · exact ensures_pure.mpr rfl
  · exact ensures_ok.mpr rfl

theorem handleXdg_leaves (i : XdgEvent) : Ensures (Leaves s) (s.handleXdg W i) := by
  cases i with
  | newToplevel => exact leaves_of_anchors newToplevel_anchors
  | toplevelDestroyed => exact leaves_of_anchors toplevelDestroyed_anchors
  | appIdChanged => exact leaves_of_anchors appIdChanged_anchors
  | maximize => exact leaves_of_anchors maximizeRequest_anchors
  | unmaximize => exact ensures_ok.mpr (KeepsAnchors.leaves rfl)
  | fullscreen => exact leaves_of_anchors fullscreenRequest_anchors
  | unfullscreen => exact leaves_of_anchors unfullscreenRequest_anchors
  | move => exact moveRequestXdg_leaves
  | resize => exact resizeRequest_leaves
  | grab => exact ensures_ok.mpr popupGrab_anchors.leaves
  | requestActivation => exact leaves_of_anchors requestActivation_anchors

theorem mapWindowRequest_anchors : Ensures (KeepsAnchors s) (s.mapWindowRequest W x11) := by
  rw [mapWindowRequest]
  split
  · exact ensures_ok.mpr rfl
  · split
    · rw [ensures_bind]
      intro u hu
      have hplaced : KeepsAnchors (s.freshWindow (.x11 x11)).2 u := placeWindow_anchors u hu
      rw [ensures_expect_bind]
      intro _ _
      rw [ensures_expect_bind]
      intro _ _
      exact ensures_pure.mpr hplaced
    · exact ensures_ok.mpr rfl

theorem unmappedWindow_anchors : Ensures (KeepsAnchors s) (s.unmappedWindow W x11) := by
  rw [unmappedWindow]
  split
  · exact ensures_ok.mpr rfl
  · rw [ensures_expect_bind]
    intro _ _
    exact ensures_pure.mpr focusTop_anchors

theorem configureNotify_anchors :
    Ensures (KeepsAnchors s) (s.configureNotify W x11 location) := by
  rw [configureNotify]
  split
  · exact ensures_ok.mpr rfl
  · rw [ensures_expect_bind]
    intro _ _
    exact ensures_pure.mpr rfl

theorem maximizeRequestX11_anchors :
    Ensures (KeepsAnchors s) (s.maximizeRequestX11 W x11) := by
  rw [maximizeRequestX11]
  split
  · exact ensures_ok.mpr rfl
  · simp only [ensures_expect_bind, ensures_pure]
    intros
    rfl

theorem unmaximizeRequestX11_anchors :
    Ensures (KeepsAnchors s) (s.unmaximizeRequestX11 W x11) := by
  rw [unmaximizeRequestX11]
  split
  · exact ensures_ok.mpr rfl
  · rw [ensures_expect_bind]
    intro _ _
    rw [restoreGeometry]
    cases s.oldGeometry x11 <;> exact ensures_pure.mpr rfl

theorem fullscreenRequestX11_anchors :
    Ensures (KeepsAnchors s) (s.fullscreenRequestX11 W x11) := by
  rw [fullscreenRequestX11]
  split
  · exact ensures_ok.mpr rfl
  · simp only [ensures_expect_bind, ensures_pure]
    intros
    rfl

theorem unfullscreenRequestX11_anchors :
    Ensures (KeepsAnchors s) (s.unfullscreenRequestX11 W x11) := by
  rw [unfullscreenRequestX11]
  split
  · exact ensures_ok.mpr rfl
  · exact placeWindow_anchors

theorem moveRequestX11_leaves : Ensures (Leaves s) (s.moveRequestX11 W x11) := by
  rw [moveRequestX11]
  split
  · exact ensures_ok.mpr (KeepsAnchors.leaves rfl)
  · split
    · exact ensures_ok.mpr (KeepsAnchors.leaves rfl)
    next window name hfound =>
      obtain ⟨rfl, -⟩ := windowAndSpaceForX11_eq_some hfound
      rw [ensures_expect_bind]
      intro _ _
      rw [ensures_expect_bind]
      intro _ _
      split
      · refine ensures_pure.mpr (.after (t := (s.restoreGeometry x11).2) rfl rfl ?_)
        exact leaves_pointerGrab rfl
      · exact ensures_pure.mpr (leaves_pointerGrab rfl)

theorem resizeRequestX11_leaves :
    Ensures (Leaves s) (s.resizeRequestX11 W x11 left top) := by
  rw [resizeRequestX11, ensures_expect_bind]
  intro startData _
  split
  · exact ensures_pure.mpr (KeepsAnchors.leaves rfl)
  · split
    · exact ensures_pure.mpr (KeepsAnchors.leaves rfl)
    next window name hfound =>
      obtain ⟨rfl, -⟩ := windowAndSpaceForSurface_eq_some hfound
      rw [ensures_bind]
      intro u hu
      obtain ⟨hkept, hspaces⟩ := startResize_anchors u hu
      refine ensures_pure.mpr (.after hkept (by rw [hspaces]) (leaves_pointerGrab ?_))
      rw [hspaces]

theorem handleX11_leaves (i : X11Event) : Ensures (Leaves s) (s.handleX11 W i) := by
  cases i with
  | mapWindow => exact leaves_of_anchors mapWindowRequest_anchors
  | mappedOverrideRedirect => exact ensures_ok.mpr (KeepsAnchors.leaves rfl)
  | unmapped => exact leaves_of_anchors unmappedWindow_anchors
  | configureNotify => exact leaves_of_anchors configureNotify_anchors
  | maximize => exact leaves_of_anchors maximizeRequestX11_anchors
  | unmaximize => exact leaves_of_anchors unmaximizeRequestX11_anchors
  | fullscreen => exact leaves_of_anchors fullscreenRequestX11_anchors
  | unfullscreen => exact leaves_of_anchors unfullscreenRequestX11_anchors
  | move => exact moveRequestX11_leaves
  | resize => exact resizeRequestX11_leaves

/-! ## Input, messages and actions -/

theorem processInputEvent_leaves (i : InputEvent) :
    Ensures (Leaves s) (s.processInputEvent W i) := by
  cases i with
  | key =>
      refine ensures_ok.mpr (KeepsAnchors.leaves ?_)
      rw [keyboardKey]
      split <;> rfl
  | pointerMotion location =>
      show Ensures (Leaves s) (s.onPointerMove W location)
      unfold onPointerMove
      dsimp only
      split
      · exact ensures_ok.mpr (KeepsAnchors.leaves rfl)
      · exact pointerMotion_leaves
  | pointerMotionAbsolute location =>
      show Ensures (Leaves s) (s.onPointerMoveAbsolute W location)
      rw [onPointerMoveAbsolute, ensures_expect_bind]
      intro _ _
      exact pointerMotion_leaves
  | pointerMotionAbsoluteWindowed outputName location =>
      show Ensures (Leaves s) (s.onPointerMoveAbsoluteWindowed W outputName location)
      rw [onPointerMoveAbsoluteWindowed]
      simp only [ensures_expect_bind]
      intro _ _ _ _
      exact pointerMotion_leaves
  | pointerButton pressed =>
      show Ensures (Leaves s) (s.onPointerButton W pressed)
      have hpress : Ensures (KeepsAnchors s)
          (if pressed then s.updateKeyboardFocus W s.pointerLocation else .ok s) := by
        split
        · exact updateKeyboardFocus_anchors
        · exact ensures_ok.mpr rfl
      rw [onPointerButton, ensures_bind]
      intro u hu
      rw [ensures_pure]
      split
      · exact releasePointer_leaves (hpress u hu)
      · exact (hpress u hu).leaves
  | tabletTool location =>
      show Ensures (Leaves s) (s.onTabletTool W location)
      rw [onTabletTool]
      split
      · exact ensures_ok.mpr (KeepsAnchors.leaves rfl)
      · exact pointerMotion_leaves
  | tabletToolTip => exact leaves_of_anchors updateKeyboardFocus_anchors
  | touchDown location =>
      show Ensures (Leaves s) (s.onTouchDown W location)
      rw [onTouchDown]
      split
      · exact leaves_of_anchors updateKeyboardFocus_anchors
      · exact ensures_ok.mpr (KeepsAnchors.leaves rfl)
  | touchMotion slot location =>
      show Ensures (Leaves s) (s.onTouchMotion W slot location)
      rw [onTouchMotion]
      split
      · split
        · exact leaves_of_anchors grabMotion_anchors
        · exact ensures_ok.mpr (KeepsAnchors.leaves rfl)
      · exact ensures_ok.mpr (KeepsAnchors.leaves rfl)
  | touchUp slot =>
      refine ensures_ok.mpr ?_
      rw [onTouchUp]
      split
      · exact leaves_touchGrab_none
      · exact KeepsAnchors.leaves rfl
  | touchCancel =>
      refine ensures_ok.mpr ?_
      rw [onTouchCancel]
      split
      · exact leaves_touchGrab_none
      · exact KeepsAnchors.leaves rfl

theorem moveCurrentWindow_anchors {zoneName : String} :
    Ensures (KeepsAnchors s) (s.moveCurrentWindow W zoneName) := by
  rw [moveCurrentWindow]
  split
  · exact placeWindow_anchors
  · exact ensures_ok.mpr rfl

theorem closeCurrentWindow_anchors : KeepsAnchors s s.closeCurrentWindow := by
  rw [closeCurrentWindow]
  split
  · split <;> rfl
  · rfl

theorem toggleDebugUi_anchors : Ensures (KeepsAnchors s) (s.toggleDebugUi W) := by
  rw [toggleDebugUi]
  split
  · exact ensures_ok.mpr rfl
  · exact placeWindow_anchors.mono fun _ h => h

theorem setZones_anchors {zones : List Zone} : KeepsAnchors s (s.setZones zones) :=
  List.foldlRecOn zones setZone (motive := fun t => KeepsAnchors s t) rfl fun _ ht _ _ => ht

theorem handleDisplayMessage_anchors (m : DisplayMessage) :
    Ensures (KeepsAnchors s) (s.handleDisplayMessage W m) := by
  cases m with
  | setZones => exact ensures_ok.mpr setZones_anchors
  | moveCurrentWindowToZone => exact moveCurrentWindow_anchors
  | focusOrSpawn => exact ensures_ok.mpr focusWindowByAppId_anchors
  | closeCurrentWindow => exact ensures_ok.mpr closeCurrentWindow_anchors
  | addWindowRule => exact ensures_ok.mpr rfl
  | toggleDebugUi => exact toggleDebugUi_anchors
  | setLayout =>
      exact ensures_ok.mpr (setLayout_keeps (f := anchors) (fun _ _ => rfl) fun _ _ => rfl)
  | shutdown => exact ensures_ok.mpr rfl
  | keyboardInput => exact ensures_ok.mpr rfl
  | vtSwitch => exact ensures_ok.mpr rfl
  | startVideoStream => exact ensures_ok.mpr rfl

theorem execute_anchors (a : Action) : Ensures (KeepsAnchors s) (s.execute W a) := by
  cases hlocked : s.locked with
  | true =>
      rw [execute_locked hlocked]
      exact ensures_ok.mpr rfl
  | false =>
      unfold execute
      simp only [hlocked, Bool.false_and, Bool.false_eq_true, if_false]
      cases a with
      | changeScale => exact ensures_error
      | setScale => exact ensures_error
      | rotateOutput => exact ensures_error
      | moveWindow => exact moveCurrentWindow_anchors
      | close => exact ensures_ok.mpr closeCurrentWindow_anchors
      | tab index =>
          refine ensures_ok.mpr ?_
          rw [tab]
          split
          · exact focusWindow_anchors
          · rfl
      | focusOrSpawn => exact ensures_ok.mpr focusWindowByAppId_anchors
      | quit => exact ensures_ok.mpr rfl
      | vtSwitch => exact ensures_ok.mpr rfl
      | spawn => exact ensures_ok.mpr rfl
      | callback => exact ensures_ok.mpr rfl
      | startVideoStream => exact ensures_ok.mpr rfl
      | none => exact ensures_ok.mpr rfl

/-- Only the events of the session lock change it. -/
theorem step_leaves (he : ∀ i, e ≠ .lock i) : Ensures (Leaves s) (s.step W e) := by
  cases e with
  | input i => exact processInputEvent_leaves i
  | surface i =>
      cases i with
      | newSurface => exact ensures_ok.mpr newSurface_leaves
      | commit => exact leaves_of_anchors commit_anchors
  | xdg i => exact handleXdg_leaves i
  | x11 i => exact handleX11_leaves i
  | lock i => exact absurd rfl (he i)
  | layer i =>
      cases i with
      | newLayerSurface surface wlOutput =>
          show Ensures (Leaves s) (s.newLayerSurface W surface wlOutput)
          rw [newLayerSurface, ensures_expect_bind]
          intro _ _
          exact ensures_pure.mpr (KeepsAnchors.leaves rfl)
      | layerDestroyed => exact ensures_ok.mpr (KeepsAnchors.leaves rfl)
  | message m => exact leaves_of_anchors (handleDisplayMessage_anchors m)
  | action a => exact leaves_of_anchors (execute_anchors a)
  | connectorConnected => exact ensures_ok.mpr (KeepsAnchors.leaves rfl)
  | connectorDisconnected => exact ensures_ok.mpr (KeepsAnchors.leaves rfl)
  | focusMoved target =>
      refine ensures_ok.mpr (KeepsAnchors.leaves ?_)
      rw [moveFocus]
      split <;> rfl
  | refresh => exact ensures_ok.mpr (KeepsAnchors.leaves rfl)

end State

end Scape.Display
