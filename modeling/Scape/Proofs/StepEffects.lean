import Scape.Proofs.RequestEffects

/-!
# What a step of the display thread changes

The handlers of input events, of the session lock, of messages and actions, and with
them the whole step. `moved` is the one way a window that exists comes into a space
that may not be its own: the motion of a move grab, and a move to a zone. `GivesFocus`
says of every event when something other than a lock surface gets focus by it.

A layout and a connector change which outputs there are and where, and a lock or an
unlock what counts as locked. The other events are framed in all three ways.
-/

namespace Scape.Display

open Scape Fallible

namespace State

variable {s t : State} {W : World} {name : String} {window : WorkspaceWindow}
  {point location : Point}

/-! ## Keys and presses -/

theorem keyboardKey_framed :
    Framed NoPlaces (∃ layer ∈ s.layerSurfaces, s.takesKeys W layer = true) s
      (s.keyboardKey W) := by
  rw [keyboardKey]
  split
  next layer hfound =>
    refine (framed_setFocus rfl).mono (fun _ _ => id) (iff_of_true id ?_)
    exact ⟨layer, List.mem_reverse.mp (List.mem_of_find?_eq_some hfound),
      List.find?_some hfound⟩
  next hnone =>
    refine (framed_refl s).mono (fun _ _ => id) (iff_of_false id ?_)
    rintro ⟨layer, hmem, htakes⟩
    exact List.find?_eq_none.mp hnone layer (List.mem_reverse.mpr hmem) htakes

/-- The layer surface a press at a point gives the focus, on one of two layers. -/
def pressLayer (W : World) (s : State) (upper lower : Layer) (point : Point) :
    Option LayerSurface :=
  (s.spaces.first.outputUnder point).bind fun output =>
    s.focusableLayer W output upper lower point

theorem layerFocus_eq {upper lower : Layer} :
    Ensures (fun layer => layer = pressLayer W s upper lower point)
      (s.layerFocus W (s.spaces.first.outputUnder point) upper lower point) := by
  unfold layerFocus pressLayer
  split
  next hnone =>
    rw [hnone]
    exact ensures_ok.mpr rfl
  next output houtput =>
    rw [houtput, ensures_expect_bind]
    intro _ _
    exact ensures_pure.mpr rfl

/-- Of the windows of X11, those that do not redirect, and only while XWayland runs. -/
def Focusable (W : World) (window : WorkspaceWindow) : Prop :=
  ∀ surface, window.x11Surface = some surface →
    W.overrideRedirect surface = false ∧ W.xwaylandRunning = true

theorem focusElement_framed (hs : s.Known) (hmem : window ∈ s.spaces.first.windows) :
    Framed NoPlaces (Focusable W window) s (s.focusElement W window) := by
  have hraised : Framed NoPlaces False s
      (s.modifySpace s.spaces.firstKey fun space => space.raiseElement W.zIndex window) :=
    framed_raiseElement
  have hfocused := hraised.after (framed_setFocus_window (hs.of_mem hmem))
  unfold focusElement Focusable
  dsimp only
  split
  next hx11 =>
    refine hfocused.mono (fun _ _ => id) (iff_of_true trivial ?_)
    simp [hx11]
  next surface hx11 =>
    simp only [hx11, Option.some.injEq, forall_eq']
    split
    next hoverride =>
      refine (framed_refl s).mono (fun _ _ => id) (iff_of_false id ?_)
      simp [hoverride]
    next hoverride =>
      split
      next hrunning =>
        refine hfocused.mono (fun _ _ => id) (iff_of_true trivial ?_)
        exact ⟨Bool.eq_false_of_not_eq_true hoverride, hrunning⟩
      next hrunning =>
        exact hraised.mono (fun _ _ => id) (iff_of_false id fun h => hrunning h.2)

/-- A press at a point gives the focus away: no grab keeps it, and the upper layers
have a surface for it, or the window there may have it, or there is no window and the
lower layers have a surface for it. -/
def PressFocuses (W : World) (s : State) (point : Point) : Prop :=
  focusGrabbed W = false ∧
    ((pressLayer W s .overlay .top point).isSome = true ∨
      (∃ window, W.elementUnder s.spaces.first point = some window ∧ Focusable W window) ∨
      (W.elementUnder s.spaces.first point = none ∧
        (pressLayer W s .bottom .background point).isSome = true))

theorem focusLayer_framed {layer : LayerSurface} :
    Framed NoPlaces True s (s.setFocus (.layerSurface layer)) :=
  (framed_setFocus rfl).mono (fun _ _ => id) (iff_of_true id trivial)

theorem updateKeyboardFocus_framed (hs : s.Known) :
    Ensures (Framed NoPlaces (PressFocuses W s point) s)
      (s.updateKeyboardFocus W point) := by
  rw [updateKeyboardFocus, PressFocuses]
  split
  next hgrabbed =>
    refine ensures_ok.mpr ((framed_refl s).mono (fun _ _ => id) (iff_of_false id ?_))
    simp [hgrabbed]
  next hgrabbed =>
    simp only [Bool.eq_false_of_not_eq_true hgrabbed, true_and]
    rw [ensures_bind]
    intro above habove
    obtain rfl := layerFocus_eq above habove
    split
    next layer habove =>
      refine ensures_pure.mpr (focusLayer_framed.mono (fun _ _ => id) ?_)
      simp [habove]
    next habove =>
      split
      next window hunder =>
        have hmem := W.elementUnder_mem _ _ _ hunder
        refine ensures_pure.mpr ((focusElement_framed hs hmem).mono (fun _ _ => id) ?_)
        simp [habove, hunder]
      next hunder =>
        rw [ensures_bind]
        intro below hbelow
        obtain rfl := layerFocus_eq below hbelow
        split
        next layer hbelow =>
          refine ensures_pure.mpr (focusLayer_framed.mono (fun _ _ => id) ?_)
          simp [habove, hunder, hbelow]
        next hbelow =>
          refine ensures_pure.mpr ((framed_refl s).mono (fun _ _ => id) ?_)
          simp [habove, hunder, hbelow]

/-- Besides the focus a press changes the order of the windows, and nothing else. -/
theorem updateKeyboardFocus_rest :
    Ensures (fun t => t.pendingFocus = s.pendingFocus ∧ t.debugUi = s.debugUi)
      (s.updateKeyboardFocus W point) := by
  have helement : ∀ window, (s.focusElement W window).pendingFocus = s.pendingFocus ∧
      (s.focusElement W window).debugUi = s.debugUi := by
    intro window
    unfold focusElement
    dsimp only
    split
    · exact ⟨rfl, rfl⟩
    · split
      · exact ⟨rfl, rfl⟩
      · split
        · exact ⟨rfl, rfl⟩
        · exact ⟨rfl, rfl⟩
  rw [updateKeyboardFocus]
  split
  · exact ensures_ok.mpr ⟨rfl, rfl⟩
  rw [ensures_bind]
  intro above _
  split
  · exact ensures_pure.mpr ⟨rfl, rfl⟩
  split
  · exact ensures_pure.mpr (helement _)
  rw [ensures_bind]
  intro below _
  split
  · exact ensures_pure.mpr ⟨rfl, rfl⟩
  · exact ensures_pure.mpr ⟨rfl, rfl⟩

/-! ## The pointer and touch points -/

/-- The window that the motion of a grab moves, and the space it is put in. -/
def grabMoved (s : State) (grab : SurfaceGrab) : Option (String × WorkspaceWindow) :=
  match grab.kind with
  | .move _ => some (grab.spaceName.getD s.spaces.firstKey, grab.window)
  | .resize => none

theorem grabMotion_framed {grab : SurfaceGrab} (hknown : grab.window.id < s.nextWindow) :
    Ensures (Framed (fun n w => s.grabMoved grab = some (n, w)) False s)
      (s.grabMotion W grab location) := by
  rw [grabMotion, grabMoved]
  cases grab.kind with
  | move initial =>
      dsimp only
      rw [ensures_expect_bind]
      intro _ _
      refine ensures_pure.mpr ((framed_mapElement hknown).mono (fun n w hplaced => ?_) Iff.rfl)
      rw [hplaced.1, hplaced.2]
  | resize => exact ensures_ok.mpr ((framed_refl s).mono (fun _ _ => False.elim) Iff.rfl)

/-- The motion of the pointer gets through to what is under it. -/
def PointerPasses (W : World) (s : State) : Prop :=
  match W.pointerGrab, s.pointerGrab with
  | .nobody, _ => True
  | .smithay passes, _ => passes = true
  | .compositor, some grab => resizeEnds W grab = true
  | .compositor, none => False

def pointerMoved (W : World) (s : State) : Option (String × WorkspaceWindow) :=
  match W.pointerGrab, s.pointerGrab with
  | .compositor, some grab => s.grabMoved grab
  | _, _ => none

theorem releasePointer_framed :
    Framed NoPlaces (s.pendingFocus.isSome = true) s s.releasePointer := by
  have hreleased : Framed NoPlaces False s { s with pointerGrab := none } :=
    framed_pointerGrab fun _ hnone => by cases hnone
  exact hreleased.after framed_setPointerFocus

theorem handleMotion_framed (hs : s.Known) :
    Ensures (Framed (fun n w => pointerMoved W s = some (n, w))
      (PointerPasses W s ∧ s.pendingFocus.isSome = true) s) (s.handleMotion W) := by
  rw [handleMotion, PointerPasses, pointerMoved]
  cases W.pointerGrab with
  | nobody =>
      refine ensures_ok.mpr (framed_setPointerFocus.mono (fun _ _ => False.elim) ?_)
      rw [true_and]
  | smithay passes =>
      refine ensures_ok.mpr ?_
      cases passes with
      | false => exact (framed_refl s).mono (fun _ _ => False.elim) (by simp)
      | true => exact framed_setPointerFocus.mono (fun _ _ => False.elim) (by simp)
  | compositor =>
      cases hgrab : s.pointerGrab with
      | none =>
          refine ensures_ok.mpr ((framed_refl s).mono (fun _ _ => False.elim) ?_)
          rw [false_and]
      | some grab =>
          dsimp only
          split
          next hends =>
            refine ensures_ok.mpr (releasePointer_framed.mono (fun _ _ => False.elim) ?_)
            rw [hends, eq_self, true_and]
          next hends =>
            have hknown : grab.window.id < s.nextWindow :=
              hs _ (.inr (.inr (.inl ⟨grab, hgrab, rfl⟩)))
            split
            · exact ensures_error
            · exact (grabMotion_framed hknown).mono fun t ht =>
                ht.mono (fun _ _ => id) (iff_of_false id fun h => hends h.1)

theorem pointerMotion_framed (hs : s.Known) {under : Option PointerFocusTarget} :
    Ensures (Framed (fun n w => pointerMoved W s = some (n, w))
      (PointerPasses W s ∧ under.isSome = true) s) (s.pointerMotion W under location) := by
  have hmotion : Framed NoPlaces False s
      { s with pointerLocation := location, pendingFocus := under } :=
    framed_of_fixed rfl rfl
  exact (handleMotion_framed (hmotion.windows.known hs)).mono fun t ht => hmotion.after ht

theorem onPointerMove_framed (hs : s.Known) :
    Ensures (Framed (fun n w => W.pointerHeld = false ∧ pointerMoved W s = some (n, w))
      (W.pointerHeld = false ∧ PointerPasses W s ∧
        (s.surfaceUnder W s.pointerLocation).isSome = true) s)
      (s.onPointerMove W location) := by
  unfold onPointerMove
  dsimp only
  split
  next hheld =>
    have hpending : Framed NoPlaces False s
        { s with pendingFocus := s.surfaceUnder W s.pointerLocation } :=
      framed_of_fixed rfl rfl
    refine ensures_ok.mpr (hpending.mono (fun _ _ => False.elim) (iff_of_false id ?_))
    simp [hheld]
  next hheld =>
    have hfalse := Bool.eq_false_of_not_eq_true hheld
    refine (pointerMotion_framed hs).mono fun t ht => ht.mono (fun _ _ h => ⟨hfalse, h⟩) ?_
    rw [hfalse, eq_self, true_and]

theorem onPointerMoveAbsolute_framed (hs : s.Known) :
    Ensures (Framed (fun n w => pointerMoved W s = some (n, w))
      (PointerPasses W s ∧ (s.surfaceUnder W location).isSome = true) s)
      (s.onPointerMoveAbsolute W location) := by
  rw [onPointerMoveAbsolute, ensures_expect_bind]
  intro _ _
  exact pointerMotion_framed hs

theorem onPointerMoveAbsoluteWindowed_framed (hs : s.Known) {outputName : String} :
    Ensures (Framed (fun n w => pointerMoved W s = some (n, w))
      (PointerPasses W s ∧ (s.surfaceUnder W location).isSome = true) s)
      (s.onPointerMoveAbsoluteWindowed W outputName location) := by
  rw [onPointerMoveAbsoluteWindowed, ensures_expect_bind]
  intro _ _
  rw [ensures_expect_bind]
  intro _ _
  exact pointerMotion_framed hs

theorem surfaceUnder_of_no_outputs (h : s.spaces.first.outputs = []) :
    s.surfaceUnder W location = none := by
  unfold surfaceUnder
  dsimp only
  rw [h]
  rfl

theorem onTabletTool_framed (hs : s.Known) :
    Ensures (Framed
      (fun n w => s.spaces.first.outputs ≠ [] ∧ pointerMoved W s = some (n, w))
      (PointerPasses W s ∧ (s.surfaceUnder W location).isSome = true) s)
      (s.onTabletTool W location) := by
  rw [onTabletTool]
  split
  next hnone =>
    have hempty := List.head?_eq_none_iff.mp hnone
    refine ensures_ok.mpr ((framed_refl s).mono (fun _ _ => False.elim) (iff_of_false id ?_))
    simp [surfaceUnder_of_no_outputs hempty]
  next mapped hhead =>
    have hne : s.spaces.first.outputs ≠ [] := by
      intro hempty
      rw [hempty] at hhead
      cases hhead
    exact (pointerMotion_framed hs).mono fun t ht => ht.mono (fun _ _ h => ⟨hne, h⟩) Iff.rfl

theorem onPointerButton_framed (hs : s.Known) {pressed : Bool} :
    Ensures (Framed NoPlaces
      ((pressed = true ∧ PressFocuses W s s.pointerLocation) ∨
        (W.grabReleased = true ∧ s.pendingFocus.isSome = true)) s)
      (s.onPointerButton W pressed) := by
  rw [onPointerButton, ensures_bind]
  intro u hu
  -- the press comes first, and leaves the pending focus as it is
  have hpress : Framed NoPlaces (pressed = true ∧ PressFocuses W s s.pointerLocation) s u ∧
      u.pendingFocus = s.pendingFocus := by
    cases pressed with
    | false =>
        simp only [Bool.false_eq_true, if_false, Except.ok.injEq] at hu
        subst hu
        exact ⟨(framed_refl s).mono (fun _ _ => id) (by simp), rfl⟩
    | true =>
        rw [if_pos rfl] at hu
        refine ⟨(updateKeyboardFocus_framed hs u hu).mono (fun _ _ => id) ?_,
          (updateKeyboardFocus_rest u hu).1⟩
        rw [eq_self, true_and]
  obtain ⟨hframed, hpending⟩ := hpress
  rw [ensures_pure]
  split
  next hreleased =>
    refine (hframed.trans releasePointer_framed).mono (fun _ _ hor => hor.elim id id) ?_
    rw [hpending, hreleased, eq_self, true_and]
  next hreleased =>
    refine hframed.mono (fun _ _ => id) (or_iff_left ?_).symm
    exact fun h => hreleased h.1

theorem onTouchDown_framed (hs : s.Known) :
    Ensures (Framed NoPlaces
      (W.hasTouch = true ∧ s.touchMapped W = true ∧ PressFocuses W s location) s)
      (s.onTouchDown W location) := by
  rw [onTouchDown, ← and_assoc, ← Bool.and_eq_true]
  split
  next hmapped =>
    exact (updateKeyboardFocus_framed hs).mono fun t ht =>
      ht.mono (fun _ _ => id) (and_iff_right hmapped).symm
  next hmapped =>
    exact ensures_ok.mpr ((framed_refl s).mono (fun _ _ => id)
      (iff_of_false id fun h => hmapped h.1))

theorem activeTouchGrab_eq_some {slot : Nat} {grab : SurfaceGrab}
    (h : s.activeTouchGrab W slot = some grab) : s.touchGrab = some grab := by
  unfold activeTouchGrab at h
  split at h
  · exact (Option.filter_eq_some_iff.mp h).1
  · cases h

def touchMoved (W : World) (s : State) (slot : Nat) : Option (String × WorkspaceWindow) :=
  if s.touchMapped W then (s.activeTouchGrab W slot).bind s.grabMoved else none

theorem onTouchMotion_framed (hs : s.Known) {slot : Nat} :
    Ensures (Framed (fun n w => touchMoved W s slot = some (n, w)) False s)
      (s.onTouchMotion W slot location) := by
  rw [onTouchMotion, touchMoved]
  split
  · split
    next grab hgrab =>
      have hknown : grab.window.id < s.nextWindow :=
        hs _ (.inr (.inr (.inr (.inl ⟨grab, activeTouchGrab_eq_some hgrab, rfl⟩))))
      rw [hgrab]
      exact grabMotion_framed hknown
    next => exact ensures_ok.mpr ((framed_refl s).mono (fun _ _ => False.elim) Iff.rfl)
  · exact ensures_ok.mpr ((framed_refl s).mono (fun _ _ => False.elim) Iff.rfl)

theorem framed_noTouchGrab : Framed NoPlaces False s { s with touchGrab := none } :=
  framed_touchGrab fun _ hnone => by cases hnone

theorem onTouchUp_framed {slot : Nat} : Framed NoPlaces False s (s.onTouchUp W slot) := by
  rw [onTouchUp]
  split
  · exact framed_noTouchGrab
  · exact framed_refl s

theorem onTouchCancel_framed : Framed NoPlaces False s (s.onTouchCancel W) := by
  rw [onTouchCancel]
  split
  · exact framed_noTouchGrab
  · exact framed_refl s

/-! ## The session lock and layer surfaces -/

theorem newLockSurface_framed {surface : LockSurface} {wlOutput : WlOutput} :
    Framed NoPlaces False s (s.newLockSurface W surface wlOutput) := by
  rw [newLockSurface]
  split
  next sessionLock output hlock houtput =>
    dsimp only
    refine ⟨⟨rfl, rfl, rfl, rfl, fun _ => rfl⟩, ⟨fun _ _ ht => .inl ht, le_rfl, ?_⟩, ⟨?_, ?_⟩⟩
    · -- the lock itself is no concern of the windows
      intro hs
      exact (framed_setFocus rfl : Framed _ _ s (s.setFocus (.lockScreen surface))).windows.known hs
    · simp [locked, setFocus, hlock]
    · simp [Guarded, setFocus, FocusTarget.IsLockSurface]
  next => exact framed_refl s

theorem lock_keepsOutputs : KeepsOutputs s (s.lock W) := by
  rw [lock]
  split
  · exact (framed_refl s).outputs
  · exact ⟨rfl, rfl, rfl, rfl, fun _ => rfl⟩

theorem lock_keepsWindows : KeepsWindows NoPlaces s (s.lock W) := by
  rw [lock]
  split
  · exact (framed_refl s).windows
  · exact ⟨fun _ _ => .inl, le_rfl, id⟩

theorem unlock_keepsOutputs : KeepsOutputs s s.unlock := by
  rw [unlock]
  dsimp only
  split
  · exact ⟨rfl, rfl, rfl, rfl, fun _ => rfl⟩
  · exact ⟨rfl, rfl, rfl, rfl, fun _ => rfl⟩

theorem unlock_keepsWindows (hs : s.Known) : KeepsWindows NoPlaces s s.unlock := by
  have hunlocked : KeepsWindows NoPlaces s { s with sessionLock := none } :=
    ⟨fun _ _ => .inl, le_rfl, id⟩
  rw [unlock]
  dsimp only
  split
  next window htop =>
    have hfocus := framed_setFocus_window (hs.of_mem (List.mem_of_getLast? htop))
    refine (hunlocked.trans ?_).mono fun _ _ hor => hor.elim id id
    exact ⟨fun _ _ => .inl, le_rfl, fun hs => hfocus.windows.known hs⟩
  next => exact hunlocked

theorem newLayerSurface_framed {surface : LayerSurface} {wlOutput : Option WlOutput} :
    Ensures (Framed NoPlaces False s) (s.newLayerSurface W surface wlOutput) := by
  rw [newLayerSurface]
  dsimp only
  rw [ensures_expect_bind]
  intro _ _
  exact ensures_pure.mpr (framed_of_fixed rfl rfl)

theorem layerDestroyed_framed {surface : LayerSurface} :
    Framed NoPlaces False s (s.layerDestroyed surface) :=
  framed_of_fixed rfl rfl

/-! ## Messages and actions -/

theorem setZones_framed {zones : List Zone} : Framed NoPlaces False s (s.setZones zones) := by
  have hzone : ∀ (s : State) (zone : Zone), Framed NoPlaces False s (s.setZone zone) :=
    fun _ _ => framed_of_fixed rfl rfl
  rw [setZones]
  refine List.foldlRecOn zones setZone ?_ fun u hu zone _ => ?_
  · exact framed_of_fixed rfl rfl
  · exact hu.after (hzone u zone)

theorem toggleDebugUi_framed : Ensures (Framed (Fresh s) False s) (s.toggleDebugUi W) := by
  rw [toggleDebugUi]
  split
  next window hui =>
    have htaken : Framed NoPlaces False s { s with debugUi := none } :=
      framed_debugUi fun _ hnone => by cases hnone
    exact ensures_ok.mpr ((htaken.after framed_unmapElem).mono (fun _ _ => False.elim) Iff.rfl)
  next =>
    have hmade : Framed NoPlaces False s
        { (s.freshWindow .egui).2 with debugUi := some (s.freshWindow .egui).1 } := by
      have hfresh : Framed NoPlaces False s (s.freshWindow .egui).2 := framed_freshWindow
      refine hfresh.after (framed_debugUi ?_)
      rintro _ ⟨⟩
      exact Nat.lt_succ_self s.nextWindow
    refine (placeWindow_framed (Nat.lt_succ_self _)).mono fun t ht => ?_
    refine (hmade.after ht).mono (fun n w hplaced => ?_) Iff.rfl
    exact ⟨hplaced.1, hplaced.2 ▸ rfl⟩

/-- The window with the focus, and the space that a move to a zone puts it in. -/
def currentMoved (s : State) : Option (String × WorkspaceWindow) :=
  match s.keyboardFocus with
  | some (.window window) => some (s.spaces.firstKey, window)
  | _ => none

theorem moveCurrentWindow_framed (hs : s.Known) {zoneName : String} :
    Ensures (Framed (fun n w => s.currentMoved = some (n, w)) False s)
      (s.moveCurrentWindow W zoneName) := by
  rw [moveCurrentWindow, currentMoved]
  have hstays : Framed (fun n w => none = some (n, w)) False s s :=
    (framed_refl s).mono (fun _ _ => False.elim) Iff.rfl
  cases hfocus : s.keyboardFocus with
  | none => exact ensures_ok.mpr hstays
  | some target =>
      cases target with
      | window window =>
          refine (placeWindow_framed (hs window (.inr (.inl hfocus)))).mono fun t ht => ?_
          refine ht.mono (fun n w hplaced => ?_) Iff.rfl
          rw [hplaced.1, hplaced.2]
      | layerSurface => exact ensures_ok.mpr hstays
      | popup => exact ensures_ok.mpr hstays
      | lockScreen => exact ensures_ok.mpr hstays

theorem closeCurrentWindow_framed : Framed NoPlaces False s s.closeCurrentWindow := by
  rw [closeCurrentWindow]
  split
  · split
    · exact framed_unmapElem
    · exact framed_refl s
  · exact framed_refl s

theorem tab_framed (hs : s.Known) {index : Nat} :
    Framed NoPlaces (index < s.spaces.first.windows.length) s (s.tab W index) := by
  rw [tab]
  split
  next window hfound =>
    obtain ⟨hlt, rfl⟩ := List.getElem?_eq_some_iff.mp hfound
    have hmem := List.mem_reverse.mp (List.getElem_mem hlt)
    refine (focusWindow_framed s.spaces.firstKey_mem (hs.of_mem hmem)).mono (fun _ _ => id) ?_
    exact iff_of_true trivial (by rwa [List.length_reverse] at hlt)
  next hnone =>
    refine (framed_refl s).mono (fun _ _ => id) (iff_of_false id ?_)
    rwa [List.getElem?_eq_none_iff, List.length_reverse, ← not_lt] at hnone

theorem moveFocus_framed {target : Option KeyboardFocusTarget} :
    Framed NoPlaces (∃ given, target = some given ∧ s.knows given = true ∧
      ¬ (FocusTarget.keyboard given).IsLockSurface) s (s.moveFocus target) := by
  cases target with
  | none =>
      have hcleared : Framed NoPlaces False s { s with keyboardFocus := none } :=
        framed_of_references rfl le_rfl (fun _ hfocus => by cases hfocus) (fun _ => .inl)
          (fun _ => .inl) fun _ => .inl
      exact hcleared.mono (fun _ _ => id) (iff_of_false id fun ⟨_, hgiven, _⟩ => by cases hgiven)
  | some given =>
      have hmoved : s.moveFocus (some given) =
          if s.knows given then s.setFocus given else s := rfl
      rw [hmoved]
      split
      next hknows =>
        refine (framed_setFocus hknows).mono (fun _ _ => id) ?_
        simp only [Option.some.injEq, exists_eq_left', hknows, true_and]
      next hknows =>
        refine (framed_refl s).mono (fun _ _ => id) (iff_of_false id ?_)
        rintro ⟨_, ⟨⟩, hknown, -⟩
        exact hknows hknown

/-- A change of the spaces that brings in no window. -/
theorem keepsWindows_of_spaces {spaces : Registry String Space}
    (hle : ∀ name window, (spaces.value name).Holds window →
      (s.spaces.value name).Holds window) :
    KeepsWindows NoPlaces s { s with spaces := spaces } := by
  refine ⟨fun name window ht => .inl (hle name window ht), le_rfl, fun hs => ?_⟩
  rintro window (⟨name, ht⟩ | hrest)
  · exact hs window (.inl ⟨name, hle name window ht⟩)
  · exact hs window (.inr hrest)

theorem refresh_framed :
    Framed NoPlaces False s { s with spaces := s.spaces.map (·.refresh W.alive) } :=
  ⟨⟨rfl, rfl, rfl, rfl, fun _ => rfl⟩,
    keepsWindows_of_spaces fun _ _ => Space.mem_windows_refresh,
    ⟨rfl, (and_iff_left not_false).symm⟩⟩

/-! ## Layouts and connectors -/

/-- One of the updates a layout is made of. No window comes or goes. -/
inductive LayoutUpdate (s : State) : State → Prop
  | outputs (name : String) (f : Space → Space) :
      (∀ space, (f space).elements = space.elements) → LayoutUpdate s (s.modifySpace name f)
  | ensure (name : String) : LayoutUpdate s { s with spaces := s.spaces.ensure name .empty }
  | reorder (keys : List String) (h : keys.Perm s.spaces.keys) :
      LayoutUpdate s { s with spaces := s.spaces.reorder keys h }
  | activeSpace (activeSpace : SmithayOutput → Option String) :
      LayoutUpdate s { s with activeSpace := activeSpace }

/-- What holds of each update, and composes, holds of a layout. -/
theorem setLayout_of_updates {R : State → State → Prop} {spaces : HashMap String (List Output)}
    (hrefl : ∀ u, R u u) (htrans : ∀ u v w, R u v → R v w → R u w)
    (h : ∀ u v, LayoutUpdate u v → R u v) : R s (s.setLayout W spaces) := by
  have hfold : ∀ {ι : Type} (g : State → ι → State) (l : List ι) (u : State),
      (∀ v i, R v (g v i)) → R u (l.foldl g u) := fun g l u hg =>
    List.foldlRecOn l g (hrefl u) fun v hv i _ => htrans _ _ _ hv (hg v i)
  have hmap : ∀ (u : State) name configOutput, R u (u.mapConfigOutput name configOutput) := by
    intro u name configOutput
    rw [mapConfigOutput]
    split
    · exact hrefl u
    next output _ =>
      refine htrans _ _ _ (h _ _ (.outputs name
        (·.mapOutput output ⟨configOutput.x, configOutput.y⟩) fun _ => rfl)) ?_
      rw [activate]
      split
      · exact hrefl _
      · exact h _ _ (.activeSpace _)
  have hlayout : ∀ (u : State) name configOutputs, R u (u.layoutSpace name configOutputs) := by
    intro u name configOutputs
    rw [layoutSpace, unmapUnlisted]
    refine htrans _ _ _ (h _ _ (.ensure name)) ?_
    refine htrans _ _ _ (hfold _ configOutputs _ fun v configOutput => hmap v name configOutput) ?_
    refine hfold _ _ _ fun v entry => ?_
    split
    · exact hrefl v
    · exact h _ _ (.outputs name (·.unmapOutput entry.2) fun _ => rfl)
  have hlaid : R s (spaces.entries.foldl (fun s entry => s.layoutSpace entry.1 entry.2) s) :=
    hfold _ _ _ fun v entry => hlayout v entry.1 entry.2
  rw [setLayout]
  split
  · exact hlaid
  · exact htrans _ _ _ hlaid (h _ _ (.reorder _ _))

/-- What does not see the updates is as before. -/
theorem setLayout_keeps_of {β : Type} {f : State → β} {spaces : HashMap String (List Output)}
    (h : ∀ u v, LayoutUpdate u v → f v = f u) : f (s.setLayout W spaces) = f s :=
  setLayout_of_updates (R := fun u v => f v = f u) (fun _ => rfl)
    (fun _ _ _ huv hvw => hvw.trans huv) h

theorem setLayout_keeps {β : Type} {f : State → β} {spaces : HashMap String (List Output)}
    (hspaces : ∀ (u : State) spaces, f { u with spaces := spaces } = f u)
    (hactive : ∀ (u : State) activeSpace, f { u with activeSpace := activeSpace } = f u) :
    f (s.setLayout W spaces) = f s := by
  refine setLayout_keeps_of fun u v hupdate => ?_
  cases hupdate with
  | outputs | ensure | reorder => exact hspaces u _
  | activeSpace => exact hactive u _

/-- Layouts and connectors leave windows and the focus alone. -/
def KeepsRest (s t : State) : Prop := KeepsWindows NoPlaces s t ∧ KeepsFocus False s t

theorem KeepsRest.trans (h : KeepsRest s t) {u : State} (h' : KeepsRest t u) :
    KeepsRest s u := by
  refine ⟨(h.1.trans h'.1).mono fun _ _ hor => hor.elim id id, ?_⟩
  obtain ⟨hlocked, hguarded⟩ := h.2.trans h'.2
  exact ⟨hlocked, by rw [hguarded, or_self]⟩

theorem keepsRest_of_spaces {spaces : Registry String Space}
    (hle : ∀ name window, (spaces.value name).Holds window →
      (s.spaces.value name).Holds window) :
    KeepsRest s { s with spaces := spaces } :=
  ⟨keepsWindows_of_spaces hle, ⟨rfl, (and_iff_left not_false).symm⟩⟩

theorem LayoutUpdate.keepsRest (h : LayoutUpdate s t) : KeepsRest s t := by
  cases h with
  | outputs name f hf =>
      refine keepsRest_of_spaces fun name' window ht => ?_
      rw [Registry.modify_value, Function.update_apply] at ht
      split at ht
      next he =>
        rw [Space.Holds, Space.windows, hf, ← he] at ht
        exact ht
      next => exact ht
  | ensure name =>
      refine keepsRest_of_spaces fun name' window ht => ?_
      unfold Registry.ensure at ht
      split at ht
      next => exact ht
      next =>
        dsimp only at ht
        rw [Function.update_apply] at ht
        split at ht
        next => exact absurd ht List.not_mem_nil
        next => exact ht
  | reorder => exact keepsRest_of_spaces fun _ _ => id
  | activeSpace => exact ⟨⟨fun _ _ => .inl, le_rfl, id⟩, ⟨rfl, (and_iff_left not_false).symm⟩⟩

theorem setLayout_keepsRest {spaces : HashMap String (List Output)} :
    KeepsRest s (s.setLayout W spaces) :=
  setLayout_of_updates (fun u => ⟨(framed_refl u).windows, (framed_refl u).focus⟩)
    (fun _ _ _ h h' => h.trans h') fun _ _ => LayoutUpdate.keepsRest

/-! ## Steps -/

/-- The window an event puts into a space though it has been made before. -/
def moved (W : World) (s : State) : Event → Option (String × WorkspaceWindow)
  | .input (.pointerMotion _) => if W.pointerHeld then none else pointerMoved W s
  | .input (.pointerMotionAbsolute _) => pointerMoved W s
  | .input (.pointerMotionAbsoluteWindowed _ _) => pointerMoved W s
  | .input (.tabletTool _) => if s.spaces.first.outputs = [] then none else pointerMoved W s
  | .input (.touchMotion slot _) => touchMoved W s slot
  | .message (.moveCurrentWindowToZone _) => s.currentMoved
  | .action (.moveWindow _ _) => if s.locked then none else s.currentMoved
  | _ => none

/-- What comes into a space: a window that is made, or the one that is moved. -/
def Places (W : World) (s : State) (e : Event) (name : String) (window : WorkspaceWindow) :
    Prop :=
  Fresh s name window ∨ moved W s e = some (name, window)

/-- An event gives focus to something other than a lock surface. -/
def GivesFocus (W : World) (s : State) : Event → Prop
  | .input .key => ∃ layer ∈ s.layerSurfaces, s.takesKeys W layer = true
  | .input (.pointerMotion _) =>
      W.pointerHeld = false ∧ PointerPasses W s ∧
        (s.surfaceUnder W s.pointerLocation).isSome = true
  | .input (.pointerMotionAbsolute location) =>
      PointerPasses W s ∧ (s.surfaceUnder W location).isSome = true
  | .input (.pointerMotionAbsoluteWindowed _ location) =>
      PointerPasses W s ∧ (s.surfaceUnder W location).isSome = true
  | .input (.tabletTool location) =>
      PointerPasses W s ∧ (s.surfaceUnder W location).isSome = true
  | .input (.pointerButton pressed) =>
      (pressed = true ∧ PressFocuses W s s.pointerLocation) ∨
        (W.grabReleased = true ∧ s.pendingFocus.isSome = true)
  | .input .tabletToolTip => PressFocuses W s s.pointerLocation
  | .input (.touchDown location) =>
      W.hasTouch = true ∧ s.touchMapped W = true ∧ PressFocuses W s location
  | .xdg (.newToplevel _) => True
  | .xdg (.toplevelDestroyed surface) => LeavesOthers s (s.windowAndSpaceForSurface W surface)
  | .xdg (.grab popup) =>
      W.popupGrabs = true ∧ ((W.popupRoot popup).bind (s.popupRootTarget W)).isSome = true
  | .xdg (.requestActivation surface age) => Activates W s surface age
  | .x11 (.mapWindow surface) => W.overrideRedirect surface = false ∧ W.mapsX11 surface = true
  | .x11 (.unmapped surface) => LeavesOthers s (s.windowAndSpaceForX11 W surface)
  | .message (.focusOrSpawn appId _ _) =>
      ∃ window ∈ s.spaces.first.windows, W.appId window = appId
  | .action (.focusOrSpawn appId _) =>
      s.locked = false ∧ ∃ window ∈ s.spaces.first.windows, W.appId window = appId
  | .action (.tab index) => s.locked = false ∧ index < s.spaces.first.windows.length
  | .focusMoved target =>
      ∃ given, target = some given ∧ s.knows given = true ∧
        ¬ (FocusTarget.keyboard given).IsLockSurface
  | _ => False

/-- The events that are framed in every way. -/
def Ordinary : Event → Prop
  | .lock .lock | .lock .unlock | .message (.setLayout _) | .connectorConnected _ _
  | .connectorDisconnected _ => False
  | _ => True

variable {focuses focuses' : Prop} {e : Event}

/-- A frame that places nothing, as the frame of an event. -/
theorem Framed.still (h : Framed NoPlaces focuses s t) : Framed (Places W s e) focuses s t :=
  h.mono (fun _ _ => False.elim) Iff.rfl

theorem still_of_ensures {x : Except Panic State} (h : Ensures (Framed NoPlaces focuses s) x) :
    Ensures (Framed (Places W s e) focuses s) x :=
  h.mono fun _ => Framed.still

theorem fresh_of_ensures {x : Except Panic State} (h : Ensures (Framed (Fresh s) focuses s) x) :
    Ensures (Framed (Places W s e) focuses s) x :=
  h.mono fun _ ht => ht.mono (fun _ _ => .inl) Iff.rfl

theorem moved_of_ensures {x : Except Panic State} {m : Option (String × WorkspaceWindow)}
    (h : Ensures (Framed (fun n w => m = some (n, w)) focuses s) x) (hm : moved W s e = m) :
    Ensures (Framed (Places W s e) focuses s) x :=
  h.mono fun _ ht => ht.mono (fun _ _ he => .inr (hm.trans he)) Iff.rfl

theorem processInputEvent_framed (hs : s.Known) (i : InputEvent) :
    Ensures (Framed (Places W s (.input i)) (GivesFocus W s (.input i)) s)
      (s.processInputEvent W i) := by
  cases i with
  | key => exact ensures_ok.mpr keyboardKey_framed.still
  | pointerMotion location =>
      refine (onPointerMove_framed hs).mono fun t ht => ht.mono (fun n w h => .inr ?_) Iff.rfl
      rw [moved, h.1]
      exact h.2
  | pointerMotionAbsolute => exact moved_of_ensures (onPointerMoveAbsolute_framed hs) rfl
  | pointerMotionAbsoluteWindowed =>
      exact moved_of_ensures (onPointerMoveAbsoluteWindowed_framed hs) rfl
  | pointerButton => exact still_of_ensures (onPointerButton_framed hs)
  | tabletTool location =>
      refine (onTabletTool_framed hs).mono fun t ht => ht.mono (fun n w h => .inr ?_) Iff.rfl
      rw [moved, if_neg h.1]
      exact h.2
  | tabletToolTip => exact still_of_ensures (updateKeyboardFocus_framed hs)
  | touchDown => exact still_of_ensures (onTouchDown_framed hs)
  | touchMotion => exact moved_of_ensures (onTouchMotion_framed hs) rfl
  | touchUp => exact ensures_ok.mpr onTouchUp_framed.still
  | touchCancel => exact ensures_ok.mpr onTouchCancel_framed.still

theorem handleSurface_framed (i : SurfaceEvent) :
    Ensures (Framed (Places W s (.surface i)) (GivesFocus W s (.surface i)) s)
      (s.handleSurface W i) := by
  cases i with
  | newSurface => exact ensures_ok.mpr newSurface_shifts.framed.still
  | commit => exact still_of_ensures commit_framed

theorem handleXdg_framed (hs : s.Known) (i : XdgEvent) :
    Ensures (Framed (Places W s (.xdg i)) (GivesFocus W s (.xdg i)) s) (s.handleXdg W i) := by
  cases i with
  | newToplevel => exact fresh_of_ensures newToplevel_framed
  | toplevelDestroyed => exact still_of_ensures (toplevelDestroyed_framed hs)
  | appIdChanged => exact still_of_ensures (framed_of_shifts appIdChanged_shifts)
  | maximize => exact still_of_ensures (framed_of_shifts maximizeRequest_shifts)
  | unmaximize => exact ensures_ok.mpr (framed_refl s).still
  | fullscreen => exact still_of_ensures (framed_of_shifts fullscreenRequest_shifts)
  | unfullscreen => exact still_of_ensures (framed_of_shifts unfullscreenRequest_shifts)
  | move => exact still_of_ensures (moveRequestXdg_framed hs)
  | resize => exact still_of_ensures (resizeRequest_framed hs)
  | grab => exact ensures_ok.mpr (popupGrab_framed hs).still
  | requestActivation => exact still_of_ensures (requestActivation_framed hs)

theorem handleX11_framed (hs : s.Known) (i : X11Event) :
    Ensures (Framed (Places W s (.x11 i)) (GivesFocus W s (.x11 i)) s) (s.handleX11 W i) := by
  cases i with
  | mapWindow => exact fresh_of_ensures mapWindowRequest_framed
  | mappedOverrideRedirect =>
      exact fresh_of_ensures (ensures_ok.mpr mappedOverrideRedirectWindow_framed)
  | unmapped => exact still_of_ensures (unmappedWindow_framed hs)
  | configureNotify => exact still_of_ensures (framed_of_shifts configureNotify_shifts)
  | maximize => exact still_of_ensures (framed_of_shifts maximizeRequestX11_shifts)
  | unmaximize => exact still_of_ensures (framed_of_shifts unmaximizeRequestX11_shifts)
  | fullscreen => exact still_of_ensures (framed_of_shifts fullscreenRequestX11_shifts)
  | unfullscreen => exact still_of_ensures (framed_of_shifts unfullscreenRequestX11_shifts)
  | move => exact still_of_ensures (moveRequestX11_framed hs)
  | resize => exact still_of_ensures (resizeRequestX11_framed hs)

theorem handleDisplayMessage_framed (hs : s.Known) (m : DisplayMessage)
    (hm : Ordinary (.message m)) :
    Ensures (Framed (Places W s (.message m)) (GivesFocus W s (.message m)) s)
      (s.handleDisplayMessage W m) := by
  cases m with
  | setZones => exact ensures_ok.mpr setZones_framed.still
  | moveCurrentWindowToZone => exact moved_of_ensures (moveCurrentWindow_framed hs) rfl
  | focusOrSpawn => exact ensures_ok.mpr (focusWindowByAppId_framed hs).still
  | closeCurrentWindow => exact ensures_ok.mpr closeCurrentWindow_framed.still
  | addWindowRule windowRule =>
      have hrule : Framed NoPlaces False s (s.addWindowRule windowRule) :=
        framed_of_fixed rfl rfl
      exact ensures_ok.mpr hrule.still
  | toggleDebugUi => exact fresh_of_ensures toggleDebugUi_framed
  | setLayout => exact hm.elim
  | shutdown => exact ensures_ok.mpr (framed_refl s).still
  | keyboardInput => exact ensures_ok.mpr (framed_refl s).still
  | vtSwitch => exact ensures_ok.mpr (framed_refl s).still
  | startVideoStream => exact ensures_ok.mpr (framed_refl s).still

/-- While the session is locked no action does anything. -/
theorem execute_locked (h : s.locked = true) (a : Action) : s.execute W a = .ok s := by
  unfold execute
  rw [h]
  cases a <;> rfl

theorem execute_framed (hs : s.Known) (a : Action) :
    Ensures (Framed (Places W s (.action a)) (GivesFocus W s (.action a)) s)
      (s.execute W a) := by
  cases hlocked : s.locked with
  | true =>
      have hnone : ¬ GivesFocus W s (.action a) := by
        cases a <;> simp [GivesFocus, hlocked]
      rw [execute_locked hlocked]
      exact ensures_ok.mpr ((framed_refl s).still.mono (fun _ _ => id) (iff_of_false id hnone))
  | false =>
      unfold execute
      simp only [hlocked, Bool.false_and, Bool.false_eq_true, if_false]
      cases a with
      | changeScale => exact ensures_error
      | setScale => exact ensures_error
      | rotateOutput => exact ensures_error
      | moveWindow =>
          refine moved_of_ensures (moveCurrentWindow_framed hs) ?_
          rw [moved, hlocked]
          rfl
      | close => exact ensures_ok.mpr closeCurrentWindow_framed.still
      | tab index =>
          refine ensures_ok.mpr ((tab_framed hs).still.mono (fun _ _ => id) ?_)
          rw [GivesFocus, hlocked, eq_self, true_and]
      | focusOrSpawn =>
          refine ensures_ok.mpr ((focusWindowByAppId_framed hs).still.mono (fun _ _ => id) ?_)
          rw [GivesFocus, hlocked, eq_self, true_and]
      | quit => exact ensures_ok.mpr (framed_refl s).still
      | vtSwitch => exact ensures_ok.mpr (framed_refl s).still
      | spawn => exact ensures_ok.mpr (framed_refl s).still
      | callback => exact ensures_ok.mpr (framed_refl s).still
      | startVideoStream => exact ensures_ok.mpr (framed_refl s).still
      | none => exact ensures_ok.mpr (framed_refl s).still

/-- What an ordinary step changes. -/
theorem step_framed (hs : s.Known) (he : Ordinary e) :
    Ensures (Framed (Places W s e) (GivesFocus W s e) s) (s.step W e) := by
  cases e with
  | input i => exact processInputEvent_framed hs i
  | surface i => exact handleSurface_framed i
  | xdg i => exact handleXdg_framed hs i
  | x11 i => exact handleX11_framed hs i
  | lock i =>
      cases i with
      | lock => exact he.elim
      | unlock => exact he.elim
      | newSurface => exact ensures_ok.mpr newLockSurface_framed.still
  | layer i =>
      cases i with
      | newLayerSurface => exact still_of_ensures newLayerSurface_framed
      | layerDestroyed => exact ensures_ok.mpr layerDestroyed_framed.still
  | message m => exact handleDisplayMessage_framed hs m he
  | action a => exact execute_framed hs a
  | connectorConnected => exact he.elim
  | connectorDisconnected => exact he.elim
  | focusMoved => exact ensures_ok.mpr moveFocus_framed.still
  | refresh => exact ensures_ok.mpr refresh_framed.still

/-- The events that change which outputs there are, or where they are mapped. -/
def ChangesOutputs : Event → Prop
  | .message (.setLayout _) | .connectorConnected _ _ | .connectorDisconnected _ => True
  | _ => False

theorem changesOutputs_cases (he : ChangesOutputs e) :
    (∃ layout, e = .message (.setLayout layout)) ∨
      (∃ outputName mode, e = .connectorConnected outputName mode) ∨
      ∃ output, e = .connectorDisconnected output := by
  cases e with
  | message m =>
      cases m with
      | setLayout layout => exact .inl ⟨layout, rfl⟩
      | _ => exact he.elim
  | connectorConnected outputName mode => exact .inr (.inl ⟨outputName, mode, rfl⟩)
  | connectorDisconnected output => exact .inr (.inr ⟨output, rfl⟩)
  | _ => exact he.elim

/-- The events that are not ordinary. -/
theorem event_cases (e : Event) :
    Ordinary e ∨ e = .lock .lock ∨ e = .lock .unlock ∨ ChangesOutputs e := by
  cases e with
  | lock i =>
      cases i with
      | lock => exact .inr (.inl rfl)
      | unlock => exact .inr (.inr (.inl rfl))
      | newSurface => exact .inl trivial
  | message m =>
      cases m with
      | setLayout => exact .inr (.inr (.inr trivial))
      | _ => exact .inl trivial
  | connectorConnected => exact .inr (.inr (.inr trivial))
  | connectorDisconnected => exact .inr (.inr (.inr trivial))
  | _ => exact .inl trivial

theorem step_keepsOutputs (hs : s.Known) (he : ¬ ChangesOutputs e) :
    Ensures (KeepsOutputs s) (s.step W e) := by
  rcases event_cases e with hordinary | rfl | rfl | hchanges
  · exact (step_framed hs hordinary).mono fun _ ht => ht.outputs
  · exact ensures_ok.mpr lock_keepsOutputs
  · exact ensures_ok.mpr unlock_keepsOutputs
  · exact absurd hchanges he

/-- What an event that changes the outputs does besides. -/
theorem step_keepsRest (he : ChangesOutputs e) : Ensures (KeepsRest s) (s.step W e) := by
  rcases changesOutputs_cases he with ⟨layout, rfl⟩ | ⟨outputName, mode, rfl⟩ | ⟨output, rfl⟩
  · exact ensures_ok.mpr setLayout_keepsRest
  · exact ensures_ok.mpr ⟨⟨fun _ _ => .inl, le_rfl, id⟩, ⟨rfl, (and_iff_left not_false).symm⟩⟩
  · exact ensures_ok.mpr ⟨⟨fun _ _ => .inl, le_rfl, id⟩, ⟨rfl, (and_iff_left not_false).symm⟩⟩

theorem step_keepsWindows (hs : s.Known) :
    Ensures (KeepsWindows (Places W s e) s) (s.step W e) := by
  have hnothing : ∀ {t}, KeepsWindows NoPlaces s t → KeepsWindows (Places W s e) s t :=
    fun h => h.mono fun _ _ => False.elim
  rcases event_cases e with hordinary | rfl | rfl | hchanges
  · exact (step_framed hs hordinary).mono fun _ ht => ht.windows
  · exact ensures_ok.mpr (hnothing lock_keepsWindows)
  · exact ensures_ok.mpr (hnothing (unlock_keepsWindows hs))
  · exact (step_keepsRest hchanges).mono fun _ ht => hnothing ht.1

theorem new_known : State.new.Known := by
  rintro window (⟨name, hmem⟩ | hfocus | ⟨_, hgrab, -⟩ | ⟨_, hgrab, -⟩ | hui)
  · exact absurd hmem List.not_mem_nil
  · cases hfocus
  · cases hgrab
  · cases hgrab
  · cases hui

/-- In every run, the windows the state refers to have been made. -/
theorem reachable_known {ok : State → World × Event → Prop}
    (h : Machine.ReachableUnder system ok s) : s.Known :=
  h.invariant (fun _ hnew => hnew ▸ new_known : ∀ s, s = State.new → s.Known)
    fun _ _ t hs _ hstep => (step_keepsWindows hs t hstep).known hs

/-- The induction rule for the runs of the display thread, with what is known of the
states they reach. -/
theorem reachable_invariant {ok : State → World × Event → Prop} {J I : State → Prop}
    (hJ : ∀ s, Machine.ReachableUnder system ok s → J s) (hnew : I State.new)
    (hstep : ∀ s t W e, s.Known → J s → I s → ok s (W, e) → s.step W e = .ok t → I t)
    (h : Machine.ReachableUnder system ok s) : I s := by
  refine h.invariant_using (J := fun s => s.Known ∧ J s)
    (fun s hr => ⟨reachable_known hr, hJ s hr⟩) (fun s hinit => ?_)
    fun s i t hs hI hok ht => hstep s t i.1 i.2 hs.1 hs.2 hI hok ht
  have hinit : s = State.new := hinit
  exact hinit ▸ hnew

end State

end Scape.Display
