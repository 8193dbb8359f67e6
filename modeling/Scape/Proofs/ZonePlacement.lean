import Scape.Proofs.RequestSafety

/-!
# Windows are placed by zones that may be gone

A window is placed by the zone a message asks for, by that of the rule for its app id,
or by the default zone. All three are names, and the zone of the name is taken from a
map that `set_zones` empties without a look at who refers to it. `placeWindow` indexes
the map, so a name that is gone ends the thread.

`placing` is the window an event places, and `ZoneKnown` asks that its zone be there.
-/

namespace Scape.Display

open Scape Fallible

@[grind] def Panic.IsZone : Panic → Prop
  | .zone _ => True
  | _ => False

namespace State

variable {s t : State} {W : World} {e : Event} {window : WorkspaceWindow} {name : String}
  {zone : Option String} {surface : WlSurface} {x11 : X11Surface} {left top : Bool}
  {point location : Point}

/-- The zone a window is placed by is there, if it is placed by one. -/
def ZoneFound (W : World) (s : State) (window : WorkspaceWindow) (zone : Option String) : Prop :=
  ∀ zoneName, s.zoneFor W window zone = some zoneName → zoneName ∈ s.zones

/-! ## Placing -/

theorem placement_of_found (h : ZoneFound W s window zone) :
    ∃ rect, s.placement W window zone = .ok rect := by
  rw [placement]
  split
  next zoneName hzone =>
    obtain ⟨found, hfound⟩ :=
      Option.isSome_iff_exists.mp (AList.lookup_isSome.mpr (h zoneName hzone))
    rw [hfound]
    exact ⟨_, rfl⟩
  next => exact ⟨_, rfl⟩

theorem placement_of_missing (h : ¬ ZoneFound W s window zone) :
    ∃ zoneName, s.placement W window zone = .error (.zone zoneName) := by
  simp only [ZoneFound, not_forall] at h
  obtain ⟨zoneName, hzone, hmissing⟩ := h
  refine ⟨zoneName, ?_⟩
  rw [placement, hzone]
  dsimp only
  rw [AList.lookup_eq_none.mpr hmissing]
  rfl

theorem placeWindow_of_found (hname : name ∈ s.spaces.keys) (h : ZoneFound W s window zone) :
    ∃ t, s.placeWindow W name window zone = .ok t ∧ t.spaces.keys = s.spaces.keys ∧
      (t.spaces.value name).Holds window := by
  obtain ⟨rect, hrect⟩ := placement_of_found h
  refine ⟨s.modifySpace name fun space => space.mapElement W.zIndex window rect.loc, ?_, rfl, ?_⟩
  · rw [placeWindow, Registry.get?_of_mem hname, hrect]
    rfl
  · rw [modifySpace, Registry.modify_value, Function.update_self]
    exact Space.mem_windows_mapElement.mpr (.inr rfl)

theorem placeWindow_of_missing (hname : name ∈ s.spaces.keys)
    (h : ¬ ZoneFound W s window zone) :
    ∃ zoneName, s.placeWindow W name window zone = .error (.zone zoneName) := by
  obtain ⟨zoneName, hmissing⟩ := placement_of_missing h
  refine ⟨zoneName, ?_⟩
  rw [placeWindow, Registry.get?_of_mem hname, hmissing]
  rfl

/-! ## The events that place -/

/-- The window with the focus, which is placed by a zone. -/
def currentPlaced (s : State) (zoneName : String) : Option (WorkspaceWindow × Option String) :=
  match s.keyboardFocus with
  | some (.window window) => some (window, some zoneName)
  | _ => none

/-- The window an event places, and the zone that is asked for. -/
def placing (W : World) (s : State) : Event → Option (WorkspaceWindow × Option String)
  | .xdg (.newToplevel surface) => some ((s.freshWindow (.wayland surface)).1, none)
  | .xdg (.appIdChanged surface) =>
      (s.windowAndSpaceForSurface W surface).map fun found => (found.1, none)
  | .x11 (.mapWindow surface) =>
      if W.overrideRedirect surface then none
      else if W.mapsX11 surface then some ((s.freshWindow (.x11 surface)).1, none)
      else none
  | .x11 (.unfullscreen surface) =>
      (s.windowAndSpaceForX11 W surface).map fun found => (found.1, none)
  | .message (.moveCurrentWindowToZone zoneName) => s.currentPlaced zoneName
  | .message .toggleDebugUi =>
      match s.debugUi with
      | some _ => none
      | none => some ((s.freshWindow .egui).1, none)
  | .action (.moveWindow _ zoneName) => if s.locked then none else s.currentPlaced zoneName
  | _ => none

/-- The window an event places is placed by a zone that is there, or by none. -/
def ZoneKnown (W : World) (s : State) (e : Event) : Prop :=
  ∀ placed, placing W s e = some placed → ZoneFound W s placed.1 placed.2

/-- The event panics on no zone, and what it places is in the first space then. -/
def PlacesSafely (W : World) (s : State) (e : Event) : Prop :=
  Avoids Panic.IsZone (s.step W e) ∧
    ∀ placed, placing W s e = some placed →
      ∃ t, s.step W e = .ok t ∧ t.spaces.first.Holds placed.1

/-- A handler that places a window: it does so in the first space, in a state that has
these spaces and zones, and what follows leaves the spaces alone. -/
structure PlacesBy (W : World) (s : State) (placed : WorkspaceWindow × Option String)
    (x : Except Panic State) (u : State) (g : State → Except Panic State) : Prop where
  spaces : u.spaces = s.spaces
  found : ZoneFound W u placed.1 placed.2 ↔ ZoneFound W s placed.1 placed.2
  eq : x = u.placeWindow W s.spaces.firstKey placed.1 placed.2 >>= g
  rest : ∀ t, t.spaces.keys = s.spaces.keys →
    (t.spaces.value s.spaces.firstKey).Holds placed.1 →
      ∃ t', g t = .ok t' ∧ t'.spaces = t.spaces

/-- Some handlers only place the window. -/
theorem placesBy_self {placed : WorkspaceWindow × Option String} {x : Except Panic State}
    (h : x = s.placeWindow W s.spaces.firstKey placed.1 placed.2) :
    PlacesBy W s placed x s pure where
  spaces := rfl
  found := Iff.rfl
  eq := h.trans (bind_pure _).symm
  rest t _ _ := ⟨t, rfl, rfl⟩

theorem moveCurrentWindow_placesBy {placed : WorkspaceWindow × Option String}
    {zoneName : String}
    (h : s.currentPlaced zoneName = some placed) :
    PlacesBy W s placed (s.moveCurrentWindow W zoneName) s pure := by
  refine placesBy_self ?_
  unfold currentPlaced at h
  cases hfocus : s.keyboardFocus with
  | none =>
      rw [hfocus] at h
      cases h
  | some target =>
      rw [hfocus] at h
      cases target with
      | window window =>
          cases h
          rw [moveCurrentWindow, hfocus]
      | _ => cases h

/-- What a map request does with the window it has placed. -/
def afterMap (W : World) (window : WorkspaceWindow) (s : State) : Except Panic State := do
  let space ← expect .space (s.spaces.get? s.spaces.firstKey)
  let _ ← expect .elementLocation (elementBbox W space window)
  return s.setFocus (.window window)

theorem mapWindowRequest_placesBy (hoverride : W.overrideRedirect x11 = false)
    (hmaps : W.mapsX11 x11 = true) :
    PlacesBy W s ((s.freshWindow (.x11 x11)).1, none) (s.mapWindowRequest W x11)
      (s.freshWindow (.x11 x11)).2 (afterMap W (s.freshWindow (.x11 x11)).1) where
  spaces := rfl
  found := Iff.rfl
  eq := by
    rw [mapWindowRequest, hoverride, hmaps]
    rfl
  rest t hkeys hholds := by
    rw [← Registry.firstKey_congr hkeys] at hholds
    obtain ⟨location, hlocation⟩ :=
      Option.isSome_iff_exists.mp (Space.elementLocation_isSome_iff.mpr hholds)
    refine ⟨t.setFocus (.window (s.freshWindow (.x11 x11)).1), ?_, rfl⟩
    unfold afterMap elementBbox
    rw [Registry.get?_of_mem t.spaces.firstKey_mem]
    dsimp only [expect_some, bind, Except.bind]
    rw [hlocation]
    rfl

theorem step_placesBy {placed : WorkspaceWindow × Option String}
    (h : placing W s e = some placed) : ∃ u g, PlacesBy W s placed (s.step W e) u g := by
  cases e with
  | xdg i =>
      cases i with
      | newToplevel surface =>
          cases h
          exact ⟨(s.freshWindow (.wayland surface)).2, _, rfl, Iff.rfl, rfl,
            fun t _ _ => ⟨_, rfl, rfl⟩⟩
      | appIdChanged surface =>
          obtain ⟨⟨window, name⟩, hfound, rfl⟩ := Option.map_eq_some_iff.mp h
          obtain ⟨rfl, -⟩ := windowAndSpaceForSurface_eq_some hfound
          refine ⟨s, pure, placesBy_self ?_⟩
          rw [step, handleXdg, appIdChanged, hfound]
      | _ => cases h
  | x11 i =>
      cases i with
      | mapWindow surface =>
          dsimp only [placing] at h
          split at h
          next => cases h
          next hoverride =>
            split at h
            next hmaps =>
              cases h
              exact ⟨_, _, mapWindowRequest_placesBy (Bool.eq_false_of_not_eq_true hoverride) hmaps⟩
            next => cases h
      | unfullscreen surface =>
          obtain ⟨⟨window, name⟩, hfound, rfl⟩ := Option.map_eq_some_iff.mp h
          obtain ⟨rfl, -⟩ := windowAndSpaceForX11_eq_some hfound
          refine ⟨s, pure, placesBy_self ?_⟩
          rw [step, handleX11, unfullscreenRequestX11, hfound]
      | _ => cases h
  | message m =>
      cases m with
      | moveCurrentWindowToZone zoneName => exact ⟨s, pure, moveCurrentWindow_placesBy h⟩
      | toggleDebugUi =>
          dsimp only [placing] at h
          split at h
          next => cases h
          next hui =>
            cases h
            refine ⟨{ (s.freshWindow .egui).2 with debugUi := some (s.freshWindow .egui).1 }, pure,
              rfl, Iff.rfl, ?_, fun t _ _ => ⟨t, rfl, rfl⟩⟩
            rw [step, handleDisplayMessage, toggleDebugUi, hui]
            exact (bind_pure _).symm
      | _ => cases h
  | action a =>
      cases a with
      | moveWindow window zoneName =>
          dsimp only [placing] at h
          split at h
          next => cases h
          next hlocked =>
            refine ⟨s, pure, ?_⟩
            rw [step, execute, Bool.eq_false_of_not_eq_true hlocked]
            exact moveCurrentWindow_placesBy h
      | _ => cases h
  | _ => cases h

theorem step_of_found {placed : WorkspaceWindow × Option String}
    (h : placing W s e = some placed) (hfound : ZoneFound W s placed.1 placed.2) :
    ∃ t, s.step W e = .ok t ∧ t.spaces.first.Holds placed.1 := by
  obtain ⟨u, g, hby⟩ := step_placesBy h
  have hname : s.spaces.firstKey ∈ u.spaces.keys := hby.spaces ▸ s.spaces.firstKey_mem
  obtain ⟨t, hplaced, hkeys, hholds⟩ := placeWindow_of_found hname (hby.found.mpr hfound)
  rw [hby.spaces] at hkeys
  obtain ⟨t', hrest, hspaces⟩ := hby.rest t hkeys hholds
  refine ⟨t', ?_, ?_⟩
  · rw [hby.eq, hplaced]
    exact hrest
  · rw [hspaces, Registry.first, Registry.firstKey_congr hkeys]
    exact hholds

theorem step_of_missing {placed : WorkspaceWindow × Option String}
    (h : placing W s e = some placed) (hmissing : ¬ ZoneFound W s placed.1 placed.2) :
    ∃ zoneName, s.step W e = .error (.zone zoneName) := by
  obtain ⟨u, g, hby⟩ := step_placesBy h
  have hname : s.spaces.firstKey ∈ u.spaces.keys := hby.spaces ▸ s.spaces.firstKey_mem
  obtain ⟨zoneName, hpanic⟩ := placeWindow_of_missing hname (fun hu => hmissing (hby.found.mp hu))
  refine ⟨zoneName, ?_⟩
  rw [hby.eq, hpanic]
  rfl

/-! ## The events that place nothing

No other function indexes the zones: the panics of the rest are of other kinds, which
the rules of `Avoids` read off each body. -/

@[grind ←] theorem commitOffset_avoids : Avoids Panic.IsZone (s.commitOffset W surface) := by
  rw [commitOffset]
  split
  · exact avoids_ok
  split
  · exact avoids_ok
  · grind

@[grind ←] theorem startMove_avoids {startData : GrabStartData} {grabSpace : Option String} :
    Avoids Panic.IsZone (s.startMove W surface window name startData point grabSpace) := by
  rw [startMove]
  grind

@[grind ←] theorem movePointerRequest_avoids :
    Avoids Panic.IsZone (s.movePointerRequest W surface) := by
  rw [movePointerRequest]
  grind

@[grind ←] theorem startResize_avoids :
    Avoids Panic.IsZone (s.startResize W surface window name left top) := by
  rw [startResize]
  grind

@[grind ←] theorem resizePointerRequest_avoids :
    Avoids Panic.IsZone (s.resizePointerRequest W surface left top) := by
  rw [resizePointerRequest]
  grind

@[grind ←] theorem updateKeyboardFocus_avoids :
    Avoids Panic.IsZone (s.updateKeyboardFocus W point) := by
  have hlayer : ∀ output upper lower,
      Avoids Panic.IsZone (s.layerFocus W output upper lower point) := by
    intro output upper lower
    unfold layerFocus
    grind
  rw [updateKeyboardFocus]
  grind

@[grind ←] theorem grabMotion_avoids {grab : SurfaceGrab} :
    Avoids Panic.IsZone (s.grabMotion W grab location) := by
  rw [grabMotion]
  grind

@[grind ←] theorem pointerMotion_avoids {under : Option PointerFocusTarget} :
    Avoids Panic.IsZone (s.pointerMotion W under location) := by
  rw [pointerMotion, handleMotion]
  grind

theorem processInputEvent_avoids (i : InputEvent) :
    Avoids Panic.IsZone (s.processInputEvent W i) := by
  unfold processInputEvent
  cases i with
  | key => exact avoids_ok
  | pointerMotion => grind [onPointerMove]
  | pointerMotionAbsolute => grind [onPointerMoveAbsolute]
  | pointerMotionAbsoluteWindowed => grind [onPointerMoveAbsoluteWindowed]
  | pointerButton => grind [onPointerButton]
  | tabletTool => grind [onTabletTool]
  | tabletToolTip => exact updateKeyboardFocus_avoids
  | touchDown => grind [onTouchDown]
  | touchMotion => grind [onTouchMotion]
  | touchUp => exact avoids_ok
  | touchCancel => exact avoids_ok

theorem handleXdg_avoids (i : XdgEvent) (h : placing W s (.xdg i) = none) :
    Avoids Panic.IsZone (s.handleXdg W i) := by
  unfold handleXdg
  cases i with
  | newToplevel => cases h
  | toplevelDestroyed => grind [toplevelDestroyed]
  | appIdChanged surface =>
      have hnone := Option.map_eq_none_iff.mp h
      simp [appIdChanged, hnone]
  | maximize => grind [maximizeRequest]
  | unmaximize => exact avoids_ok
  | fullscreen => exact fullscreenRequest_succeeds.avoids
  | unfullscreen => grind [unfullscreenRequest]
  | move => grind [moveRequestXdg]
  | resize => grind [resizeRequest]
  | grab => exact avoids_ok
  | requestActivation => grind [requestActivation]

theorem handleX11_avoids (i : X11Event) (h : placing W s (.x11 i) = none) :
    Avoids Panic.IsZone (s.handleX11 W i) := by
  unfold handleX11
  cases i with
  | mapWindow =>
      dsimp only [placing] at h
      grind [mapWindowRequest]
  | mappedOverrideRedirect => exact avoids_ok
  | unmapped => grind [unmappedWindow]
  | configureNotify => grind [configureNotify]
  | maximize surface =>
      dsimp only
      rw [maximizeRequestX11]
      split
      · exact avoids_ok
      · simp only [avoids_expect_bind, Panic.IsZone, false_implies, true_and, avoids_pure,
          implies_true]
  | unmaximize => grind [unmaximizeRequestX11]
  | fullscreen => grind [fullscreenRequestX11]
  | unfullscreen surface =>
      have hnone := Option.map_eq_none_iff.mp h
      simp [unfullscreenRequestX11, hnone]
  | move => exact moveRequestX11_succeeds.avoids
  | resize => grind [resizeRequestX11]

theorem moveCurrentWindow_avoids {zoneName : String}
    (h : s.currentPlaced zoneName = none) :
    Avoids Panic.IsZone (s.moveCurrentWindow W zoneName) := by
  rw [moveCurrentWindow]
  cases hfocus : s.keyboardFocus with
  | none => exact avoids_ok
  | some target =>
      cases target with
      | window window =>
          rw [currentPlaced, hfocus] at h
          cases h
      | _ => exact avoids_ok

theorem handleDisplayMessage_avoids (m : DisplayMessage) (h : placing W s (.message m) = none) :
    Avoids Panic.IsZone (s.handleDisplayMessage W m) := by
  unfold handleDisplayMessage
  cases m with
  | moveCurrentWindowToZone => exact moveCurrentWindow_avoids h
  | toggleDebugUi =>
      dsimp only
      rw [toggleDebugUi]
      cases hui : s.debugUi with
      | none =>
          rw [placing, hui] at h
          cases h
      | some window => exact avoids_ok
  | _ => exact avoids_ok

theorem execute_avoids (a : Action) (h : placing W s (.action a) = none) :
    Avoids Panic.IsZone (s.execute W a) := by
  unfold execute
  cases a with
  | moveWindow window zoneName =>
      dsimp only [placing] at h
      split at h
      next hlocked =>
        rw [hlocked]
        exact avoids_ok
      next hlocked =>
        rw [Bool.eq_false_of_not_eq_true hlocked]
        exact moveCurrentWindow_avoids h
  | _ => grind

theorem step_of_none (h : placing W s e = none) : Avoids Panic.IsZone (s.step W e) := by
  unfold step
  cases e with
  | input i => exact processInputEvent_avoids i
  | surface i =>
      cases i with
      | newSurface => exact avoids_ok
      | commit => grind [handleSurface, commit]
  | xdg i => exact handleXdg_avoids i h
  | x11 i => exact handleX11_avoids i h
  | layer i =>
      cases i with
      | newLayerSurface => grind [handleLayer, newLayerSurface]
      | layerDestroyed => exact avoids_ok
  | message m => exact handleDisplayMessage_avoids m h
  | action a => exact execute_avoids a h
  | _ => exact avoids_ok

/-! ## Every step -/

theorem placesSafely_iff : PlacesSafely W s e ↔ ZoneKnown W s e := by
  constructor
  · rintro ⟨havoids, -⟩ placed hplacing
    by_contra hmissing
    obtain ⟨zoneName, hpanic⟩ := step_of_missing hplacing hmissing
    exact havoids _ hpanic trivial
  · intro hknown
    refine ⟨?_, fun placed hplacing => step_of_found hplacing (hknown placed hplacing)⟩
    cases hplacing : placing W s e with
    | none => exact step_of_none hplacing
    | some placed =>
        obtain ⟨t, hstep, -⟩ := step_of_found hplacing (hknown placed hplacing)
        rw [hstep]
        exact avoids_ok

/-- A run from any state panics on no zone, and places every window it is to place, if
and only if each window is placed by a zone that is there, or by none. -/
theorem zones_never_missed_iff (s : State) (is : List (World × Event)) :
    (Avoids Panic.IsZone (run next s is) ∧
      ∀ p ∈ steps next s is, ∀ placed, placing p.2.1 p.1 p.2.2 = some placed →
        ∃ t, next p.1 p.2 = .ok t ∧ t.spaces.first.Holds placed.1) ↔
      ∀ p ∈ steps next s is, ZoneKnown p.2.1 p.1 p.2.2 := by
  rw [avoids_run_iff, ← forall₂_and]
  exact forall₂_congr fun p _ => placesSafely_iff

/-- The default zone outlives the zones. -/
theorem emptyZones_panic :
    run next State.new
      [(World.quiet, .message (.setZones [⟨"left", 0, 0, 1280, 1440, true⟩])),
        (World.quiet, .message (.setZones [])), (World.quiet, .xdg (.newToplevel ⟨0⟩))] =
      .error (.zone "left") := rfl

end State

end Scape.Display
