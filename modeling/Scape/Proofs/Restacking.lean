import Scape.Lib.Levels
import Scape.Proofs.SpaceNames

/-!
# What moves in a space

Most events move no window, and those that do move one (`restacked`): the one that is clicked,
dragged, focused, newly mapped, or whose client asks. It comes to lie on top of its level, and
no other window changes its location or its place among the rest.

The level of a window never changes, so in every state that is reached the windows of a space
lie by their levels, and no window is in a space twice.
-/

namespace Scape.Display

open Scape Fallible Levels

namespace State

variable {s t u : State} {W : World} {e : Event} {window : WorkspaceWindow} {name : String}
  {zone : Option String} {surface : WlSurface} {x11 : X11Surface} {point location : Point}
  {zIndex : WorkspaceWindow → Nat} {windows : List WorkspaceWindow}

/-! ## The windows of an event -/

/-- The window that a press at a point is for. -/
def clicked (W : World) (s : State) (point : Point) : List WorkspaceWindow :=
  (W.elementUnder s.spaces.first point).toList

/-- The windows that a surface has in the first space. -/
def ofSurface (W : World) (s : State) (surface : WlSurface) : List WorkspaceWindow :=
  s.spaces.first.windows.filter fun window => W.surfaceOf window = some surface

/-- The window that is to be activated for a surface. -/
def toActivate (W : World) (s : State) (surface : WlSurface) : List WorkspaceWindow :=
  ((s.surfaceSpace surface).bind s.spaces.get?).toList.flatMap fun space =>
    (space.windows.find? fun window => W.surfaceOf window = some surface).toList

/-- The windows an event may move: one at most, unless a surface has several. -/
def restacked (W : World) (s : State) : Event → List WorkspaceWindow
  | .input (.pointerButton pressed) => if pressed then clicked W s s.pointerLocation else []
  | .input .tabletToolTip => clicked W s s.pointerLocation
  | .input (.touchDown location) => clicked W s location
  | .surface (.commit surface) => ofSurface W s surface
  | .xdg (.newToplevel surface) => [(s.freshWindow (.wayland surface)).1]
  | .xdg (.appIdChanged surface) | .xdg (.maximize surface) =>
      (s.windowAndSpaceForSurface W surface).toList.map Prod.fst
  | .xdg (.requestActivation surface age) => if age < 10 then toActivate W s surface else []
  | .x11 (.mapWindow surface) | .x11 (.mappedOverrideRedirect surface) =>
      [(s.freshWindow (.x11 surface)).1]
  | .x11 (.configureNotify surface _) | .x11 (.maximize surface) | .x11 (.unmaximize surface)
  | .x11 (.unfullscreen surface) => (s.windowAndSpaceForX11 W surface).toList.map Prod.fst
  | .message (.focusOrSpawn appId _ _) | .action (.focusOrSpawn appId _) =>
      (findByAppId W appId 0 none false s.spaces.first.windows.reverse).toList
  | .action (.tab index) => s.spaces.first.windows.reverse[index]?.toList
  | .message .toggleDebugUi => [(s.freshWindow .egui).1]
  | e => (moved W s e).toList.map Prod.snd

/-! ## Updates of spaces -/

/-- The windows of every space lie by their levels. -/
def Stacked (zIndex : WorkspaceWindow → Nat) (s : State) : Prop :=
  ∀ name, Layered zIndex (s.spaces.value name).elements

/-- In every space only these windows have been moved. -/
def Settled (zIndex : WorkspaceWindow → Nat) (windows : List WorkspaceWindow) (s t : State) :
    Prop :=
  s.Stacked zIndex → ∀ name,
    Settles zIndex windows (s.spaces.value name).elements (t.spaces.value name).elements

/-- Windows have gone at most. -/
def Thinned (s t : State) : Prop :=
  ∀ name, (t.spaces.value name).elements.Sublist (s.spaces.value name).elements

theorem thinned_of_spaces (h : t.spaces = s.spaces) : Thinned s t := by
  intro name
  rw [h]

theorem Thinned.trans (h : Thinned s t) (h' : Thinned t u) : Thinned s u :=
  fun name => (h' name).trans (h name)

theorem Thinned.settled (h : Thinned s t) : Settled zIndex windows s t :=
  fun hs name => settles_of_sublist (hs name) (h name)

theorem settled_of_spaces (h : t.spaces = s.spaces) : Settled zIndex windows s t :=
  (thinned_of_spaces h).settled

theorem settled_of_ensures {x : Except Panic State} (h : Ensures (fun t => t.spaces = s.spaces) x) :
    Ensures (Settled zIndex windows s) x :=
  h.mono fun _ => settled_of_spaces

theorem Settled.after (h : Settled zIndex windows t u) (hspaces : t.spaces = s.spaces) :
    Settled zIndex windows s u := by
  unfold Settled Stacked at h ⊢
  rwa [hspaces] at h

theorem Settled.stacked (h : Settled zIndex windows s t) (hs : s.Stacked zIndex) :
    t.Stacked zIndex :=
  fun name => (h hs name).layered

/-- A change of one space. -/
theorem Settled.modifySpace {f : Space → Space} (h : Settled zIndex windows s t)
    (hf : t.Stacked zIndex → ∀ xs, Settles zIndex windows xs (t.spaces.value name).elements →
      Settles zIndex windows xs (f (t.spaces.value name)).elements) :
    Settled zIndex windows s (t.modifySpace name f) := by
  intro hs name'
  show Settles zIndex windows _ (Function.update t.spaces.value name _ name').elements
  rw [Function.update_apply]
  split
  next he =>
    subst he
    exact hf (h.stacked hs) _ (h hs name')
  next => exact h hs name'

theorem Settled.mapElement (h : Settled W.zIndex windows s t) (hmem : window ∈ windows) :
    Settled W.zIndex windows s
      (t.modifySpace name fun space => space.mapElement W.zIndex window location) :=
  h.modifySpace fun _ _ hxs => hxs.put hmem

theorem Settled.raiseElement (h : Settled W.zIndex windows s t) (hmem : window ∈ windows) :
    Settled W.zIndex windows s
      (t.modifySpace name fun space => space.raiseElement W.zIndex window) := by
  refine h.modifySpace fun _ xs hxs => ?_
  unfold Space.raiseElement
  split
  · exact hxs.put hmem
  · exact hxs

theorem settled_refl (s : State) : Settled zIndex windows s s := settled_of_spaces rfl

theorem thinned_unmapElem : Thinned s (s.modifySpace name fun space => space.unmapElem window) := by
  intro name'
  show (Function.update s.spaces.value name _ name').elements.Sublist _
  rw [Function.update_apply]
  split
  next he =>
    subst he
    exact List.filter_sublist
  next => exact .refl _

/-! ## Parts of the handlers -/

theorem placeWindow_settled (hmem : window ∈ windows) :
    Ensures (Settled W.zIndex windows s) (s.placeWindow W name window zone) := by
  rw [placeWindow, ensures_expect_bind]
  intro _ _
  rw [ensures_bind]
  intro rect _
  exact ensures_pure.mpr ((settled_refl s).mapElement hmem)

theorem focusWindow_settled (hmem : window ∈ windows) :
    Settled W.zIndex windows s (s.focusWindow W window name) := by
  rw [focusWindow]
  split
  · exact settled_refl s
  · exact (settled_refl s).raiseElement hmem

/-- To raise the topmost window changes nothing. -/
theorem raiseElement_top {space : Space} (h : Layered zIndex space.elements)
    (htop : space.windows.getLast? = some window) :
    (space.raiseElement zIndex window).elements = space.elements := by
  rw [Space.windows, List.getLast?_map, Option.map_eq_some_iff] at htop
  obtain ⟨⟨window, location⟩, hlast, rfl⟩ := htop
  obtain ⟨below, hbelow⟩ := List.getLast?_eq_some_iff.mp hlast
  have hmem : (window, location) ∈ space.elements := List.mem_of_getLast? hlast
  rw [Space.raiseElement]
  split
  next found hfound =>
    obtain ⟨element, hfind, rfl⟩ := Option.map_eq_some_iff.mp hfound
    have hfst : element.1 = window := by simpa using List.find?_some hfind
    have heq : element = (window, location) :=
      List.inj_on_of_nodup_map h.nodup (List.mem_of_find?_eq_some hfind) hmem hfst
    rw [heq]
    rw [hbelow] at h
    show Levels.put zIndex space.elements window location = space.elements
    rw [hbelow]
    exact put_last h
  next => rfl

theorem focusTop_thinned (hs : s.Stacked W.zIndex) : Thinned s (s.focusTop W name) := by
  rw [focusTop]
  split
  next window htop =>
    rw [focusWindow]
    split
    · exact thinned_of_spaces rfl
    intro name'
    show (Function.update s.spaces.value name _ name').elements.Sublist _
    rw [Function.update_apply]
    split
    next he =>
      subst he
      rw [raiseElement_top (hs name') htop]
    next => exact .refl _
  next => exact thinned_of_spaces rfl

/-- A window goes, and the one below it gets the focus where it is. -/
theorem unmap_settled :
    Settled W.zIndex windows s
      ((s.modifySpace name fun space => space.unmapElem window).focusTop W name) := by
  intro hs
  have hthinned : Thinned s (s.modifySpace name fun space => space.unmapElem window) :=
    thinned_unmapElem
  have hsettled : Settled W.zIndex [] s
      (s.modifySpace name fun space => space.unmapElem window) := hthinned.settled
  have hstacked := hsettled.stacked hs
  exact (hthinned.trans (focusTop_thinned hstacked)).settled hs

theorem focusElement_settled (hmem : window ∈ windows) :
    Settled W.zIndex windows s (s.focusElement W window) := by
  have hraised : Settled W.zIndex windows s
      (s.modifySpace s.spaces.firstKey fun space => space.raiseElement W.zIndex window) :=
    (settled_refl s).raiseElement hmem
  unfold focusElement
  dsimp only
  split
  · exact hraised
  · split
    · exact settled_refl s
    · split <;> exact hraised

theorem updateKeyboardFocus_settled :
    Ensures (Settled W.zIndex (clicked W s point) s) (s.updateKeyboardFocus W point) := by
  rw [updateKeyboardFocus]
  split
  · exact ensures_ok.mpr (settled_refl s)
  rw [ensures_bind]
  intro above _
  split
  · exact ensures_pure.mpr (settled_of_spaces rfl)
  split
  next window hwindow =>
    refine ensures_pure.mpr (focusElement_settled ?_)
    rw [clicked, hwindow]
    exact List.mem_singleton_self window
  rw [ensures_bind]
  intro below _
  split <;> exact ensures_pure.mpr (settled_of_spaces rfl)

theorem grabMotion_settled {grab : SurfaceGrab} :
    Ensures (Settled W.zIndex ((s.grabMoved grab).toList.map Prod.snd) s)
      (s.grabMotion W grab location) := by
  rw [grabMotion, grabMoved]
  cases grab.kind with
  | move initial =>
      dsimp only
      rw [ensures_expect_bind]
      intro _ _
      exact ensures_pure.mpr ((settled_refl s).mapElement (List.mem_singleton_self _))
  | resize => exact ensures_ok.mpr (settled_refl s)

theorem handleMotion_settled :
    Ensures (Settled W.zIndex ((pointerMoved W s).toList.map Prod.snd) s) (s.handleMotion W) := by
  rw [handleMotion, pointerMoved]
  cases W.pointerGrab with
  | nobody => exact ensures_ok.mpr (settled_of_spaces rfl)
  | smithay passes =>
      refine ensures_ok.mpr (settled_of_spaces ?_)
      cases passes <;> rfl
  | compositor =>
      cases s.pointerGrab with
      | none => exact ensures_ok.mpr (settled_refl s)
      | some grab =>
          dsimp only
          split
          · exact ensures_ok.mpr (settled_of_spaces rfl)
          split
          · exact ensures_error
          · exact grabMotion_settled

theorem pointerMotion_settled {under : Option PointerFocusTarget} :
    Ensures (Settled W.zIndex ((pointerMoved W s).toList.map Prod.snd) s)
      (s.pointerMotion W under location) :=
  handleMotion_settled.mono fun _ ht => ht.after rfl

theorem onTouchMotion_settled {slot : Nat} :
    Ensures (Settled W.zIndex ((touchMoved W s slot).toList.map Prod.snd) s)
      (s.onTouchMotion W slot location) := by
  rw [onTouchMotion, touchMoved]
  split
  · cases s.activeTouchGrab W slot with
    | none => exact ensures_ok.mpr (settled_refl s)
    | some grab => exact grabMotion_settled
  · exact ensures_ok.mpr (settled_refl s)

/-! ## Input events -/

theorem processInputEvent_settled (i : InputEvent) :
    Ensures (Settled W.zIndex (restacked W s (.input i)) s) (s.processInputEvent W i) := by
  cases i with
  | key =>
      refine ensures_ok.mpr (settled_of_spaces ?_)
      rw [keyboardKey]
      split <;> rfl
  | pointerMotion location =>
      show Ensures _ (s.onPointerMove W location)
      unfold onPointerMove restacked moved
      dsimp only
      split
      · exact ensures_ok.mpr (settled_of_spaces rfl)
      · exact pointerMotion_settled
  | pointerMotionAbsolute location =>
      show Ensures _ (s.onPointerMoveAbsolute W location)
      rw [onPointerMoveAbsolute, ensures_expect_bind]
      intro _ _
      exact pointerMotion_settled
  | pointerMotionAbsoluteWindowed outputName location =>
      show Ensures _ (s.onPointerMoveAbsoluteWindowed W outputName location)
      rw [onPointerMoveAbsoluteWindowed, ensures_expect_bind]
      intro _ _
      rw [ensures_expect_bind]
      intro _ _
      exact pointerMotion_settled
  | pointerButton pressed =>
      show Ensures _ (s.onPointerButton W pressed)
      rw [onPointerButton, ensures_bind]
      have hpressed : Ensures (Settled W.zIndex (restacked W s (.input (.pointerButton pressed))) s)
          (if pressed then s.updateKeyboardFocus W s.pointerLocation else .ok s) := by
        cases pressed with
        | false => exact ensures_ok.mpr (settled_refl s)
        | true => exact updateKeyboardFocus_settled
      intro u hu
      have hsettled := hpressed u hu
      refine ensures_pure.mpr ?_
      split
      · exact hsettled
      · exact hsettled
  | tabletTool location =>
      show Ensures _ (s.onTabletTool W location)
      unfold onTabletTool restacked moved
      cases s.spaces.first.outputs with
      | nil => exact ensures_ok.mpr (settled_refl s)
      | cons => exact pointerMotion_settled
  | tabletToolTip => exact updateKeyboardFocus_settled
  | touchDown location =>
      show Ensures _ (s.onTouchDown W location)
      rw [onTouchDown]
      split
      · exact updateKeyboardFocus_settled
      · exact ensures_ok.mpr (settled_refl s)
  | touchMotion slot location => exact onTouchMotion_settled
  | touchUp slot =>
      refine ensures_ok.mpr (settled_of_spaces ?_)
      rw [onTouchUp]
      split <;> rfl
  | touchCancel =>
      refine ensures_ok.mpr (settled_of_spaces ?_)
      rw [onTouchCancel]
      split <;> rfl

/-! ## Requests of clients -/

theorem mem_windowAndSpace {found : Option (WorkspaceWindow × String)}
    (h : found = some (window, name)) : window ∈ found.toList.map Prod.fst := by
  rw [h]
  exact List.mem_singleton_self window

theorem surfaceOf_of_find? {l : List WorkspaceWindow}
    (h : (l.find? fun window => W.surfaceOf window = some surface) = some window) :
    W.surfaceOf window = some surface := by
  simpa using List.find?_some h

theorem windowAndSpace_mem_ofSurface
    (h : s.windowAndSpaceForSurface W surface = some (window, name)) :
    window ∈ ofSurface W s surface := by
  simp only [windowAndSpaceForSurface, Option.map_eq_some_iff, Prod.mk.injEq] at h
  obtain ⟨_, hfind, rfl, -⟩ := h
  exact List.mem_filter.mpr
    ⟨List.mem_of_find?_eq_some hfind, decide_eq_true (surfaceOf_of_find? hfind)⟩

theorem first_modifySpace {f : Space → Space} :
    (s.modifySpace s.spaces.firstKey f).spaces.first = f s.spaces.first :=
  Function.update_self ..

/-- A commit moves windows of its surface, and brings none into the first space. -/
theorem commitOffset_settled :
    Ensures (fun t => Settled W.zIndex (ofSurface W s surface) s t ∧
      ∀ w ∈ t.spaces.first.windows, w ∈ s.spaces.first.windows) (s.commitOffset W surface) := by
  have hkept : Settled W.zIndex (ofSurface W s surface) s s ∧
      ∀ w ∈ s.spaces.first.windows, w ∈ s.spaces.first.windows := ⟨settled_refl s, fun _ => id⟩
  rw [commitOffset]
  split
  · exact ensures_ok.mpr hkept
  split
  · exact ensures_ok.mpr hkept
  next window name hfound =>
    obtain ⟨rfl, hmem⟩ := windowAndSpaceForSurface_eq_some hfound
    split
    next hroot =>
      rw [hroot] at hfound
      split
      · exact ensures_ok.mpr hkept
      split
      · exact ensures_ok.mpr hkept
      rw [ensures_expect_bind]
      intro loc _
      have hown := windowAndSpace_mem_ofSurface hfound
      refine ensures_pure.mpr ⟨(settled_refl s).mapElement hown, fun w hw => ?_⟩
      rw [first_modifySpace, Space.mem_windows_mapElement] at hw
      exact hw.elim id fun he => he ▸ hmem
    · exact ensures_ok.mpr hkept

theorem handleToplevelCommit_settled (h : Settled W.zIndex (ofSurface W s surface) s t)
    (hwindows : ∀ w ∈ t.spaces.first.windows, w ∈ s.spaces.first.windows) :
    Settled W.zIndex (ofSurface W s surface) s (t.handleToplevelCommit W surface) := by
  unfold handleToplevelCommit
  dsimp only
  split
  · exact h
  next window hfind =>
    have hmem : window ∈ ofSurface W s surface := by
      refine List.mem_filter.mpr ⟨hwindows _ (List.mem_of_find?_eq_some hfind), ?_⟩
      have hkind : window.kind = .wayland surface := by simpa using List.find?_some hfind
      rw [World.surfaceOf, hkind]
      exact decide_eq_true rfl
    split
    · split
      · exact h.mapElement hmem
      · exact h
    · exact h

theorem commit_settled :
    Ensures (Settled W.zIndex (ofSurface W s surface) s) (s.commit W surface) := by
  rw [commit, ensures_bind]
  intro u hu
  obtain ⟨hsettled, hwindows⟩ := commitOffset_settled u hu
  rw [ensures_expect_bind]
  intro _ _
  rw [ensures_expect_bind]
  intro _ _
  have hdata : (u.ensureSurfaceData surface).spaces = u.spaces := by
    rw [ensureSurfaceData]
    split <;> rfl
  refine ensures_pure.mpr (handleToplevelCommit_settled ?_ ?_)
  · intro hs name
    rw [hdata]
    exact hsettled hs name
  · rw [hdata]
    exact hwindows

theorem newToplevel_settled :
    Ensures (Settled W.zIndex [(s.freshWindow (.wayland surface)).1] s)
      (s.newToplevel W surface) := by
  rw [newToplevel, ensures_bind]
  intro u hu
  have hplaced : Settled W.zIndex _ (s.freshWindow (.wayland surface)).2 u :=
    placeWindow_settled (List.mem_singleton_self _) u hu
  exact ensures_pure.mpr (hplaced.after rfl)

theorem toplevelDestroyed_settled :
    Ensures (Settled W.zIndex windows s) (s.toplevelDestroyed W surface) := by
  rw [toplevelDestroyed]
  split
  · exact ensures_ok.mpr (settled_refl s)
  · rw [ensures_expect_bind]
    intro _ _
    exact ensures_pure.mpr unmap_settled

theorem maximizeRequest_settled :
    Ensures (Settled W.zIndex ((s.windowAndSpaceForSurface W surface).toList.map Prod.fst) s)
      (s.maximizeRequest W surface) := by
  rw [maximizeRequest]
  split
  · rw [ensures_expect_bind]
    intro found hfound
    simp only [ensures_expect_bind, ensures_pure]
    intro _ _ _ _ _ _
    exact (settled_refl s).mapElement (mem_windowAndSpace hfound)
  · exact ensures_ok.mpr (settled_refl s)

theorem fullscreenRequest_spaces {wlOutput : Option WlOutput} :
    Ensures (fun t => t.spaces = s.spaces) (s.fullscreenRequest W surface wlOutput) := by
  rw [fullscreenRequest]
  split
  · split
    · exact ensures_ok.mpr rfl
    · split
      · exact ensures_ok.mpr rfl
      · split
        · exact ensures_ok.mpr rfl
        · rw [ensures_expect_bind]
          intro _ _
          exact ensures_pure.mpr rfl
  · exact ensures_ok.mpr rfl

theorem unfullscreenRequest_spaces :
    Ensures (fun t => t.spaces = s.spaces) (s.unfullscreenRequest W surface) := by
  rw [unfullscreenRequest]
  split
  · split
    · exact ensures_ok.mpr rfl
    · rw [ensures_expect_bind]
      intro _ _
      exact ensures_pure.mpr rfl
  · exact ensures_ok.mpr rfl

theorem movePointerRequest_spaces :
    Ensures (fun t => t.spaces = s.spaces) (s.movePointerRequest W surface) := by
  rw [movePointerRequest]
  split
  · exact ensures_ok.mpr rfl
  · rw [ensures_expect_bind]
    intro _ _
    dsimp only
    split
    · rw [ensures_bind]
      intro _ _
      exact ensures_pure.mpr rfl
    · exact ensures_pure.mpr rfl

theorem moveRequestXdg_spaces :
    Ensures (fun t => t.spaces = s.spaces) (s.moveRequestXdg W surface) := by
  rw [moveRequestXdg]
  split
  · split
    · exact movePointerRequest_spaces
    · split
      · exact ensures_ok.mpr rfl
      · split
        · rw [ensures_bind]
          intro _ _
          exact ensures_pure.mpr rfl
        · exact ensures_ok.mpr rfl
  · exact movePointerRequest_spaces

theorem resizePointerRequest_spaces {left top : Bool} :
    Ensures (fun t => t.spaces = s.spaces) (s.resizePointerRequest W surface left top) := by
  rw [resizePointerRequest]
  split
  · exact ensures_ok.mpr rfl
  · split
    · exact ensures_ok.mpr rfl
    · split
      · rw [ensures_bind]
        intro u hu
        exact ensures_pure.mpr (startResize_anchors u hu).2
      · exact ensures_ok.mpr rfl

theorem resizeRequest_spaces {left top : Bool} :
    Ensures (fun t => t.spaces = s.spaces) (s.resizeRequest W surface left top) := by
  rw [resizeRequest]
  split
  · split
    · exact resizePointerRequest_spaces
    · split
      · exact ensures_ok.mpr rfl
      · split
        · rw [ensures_bind]
          intro u hu
          exact ensures_pure.mpr (startResize_anchors u hu).2
        · exact ensures_ok.mpr rfl
  · exact resizePointerRequest_spaces

theorem requestActivation_settled {age : Nat} :
    Ensures (Settled W.zIndex (if age < 10 then toActivate W s surface else []) s)
      (s.requestActivation W surface age) := by
  rw [requestActivation]
  split
  · rw [ensures_expect_bind]
    intro name hname
    rw [ensures_expect_bind]
    intro space hspace
    split
    next window hfind =>
      refine ensures_pure.mpr (focusWindow_settled ?_)
      rw [toActivate, hname, Option.bind_some, hspace]
      simp [hfind]
    next => exact ensures_pure.mpr (settled_refl s)
  · exact ensures_ok.mpr (settled_refl s)

theorem handleXdg_settled (i : XdgEvent) :
    Ensures (Settled W.zIndex (restacked W s (.xdg i)) s) (s.handleXdg W i) := by
  cases i with
  | newToplevel => exact newToplevel_settled
  | toplevelDestroyed => exact toplevelDestroyed_settled
  | appIdChanged surface =>
      show Ensures _ (s.appIdChanged W surface)
      rw [appIdChanged]
      split
      · exact ensures_ok.mpr (settled_refl s)
      next hfound => exact placeWindow_settled (mem_windowAndSpace hfound)
  | maximize => exact maximizeRequest_settled
  | unmaximize => exact ensures_ok.mpr (settled_refl s)
  | fullscreen => exact settled_of_ensures fullscreenRequest_spaces
  | unfullscreen => exact settled_of_ensures unfullscreenRequest_spaces
  | move => exact settled_of_ensures moveRequestXdg_spaces
  | resize => exact settled_of_ensures resizeRequest_spaces
  | grab popup =>
      refine ensures_ok.mpr (settled_of_spaces ?_)
      rw [popupGrab]
      split
      · rfl
      · split <;> rfl
  | requestActivation => exact requestActivation_settled

/-! ## Requests of X11 clients -/

theorem mapWindowRequest_settled :
    Ensures (Settled W.zIndex [(s.freshWindow (.x11 x11)).1] s) (s.mapWindowRequest W x11) := by
  rw [mapWindowRequest]
  split
  · exact ensures_ok.mpr (settled_refl s)
  · split
    · rw [ensures_bind]
      intro u hu
      have hplaced : Settled W.zIndex _ (s.freshWindow (.x11 x11)).2 u :=
        placeWindow_settled (List.mem_singleton_self _) u hu
      simp only [ensures_expect_bind, ensures_pure]
      intro _ _ _ _
      exact hplaced.after rfl
    · exact ensures_ok.mpr (settled_refl s)

theorem mappedOverrideRedirectWindow_settled :
    Settled W.zIndex [(s.freshWindow (.x11 x11)).1] s (s.mappedOverrideRedirectWindow W x11) := by
  have hfresh : Settled W.zIndex [(s.freshWindow (.x11 x11)).1] s (s.freshWindow (.x11 x11)).2 :=
    settled_of_spaces rfl
  exact hfresh.mapElement (List.mem_singleton_self _)

theorem unmappedWindow_settled :
    Ensures (Settled W.zIndex windows s) (s.unmappedWindow W x11) := by
  rw [unmappedWindow]
  split
  · exact ensures_ok.mpr (settled_refl s)
  · rw [ensures_expect_bind]
    intro _ _
    exact ensures_pure.mpr unmap_settled

theorem fullscreenRequestX11_spaces :
    Ensures (fun t => t.spaces = s.spaces) (s.fullscreenRequestX11 W x11) := by
  rw [fullscreenRequestX11]
  split
  · exact ensures_ok.mpr rfl
  · rw [ensures_expect_bind]
    intro _ _
    rw [ensures_expect_bind]
    intro _ _
    rw [ensures_expect_bind]
    intro _ _
    exact ensures_pure.mpr rfl

theorem moveRequestX11_spaces :
    Ensures (fun t => t.spaces = s.spaces) (s.moveRequestX11 W x11) := by
  rw [moveRequestX11]
  split
  · exact ensures_ok.mpr rfl
  · split
    · exact ensures_ok.mpr rfl
    · rw [ensures_expect_bind]
      intro _ _
      rw [ensures_expect_bind]
      intro _ _
      split <;> exact ensures_pure.mpr rfl

theorem resizeRequestX11_spaces {left top : Bool} :
    Ensures (fun t => t.spaces = s.spaces) (s.resizeRequestX11 W x11 left top) := by
  rw [resizeRequestX11, ensures_expect_bind]
  intro _ _
  split
  · exact ensures_pure.mpr rfl
  · split
    · exact ensures_pure.mpr rfl
    · rw [ensures_bind]
      intro u hu
      exact ensures_pure.mpr (startResize_anchors u hu).2

theorem handleX11_settled (i : X11Event) :
    Ensures (Settled W.zIndex (restacked W s (.x11 i)) s) (s.handleX11 W i) := by
  cases i with
  | mapWindow => exact mapWindowRequest_settled
  | mappedOverrideRedirect => exact ensures_ok.mpr mappedOverrideRedirectWindow_settled
  | unmapped => exact unmappedWindow_settled
  | configureNotify surface location =>
      show Ensures _ (s.configureNotify W surface location)
      rw [configureNotify]
      split
      · exact ensures_ok.mpr (settled_refl s)
      next hfound =>
        rw [ensures_expect_bind]
        intro _ _
        exact ensures_pure.mpr ((settled_refl s).mapElement (mem_windowAndSpace hfound))
  | maximize surface =>
      show Ensures _ (s.maximizeRequestX11 W surface)
      rw [maximizeRequestX11]
      split
      · exact ensures_ok.mpr (settled_refl s)
      next hfound =>
        simp only [ensures_expect_bind, ensures_pure]
        intro _ _ _ _ _ _ _ _
        exact (settled_of_spaces rfl).mapElement (mem_windowAndSpace hfound)
  | unmaximize surface =>
      show Ensures _ (s.unmaximizeRequestX11 W surface)
      rw [unmaximizeRequestX11]
      split
      · exact ensures_ok.mpr (settled_refl s)
      next hfound =>
        rw [ensures_expect_bind]
        intro _ _
        rw [restoreGeometry]
        cases s.oldGeometry surface with
        | none => exact ensures_pure.mpr (settled_of_spaces rfl)
        | some =>
            refine ensures_pure.mpr (Settled.mapElement (settled_of_spaces rfl) ?_)
            exact mem_windowAndSpace hfound
  | fullscreen => exact settled_of_ensures fullscreenRequestX11_spaces
  | unfullscreen surface =>
      show Ensures _ (s.unfullscreenRequestX11 W surface)
      rw [unfullscreenRequestX11]
      split
      · exact ensures_ok.mpr (settled_refl s)
      next hfound => exact placeWindow_settled (mem_windowAndSpace hfound)
  | move => exact settled_of_ensures moveRequestX11_spaces
  | resize => exact settled_of_ensures resizeRequestX11_spaces

/-! ## Messages and actions -/

theorem focusWindowByAppId_settled {appId : String} :
    Settled W.zIndex (findByAppId W appId 0 none false s.spaces.first.windows.reverse).toList s
      (s.focusWindowByAppId W appId).1 := by
  rw [focusWindowByAppId]
  split
  next window hfound => exact focusWindow_settled (by rw [hfound]; exact List.mem_singleton_self _)
  next => exact settled_refl s

theorem moveCurrentWindow_settled {zoneName : String} :
    Ensures (Settled W.zIndex (s.currentMoved.toList.map Prod.snd) s)
      (s.moveCurrentWindow W zoneName) := by
  rw [moveCurrentWindow, currentMoved]
  cases s.keyboardFocus with
  | none => exact ensures_ok.mpr (settled_refl s)
  | some target =>
      cases target with
      | window => exact placeWindow_settled (List.mem_singleton_self _)
      | layerSurface | popup | lockScreen => exact ensures_ok.mpr (settled_refl s)

theorem closeCurrentWindow_thinned : Thinned s s.closeCurrentWindow := by
  rw [closeCurrentWindow]
  split
  · split
    · exact thinned_unmapElem
    · exact thinned_of_spaces rfl
  · exact thinned_of_spaces rfl

theorem toggleDebugUi_settled :
    Ensures (Settled W.zIndex [(s.freshWindow .egui).1] s) (s.toggleDebugUi W) := by
  rw [toggleDebugUi]
  split
  · exact ensures_ok.mpr (Thinned.settled thinned_unmapElem)
  · exact (placeWindow_settled (List.mem_singleton_self _)).mono fun _ ht => ht.after rfl

theorem tab_settled {index : Nat} :
    Settled W.zIndex s.spaces.first.windows.reverse[index]?.toList s (s.tab W index) := by
  rw [tab]
  split
  next window hfound => exact focusWindow_settled (by rw [hfound]; exact List.mem_singleton_self _)
  next => exact settled_refl s

theorem LayoutUpdate.thinned (h : LayoutUpdate s t) : Thinned s t := by
  cases h with
  | outputs name f hf =>
      intro name'
      show (Function.update s.spaces.value name _ name').elements.Sublist _
      rw [Function.update_apply]
      split
      next he => rw [he, hf]
      next => exact .refl _
  | ensure name =>
      intro name'
      show ((s.spaces.ensure name .empty).value name').elements.Sublist _
      unfold Registry.ensure
      split
      · exact .refl _
      · show (Function.update s.spaces.value name Space.empty name').elements.Sublist _
        rw [Function.update_apply]
        split
        · exact List.nil_sublist _
        · exact .refl _
  | reorder => exact fun _ => .refl _
  | activeSpace => exact fun _ => .refl _

theorem setLayout_thinned {spaces : HashMap String (List Output)} :
    Thinned s (s.setLayout W spaces) :=
  setLayout_of_updates (fun _ => thinned_of_spaces rfl) (fun _ _ _ h h' => h.trans h')
    fun _ _ => LayoutUpdate.thinned

theorem handleDisplayMessage_settled (m : DisplayMessage) :
    Ensures (Settled W.zIndex (restacked W s (.message m)) s) (s.handleDisplayMessage W m) := by
  cases m with
  | setZones zones =>
      refine ensures_ok.mpr (settled_of_spaces ?_)
      exact List.foldlRecOn zones setZone (motive := fun t : State => t.spaces = s.spaces) rfl
        fun _ ht _ _ => ht
  | moveCurrentWindowToZone => exact moveCurrentWindow_settled
  | focusOrSpawn => exact ensures_ok.mpr focusWindowByAppId_settled
  | closeCurrentWindow => exact ensures_ok.mpr closeCurrentWindow_thinned.settled
  | addWindowRule => exact ensures_ok.mpr (settled_of_spaces rfl)
  | toggleDebugUi => exact toggleDebugUi_settled
  | setLayout => exact ensures_ok.mpr setLayout_thinned.settled
  | shutdown | keyboardInput | vtSwitch | startVideoStream => exact ensures_ok.mpr (settled_refl s)

theorem execute_settled (a : Action) :
    Ensures (Settled W.zIndex (restacked W s (.action a)) s) (s.execute W a) := by
  cases hlocked : s.locked with
  | true =>
      rw [execute_locked hlocked]
      exact ensures_ok.mpr (settled_refl s)
  | false =>
      unfold execute
      simp only [hlocked, Bool.false_and, Bool.false_eq_true, if_false]
      cases a with
      | changeScale | setScale | rotateOutput => exact ensures_error
      | moveWindow =>
          unfold restacked moved
          rw [hlocked]
          exact moveCurrentWindow_settled
      | close => exact ensures_ok.mpr closeCurrentWindow_thinned.settled
      | tab => exact ensures_ok.mpr tab_settled
      | focusOrSpawn => exact ensures_ok.mpr focusWindowByAppId_settled
      | quit | vtSwitch | spawn | callback | startVideoStream | none =>
          exact ensures_ok.mpr (settled_refl s)

/-! ## Steps -/

theorem step_settled : Ensures (Settled W.zIndex (restacked W s e) s) (s.step W e) := by
  cases e with
  | input i => exact processInputEvent_settled i
  | surface i =>
      cases i with
      | newSurface surface =>
          refine ensures_ok.mpr (settled_of_spaces ?_)
          rw [newSurface]
          split <;> rfl
      | commit => exact commit_settled
  | xdg i => exact handleXdg_settled i
  | x11 i => exact handleX11_settled i
  | lock i =>
      refine ensures_ok.mpr (settled_of_spaces ?_)
      cases i with
      | lock =>
          show (s.lock W).spaces = s.spaces
          rw [lock]
          split <;> rfl
      | unlock =>
          show s.unlock.spaces = s.spaces
          rw [unlock]
          dsimp only
          split <;> rfl
      | newSurface surface wlOutput =>
          show (s.newLockSurface W surface wlOutput).spaces = s.spaces
          rw [newLockSurface]
          split <;> rfl
  | layer i =>
      cases i with
      | newLayerSurface surface wlOutput =>
          show Ensures _ (s.newLayerSurface W surface wlOutput)
          rw [newLayerSurface]
          dsimp only
          rw [ensures_expect_bind]
          intro _ _
          exact ensures_pure.mpr (settled_of_spaces rfl)
      | layerDestroyed => exact ensures_ok.mpr (settled_of_spaces rfl)
  | message m => exact handleDisplayMessage_settled m
  | action a => exact execute_settled a
  | connectorConnected | connectorDisconnected => exact ensures_ok.mpr (settled_of_spaces rfl)
  | focusMoved target =>
      refine ensures_ok.mpr (settled_of_spaces ?_)
      rw [moveFocus]
      split <;> rfl
  | refresh => exact ensures_ok.mpr (Thinned.settled fun name => List.filter_sublist)

theorem toActivate_length : (toActivate W s surface).length ≤ 1 := by
  rw [toActivate]
  cases (s.surfaceSpace surface).bind s.spaces.get? <;> simp

/-- No event but a commit moves more than one window. -/
theorem restacked_length (he : ∀ surface, e ≠ .surface (.commit surface)) :
    (restacked W s e).length ≤ 1 := by
  have hclicked : ∀ point, (clicked W s point).length ≤ 1 := fun _ => Option.length_toList_le
  unfold restacked
  split
  next pressed => cases pressed <;> simp [hclicked]
  next => exact hclicked _
  next => exact hclicked _
  next surface => exact absurd rfl (he surface)
  next => simp
  next => simp
  next => simp
  next => split <;> simp [toActivate_length]
  all_goals simp

/-! ## Runs -/

/-- The levels of the windows are as they always are. -/
abbrev SameLevels (zIndex : WorkspaceWindow → Nat) (_ : State) (i : World × Event) : Prop :=
  i.1.zIndex = zIndex

theorem new_stacked : State.new.Stacked zIndex := fun _ => layered_nil

theorem reachable_stacked (h : Machine.ReachableUnder system (SameLevels zIndex) s) :
    s.Stacked zIndex := by
  refine h.invariant (fun _ hnew => ?_) fun s i t hs hlevels hstep => ?_
  · have hnew : _ = State.new := hnew
    exact hnew ▸ new_stacked
  · subst hlevels
    exact (step_settled t hstep).stacked hs

/-- A step in which none of these windows has a part. -/
def StepsPast (zIndex : WorkspaceWindow → Nat) (rest : List WorkspaceWindow) (s t : State) :
    Prop :=
  ∃ W e, W.zIndex = zIndex ∧ (restacked W s e).Disjoint rest ∧ s.step W e = .ok t

/-- However long nothing is about them, windows keep their locations and their order. -/
theorem rest_stays {rest : List WorkspaceWindow} (hs : s.Stacked zIndex)
    (hrun : Relation.ReflTransGen (StepsPast zIndex rest) s t) :
    t.Stacked zIndex ∧ ∀ name,
      ((t.spaces.value name).elements.filter fun x => x.1 ∈ rest).Sublist
        ((s.spaces.value name).elements.filter fun x => x.1 ∈ rest) := by
  induction hrun with
  | refl => exact ⟨hs, fun _ => .refl _⟩
  | tail _ hlast ih =>
      obtain ⟨W, e, rfl, hdisjoint, hstep⟩ := hlast
      have hsettled := step_settled _ hstep
      refine ⟨hsettled.stacked ih.1, fun name => ?_⟩
      exact ((hsettled ih.1 name).rest hdisjoint).trans (ih.2 name)

/-- In every run, and from any of its states on. -/
theorem windows_settle (h : Machine.ReachableUnder system (SameLevels zIndex) s) :
    s.Stacked zIndex ∧
    (∀ W e t, W.zIndex = zIndex → s.step W e = .ok t →
      (∀ name, Settles zIndex (restacked W s e) (s.spaces.value name).elements
        (t.spaces.value name).elements) ∧
      ((∀ surface, e ≠ .surface (.commit surface)) → (restacked W s e).length ≤ 1)) ∧
    ∀ rest t, Relation.ReflTransGen (StepsPast zIndex rest) s t → ∀ name,
      ((t.spaces.value name).elements.filter fun x => x.1 ∈ rest).Sublist
        ((s.spaces.value name).elements.filter fun x => x.1 ∈ rest) := by
  have hs := reachable_stacked h
  refine ⟨hs, fun W e t hW hstep => ?_, fun rest t hrun => (rest_stays hs hrun).2⟩
  subst hW
  exact ⟨step_settled t hstep hs, restacked_length⟩

def opens (i : Nat) : World × Event := (.quiet, .xdg (.newToplevel ⟨i⟩))

/-- Three windows are opened, and `Tab` raises the lowest: the others stay as they are. -/
theorem windows_settle_tab :
    ∃ s t, Fallible.run State.next State.new [opens 0, opens 1, opens 2] = .ok s ∧
      s.step .quiet (.action (.tab 2)) = .ok t ∧
      t.spaces.first.windows = [⟨1, .wayland ⟨1⟩⟩, ⟨2, .wayland ⟨2⟩⟩, ⟨0, .wayland ⟨0⟩⟩] ∧
      ∀ name, Settles (fun _ => 0) [⟨0, .wayland ⟨0⟩⟩] (s.spaces.value name).elements
        (t.spaces.value name).elements := by
  have h₀ : Machine.ReachableUnder system (SameLevels fun _ => 0) State.new := .init rfl
  have h₁ := h₀.step (i := opens 0) rfl rfl
  have h₂ := h₁.step (i := opens 1) rfl rfl
  have h₃ := h₂.step (i := opens 2) rfl rfl
  have hsettles := (windows_settle h₃).2.1 .quiet (.action (.tab 2)) _ rfl rfl
  exact ⟨_, _, rfl, rfl, by decide, hsettles.1⟩

end State

end Scape.Display
