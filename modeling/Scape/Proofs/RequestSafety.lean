import Scape.Display.Machine

/-!
# Which client requests panic

A handler looks up the window of the surface, its space, an output, the geometry of
that, the start of a grab. The space and the location of a window that is found are
always there, since the look-up only ever answers from the first space. What else is
unwrapped may be missing, and `RequestSafe` says for each request what must not be.

Of the ten kinds, two never panic: `fullscreen_request` of a toplevel and the move of an
X11 window. The others have a sibling that returns where they unwrap.
-/

namespace Scape.Display.State

open Scape Fallible

variable {s : State} {W : World} {window : WorkspaceWindow} {name : String}
  {surface : WlSurface} {x11 : X11Surface} {left top : Bool}

theorem get?_firstKey : s.spaces.get? s.spaces.firstKey = some s.spaces.first :=
  Registry.get?_of_mem s.spaces.firstKey_mem

/-- A window of the first space has a location there. -/
theorem location_of_mem (h : window ∈ s.spaces.first.windows) :
    ∃ location, s.spaces.first.elementLocation window = some location :=
  Option.isSome_iff_exists.mp (Space.elementLocation_isSome_iff.mpr h)

/-- There is an output for a window of the first space, and it has a geometry there. -/
def OutputFound (W : World) (s : State) (window : WorkspaceWindow) : Prop :=
  ∃ output, outputFor W s.spaces.first window = some output ∧
    ∃ geometry, s.spaces.first.outputGeometry output = some geometry

/-- The surface is that of a window in the first space. -/
def Found (W : World) (s : State) (surface : WlSurface) : Prop :=
  ∃ window, s.windowAndSpaceForSurface W surface = some (window, s.spaces.firstKey)

theorem found_iff : Found W s surface ↔ (s.windowAndSpaceForSurface W surface).isSome = true := by
  rw [Option.isSome_iff_exists]
  constructor
  · rintro ⟨window, hfound⟩
    exact ⟨_, hfound⟩
  · rintro ⟨⟨window, name⟩, hfound⟩
    obtain ⟨rfl, -⟩ := windowAndSpaceForSurface_eq_some hfound
    exact ⟨window, hfound⟩

/-! ## Toplevels -/

theorem maximizeRequest_succeeds_iff :
    Succeeds (s.maximizeRequest W surface) ↔
      (W.maximizable surface = true →
        ∃ window, s.windowAndSpaceForSurface W surface = some (window, s.spaces.firstKey) ∧
          OutputFound W s window) := by
  unfold maximizeRequest OutputFound
  split
  next hmax =>
    rw [succeeds_expect_bind, forall_prop_of_true hmax]
    constructor
    · rintro ⟨⟨window, name⟩, hfound, hrest⟩
      obtain ⟨rfl, -⟩ := windowAndSpaceForSurface_eq_some hfound
      simp only [succeeds_expect_bind, get?_firstKey, Option.some.injEq, exists_eq_left',
        succeeds_pure, and_true] at hrest
      exact ⟨window, hfound, hrest⟩
    · rintro ⟨window, hfound, hrest⟩
      refine ⟨(window, s.spaces.firstKey), hfound, ?_⟩
      simpa only [succeeds_expect_bind, get?_firstKey, Option.some.injEq, exists_eq_left',
        succeeds_pure, and_true] using hrest
  next hmax => exact iff_of_true succeeds_ok fun h => absurd h hmax

theorem startMove_succeeds (h : window ∈ s.spaces.first.windows) {startData : GrabStartData}
    {point : Point} {grabSpace : Option String} :
    Succeeds (s.startMove W surface window s.spaces.firstKey startData point grabSpace) := by
  obtain ⟨location, hlocation⟩ := location_of_mem h
  simp only [startMove, succeeds_expect_bind, get?_firstKey, hlocation, Option.some.injEq,
    exists_eq_left', succeeds_pure]

/-- The way to the pointer unwraps the window. -/
theorem movePointerRequest_succeeds_iff :
    Succeeds (s.movePointerRequest W surface) ↔
      (W.pointerGrabStart ≠ none → Found W s surface) := by
  rw [movePointerRequest]
  split
  next hstart => exact iff_of_true succeeds_ok fun h => absurd hstart h
  next startData hstart =>
    rw [hstart, succeeds_expect_bind, forall_prop_of_true (Option.some_ne_none _)]
    constructor
    · rintro ⟨⟨window, name⟩, hfound, -⟩
      obtain ⟨rfl, -⟩ := windowAndSpaceForSurface_eq_some hfound
      exact ⟨window, hfound⟩
    · rintro ⟨window, hfound⟩
      refine ⟨_, hfound, ?_⟩
      dsimp only
      split
      · obtain ⟨grab, hgrab⟩ := startMove_succeeds (windowAndSpaceForSurface_eq_some hfound).2
        exact succeeds_bind.mpr ⟨grab, hgrab, succeeds_pure⟩
      · exact succeeds_pure

/-- The touch point whose grab the request names, if there is one. -/
def touchStart (W : World) : Option GrabStartData :=
  if W.hasTouch then W.touchGrabStart else none

theorem moveRequestXdg_succeeds_iff :
    Succeeds (s.moveRequestXdg W surface) ↔
      (touchStart W = none → W.pointerGrabStart ≠ none → Found W s surface) := by
  rw [moveRequestXdg, touchStart]
  split
  · split
    next hnone => rw [movePointerRequest_succeeds_iff, hnone, forall_prop_of_true rfl]
    next startData hstart =>
      rw [hstart]
      refine iff_of_true ?_ nofun
      split
      · exact succeeds_ok
      next window name hfound =>
        obtain ⟨rfl, hmem⟩ := windowAndSpaceForSurface_eq_some hfound
        split
        · obtain ⟨grab, hgrab⟩ := startMove_succeeds hmem
          exact succeeds_bind.mpr ⟨grab, hgrab, succeeds_pure⟩
        · exact succeeds_ok
  · rw [movePointerRequest_succeeds_iff, forall_prop_of_true rfl]

/-- A geometry in a space is that of an output of the space. -/
theorem outputs_ne_nil_of_geometry {space : Space} {output : SmithayOutput} {geometry : Rectangle}
    (h : space.outputGeometry output = some geometry) : space.outputs ≠ [] := by
  intro hempty
  rw [Space.outputGeometry, Space.outputLocation, hempty] at h
  cases h

/-- The one handler of toplevels that returns wherever something is missing. -/
theorem fullscreenRequest_succeeds {wlOutput : Option WlOutput} :
    Succeeds (s.fullscreenRequest W surface wlOutput) := by
  rw [fullscreenRequest]
  split
  · split
    · exact succeeds_ok
    next window name hfound =>
      obtain ⟨rfl, -⟩ := windowAndSpaceForSurface_eq_some hfound
      rw [get?_firstKey]
      dsimp only
      split
      · exact succeeds_ok
      next geometry hgeometry =>
        obtain ⟨output, -, houtput⟩ := Option.bind_eq_some_iff.mp hgeometry
        -- so the space has an output, in case the client names none
        have hhead : s.spaces.first.outputs.head? ≠ none :=
          fun hnone => outputs_ne_nil_of_geometry houtput (List.head?_eq_none_iff.mp hnone)
        obtain ⟨mapped, hmapped⟩ := Option.ne_none_iff_exists'.mp hhead
        rw [succeeds_expect_bind, List.head?_map, hmapped]
        cases wlOutput.bind W.fromResource with
        | some output => exact ⟨output, rfl, succeeds_pure⟩
        | none => exact ⟨mapped.1, rfl, succeeds_pure⟩
  · exact succeeds_ok

theorem unfullscreenRequest_succeeds_iff :
    Succeeds (s.unfullscreenRequest W surface) ↔
      (W.fullscreen surface = true → ∀ wlOutput, s.fullscreenOutput surface = some wlOutput →
        W.fromResource wlOutput ≠ none) := by
  rw [unfullscreenRequest]
  split
  next hfull =>
    split
    next hnone => simp [hnone]
    next wlOutput hsome =>
      simp only [hsome, hfull, succeeds_expect_bind, succeeds_pure, and_true, forall_const,
        Option.some.injEq, forall_eq', ne_eq, Option.eq_none_iff_forall_ne_some, not_forall,
        not_not]
  next hfull => exact iff_of_true succeeds_ok fun h => absurd h hfull

/-- The data of a surface is unwrapped, which it has from its first commit on. -/
theorem startResize_succeeds_iff (h : window ∈ s.spaces.first.windows) :
    Succeeds (s.startResize W surface window s.spaces.firstKey left top) ↔
      s.surfaceData surface ≠ none := by
  obtain ⟨location, hlocation⟩ := location_of_mem h
  simp only [startResize, succeeds_expect_bind, get?_firstKey, hlocation, Option.some.injEq,
    exists_eq_left', succeeds_pure, and_true, ne_eq, Option.eq_none_iff_forall_ne_some,
    not_forall, not_not]

/-- A resize that is begun needs the data of the surface. -/
def ResizeSafe (W : World) (s : State) (surface : WlSurface) (start : Option GrabStartData) :
    Prop :=
  ∀ startData, start = some startData → startData.sameClient = true → Found W s surface →
    s.surfaceData surface ≠ none

theorem resizePointerRequest_succeeds_iff :
    Succeeds (s.resizePointerRequest W surface left top) ↔
      ResizeSafe W s surface W.pointerGrabStart := by
  rw [resizePointerRequest, ResizeSafe]
  split
  next hnone => exact iff_of_true succeeds_ok fun _ h => by rw [hnone] at h; cases h
  next startData hstart =>
    simp only [hstart, Option.some.injEq, forall_eq', found_iff]
    split
    next hnone => simp [hnone]
    next window name hfound =>
      obtain ⟨rfl, hmem⟩ := windowAndSpaceForSurface_eq_some hfound
      simp only [hfound, Option.isSome_some, forall_const, get?_firstKey, Bool.true_and]
      split
      next hsame =>
        rw [forall_prop_of_true hsame, ← startResize_succeeds_iff hmem, succeeds_bind]
        exact exists_congr fun _ => and_iff_left succeeds_pure
      next hsame => exact iff_of_true succeeds_ok fun h => absurd h hsame

theorem resizeRequest_succeeds_iff :
    Succeeds (s.resizeRequest W surface left top) ↔
      ResizeSafe W s surface ((touchStart W).or W.pointerGrabStart) := by
  rw [resizeRequest, touchStart]
  split
  · split
    next hnone =>
      rw [resizePointerRequest_succeeds_iff, hnone, Option.none_or]
    next startData hstart =>
      rw [hstart]
      simp only [ResizeSafe, Option.some_or, Option.some.injEq, forall_eq', found_iff]
      split
      next hnone => simp [hnone]
      next window name hfound =>
        obtain ⟨rfl, hmem⟩ := windowAndSpaceForSurface_eq_some hfound
        simp only [hfound, Option.isSome_some, forall_const]
        split
        next hsame =>
          rw [forall_prop_of_true hsame, ← startResize_succeeds_iff hmem, succeeds_bind]
          exact exists_congr fun _ => and_iff_left succeeds_pure
        next hsame => exact iff_of_true succeeds_ok fun h => absurd h hsame
  · rw [resizePointerRequest_succeeds_iff, Option.none_or]

/-! ## X11 windows and layer surfaces -/

/-- A window that is found has an output to go to. -/
def X11OutputSafe (W : World) (s : State) (x11 : X11Surface) : Prop :=
  ∀ found, s.windowAndSpaceForX11 W x11 = some found → OutputFound W s found.1

theorem maximizeRequestX11_succeeds_iff :
    Succeeds (s.maximizeRequestX11 W x11) ↔ X11OutputSafe W s x11 := by
  rw [maximizeRequestX11, X11OutputSafe]
  split
  next hnone => exact iff_of_true succeeds_ok fun _ h => by rw [hnone] at h; cases h
  next window name hfound =>
    obtain ⟨rfl, hmem⟩ := windowAndSpaceForX11_eq_some hfound
    obtain ⟨location, hlocation⟩ := location_of_mem hmem
    simp only [hfound, Option.some.injEq, forall_eq', OutputFound, succeeds_expect_bind,
      get?_firstKey, exists_eq_left', elementBbox, hlocation, Option.map_some, succeeds_pure,
      and_true]

theorem fullscreenRequestX11_succeeds_iff :
    Succeeds (s.fullscreenRequestX11 W x11) ↔ X11OutputSafe W s x11 := by
  rw [fullscreenRequestX11, X11OutputSafe]
  split
  next hnone => exact iff_of_true succeeds_ok fun _ h => by rw [hnone] at h; cases h
  next window name hfound =>
    obtain ⟨rfl, -⟩ := windowAndSpaceForX11_eq_some hfound
    simp only [hfound, Option.some.injEq, forall_eq', OutputFound, succeeds_expect_bind,
      get?_firstKey, exists_eq_left', succeeds_pure, and_true]

theorem moveRequestX11_succeeds : Succeeds (s.moveRequestX11 W x11) := by
  rw [moveRequestX11]
  split
  · exact succeeds_ok
  · split
    · exact succeeds_ok
    next window name hfound =>
      obtain ⟨rfl, hmem⟩ := windowAndSpaceForX11_eq_some hfound
      obtain ⟨location, hlocation⟩ := location_of_mem hmem
      simp only [succeeds_expect_bind, get?_firstKey, Option.some.injEq, exists_eq_left',
        hlocation]
      split
      · exact succeeds_pure
      · exact succeeds_pure

/-- The start of the grab is unwrapped even for a window that is not there. -/
theorem resizeRequestX11_succeeds_iff :
    Succeeds (s.resizeRequestX11 W x11 left top) ↔
      W.pointerStart ≠ none ∧
        ∀ surface, W.wlSurface x11 = some surface → Found W s surface →
          s.surfaceData surface ≠ none := by
  rw [resizeRequestX11, succeeds_expect_bind, Option.ne_none_iff_exists', ← exists_and_right]
  refine exists_congr fun startData => and_congr_right fun _ => ?_
  split
  next hnone => exact iff_of_true succeeds_pure fun _ h => by rw [hnone] at h; cases h
  next surface hsurface =>
    simp only [hsurface, Option.some.injEq, forall_eq', found_iff]
    split
    next hnone => simp [hnone]
    next window name hfound =>
      obtain ⟨rfl, hmem⟩ := windowAndSpaceForSurface_eq_some hfound
      simp only [hfound, Option.isSome_some, forall_const]
      rw [← startResize_succeeds_iff hmem, succeeds_bind]
      exact exists_congr fun _ => and_iff_left succeeds_pure

theorem newLayerSurface_succeeds_iff {layer : LayerSurface} {wlOutput : Option WlOutput} :
    Succeeds (s.newLayerSurface W layer wlOutput) ↔
      wlOutput.bind W.fromResource ≠ none ∨ s.outputs.values ≠ [] := by
  rw [newLayerSurface]
  dsimp only
  rw [succeeds_expect_bind, ← W.anyOutput_isSome]
  cases wlOutput.bind W.fromResource with
  | some output => exact iff_of_true ⟨output, rfl, succeeds_pure⟩ (.inl (Option.some_ne_none _))
  | none =>
      rw [or_iff_right fun h => h rfl, Option.isSome_iff_exists]
      exact exists_congr fun _ => and_iff_left succeeds_pure

/-! ## Every request -/

/-- What a request must not miss. For an event that is none of the requests nothing is
asked. -/
def RequestSafe (W : World) (s : State) : Event → Prop
  | .xdg (.maximize surface) =>
      W.maximizable surface = true →
        ∃ window, s.windowAndSpaceForSurface W surface = some (window, s.spaces.firstKey) ∧
          OutputFound W s window
  | .xdg (.move surface) =>
      touchStart W = none → W.pointerGrabStart ≠ none → Found W s surface
  | .xdg (.unfullscreen surface) =>
      W.fullscreen surface = true → ∀ wlOutput, s.fullscreenOutput surface = some wlOutput →
        W.fromResource wlOutput ≠ none
  | .xdg (.resize surface _ _) =>
      ResizeSafe W s surface ((touchStart W).or W.pointerGrabStart)
  | .x11 (.maximize x11) => X11OutputSafe W s x11
  | .x11 (.fullscreen x11) => X11OutputSafe W s x11
  | .x11 (.resize x11 _ _) =>
      W.pointerStart ≠ none ∧
        ∀ surface, W.wlSurface x11 = some surface → Found W s surface →
          s.surfaceData surface ≠ none
  | .layer (.newLayerSurface _ wlOutput) =>
      wlOutput.bind W.fromResource ≠ none ∨ s.outputs.values ≠ []
  | _ => True

/-- The requests of the toplevels and of X11 windows to be maximized, moved, shown
fullscreen, no longer so, or resized, and the creation of a layer surface. -/
def IsRequest : Event → Prop
  | .xdg (.maximize _) | .xdg (.move _) | .xdg (.fullscreen _ _) | .xdg (.unfullscreen _)
  | .xdg (.resize _ _ _) | .x11 (.maximize _) | .x11 (.fullscreen _) | .x11 (.move _)
  | .x11 (.resize _ _ _) | .layer (.newLayerSurface _ _) => True
  | _ => False

theorem request_succeeds_iff {e : Event} (he : IsRequest e) :
    Succeeds (s.step W e) ↔ RequestSafe W s e := by
  cases e with
  | xdg i =>
      cases i with
      | maximize => exact maximizeRequest_succeeds_iff
      | fullscreen => exact iff_of_true fullscreenRequest_succeeds trivial
      | unfullscreen => exact unfullscreenRequest_succeeds_iff
      | move => exact moveRequestXdg_succeeds_iff
      | resize => exact resizeRequest_succeeds_iff
      | _ => exact he.elim
  | x11 i =>
      cases i with
      | maximize => exact maximizeRequestX11_succeeds_iff
      | fullscreen => exact fullscreenRequestX11_succeeds_iff
      | move => exact iff_of_true moveRequestX11_succeeds trivial
      | resize => exact resizeRequestX11_succeeds_iff
      | _ => exact he.elim
  | layer i =>
      cases i with
      | newLayerSurface => exact newLayerSurface_succeeds_iff
      | layerDestroyed => exact he.elim
  | _ => exact he.elim

/-- In a run from any state, no request panics if and only if each finds what it must
not miss. -/
theorem requests_never_panic_iff (s : State) (is : List (World × Event)) :
    (∀ p ∈ steps next s is, IsRequest p.2.2 → Succeeds (next p.1 p.2)) ↔
      ∀ p ∈ steps next s is, IsRequest p.2.2 → RequestSafe p.2.1 p.1 p.2.2 :=
  forall_congr' fun _ => imp_congr_right fun _ => forall_congr' fun he => request_succeeds_iff he

/-- Before an output is mapped, a client opens a toplevel and asks to be maximized. -/
theorem maximize_panics :
    ∃ s, Machine.Reachable system s ∧ IsRequest (.xdg (.maximize ⟨0⟩)) ∧
      s.step World.quiet (.xdg (.maximize ⟨0⟩)) = .error .noOutput := by
  have hreached : Machine.Reachable system _ := reachable_run
    (show run next new [(World.quiet, .xdg (.newToplevel ⟨0⟩))] = _ from rfl)
  exact ⟨_, hreached, trivial, rfl⟩

end Scape.Display.State
