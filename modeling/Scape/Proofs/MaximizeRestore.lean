import Scape.Display.Maximize
import Scape.Display.Machine

/-!
# Maximized windows and what they are restored to

What a maximize request saves is what an unmaximize request restores, and there is one cell
for it. A second maximize request saves the bounding box of the window that is maximized
already, over the one that was saved first. So a window gets back the geometry and the place
that it had exactly if those are what the last maximize request has found
(`unmaximize_restores_iff`).

A request that does not find the window of its surface is ignored: the surface has no Wayland
surface yet, or the window is not in the first space. Otherwise the window is the only one
there that has the surface.

To the state the requests do what they do in `XwaylandShell.lean`
(`maximizeRequestX11_refines`, `unmaximizeRequest_refines`).
-/

namespace Scape.Display.Xwm

open Scape Fallible

variable {x y u : Xwm} {r last : X11Request} {requests : List X11Request} {W : World}
  {surface : X11Surface} {window : WorkspaceWindow} {spaceName : String} {location : Point}

/-! ## The state -/

/-- The cells of the state hold where the rectangles begin. -/
def Matches (x : Xwm) : Prop :=
  ∀ surface, x.state.oldGeometry surface = (x.oldGeometry surface).map Rectangle.loc

theorem Matches.save (hx : x.Matches) {geo : Rectangle} : (x.save surface geo).Matches := by
  intro other
  show Function.update x.state.oldGeometry surface (some geo.loc) other =
    (Function.update x.oldGeometry surface (some geo) other).map Rectangle.loc
  by_cases he : other = surface
  · rw [he, Function.update_self, Function.update_self]
    rfl
  · rw [Function.update_of_ne he, Function.update_of_ne he]
    exact hx other

theorem Matches.restore (hx : x.Matches) : (x.restore surface).2.Matches := by
  intro other
  show Function.update x.state.oldGeometry surface none other =
    (Function.update x.oldGeometry surface none other).map Rectangle.loc
  by_cases he : other = surface
  · rw [he, Function.update_self, Function.update_self]
    rfl
  · rw [Function.update_of_ne he, Function.update_of_ne he]
    exact hx other

theorem maximizeRequestX11_refines (hx : x.Matches) :
    Ensures (fun y => x.state.maximizeRequestX11 r.W surface = .ok y.state ∧ y.Matches)
      (x.maximizeRequestX11 r surface) := by
  rw [maximizeRequestX11, State.maximizeRequestX11]
  cases x.state.windowAndSpaceForX11 r.W surface with
  | none => exact ensures_ok.mpr ⟨rfl, hx⟩
  | some found =>
      dsimp only
      rw [ensures_expect_bind]
      intro space hspace
      rw [ensures_expect_bind]
      intro oldGeo hold
      rw [ensures_expect_bind]
      intro output houtput
      rw [ensures_expect_bind]
      intro geometry hgeometry
      obtain ⟨loc, hloc, rfl⟩ := Option.map_eq_some_iff.mp hold
      refine ensures_pure.mpr ⟨?_, hx.save⟩
      simp only [hspace, hloc, houtput, hgeometry, expect_some, bind, Except.bind]
      rfl

theorem unmaximizeRequest_refines (hx : x.Matches) :
    Ensures (fun y => x.state.unmaximizeRequestX11 r.W surface = .ok y.state ∧ y.Matches)
      (x.unmaximizeRequest r surface) := by
  rw [unmaximizeRequest, State.unmaximizeRequestX11]
  cases x.state.windowAndSpaceForX11 r.W surface with
  | none => exact ensures_ok.mpr ⟨rfl, hx⟩
  | some found =>
      dsimp only
      rw [ensures_expect_bind]
      intro space hspace
      rw [hspace, restore, State.restoreGeometry, hx surface]
      cases x.oldGeometry surface with
      | none => exact ensures_pure.mpr ⟨rfl, hx.restore⟩
      | some oldGeo => exact ensures_pure.mpr ⟨rfl, hx.restore⟩

/-! ## The window of a surface -/

/-- The window is that of the surface, and the only one in the first space that is. -/
structure Sole (x : Xwm) (surface : X11Surface) (window : WorkspaceWindow) (r : X11Request) :
    Prop where
  kind : window.kind = .x11 surface
  alone : ∀ wlSurface, r.W.wlSurface surface = some wlSurface →
    ∀ other ∈ x.state.spaces.first.windows, r.W.surfaceOf other = some wlSurface → other = window

/-- A request finds the window. -/
def Finds (x : Xwm) (surface : X11Surface) (window : WorkspaceWindow) (r : X11Request) : Prop :=
  window ∈ x.state.spaces.first.windows ∧ (r.W.wlSurface surface).isSome

theorem windowAndSpace_of_finds (hs : x.Sole surface window r) (hf : x.Finds surface window r) :
    x.state.windowAndSpaceForX11 r.W surface = some (window, x.state.spaces.firstKey) := by
  obtain ⟨wlSurface, hwl⟩ := Option.isSome_iff_exists.mp hf.2
  rw [State.windowAndSpaceForX11, hwl, Option.bind_some, State.windowAndSpaceForSurface]
  have hown : r.W.surfaceOf window = some wlSurface := by
    rw [World.surfaceOf, hs.kind]
    exact hwl
  have hsome : (x.state.spaces.first.windows.find? fun window =>
      r.W.surfaceOf window = some wlSurface).isSome :=
    List.find?_isSome.mpr ⟨window, hf.1, by simpa using hown⟩
  obtain ⟨found, hfound⟩ := Option.isSome_iff_exists.mp hsome
  have hsurface : r.W.surfaceOf found = some wlSurface := by simpa using List.find?_some hfound
  rw [hfound, hs.alone wlSurface hwl found (List.mem_of_find?_eq_some hfound) hsurface]
  rfl

theorem windowAndSpace_of_not_finds (hs : x.Sole surface window r)
    (hf : ¬ x.Finds surface window r) : x.state.windowAndSpaceForX11 r.W surface = none := by
  rw [State.windowAndSpaceForX11]
  cases hwl : r.W.wlSurface surface with
  | none => rfl
  | some wlSurface =>
      rw [Option.bind_some, State.windowAndSpaceForSurface, Option.map_eq_none_iff,
        List.find?_eq_none]
      intro other hmem
      have hne : r.W.surfaceOf other ≠ some wlSurface := by
        intro hsurface
        obtain rfl := hs.alone wlSurface hwl other hmem hsurface
        exact hf ⟨hmem, by rw [hwl]; rfl⟩
      simpa using hne

/-! ## One request -/

def locationIn (x : Xwm) (name : String) (window : WorkspaceWindow) : Option Point :=
  (x.state.spaces.value name).elementLocation window

/-- The bounding box that a request finds. -/
def bbox (x : Xwm) (r : X11Request) (window : WorkspaceWindow) : Option Rectangle :=
  r.elementBbox x.state.spaces.first window

/-- The geometry of the output that a request finds. -/
def outputGeometry (x : Xwm) (r : X11Request) (window : WorkspaceWindow) : Option Rectangle :=
  (State.outputFor r.W x.state.spaces.first window).bind x.state.spaces.first.outputGeometry

/-- The window has a geometry, and is where this begins. All else that requests look at is as
it was. -/
structure Placed (surface : X11Surface) (window : WorkspaceWindow) (geo : Rectangle)
    (x y : Xwm) : Prop where
  geometry : y.geometry surface = geo
  here : y.locationIn x.state.spaces.firstKey window = some geo.loc
  elsewhere : ∀ name ≠ x.state.spaces.firstKey, y.locationIn name window = x.locationIn name window
  keys : y.state.spaces.keys = x.state.spaces.keys
  windows : ∀ other, other ∈ y.state.spaces.first.windows ↔ other ∈ x.state.spaces.first.windows

theorem placed_configure (x' : Xwm) {geo : Rectangle}
    (hspaces : x'.state.spaces = x.state.spaces)
    (hmem : window ∈ x.state.spaces.first.windows) :
    Placed surface window geo x
      ((x'.configure surface geo).mapElement W x.state.spaces.firstKey window geo.loc) := by
  have hvalue : ∀ name, (((x'.configure surface geo).mapElement W x.state.spaces.firstKey window
      geo.loc).state.spaces.value name) =
        Function.update x.state.spaces.value x.state.spaces.firstKey
          (x.state.spaces.first.mapElement W.zIndex window geo.loc) name := by
    intro name
    rw [Registry.first, ← hspaces]
    rfl
  have hkeys : ((x'.configure surface geo).mapElement W x.state.spaces.firstKey window
      geo.loc).state.spaces.keys = x.state.spaces.keys := by
    rw [← hspaces]
    rfl
  refine ⟨Function.update_self .., ?_, ?_, hkeys, ?_⟩
  · rw [locationIn, hvalue, Function.update_self]
    exact Space.elementLocation_mapElement
  · intro name hne
    rw [locationIn, hvalue, Function.update_of_ne hne]
    rfl
  · intro other
    rw [Registry.first, Registry.firstKey_congr hkeys, hvalue, Function.update_self,
      Space.mem_windows_mapElement]
    exact or_iff_left_of_imp fun he => he ▸ hmem

theorem maximize_of_not_finds (hs : x.Sole surface window r) (hf : ¬ x.Finds surface window r) :
    x.maximizeRequestX11 r surface = .ok x := by
  rw [maximizeRequestX11, windowAndSpace_of_not_finds hs hf]

theorem unmaximize_of_not_finds (hs : x.Sole surface window r)
    (hf : ¬ x.Finds surface window r) : x.unmaximizeRequest r surface = .ok x := by
  rw [unmaximizeRequest, windowAndSpace_of_not_finds hs hf]

/-- A maximize request saves the bounding box and gives the window the output. -/
theorem maximize_of_finds (hs : x.Sole surface window r) (hf : x.Finds surface window r) :
    Ensures (fun y => ∃ geo oldGeo, x.outputGeometry r window = some geo ∧
        x.bbox r window = some oldGeo ∧ y.oldGeometry surface = some oldGeo ∧
        Placed surface window geo x y)
      (x.maximizeRequestX11 r surface) := by
  rw [maximizeRequestX11, windowAndSpace_of_finds hs hf]
  dsimp only
  rw [Registry.get?_of_mem x.state.spaces.firstKey_mem, ensures_expect_bind]
  rintro space ⟨⟩
  rw [ensures_expect_bind]
  intro oldGeo hold
  rw [ensures_expect_bind]
  intro output houtput
  rw [ensures_expect_bind]
  intro geo hgeo
  refine ensures_pure.mpr ⟨geo, oldGeo, ?_, hold, Function.update_self .., ?_⟩
  · exact Option.bind_eq_some_iff.mpr ⟨output, houtput, hgeo⟩
  · exact placed_configure (x.save surface oldGeo) rfl hf.1

/-- An unmaximize request gives the window what has been saved. -/
theorem unmaximize_of_finds (hs : x.Sole surface window r) (hf : x.Finds surface window r) :
    Ensures (fun y =>
        (∀ geo, x.oldGeometry surface = some geo → Placed surface window geo x y) ∧
        (x.oldGeometry surface = none →
          y.geometry = x.geometry ∧ y.state.spaces = x.state.spaces))
      (x.unmaximizeRequest r surface) := by
  rw [unmaximizeRequest, windowAndSpace_of_finds hs hf]
  dsimp only
  rw [ensures_expect_bind]
  intro space _
  rw [restore]
  cases hold : x.oldGeometry surface with
  | none => exact ensures_pure.mpr ⟨fun _ he => (by cases he), fun _ => ⟨rfl, rfl⟩⟩
  | some oldGeo =>
      refine ensures_pure.mpr ⟨fun geo he => ?_, fun he => by cases he⟩
      cases he
      exact placed_configure (x.restore surface).2 rfl hf.1

/-! ## All requests -/

/-- What requests leave as it is. -/
structure Stays (window : WorkspaceWindow) (x y : Xwm) : Prop where
  keys : y.state.spaces.keys = x.state.spaces.keys
  windows : ∀ other, other ∈ y.state.spaces.first.windows ↔ other ∈ x.state.spaces.first.windows
  elsewhere : ∀ name ≠ x.state.spaces.firstKey, y.locationIn name window = x.locationIn name window

theorem stays_refl (x : Xwm) : Stays window x x := ⟨rfl, fun _ => Iff.rfl, fun _ _ => rfl⟩

theorem Placed.stays {geo : Rectangle} (h : Placed surface window geo x y) : Stays window x y :=
  ⟨h.keys, h.windows, h.elsewhere⟩

theorem Stays.trans (h : Stays window x y) (h' : Stays window y u) : Stays window x u where
  keys := h'.keys.trans h.keys
  windows other := (h'.windows other).trans (h.windows other)
  elsewhere name hne :=
    (h'.elsewhere name (Registry.firstKey_congr h.keys ▸ hne)).trans (h.elsewhere name hne)

theorem Stays.sole (h : Stays window x y) (hs : x.Sole surface window r) :
    y.Sole surface window r where
  kind := hs.kind
  alone wlSurface hwl other hmem := hs.alone wlSurface hwl other ((h.windows other).mp hmem)

theorem Stays.finds_iff (h : Stays window x y) :
    y.Finds surface window r ↔ x.Finds surface window r :=
  and_congr_left' (h.windows window)

/-- The last maximize request that finds the window, with the state it comes in. -/
def LastFound (x : Xwm) (surface : X11Surface) (window : WorkspaceWindow)
    (requests : List X11Request) (u : Xwm) (r : X11Request) : Prop :=
  ∃ before after, requests = before ++ r :: after ∧ x.maximizeRequests surface before = .ok u ∧
    x.Finds surface window r ∧ ∀ other ∈ after, ¬ x.Finds surface window other

theorem maximizeRequests_ignored (hs : ∀ r ∈ requests, x.Sole surface window r)
    (hf : ∀ r ∈ requests, ¬ x.Finds surface window r) :
    x.maximizeRequests surface requests = .ok x := by
  induction requests with
  | nil => rfl
  | cons r requests ih =>
      have hfirst := maximize_of_not_finds (hs r List.mem_cons_self) (hf r List.mem_cons_self)
      rw [maximizeRequests, Fallible.run, hfirst]
      exact ih (fun other hmem => hs other (List.mem_cons_of_mem r hmem))
        fun other hmem => hf other (List.mem_cons_of_mem r hmem)

theorem maximize_stays (hs : x.Sole surface window r) :
    Ensures (Stays window x) (x.maximizeRequestX11 r surface) := by
  by_cases hf : x.Finds surface window r
  · refine (maximize_of_finds hs hf).mono ?_
    intro y ⟨_, _, _, _, _, hplaced⟩
    exact hplaced.stays
  · rw [maximize_of_not_finds hs hf]
    exact ensures_ok.mpr (stays_refl x)

/-- No request finds the window, or there is a last one that does. -/
theorem maximizeRequests_cases (hs : ∀ r ∈ requests, x.Sole surface window r)
    (h : x.maximizeRequests surface requests = .ok y) :
    Stays window x y ∧ ((y = x ∧ ∀ r ∈ requests, ¬ x.Finds surface window r) ∨
      ∃ u r, x.LastFound surface window requests u r) := by
  induction requests using List.reverseRecOn generalizing y with
  | nil =>
      cases h
      exact ⟨stays_refl x, .inl ⟨rfl, fun _ hmem => by cases hmem⟩⟩
  | append_singleton requests r ih =>
      obtain ⟨u, hu, hlast⟩ := run_append_eq_ok_iff.mp h
      have hstep : u.maximizeRequestX11 r surface = .ok y := by
        obtain ⟨v, hv, hend⟩ := run_cons_eq_ok_iff.mp hlast
        cases hend
        exact hv
      obtain ⟨hstays, hcases⟩ := ih (fun other hmem => hs other (List.mem_append_left _ hmem)) hu
      have hsole := hstays.sole (hs r List.mem_concat_self)
      refine ⟨hstays.trans (maximize_stays hsole y hstep), ?_⟩
      by_cases hf : x.Finds surface window r
      · exact .inr ⟨u, r, requests, [], rfl, hu, hf, fun _ hmem => by cases hmem⟩
      · rw [maximize_of_not_finds hsole (mt hstays.finds_iff.mp hf)] at hstep
        cases hstep
        obtain ⟨rfl, hnone⟩ | ⟨v, q, before, after, rfl, hv, hq, hafter⟩ := hcases
        · refine .inl ⟨rfl, ?_⟩
          rw [List.forall_mem_append, List.forall_mem_singleton]
          exact ⟨hnone, hf⟩
        · refine .inr ⟨v, q, before, after ++ [r], by rw [List.append_assoc]; rfl, hv, hq, ?_⟩
          rw [List.forall_mem_append, List.forall_mem_singleton]
          exact ⟨hafter, hf⟩

/-- What the last one that finds the window leaves behind. -/
theorem LastFound.leaves (h : x.LastFound surface window requests u r)
    (hs : ∀ r ∈ requests, x.Sole surface window r)
    (hy : x.maximizeRequests surface requests = .ok y) :
    Stays window x u ∧ ∃ geo oldGeo, u.outputGeometry r window = some geo ∧
      u.bbox r window = some oldGeo ∧ y.oldGeometry surface = some oldGeo ∧
      Placed surface window geo u y := by
  obtain ⟨before, after, rfl, hu, hf, hafter⟩ := h
  have hbefore := fun other hmem => hs other (List.mem_append_left _ hmem)
  have hstays := (maximizeRequests_cases hbefore hu).1
  have hr : u.Sole surface window r :=
    hstays.sole (hs r (List.mem_append_right _ List.mem_cons_self))
  rw [maximizeRequests, run_append hu] at hy
  obtain ⟨v, hv, hlater⟩ := run_cons_eq_ok_iff.mp hy
  obtain ⟨geo, oldGeo, hgeo, hold, hsaved, hplaced⟩ :=
    maximize_of_finds hr (hstays.finds_iff.mpr hf) v hv
  have hkept : Stays window x v := hstays.trans hplaced.stays
  have hignored : v.maximizeRequests surface after = .ok v := by
    have hsole : ∀ other ∈ after, v.Sole surface window other := fun other hmem =>
      hkept.sole (hs other (List.mem_append_right _ (List.mem_cons_of_mem r hmem)))
    exact maximizeRequests_ignored hsole fun other hmem =>
      mt hkept.finds_iff.mp (hafter other hmem)
  obtain rfl : v = y := Except.ok.inj (hignored.symm.trans hlater)
  exact ⟨hstays, geo, oldGeo, hgeo, hold, hsaved, hplaced⟩

/-! ## Back to where it was -/

/-- The window has the geometry and is where this begins. -/
def Has (x : Xwm) (surface : X11Surface) (window : WorkspaceWindow) (geo : Rectangle) : Prop :=
  x.geometry surface = geo ∧ x.locationIn x.state.spaces.firstKey window = some geo.loc

/-- The geometry and the places of the window are as they were. -/
def Restored (x y : Xwm) (surface : X11Surface) (window : WorkspaceWindow) : Prop :=
  y.geometry surface = x.geometry surface ∧
    ∀ name, y.locationIn name window = x.locationIn name window

/-- What the last maximize request finds is what the window had in the beginning: its
bounding box, or the output if the unmaximize request does not find the window. If none of
the maximize requests finds it, it had what has been saved before. -/
def RestoresWhen (x : Xwm) (surface : X11Surface) (window : WorkspaceWindow)
    (requests : List X11Request) (last : X11Request) : Prop :=
  (x.Finds surface window last →
    (∀ u r, x.LastFound surface window requests u r →
      ∃ geo, u.bbox r window = some geo ∧ x.Has surface window geo) ∧
    ((∀ r ∈ requests, ¬ x.Finds surface window r) →
      ∀ geo, x.oldGeometry surface = some geo → x.Has surface window geo)) ∧
  (¬ x.Finds surface window last →
    ∀ u r, x.LastFound surface window requests u r →
      ∃ geo, u.outputGeometry r window = some geo ∧ x.Has surface window geo)

/-- A window that is placed is where it was if it had what it is given. -/
theorem Placed.restored_iff {geo : Rectangle} (h : Placed surface window geo u y)
    (hu : Stays window x u) : Restored x y surface window ↔ x.Has surface window geo := by
  have hkey := Registry.firstKey_congr hu.keys
  have hhere := h.here
  rw [hkey] at hhere
  constructor
  · intro ⟨hgeo, hplaces⟩
    exact ⟨hgeo.symm.trans h.geometry, (hplaces _).symm.trans hhere⟩
  · intro ⟨hgeo, hplace⟩
    refine ⟨h.geometry.trans hgeo.symm, fun name => ?_⟩
    by_cases hname : name = x.state.spaces.firstKey
    · rw [hname, hhere, hplace]
    · exact (h.elsewhere name (hkey ▸ hname)).trans (hu.elsewhere name hname)

theorem LastFound.finds (h : x.LastFound surface window requests u r) :
    r ∈ requests ∧ x.Finds surface window r := by
  obtain ⟨before, after, rfl, -, hf, -⟩ := h
  exact ⟨List.mem_append_right _ List.mem_cons_self, hf⟩

theorem LastFound.eq_of_singleton {q : X11Request}
    (h : x.LastFound surface window [q] u r) : u = x ∧ r = q := by
  obtain ⟨before, after, heq, hu, -, -⟩ := h
  obtain _ | ⟨first, before⟩ := before
  · cases heq
    cases hu
    exact ⟨rfl, rfl⟩
  · obtain ⟨-, hrest⟩ := List.append_eq_nil_iff.mp (List.cons.inj heq).2.symm
    cases hrest

/-- No maximize request has found the window. -/
theorem restored_iff_of_none (hs : x.Sole surface window last)
    (hnone : ∀ r ∈ requests, ¬ x.Finds surface window r)
    (hy : x.unmaximizeRequest last surface = .ok y) :
    Restored x y surface window ↔ x.RestoresWhen surface window requests last := by
  have hlost : ∀ u r, ¬ x.LastFound surface window requests u r := fun u r hfound =>
    hnone r hfound.finds.1 hfound.finds.2
  by_cases hf : x.Finds surface window last
  · obtain ⟨hplaced, hnothing⟩ := unmaximize_of_finds hs hf y hy
    cases hold : x.oldGeometry surface with
    | none =>
        obtain ⟨hgeo, hspaces⟩ := hnothing hold
        refine iff_of_true ⟨congrFun hgeo surface, fun name => ?_⟩
          ⟨fun _ => ⟨fun u r h => absurd h (hlost u r), fun _ geo he => ?_⟩, fun hn => absurd hf hn⟩
        · rw [locationIn, hspaces]
          rfl
        · rw [hold] at he
          cases he
    | some geo =>
        rw [(hplaced geo hold).restored_iff (stays_refl x)]
        constructor
        · intro hhas
          refine ⟨fun _ => ⟨fun u r h => absurd h (hlost u r), fun _ other he => ?_⟩,
            fun hn => absurd hf hn⟩
          rw [hold] at he
          cases he
          exact hhas
        · intro hwhen
          exact (hwhen.1 hf).2 hnone geo hold
  · rw [unmaximize_of_not_finds hs hf] at hy
    cases hy
    exact iff_of_true ⟨rfl, fun _ => rfl⟩
      ⟨fun hfinds => absurd hfinds hf, fun _ u r h => absurd h (hlost u r)⟩

/-- Some maximize request has found the window, and so there is a last one. -/
theorem restored_iff_of_found {z : Xwm} (hstays : Stays window x z)
    (hs : ∀ r ∈ last :: requests, x.Sole surface window r)
    (hz : x.maximizeRequests surface requests = .ok z)
    (hfound : x.LastFound surface window requests u r)
    (hy : z.unmaximizeRequest last surface = .ok y) :
    Restored x y surface window ↔ x.RestoresWhen surface window requests last := by
  have hrequests := fun r hmem => hs r (List.mem_cons_of_mem last hmem)
  have hlast : z.Sole surface window last := hstays.sole (hs last List.mem_cons_self)
  obtain ⟨hu, geo, oldGeo, hgeo, hold, hsaved, hplaced⟩ := hfound.leaves hrequests hz
  by_cases hf : x.Finds surface window last
  · have hrestored := (unmaximize_of_finds hlast (hstays.finds_iff.mpr hf) y hy).1 oldGeo hsaved
    rw [hrestored.restored_iff hstays]
    constructor
    · intro hhas
      refine ⟨fun _ => ⟨fun v q h => ?_,
          fun hnone => absurd hfound.finds.2 (hnone r hfound.finds.1)⟩,
        fun hn => absurd hf hn⟩
      obtain ⟨-, -, other, -, hother, hsaved', -⟩ := h.leaves hrequests hz
      obtain rfl : other = oldGeo := Option.some.inj (hsaved'.symm.trans hsaved)
      exact ⟨other, hother, hhas⟩
    · intro hwhen
      obtain ⟨other, hother, hhas⟩ := (hwhen.1 hf).1 u r hfound
      obtain rfl : other = oldGeo := Option.some.inj (hother.symm.trans hold)
      exact hhas
  · rw [unmaximize_of_not_finds hlast (mt hstays.finds_iff.mp hf)] at hy
    cases hy
    rw [hplaced.restored_iff hu]
    constructor
    · intro hhas
      refine ⟨fun hfinds => absurd hfinds hf, fun _ v q h => ?_⟩
      obtain ⟨-, other, -, hother, -, -, hplaced'⟩ := h.leaves hrequests hz
      obtain rfl : other = geo := hplaced'.geometry.symm.trans hplaced.geometry
      exact ⟨other, hother, hhas⟩
    · intro hwhen
      obtain ⟨other, hother, hhas⟩ := hwhen.2 hf u r hfound
      obtain rfl : other = geo := Option.some.inj (hother.symm.trans hgeo)
      exact hhas

/-- The window is restored exactly if the last maximize request has found what it had. -/
theorem unmaximize_restores_iff (x y z : Xwm) (surface : X11Surface) (window : WorkspaceWindow)
    (requests : List X11Request) (last : X11Request)
    (hs : ∀ r ∈ last :: requests, x.Sole surface window r)
    (hz : x.maximizeRequests surface requests = .ok z)
    (hy : z.unmaximizeRequest last surface = .ok y) :
    Restored x y surface window ↔ x.RestoresWhen surface window requests last := by
  obtain ⟨hstays, hcases⟩ :=
    maximizeRequests_cases (fun r hmem => hs r (List.mem_cons_of_mem last hmem)) hz
  obtain ⟨rfl, hnone⟩ | ⟨u, r, hfound⟩ := hcases
  · exact restored_iff_of_none (hs last List.mem_cons_self) hnone hy
  · exact restored_iff_of_found hstays hs hz hfound hy

/-! ## Once and twice -/

def x11Window : WorkspaceWindow := ⟨0, .x11 ⟨0⟩⟩

/-- A window on an output, with the geometry that it has been placed with. -/
def floating : Xwm where
  state := { State.new with
    spaces := State.new.spaces.modify "main" fun _ =>
      ⟨[(x11Window, ⟨100, 100⟩)], [(⟨0, "DP-1", ⟨1920, 1080⟩⟩, ⟨0, 0⟩)]⟩ }
  geometry := fun _ => ⟨⟨100, 100⟩, 800, 600⟩
  oldGeometry := fun _ => none

/-- A request while the client has drawn as much. -/
def drawn (width height : Int) : X11Request where
  W := { World.quiet with wlSurface := fun _ => some ⟨0⟩ }
  bboxSize := fun _ => (width, height)

theorem floating_sole {width height : Int} :
    floating.Sole ⟨0⟩ x11Window (drawn width height) where
  kind := rfl
  alone _ _ _ hmem _ := List.mem_singleton.mp hmem

/-- Maximized once, the window is back where it was. -/
theorem maximized_once : ∃ z y,
    floating.maximizeRequests ⟨0⟩ [drawn 800 600] = .ok z ∧
      z.unmaximizeRequest (drawn 1920 1080) ⟨0⟩ = .ok y ∧
      Restored floating y ⟨0⟩ x11Window := by
  refine ⟨_, _, rfl, rfl, ?_⟩
  refine (unmaximize_restores_iff floating _ _ ⟨0⟩ x11Window [drawn 800 600] (drawn 1920 1080)
    ?_ rfl rfl).mpr ?_
  · exact List.forall_mem_cons.mpr ⟨floating_sole, List.forall_mem_singleton.mpr floating_sole⟩
  · have hfinds : floating.Finds ⟨0⟩ x11Window (drawn 1920 1080) := ⟨by decide, rfl⟩
    refine ⟨fun _ => ⟨fun u r hfound => ?_, fun _ geo he => by cases he⟩,
      fun hn => absurd hfinds hn⟩
    obtain ⟨rfl, rfl⟩ := hfound.eq_of_singleton
    exact ⟨⟨⟨100, 100⟩, 800, 600⟩, by decide, rfl, by decide⟩

/-- Maximized twice, it stays where the output is. -/
theorem maximized_twice : ∃ z y,
    floating.maximizeRequests ⟨0⟩ [drawn 800 600, drawn 1920 1080] = .ok z ∧
      z.unmaximizeRequest (drawn 1920 1080) ⟨0⟩ = .ok y ∧
      y.geometry ⟨0⟩ = ⟨⟨0, 0⟩, 1920, 1080⟩ ∧ ¬ Restored floating y ⟨0⟩ x11Window := by
  refine ⟨_, _, rfl, rfl, ?_, fun h => ?_⟩
  · decide
  · have hgeo := h.1
    revert hgeo
    decide

end Scape.Display.Xwm
