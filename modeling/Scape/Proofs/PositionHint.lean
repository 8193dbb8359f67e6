import Scape.Proofs.FocusAgreement
import Scape.Proofs.PointerFocus

/-!
# Where a position hint puts the pointer

A client that has had the pointer locked may say where it has drawn the cursor in the
meantime, in the coordinates of its surface, and the pointer is put there. So the hint is
to be read from the origin that the client's positions are given from, which is where the
space draws the window: at its location, less the offset of its geometry. The handler reads
it from that offset. The two are the same for a window that is mapped at twice the offset.
-/

namespace Scape.Display.PointerState

variable {s : PointerState} {w w' : WindowView} {surface : WlSurface} {p loc : Position}

/-- A surface has one role: what is the root of a window is no layer surface, and in the
tree of no other window. smithay draws a root where its tree begins. An X11 window is one
surface. -/
structure WindowRoots (s : PointerState) : Prop where
  role : ∀ w ∈ s.scene.windows, ∀ surface, s.windowSurface w.window = some surface →
    s.scene.layerOf surface = none ∧ ∀ w' ∈ s.scene.windows,
      (s.windowSurface w'.window = some surface ∨
        ∃ q origin, w'.underlying q = some (surface, origin)) → w' = w
  origin : ∀ w ∈ s.scene.windows, ∀ surface, s.windowSurface w.window = some surface →
    ∀ q origin, w.underlying q = some (surface, origin) → origin = ⟨0, 0⟩
  x11 : ∀ w ∈ s.scene.windows, ∀ x11, w.window.kind = .x11 x11 →
    ∀ q hit, w.underlying q = some hit → s.x11WlSurface x11 = some hit.1

/-! ## The origin of a root surface -/

theorem windowForSurface_eq (h : s.WindowRoots) (hw : w ∈ s.scene.windows)
    (hroot : s.windowSurface w.window = some surface) :
    s.windowForSurface surface = some w := by
  have hsome : (s.windowForSurface surface).isSome := by
    rw [windowForSurface, List.find?_isSome]
    exact ⟨w, hw, decide_eq_true hroot⟩
  obtain ⟨w', hw'⟩ := Option.isSome_iff_exists.mp hsome
  have hfind := hw'
  rw [windowForSurface] at hfind
  have hroot' := List.find?_some hfind
  rw [decide_eq_true_eq] at hroot'
  have hsame := (h.role w hw surface hroot).2 w' (List.mem_of_find?_eq_some hfind) (.inl hroot')
  rw [hw', hsame]

/-- What an application window answers comes from its tree, or from its header bar. -/
theorem surfaceUnderWith_cases {target : WlSurface → PointerFocusTarget} {q : Position}
    {hit : PointerFocusTarget × Point} (h : w.surfaceUnderWith target q = some hit) :
    hit.1 = .ssd w.window ∨
      ∃ q' under, w.underlying q' = some under ∧ hit = (target under.1, under.2) := by
  rw [WindowView.surfaceUnderWith] at h
  split at h
  · cases h
    exact .inl rfl
  · obtain ⟨under, hunder, rfl⟩ := Option.map_eq_some_iff.mp h
    refine .inr ⟨_, under, hunder, ?_⟩
    have hoffset : (if w.isSsd = true then ⟨0, headerBarHeight⟩ else ⟨0, 0⟩ : Point) = ⟨0, 0⟩ := by
      split <;> rfl
    rw [hoffset]
    show (_, Point.mk (under.2.x + 0) (under.2.y + 0)) = _
    rw [Int.add_zero, Int.add_zero]

/-- A surface of a window is in its tree. -/
theorem focus_surface (h : s.WindowRoots) (hw : w' ∈ s.scene.windows)
    {hit : PointerFocusTarget × Point} (hfocus : w'.focus p = some hit)
    (hsurface : s.wlSurface hit.1 = some surface) :
    ∃ q origin, w'.underlying q = some (surface, origin) ∧ hit.2 = origin + w'.renderLocation := by
  obtain ⟨under, hunder, rfl⟩ := Option.map_eq_some_iff.mp hfocus
  rw [WindowView.surfaceUnder] at hunder
  cases hkind : w'.window.kind with
  | egui =>
      rw [hkind] at hunder
      cases hunder
  | wayland root =>
      rw [hkind] at hunder
      rcases surfaceUnderWith_cases hunder with hssd | ⟨q, tree, htree, rfl⟩
      · rw [hssd] at hsurface
        cases hsurface
      · cases hsurface
        exact ⟨q, tree.2, htree, rfl⟩
  | x11 x =>
      rw [hkind] at hunder
      rcases surfaceUnderWith_cases hunder with hssd | ⟨q, tree, htree, rfl⟩
      · rw [hssd] at hsurface
        cases hsurface
      · have hroot := h.x11 w' hw x hkind q tree htree
        obtain rfl : surface = tree.1 := Option.some.inj (hsurface.symm.trans hroot)
        exact ⟨q, tree.2, htree, rfl⟩

/-- Where the root of a window is under the pointer, its origin is where the space draws
the window. -/
theorem root_origin (h : s.WindowRoots) (hw : w ∈ s.scene.windows)
    (hroot : s.windowSurface w.window = some surface)
    (hunder : s.surfaceAt p = some (surface, loc)) : loc = w.renderLocation.toF64 := by
  obtain ⟨hit, hhit, hmap⟩ := Option.bind_eq_some_iff.mp hunder
  obtain ⟨under, hsurface, heq⟩ := Option.map_eq_some_iff.mp hmap
  cases heq
  obtain ⟨hit', hfocus, rfl⟩ := Option.map_eq_some_iff.mp hhit
  obtain ⟨hlayer, hsole⟩ := h.role w hw surface hroot
  obtain ⟨o, ho, hchain⟩ := Option.bind_eq_some_iff.mp hfocus
  have hmem : o ∈ s.scene.outputs := List.mem_of_find?_eq_some ho
  have hnolayer : ∀ upper lower,
      (o.candidate upper lower p).bind (o.layerHit p) ≠ some hit' := by
    intro upper lower hfound
    obtain ⟨l, hl, -, hlhit⟩ := Scene.layerHit_of_candidate_mem hfound
    obtain ⟨owned, htarget, howner⟩ := Scene.layer_of_hit hmem hl hlhit
    rw [htarget] at hsurface
    cases hsurface
    rw [hlayer] at howner
    cases howner
  rcases Option.or_eq_some_iff.mp hchain with hupper | ⟨-, hrest⟩
  · exact absurd hupper (hnolayer _ _)
  · rcases Option.or_eq_some_iff.mp hrest with hwindow | ⟨-, hlower⟩
    · obtain ⟨w', hw', hanswer⟩ := Option.bind_eq_some_iff.mp hwindow
      have hmem' := (Scene.mem_of_elementUnder hw').1
      obtain ⟨q, origin, htree, hplace⟩ := focus_surface h hmem' hanswer hsurface
      obtain rfl := hsole w' hmem' (.inr ⟨q, origin, htree⟩)
      have hzero := h.origin w' hw surface hroot q origin htree
      rw [hplace, hzero]
      exact Position.ext (by simp) (by simp)
    · exact absurd hlower (hnolayer _ _)

/-! ## Main result -/

theorem cursorPositionHint_location {hint : Position} (h : s.WindowRoots)
    (hw : w ∈ s.scene.windows) (hroot : s.windowSurface w.window = some surface)
    (hactive : (s.constraints surface).any PointerConstraint.isActive) :
    (s.cursorPositionHint surface hint).location = w.geometry.loc.toF64 + hint := by
  rw [cursorPositionHint, if_pos hactive, windowForSurface_eq h hw hroot]

/-- The hint of a place on the root surface of a window puts the pointer there exactly if
the window is mapped at twice the offset of its geometry. -/
theorem cursorPositionHint_inverse_iff (h : s.WindowRoots) (hw : w ∈ s.scene.windows)
    (hroot : s.windowSurface w.window = some surface)
    (hactive : (s.constraints surface).any PointerConstraint.isActive)
    (hunder : s.surfaceAt p = some (surface, loc)) :
    (s.cursorPositionHint surface (p - loc)).location = p ↔
      w.location = w.geometry.loc + w.geometry.loc := by
  rw [cursorPositionHint_location h hw hroot hactive, root_origin h hw hroot hunder]
  constructor
  · intro hback
    have hx := congrArg Position.x hback
    have hy := congrArg Position.y hback
    simp only [Position.add_x, Position.add_y, Position.sub_x, Position.sub_y, Point.toF64_x,
      Point.toF64_y, WindowView.renderLocation, Point.sub_x, Point.sub_y, Int.cast_sub] at hx hy
    refine Point.ext ?_ ?_
    · have hcast : (w.location.x : ℚ) = (w.geometry.loc.x + w.geometry.loc.x : ℤ) := by
        push_cast
        linarith
      exact Int.cast_injective hcast
    · have hcast : (w.location.y : ℚ) = (w.geometry.loc.y + w.geometry.loc.y : ℤ) := by
        push_cast
        linarith
      exact Int.cast_injective hcast
  · intro htwice
    rw [WindowView.renderLocation, htwice]
    refine Position.ext ?_ ?_
    · simp
    · simp

theorem windowRoots_overWindow (location geometryLoc : Point) (pointer : Position)
    (constraint : Option PointerConstraint) :
    (overWindow location geometryLoc pointer constraint).WindowRoots where
  role := by
    intro w hw surface hroot
    refine ⟨rfl, fun w' hw' _ => ?_⟩
    rw [List.mem_singleton.mp hw, List.mem_singleton.mp hw']
  origin := by
    intro w hw surface hroot q origin htree
    rw [List.mem_singleton.mp hw] at htree
    cases htree
    rfl
  x11 := by
    intro w hw x hkind
    rw [List.mem_singleton.mp hw] at hkind
    cases hkind

/-- The window is locked and mapped at (4, 4), twice the offset of its geometry. -/
theorem cursorPositionHint_twice :
    ((overWindow ⟨4, 4⟩ ⟨2, 2⟩ ⟨3, 3⟩ (some ⟨.locked, none, true⟩)).cursorPositionHint ⟨1⟩
      (⟨3, 3⟩ - ⟨2, 2⟩)).location = ⟨3, 3⟩ :=
  (cursorPositionHint_inverse_iff (windowRoots_overWindow ⟨4, 4⟩ ⟨2, 2⟩ ⟨3, 3⟩ _)
    (List.mem_singleton_self _) rfl rfl (by decide +kernel)).mpr rfl

/-- A window without an offset at (10, 0), and the pointer at (12, 3). -/
theorem cursorPositionHint_elsewhere :
    (overWindow ⟨10, 0⟩ ⟨0, 0⟩ ⟨12, 3⟩ (some ⟨.locked, none, true⟩)).surfaceAt ⟨12, 3⟩ =
      some (⟨1⟩, ⟨10, 0⟩) ∧
    ((overWindow ⟨10, 0⟩ ⟨0, 0⟩ ⟨12, 3⟩ (some ⟨.locked, none, true⟩)).cursorPositionHint ⟨1⟩
        (⟨12, 3⟩ - ⟨10, 0⟩)).location = ⟨2, 3⟩ := by
  decide +kernel

end Scape.Display.PointerState
