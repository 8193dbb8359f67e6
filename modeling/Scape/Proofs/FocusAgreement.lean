import Scape.Proofs.HitTesting

/-!
# Whether a click focuses what it hits

A press gives the keyboard's focus to what `update_keyboard_focus` finds and goes to what
`surface_under` finds. Both go through the layers and the windows in one order, and both
ask for the same window, but each has its own way to an output and its own condition on a
layer surface. `surface_under` takes the first output that has the rounded point, the other
the topmost that has the point. A layer surface that is hit ends the search of the first;
one that takes no keyboard focus does not end that of the other, which goes on to the
windows below. And an egui window has no surface.

So they agree exactly where none of that makes a difference (`focus_agrees_iff`).
-/

namespace Scape.Display

variable {scene : Scene} {o : OutputView} {l : LayerView} {w : WindowView} {pos : Position}
  {upper lower : Layer} {hit : PointerFocusTarget × Point} {target : KeyboardFocusTarget}

namespace Scene

/-- What the pointer is given is the target itself, or in the tree of its surface. -/
inductive IsRoot (scene : Scene) : KeyboardFocusTarget → PointerFocusTarget → Prop
  | layer {surface : WlSurface} {layer : LayerSurface} :
      scene.layerOf surface = some layer → IsRoot scene (.layerSurface layer) (.wlSurface surface)
  | window {w : WindowView} {point : Position} {surface : WlSurface} {loc : Point} :
      w ∈ scene.windows → w.underlying point = some (surface, loc) →
      IsRoot scene (.window w.window) (.wlSurface surface)
  | x11 {window : WorkspaceWindow} {surface : X11Surface} :
      window.kind = .x11 surface → IsRoot scene (.window window) (.x11Surface surface)
  | ssd {window : WorkspaceWindow} : IsRoot scene (.window window) (.ssd window)
  | egui {window : WorkspaceWindow} : IsRoot scene (.window window) (.egui window)

/-- What a press gives the focus is the root of what the pointer is over. -/
def FocusAgrees (scene : Scene) (pos : Position) : Prop :=
  ∀ target, scene.updateKeyboardFocus pos = .focused target →
    ∃ under, scene.surfaceUnder pos = some under ∧ scene.IsRoot target under.1

/-- Users do not focus override-redirect windows, nor an X11 window without Xwayland. -/
def Focusable (scene : Scene) (w : WindowView) : Prop :=
  w.window.x11Surface.isSome → w.overrideRedirect = false ∧ scene.xwaylandRunning = true

/-- The output `surface_under` looks at has no Overlay or Top surface at the point. -/
def Uncovered (o : OutputView) (pos : Position) : Prop :=
  (o.candidate .overlay .top pos).bind (o.treeUnder pos) = none

/-- No difference between the two searches comes into play. -/
def SearchesMeet (scene : Scene) (pos : Position) : Prop :=
  match scene.focusableLayer .overlay .top pos with
  | some l => ∃ o, scene.outputOf pos = some o ∧ l ∈ o.layers
  | none =>
      match scene.elementUnder pos with
      | some w =>
          scene.Focusable w →
            w.window.kind ≠ .egui ∧ ∃ o, scene.outputOf pos = some o ∧ Uncovered o pos
      | none =>
          ∀ l, scene.focusableLayer .bottom .background pos = some l →
            ∃ o, scene.outputOf pos = some o ∧ l ∈ o.layers ∧ Uncovered o pos

/-! ## Roots -/

theorem isRoot_layer {layer : LayerSurface} {surface : WlSurface} :
    scene.IsRoot (.layerSurface layer) (.wlSurface surface) ↔
      scene.layerOf surface = some layer := by
  constructor
  · intro h
    cases h with
    | layer h => exact h
  · exact .layer

theorem not_isRoot_of_layerOf {window : WorkspaceWindow} {surface : WlSurface}
    {layer : LayerSurface} (h : scene.layerOf surface = some layer) :
    ¬ scene.IsRoot (.window window) (.wlSurface surface) := by
  intro hroot
  cases hroot with
  | window hw hunder =>
      rw [scene.window_surfaces _ hw _ _ hunder] at h
      cases h

/-- What a window answers is its own. -/
theorem isRoot_of_focus (hw : w ∈ scene.windows) (h : w.focus pos = some hit) :
    scene.IsRoot (.window w.window) hit.1 ∧
      ∀ layer, ¬ scene.IsRoot (.layerSurface layer) hit.1 := by
  obtain ⟨under, hunder, rfl⟩ := Option.map_eq_some_iff.mp h
  rw [WindowView.surfaceUnder] at hunder
  cases hkind : w.window.kind with
  | egui => simp [hkind] at hunder
  | x11 surface =>
      simp only [hkind, WindowView.surfaceUnderWith] at hunder
      split at hunder
      · cases hunder
        exact ⟨.ssd, fun layer hroot => by cases hroot⟩
      · obtain ⟨_, _, rfl⟩ := Option.map_eq_some_iff.mp hunder
        exact ⟨.x11 hkind, fun layer hroot => by cases hroot⟩
  | wayland root =>
      simp only [hkind, WindowView.surfaceUnderWith] at hunder
      split at hunder
      · cases hunder
        exact ⟨.ssd, fun layer hroot => by cases hroot⟩
      · obtain ⟨found, hfound, rfl⟩ := Option.map_eq_some_iff.mp hunder
        refine ⟨.window hw hfound, fun layer hroot => ?_⟩
        rw [isRoot_layer, scene.window_surfaces w hw _ found hfound] at hroot
        cases hroot

/-- What a layer surface answers is its own. -/
theorem isRoot_of_layerHit (ho : o ∈ scene.outputs) (hl : l ∈ o.layers)
    (h : o.layerHit pos l = some hit) :
    (∀ window, ¬ scene.IsRoot (.window window) hit.1) ∧
      ∀ layer, scene.IsRoot (.layerSurface layer) hit.1 ↔ layer = l.surface := by
  obtain ⟨surface, hsurface, howner⟩ := layer_of_hit ho hl h
  rw [hsurface]
  refine ⟨fun window => not_isRoot_of_layerOf howner, fun layer => ?_⟩
  rw [isRoot_layer, howner, Option.some.injEq, eq_comm]

/-! ## The two searches -/

theorem focused_eq_iff {focused : KeyboardFocusTarget} :
    FocusUpdate.focused focused = .focused target ↔ target = focused := by
  rw [FocusUpdate.focused.injEq, eq_comm]

theorem focusWindow_eq_iff :
    scene.focusWindow w = .focused target ↔ scene.Focusable w ∧ target = .window w.window := by
  rw [focusWindow, Focusable, WorkspaceWindow.x11Surface]
  cases w.window.kind with
  | wayland surface => simpa using eq_comm
  | egui => simpa using eq_comm
  | x11 surface =>
      cases w.overrideRedirect with
      | true => simp
      | false =>
          cases scene.xwaylandRunning with
          | true => simpa using eq_comm
          | false => simp

theorem focusableLayer_eq_some (h : scene.focusableLayer upper lower pos = some l) :
    ∃ o ∈ scene.outputs, scene.outputUnder pos = some o ∧ l ∈ o.layers ∧
      o.candidate upper lower pos = some l ∧ (o.treeUnder pos l).isSome := by
  obtain ⟨o, ho, hl⟩ := Option.bind_eq_some_iff.mp h
  obtain ⟨hcandidate, hfocusable⟩ := Option.filter_eq_some_iff.mp hl
  rw [OutputView.focusable, Bool.and_eq_true] at hfocusable
  exact ⟨o, List.mem_reverse.mp (List.mem_of_find?_eq_some ho), ho,
    (OutputView.mem_of_candidate hcandidate).1, hcandidate, hfocusable.2⟩

theorem uncovered_iff :
    Uncovered o pos ↔ (o.candidate .overlay .top pos).bind (o.layerHit pos) = none := by
  rw [Uncovered]
  cases o.candidate .overlay .top pos with
  | none => exact iff_of_true rfl rfl
  | some l => rw [Option.bind_some, Option.bind_some, OutputView.layerHit, Option.map_eq_none_iff]

/-- The three parts of the search for the pointer. -/
theorem focusUnder_eq (h : scene.outputOf pos = some o) :
    scene.focusUnder pos =
      ((o.candidate .overlay .top pos).bind (o.layerHit pos)).or
        (((scene.elementUnder pos).bind (·.focus pos)).or
          ((o.candidate .bottom .background pos).bind (o.layerHit pos))) := by
  rw [focusUnder, h, Option.bind_some]

theorem layerHit_of_candidate_mem (h : (o.candidate upper lower pos).bind (o.layerHit pos) =
    some hit) : ∃ l ∈ o.layers, (l.layer = upper ∨ l.layer = lower) ∧
      o.layerHit pos l = some hit := by
  obtain ⟨l, hl, hhit⟩ := Option.bind_eq_some_iff.mp h
  obtain ⟨hmem, hlevel⟩ := OutputView.mem_of_candidate hl
  exact ⟨l, hmem, hlevel, hhit⟩

/-- The pointer goes to a layer surface only on the output it is on. -/
theorem layer_of_focusUnder {layer : LayerSurface} (ho : scene.outputOf pos = some o)
    (hhit : scene.focusUnder pos = some hit)
    (hroot : scene.IsRoot (.layerSurface layer) hit.1) : ∃ l ∈ o.layers, l.surface = layer := by
  have hmem : o ∈ scene.outputs := List.mem_of_find?_eq_some ho
  have hlayer : ∀ upper lower,
      (o.candidate upper lower pos).bind (o.layerHit pos) = some hit →
        ∃ l ∈ o.layers, l.surface = layer := by
    intro upper lower hfound
    obtain ⟨l, hl, -, hlhit⟩ := layerHit_of_candidate_mem hfound
    exact ⟨l, hl, (((isRoot_of_layerHit hmem hl hlhit).2 layer).mp hroot).symm⟩
  rw [focusUnder_eq ho] at hhit
  rcases Option.or_eq_some_iff.mp hhit with hupper | ⟨-, hrest⟩
  · exact hlayer _ _ hupper
  · rcases Option.or_eq_some_iff.mp hrest with hwindow | ⟨-, hlower⟩
    · obtain ⟨w, hw, hfocus⟩ := Option.bind_eq_some_iff.mp hwindow
      exact absurd hroot ((isRoot_of_focus (mem_of_elementUnder hw).1 hfocus).2 layer)
    · exact hlayer _ _ hlower

/-- And if it goes there, it is to the layer surface that is focused. -/
theorem mem_of_layer_agrees (h : scene.focusableLayer upper lower pos = some l)
    (hhit : scene.focusUnder pos = some hit)
    (hroot : scene.IsRoot (.layerSurface l.surface) hit.1) :
    ∃ o, scene.outputOf pos = some o ∧ l ∈ o.layers := by
  obtain ⟨u, hu, -, hlu, -⟩ := focusableLayer_eq_some h
  cases ho : scene.outputOf pos with
  | none =>
      rw [focusUnder, ho] at hhit
      cases hhit
  | some o =>
      obtain ⟨l', hl', hsurface⟩ := layer_of_focusUnder ho hhit hroot
      have hmem : o ∈ scene.outputs := List.mem_of_find?_eq_some ho
      obtain ⟨-, rfl⟩ := scene.layer_unique o hmem l' hl' u hu l hlu hsurface
      exact ⟨o, rfl, hl'⟩

/-- On the output of the layer surface that is focused, the pointer's search of its layers
comes to it. -/
theorem layerHit_of_focusable (h : scene.focusableLayer upper lower pos = some l)
    (ho : scene.outputOf pos = some o) (hl : l ∈ o.layers) :
    ∃ hit, (o.candidate upper lower pos).bind (o.layerHit pos) = some hit ∧
      scene.IsRoot (.layerSurface l.surface) hit.1 := by
  obtain ⟨u, hu, -, hlu, hcandidate, htree⟩ := focusableLayer_eq_some h
  have hmem : o ∈ scene.outputs := List.mem_of_find?_eq_some ho
  obtain ⟨rfl, -⟩ := scene.layer_unique u hu l hlu o hmem l hl rfl
  obtain ⟨hit, hhit⟩ : ∃ hit, u.layerHit pos l = some hit := by
    rw [← Option.isSome_iff_exists, OutputView.layerHit, Option.isSome_map]
    exact htree
  refine ⟨hit, ?_, ((isRoot_of_layerHit hu hlu hhit).2 l.surface).mpr rfl⟩
  rw [hcandidate, Option.bind_some, hhit]

/-! ## Case by case -/

/-- The pointer is over something the target is the root of. -/
def PointerMeets (scene : Scene) (pos : Position) (target : KeyboardFocusTarget) : Prop :=
  ∃ hit, scene.focusUnder pos = some hit ∧ scene.IsRoot target hit.1

theorem upperLayer_meets_iff (h : scene.focusableLayer .overlay .top pos = some l) :
    scene.PointerMeets pos (.layerSurface l.surface) ↔
      ∃ o, scene.outputOf pos = some o ∧ l ∈ o.layers := by
  constructor
  · intro hmeets
    obtain ⟨hit, hhit, hroot⟩ := hmeets
    exact mem_of_layer_agrees h hhit hroot
  · intro hmeets
    obtain ⟨o, ho, hl⟩ := hmeets
    obtain ⟨hit, hhit, hroot⟩ := layerHit_of_focusable h ho hl
    refine ⟨hit, ?_, hroot⟩
    rw [focusUnder_eq ho, hhit, Option.some_or]

theorem window_meets_iff (h : scene.elementUnder pos = some w) :
    scene.PointerMeets pos (.window w.window) ↔
      w.window.kind ≠ .egui ∧ ∃ o, scene.outputOf pos = some o ∧ Uncovered o pos := by
  obtain ⟨hw, hcovers⟩ := mem_of_elementUnder h
  constructor
  · intro hmeets
    obtain ⟨hit, hhit, hroot⟩ := hmeets
    cases ho : scene.outputOf pos with
    | none =>
        rw [focusUnder, ho] at hhit
        cases hhit
    | some o =>
        have hmem : o ∈ scene.outputs := List.mem_of_find?_eq_some ho
        have hlayer : ∀ upper lower,
            (o.candidate upper lower pos).bind (o.layerHit pos) ≠ some hit := by
          intro upper lower hfound
          obtain ⟨l, hl, -, hlhit⟩ := layerHit_of_candidate_mem hfound
          exact (isRoot_of_layerHit hmem hl hlhit).1 _ hroot
        rw [focusUnder_eq ho, h, Option.bind_some] at hhit
        rcases Option.or_eq_some_iff.mp hhit with hupper | ⟨hnone, hrest⟩
        · exact absurd hupper (hlayer _ _)
        · refine ⟨fun hkind => ?_, o, rfl, uncovered_iff.mpr hnone⟩
          have hfocus : w.focus pos = none := by
            rw [WindowView.focus, WindowView.surfaceUnder, hkind]
            rfl
          rw [hfocus, Option.none_or] at hrest
          exact hlayer _ _ hrest
  · intro hmeets
    obtain ⟨hkind, o, ho, hclear⟩ := hmeets
    obtain ⟨hit, hhit⟩ := Option.isSome_iff_exists.mp (WindowView.focus_isSome hkind hcovers)
    refine ⟨hit, ?_, (isRoot_of_focus hw hhit).1⟩
    rw [focusUnder_eq ho, uncovered_iff.mp hclear, h, Option.bind_some, hhit]
    rfl

theorem lowerLayer_meets_iff (hnone : scene.elementUnder pos = none)
    (h : scene.focusableLayer .bottom .background pos = some l) :
    scene.PointerMeets pos (.layerSurface l.surface) ↔
      ∃ o, scene.outputOf pos = some o ∧ l ∈ o.layers ∧ Uncovered o pos := by
  constructor
  · intro hmeets
    obtain ⟨hit, hhit, hroot⟩ := hmeets
    obtain ⟨o, ho, hl⟩ := mem_of_layer_agrees h hhit hroot
    have hmem : o ∈ scene.outputs := List.mem_of_find?_eq_some ho
    refine ⟨o, ho, hl, uncovered_iff.mpr ?_⟩
    by_contra hne
    obtain ⟨hit', hhit'⟩ := Option.ne_none_iff_exists'.mp hne
    rw [focusUnder_eq ho, hhit', Option.some_or] at hhit
    obtain rfl := Option.some.inj hhit
    -- it is a surface of the upper layers then, and the focused one is not
    obtain ⟨l', hl', hlevel', hlhit⟩ := layerHit_of_candidate_mem hhit'
    have hsurface := ((isRoot_of_layerHit hmem hl' hlhit).2 l.surface).mp hroot
    obtain ⟨-, rfl⟩ := scene.layer_unique o hmem l hl o hmem l' hl' hsurface
    obtain ⟨u, -, -, -, hcandidate, -⟩ := focusableLayer_eq_some h
    exact Layer.upper_ne_lower _ hlevel' (OutputView.mem_of_candidate hcandidate).2
  · intro hmeets
    obtain ⟨o, ho, hl, hclear⟩ := hmeets
    obtain ⟨hit, hhit, hroot⟩ := layerHit_of_focusable h ho hl
    refine ⟨hit, ?_, hroot⟩
    rw [focusUnder_eq ho, uncovered_iff.mp hclear, hnone, hhit]
    rfl

theorem surfaceUnder_meets_iff :
    (∃ under, scene.surfaceUnder pos = some under ∧ scene.IsRoot target under.1) ↔
      scene.PointerMeets pos target := by
  rw [surfaceUnder, PointerMeets]
  constructor
  · intro hmeets
    obtain ⟨under, hunder, hroot⟩ := hmeets
    obtain ⟨hit, hhit, rfl⟩ := Option.map_eq_some_iff.mp hunder
    exact ⟨hit, hhit, hroot⟩
  · intro hmeets
    obtain ⟨hit, hhit, hroot⟩ := hmeets
    exact ⟨(hit.1, hit.2.toF64), by rw [hhit]; rfl, hroot⟩

/-- A press focuses what the pointer is over exactly where the two searches do not come
apart. -/
theorem focus_agrees_iff (scene : Scene) (pos : Position) :
    scene.FocusAgrees pos ↔ scene.SearchesMeet pos := by
  simp only [FocusAgrees, surfaceUnder_meets_iff]
  rw [SearchesMeet, updateKeyboardFocus]
  cases hup : scene.focusableLayer .overlay .top pos with
  | some l =>
      simp only [focused_eq_iff, forall_eq]
      exact upperLayer_meets_iff hup
  | none =>
      cases hw : scene.elementUnder pos with
      | some w =>
          simp only [focusWindow_eq_iff, and_imp, @forall_comm KeyboardFocusTarget, forall_eq]
          exact imp_congr_right fun _ => window_meets_iff hw
      | none =>
          cases hlow : scene.focusableLayer .bottom .background pos with
          | some l =>
              simp only [focused_eq_iff, forall_eq, Option.some.injEq, forall_eq']
              exact lowerLayer_meets_iff hw hlow
          | none => simp

end Scene

/-- The debug window alone on a screen. -/
def eguiScene : Scene where
  outputs := [⟨⟨0, "eDP-1", ⟨10, 10⟩⟩, ⟨0, 0⟩, []⟩]
  windows :=
    [{ window := ⟨0, .egui⟩
       location := ⟨0, 0⟩
       ownBbox := ⟨⟨0, 0⟩, 10, 10⟩
       ownGeometry := ⟨⟨0, 0⟩, 10, 10⟩
       isSsd := false
       overrideRedirect := false
       underlying := fun _ => none }]
  xwaylandRunning := false
  layerOf := fun _ => none
  layer_surfaces := by
    intro o ho l hl
    rw [List.mem_singleton] at ho
    subst ho
    cases hl
  window_surfaces := fun _ _ _ _ _ => rfl
  layer_unique := by
    intro o ho l hl
    rw [List.mem_singleton] at ho
    subst ho
    cases hl

/-- A press on the debug window gives it the focus, and the pointer is over nothing. -/
theorem Scene.focus_egui :
    eguiScene.updateKeyboardFocus ⟨5, 5⟩ = .focused (.window ⟨0, .egui⟩) ∧
      eguiScene.surfaceUnder ⟨5, 5⟩ = none ∧ ¬ eguiScene.FocusAgrees ⟨5, 5⟩ := by
  have hfocus : eguiScene.updateKeyboardFocus ⟨5, 5⟩ = .focused (.window ⟨0, .egui⟩) := by
    decide +kernel
  have hunder : eguiScene.surfaceUnder ⟨5, 5⟩ = none := by decide +kernel
  refine ⟨hfocus, hunder, fun hagrees => ?_⟩
  obtain ⟨under, hsome, -⟩ := hagrees _ hfocus
  rw [hunder] at hsome
  cases hsome

end Scape.Display
