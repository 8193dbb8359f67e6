import Scape.Display.Scene

/-!
# The surface under a point

The element a point belongs to is the topmost that accepts input there: the layer
surfaces of the Overlay and the Top layer, the windows, the layer surfaces of the Bottom
and the Background layer (`Scene.topmost`). `surface_under` finds it by four shortcuts.
It looks only at one output, the first that has the rounded point. Of two layers it asks
one surface, the first whose box has the point, and it gives `layer_under` the point as
it is where a point on the output is due. Of the windows it asks one, too, and an egui
window has no answer.

So it is right exactly when the shortcuts lead to what is hit (`Scene.Clear`).
-/

namespace Scape.Display

open Topmost

/-! ## What is hit -/

inductive Element where
  | layer (o : OutputView) (l : LayerView)
  | window (w : WindowView)

/-- What a window answers a point in its input region, and where it begins. -/
def WindowView.answer (w : WindowView) (pos : Position) : Option (PointerFocusTarget × Point) :=
  if w.covers pos then
    match w.window.kind with
    | .egui => some (.egui w.window, w.renderLocation)
    | _ => w.focus pos
  else none

def Element.hit (pos : Position) : Element → Option (PointerFocusTarget × Point)
  | .layer o l => o.layerHit pos l
  | .window w => w.answer pos

namespace Scene

/-- The layer surfaces of all outputs on a layer, from the top. -/
def layersOn (scene : Scene) (layer : Layer) : List (OutputView × LayerView) :=
  scene.outputs.flatMap fun o => (o.layersOn layer).map fun l => (o, l)

def layers (scene : Scene) (upper lower : Layer) : List (OutputView × LayerView) :=
  scene.layersOn upper ++ scene.layersOn lower

/-- All elements, the topmost first. -/
def elements (scene : Scene) : List Element :=
  (scene.layers .overlay .top).map (fun p => .layer p.1 p.2) ++
    (scene.windows.reverse.map .window ++
      (scene.layers .bottom .background).map fun p => .layer p.1 p.2)

def topmost (scene : Scene) (pos : Position) : Option (PointerFocusTarget × Point) :=
  scene.elements.findSome? (·.hit pos)

def hitOn (pos : Position) (p : OutputView × LayerView) : Option (PointerFocusTarget × Point) :=
  p.1.layerHit pos p.2

/-- The topmost layer surface of two layers that is hit. -/
def firstLayer (scene : Scene) (upper lower : Layer) (pos : Position) :
    Option (OutputView × LayerView) :=
  first (hitOn pos) (scene.layers upper lower)

/-- The surface that is asked on an output is the one that is hit, if there is one. -/
def Reaches (scene : Scene) (o : OutputView) (upper lower : Layer) (pos : Position) : Prop :=
  ∀ p, scene.firstLayer upper lower pos = some p →
    p.1 = o ∧ o.candidate upper lower pos = some p.2

/-- No shortcut leads past what is hit. -/
def Clear (scene : Scene) (pos : Position) : Prop :=
  match scene.outputOf pos with
  | none => ∀ e ∈ scene.elements, e.hit pos = none
  | some o =>
      scene.Reaches o .overlay .top pos ∧
        (scene.firstLayer .overlay .top pos = none →
          match scene.elementUnder pos with
          | some w => w.window.kind ≠ .egui
          | none => scene.Reaches o .bottom .background pos)

end Scene

/-! ## Whose surface it is -/

variable {scene : Scene} {o o' : OutputView} {l l' : LayerView} {w : WindowView}
  {pos : Position} {upper lower layer : Layer} {c : PointerFocusTarget × Point}

theorem OutputView.mem_of_candidate (h : o.candidate upper lower pos = some l) :
    l ∈ o.layers ∧ (l.layer = upper ∨ l.layer = lower) := by
  have hunder : ∀ layer, o.layerUnder layer pos = some l → l ∈ o.layers ∧ l.layer = layer := by
    intro layer hl
    have hmem := List.mem_of_find?_eq_some hl
    rw [OutputView.layersOn, List.mem_filter, List.mem_reverse] at hmem
    exact ⟨hmem.1, of_decide_eq_true hmem.2⟩
  rcases Option.or_eq_some_iff.mp h with hu | ⟨-, hlow⟩
  · exact (hunder upper hu).imp_right .inl
  · exact (hunder lower hlow).imp_right .inr

theorem Scene.mem_layersOn {p : OutputView × LayerView} :
    p ∈ scene.layersOn layer ↔ p.1 ∈ scene.outputs ∧ p.2 ∈ p.1.layers ∧ p.2.layer = layer := by
  simp only [Scene.layersOn, OutputView.layersOn, List.mem_flatMap, List.mem_map,
    List.mem_filter, List.mem_reverse, decide_eq_true_eq]
  constructor
  · rintro ⟨o, ho, l, hl, rfl⟩
    exact ⟨ho, hl⟩
  · intro h
    exact ⟨p.1, h.1, p.2, h.2, rfl⟩

theorem Scene.mem_layers {p : OutputView × LayerView} :
    p ∈ scene.layers upper lower ↔
      p.1 ∈ scene.outputs ∧ p.2 ∈ p.1.layers ∧ (p.2.layer = upper ∨ p.2.layer = lower) := by
  rw [Scene.layers, List.mem_append, Scene.mem_layersOn, Scene.mem_layersOn]
  tauto

theorem Scene.layer_of_hit (ho : o ∈ scene.outputs) (hl : l ∈ o.layers)
    (h : o.layerHit pos l = some c) :
    ∃ surface, c.1 = .wlSurface surface ∧ scene.layerOf surface = some l.surface := by
  obtain ⟨hit, htree, rfl⟩ := Option.map_eq_some_iff.mp h
  exact ⟨hit.1, rfl, scene.layer_surfaces o ho l hl _ hit htree⟩

theorem Scene.window_of_hit (hw : w ∈ scene.windows) {surface : WlSurface}
    (h : w.focus pos = some c) (hc : c.1 = .wlSurface surface) :
    scene.layerOf surface = none := by
  obtain ⟨hit, hunder, rfl⟩ := Option.map_eq_some_iff.mp h
  rw [WindowView.surfaceUnder] at hunder
  cases hkind : w.window.kind with
  | egui => simp [hkind] at hunder
  | x11 x =>
      simp only [hkind, WindowView.surfaceUnderWith] at hunder
      split at hunder
      · cases hunder
        cases hc
      · obtain ⟨_, _, rfl⟩ := Option.map_eq_some_iff.mp hunder
        cases hc
  | wayland root =>
      simp only [hkind, WindowView.surfaceUnderWith] at hunder
      split at hunder
      · cases hunder
        cases hc
      · obtain ⟨under, hsurface, rfl⟩ := Option.map_eq_some_iff.mp hunder
        cases hc
        exact scene.window_surfaces w hw _ under hsurface

/-- What a layer surface answers, only that layer surface answers. -/
theorem Scene.layerHit_unique (ho : o ∈ scene.outputs) (hl : l ∈ o.layers)
    (ho' : o' ∈ scene.outputs) (hl' : l' ∈ o'.layers) (h : o.layerHit pos l = some c)
    (h' : o'.layerHit pos l' = some c) : o = o' ∧ l = l' := by
  obtain ⟨surface, hsurface, howner⟩ := Scene.layer_of_hit ho hl h
  obtain ⟨surface', hsurface', howner'⟩ := Scene.layer_of_hit ho' hl' h'
  rw [hsurface, PointerFocusTarget.wlSurface.injEq] at hsurface'
  rw [hsurface', howner'] at howner
  exact scene.layer_unique _ ho _ hl _ ho' _ hl' (Option.some.inj howner).symm

theorem Scene.tells_layers : Tells (Scene.hitOn pos) (· ∈ scene.layers upper lower) := by
  intro p q c hp hq hpc hqc
  obtain ⟨ho, hl, -⟩ := Scene.mem_layers.mp hp
  obtain ⟨ho', hl', -⟩ := Scene.mem_layers.mp hq
  obtain ⟨hoo, hll⟩ := Scene.layerHit_unique ho hl ho' hl' hpc hqc
  exact Prod.ext hoo hll

theorem WindowView.answer_eq_some (h : w.answer pos = some c) :
    c = (.egui w.window, w.renderLocation) ∨ w.focus pos = some c := by
  rw [WindowView.answer] at h
  split at h
  · split at h
    · exact .inl (Option.some.inj h).symm
    · exact .inr h
  · cases h

/-- No window answers what a layer surface answers. -/
theorem Scene.layerHit_ne (ho : o ∈ scene.outputs) (hl : l ∈ o.layers)
    (h : o.layerHit pos l = some c) (hw : w ∈ scene.windows) :
    w.focus pos ≠ some c ∧ w.answer pos ≠ some c := by
  obtain ⟨surface, hsurface, howner⟩ := Scene.layer_of_hit ho hl h
  have hfocus : w.focus pos ≠ some c := by
    intro hfocus
    rw [Scene.window_of_hit hw hfocus hsurface] at howner
    cases howner
  refine ⟨hfocus, fun hanswer => ?_⟩
  rcases WindowView.answer_eq_some hanswer with rfl | hf
  · cases hsurface
  · exact hfocus hf

/-- An application window has a surface wherever it accepts input. -/
theorem WindowView.focus_isSome (hkind : w.window.kind ≠ .egui) (h : w.covers pos) :
    (w.focus pos).isSome := by
  rw [WindowView.covers, Bool.and_eq_true] at h
  have hinput := h.2
  rw [WindowView.focus, Option.isSome_map]
  have hwith : ∀ target, w.inInputRegion (pos - w.renderLocation.toF64) →
      (w.surfaceUnderWith target (pos - w.renderLocation.toF64)).isSome := by
    intro target hregion
    rw [WindowView.inInputRegion] at hregion
    rw [WindowView.surfaceUnderWith]
    by_cases hssd : w.isSsd
    · simp only [hssd, if_true, Bool.true_and, Bool.or_eq_true] at hregion ⊢
      rcases hregion with hbar | hunder
      · rw [if_pos hbar]
        rfl
      · split
        · rfl
        · rwa [Option.isSome_map]
    · simp only [hssd, Bool.false_and, Bool.false_eq_true, if_false] at hregion ⊢
      rw [Option.isSome_map]
      have hzero : pos - w.renderLocation.toF64 - (⟨0, 0⟩ : Point).toF64 =
          pos - w.renderLocation.toF64 := by
        ext <;> simp
      rwa [hzero]
  rw [WindowView.isInInputRegion] at hinput
  rw [WindowView.surfaceUnder]
  cases hk : w.window.kind with
  | egui => exact absurd hk hkind
  | wayland root =>
      rw [hk] at hinput
      exact hwith _ hinput
  | x11 x =>
      rw [hk] at hinput
      exact hwith _ hinput

theorem WindowView.answer_isSome_iff : (w.answer pos).isSome ↔ w.covers pos := by
  rw [WindowView.answer]
  split
  next hcovers =>
    refine iff_of_true ?_ hcovers
    split
    next => rfl
    next hkind => exact WindowView.focus_isSome hkind hcovers
  next hcovers => exact iff_of_false (by simp) hcovers

/-! ## Link by link -/

/-- The window that is asked is the topmost that accepts input. -/
theorem Scene.first_window :
    first (·.answer pos) scene.windows.reverse = scene.elementUnder pos := by
  show scene.windows.reverse.find? _ = scene.windows.reverse.find? _
  congr 1
  funext w
  rw [Bool.eq_iff_iff]
  exact WindowView.answer_isSome_iff

theorem Scene.mem_of_elementUnder (h : scene.elementUnder pos = some w) :
    w ∈ scene.windows ∧ w.covers pos := by
  have hcovers := List.find?_some h
  exact ⟨List.mem_reverse.mp (List.mem_of_find?_eq_some h), hcovers⟩

/-- A window answers what the code asks of it, if it is no egui window. -/
theorem WindowView.focus_eq_answer_iff (h : w.covers pos) :
    w.focus pos = w.answer pos ↔ w.window.kind ≠ .egui := by
  rw [WindowView.answer, if_pos h]
  cases hkind : w.window.kind with
  | egui => simp [WindowView.focus, WindowView.surfaceUnder, hkind]
  | wayland root => simp
  | x11 x => simp

theorem Scene.topmost_eq (scene : Scene) (pos : Position) :
    scene.topmost pos =
      ((scene.firstLayer .overlay .top pos).bind (Scene.hitOn pos)).or
        (((scene.elementUnder pos).bind (·.answer pos)).or
          ((scene.firstLayer .bottom .background pos).bind (Scene.hitOn pos))) := by
  have hlayers : ∀ upper lower,
      ((scene.layers upper lower).map fun p => Element.layer p.1 p.2).findSome? (·.hit pos) =
        (scene.firstLayer upper lower pos).bind (Scene.hitOn pos) := by
    intro upper lower
    rw [List.findSome?_map, Scene.firstLayer, ← findSome?_eq_bind_first]
    rfl
  have hwindows : (scene.windows.reverse.map Element.window).findSome? (·.hit pos) =
      (scene.elementUnder pos).bind (·.answer pos) := by
    rw [List.findSome?_map, ← Scene.first_window, ← findSome?_eq_bind_first]
    rfl
  rw [Scene.topmost, Scene.elements, List.findSome?_append, List.findSome?_append, hlayers,
    hlayers, hwindows]

theorem Scene.reaches_iff (ho : o ∈ scene.outputs) :
    (o.candidate upper lower pos).bind (o.layerHit pos) =
        (scene.firstLayer upper lower pos).bind (Scene.hitOn pos) ↔
      scene.Reaches o upper lower pos := by
  have hguess : (o.candidate upper lower pos).bind (o.layerHit pos) =
      ((o.candidate upper lower pos).map fun l => (o, l)).bind (Scene.hitOn pos) := by
    rw [Option.bind_map]
    rfl
  have hmem : ∀ p, ((o.candidate upper lower pos).map fun l => (o, l)) = some p →
      p ∈ scene.layers upper lower := by
    intro p hp
    obtain ⟨l, hl, rfl⟩ := Option.map_eq_some_iff.mp hp
    exact Scene.mem_layers.mpr ⟨ho, OutputView.mem_of_candidate hl⟩
  rw [hguess, Scene.firstLayer, ← findSome?_eq_bind_first,
    bind_guess_eq_iff Scene.tells_layers hmem]
  refine forall₂_congr fun p _ => ?_
  rw [Option.map_eq_some_iff]
  constructor
  · intro ⟨l, hl, he⟩
    subst he
    exact ⟨rfl, hl⟩
  · intro ⟨he, hl⟩
    exact ⟨p.2, hl, by rw [← he]⟩

/-- What an output's candidates and what the first hits come from. -/
theorem Scene.layerHit_of_candidate (ho : o ∈ scene.outputs)
    (h : (o.candidate upper lower pos).bind (o.layerHit pos) = some c) :
    ∃ p ∈ scene.layers upper lower, Scene.hitOn pos p = some c := by
  obtain ⟨l, hl, hc⟩ := Option.bind_eq_some_iff.mp h
  exact ⟨(o, l), Scene.mem_layers.mpr ⟨ho, OutputView.mem_of_candidate hl⟩, hc⟩

theorem Scene.layerHit_of_firstLayer
    (h : (scene.firstLayer upper lower pos).bind (Scene.hitOn pos) = some c) :
    ∃ p ∈ scene.layers upper lower, Scene.hitOn pos p = some c := by
  obtain ⟨p, hp, hc⟩ := Option.bind_eq_some_iff.mp h
  exact ⟨p, (first_eq_some hp).1, hc⟩

theorem Scene.windowHit_ne {p : OutputView × LayerView} (hp : p ∈ scene.layers upper lower)
    (hc : Scene.hitOn pos p = some c) :
    (scene.elementUnder pos).bind (·.focus pos) ≠ some c ∧
      (scene.elementUnder pos).bind (·.answer pos) ≠ some c := by
  obtain ⟨ho, hl, -⟩ := Scene.mem_layers.mp hp
  constructor
  · intro h
    obtain ⟨w, hw, hwc⟩ := Option.bind_eq_some_iff.mp h
    exact (Scene.layerHit_ne ho hl hc (Scene.mem_of_elementUnder hw).1).1 hwc
  · intro h
    obtain ⟨w, hw, hwc⟩ := Option.bind_eq_some_iff.mp h
    exact (Scene.layerHit_ne ho hl hc (Scene.mem_of_elementUnder hw).1).2 hwc

theorem Layer.upper_ne_lower (layer : Layer) (h : layer = .overlay ∨ layer = .top) :
    ¬ (layer = .bottom ∨ layer = .background) := by
  rcases h with rfl | rfl
  · simp
  · simp

/-- The upper two layers and the lower two have no surface in common. -/
theorem Scene.upper_ne_lower {p q : OutputView × LayerView}
    (hp : p ∈ scene.layers .overlay .top) (hq : q ∈ scene.layers .bottom .background)
    (hpc : Scene.hitOn pos p = some c) : Scene.hitOn pos q ≠ some c := by
  intro hqc
  obtain ⟨ho, hl, hlevel⟩ := Scene.mem_layers.mp hp
  obtain ⟨ho', hl', hlevel'⟩ := Scene.mem_layers.mp hq
  obtain ⟨-, hll⟩ := Scene.layerHit_unique ho hl ho' hl' hpc hqc
  rw [hll] at hlevel
  exact Layer.upper_ne_lower _ hlevel hlevel'

theorem or_ne_some {γ : Type*} {a b : Option γ} {c : γ} (ha : a ≠ some c) (hb : b ≠ some c) :
    a.or b ≠ some c := by
  cases a with
  | none => exact hb
  | some _ => exact ha

theorem Scene.windowLink_iff :
    (scene.elementUnder pos).bind (·.focus pos) = (scene.elementUnder pos).bind (·.answer pos) ↔
      ∀ w, scene.elementUnder pos = some w → w.window.kind ≠ .egui := by
  cases hw : scene.elementUnder pos with
  | none => simp
  | some w =>
      rw [Option.bind_some, Option.bind_some,
        WindowView.focus_eq_answer_iff (Scene.mem_of_elementUnder hw).2]
      simp

theorem Scene.firstLayer_eq_none (scene : Scene) (upper lower : Layer) (pos : Position) :
    (scene.firstLayer upper lower pos).bind (Scene.hitOn pos) = none ↔
      scene.firstLayer upper lower pos = none := by
  rw [← reached_eq_none_iff, Scene.firstLayer, reached_first]

/-- On an output, `surface_under` is right exactly when each link of the chain is that the
ones before it lead to. -/
theorem Scene.focusUnder_eq_iff (h : scene.outputOf pos = some o) :
    scene.focusUnder pos = scene.topmost pos ↔ scene.Clear pos := by
  have ho : o ∈ scene.outputs := List.mem_of_find?_eq_some h
  -- what lies below the upper layers is none of theirs
  have hcode : ∀ c, (o.candidate .overlay .top pos).bind (o.layerHit pos) = some c →
      ((scene.elementUnder pos).bind (·.answer pos)).or
        ((scene.firstLayer .bottom .background pos).bind (Scene.hitOn pos)) ≠ some c := by
    intro c hc
    obtain ⟨p, hp, hpc⟩ := Scene.layerHit_of_candidate ho hc
    refine or_ne_some (Scene.windowHit_ne hp hpc).2 fun hlow => ?_
    obtain ⟨q, hq, hqc⟩ := Scene.layerHit_of_firstLayer hlow
    exact Scene.upper_ne_lower hp hq hpc hqc
  have hspec : ∀ c, (scene.firstLayer .overlay .top pos).bind (Scene.hitOn pos) = some c →
      ((scene.elementUnder pos).bind (·.focus pos)).or
        ((o.candidate .bottom .background pos).bind (o.layerHit pos)) ≠ some c := by
    intro c hc
    obtain ⟨p, hp, hpc⟩ := Scene.layerHit_of_firstLayer hc
    refine or_ne_some (Scene.windowHit_ne hp hpc).1 fun hlow => ?_
    obtain ⟨q, hq, hqc⟩ := Scene.layerHit_of_candidate ho hlow
    exact Scene.upper_ne_lower hp hq hpc hqc
  -- and no window answers for the lower layers
  have hwindow : ∀ c, (scene.elementUnder pos).bind (·.focus pos) = some c →
      (scene.firstLayer .bottom .background pos).bind (Scene.hitOn pos) ≠ some c := by
    intro c hc hlow
    obtain ⟨q, hq, hqc⟩ := Scene.layerHit_of_firstLayer hlow
    exact (Scene.windowHit_ne hq hqc).1 hc
  have hanswer : ∀ c, (scene.elementUnder pos).bind (·.answer pos) = some c →
      (o.candidate .bottom .background pos).bind (o.layerHit pos) ≠ some c := by
    intro c hc hlow
    obtain ⟨q, hq, hqc⟩ := Scene.layerHit_of_candidate ho hlow
    exact (Scene.windowHit_ne hq hqc).2 hc
  rw [Scene.focusUnder, h, Option.bind_some, Scene.topmost_eq, or_eq_or_iff hcode hspec,
    or_eq_or_iff hwindow hanswer, Scene.reaches_iff ho, Scene.reaches_iff ho,
    Scene.windowLink_iff, Scene.Clear, h]
  refine and_congr_right fun hreach => ?_
  rw [(Scene.reaches_iff ho).mpr hreach, Scene.firstLayer_eq_none]
  refine imp_congr_right fun _ => ?_
  cases hw : scene.elementUnder pos with
  | none => simp
  | some w =>
      have hsome : w.window.kind ≠ .egui → (w.focus pos).isSome := fun hkind =>
        WindowView.focus_isSome hkind (Scene.mem_of_elementUnder hw).2
      simp only [Option.some.injEq, forall_eq', Option.bind_some]
      refine ⟨fun hor => hor.1, fun hkind => ⟨hkind, fun hnone => ?_⟩⟩
      have habsurd := hsome hkind
      rw [hnone] at habsurd
      cases habsurd

theorem toF64_hit_injective :
    Function.Injective fun hit : PointerFocusTarget × Point => (hit.1, hit.2.toF64) := by
  intro hit hit' he
  exact Prod.ext (Prod.mk.inj he).1 (Point.toF64_injective (Prod.mk.inj he).2)

/-- The right answer for a point: the topmost element that accepts input there, and where
it begins. -/
def Scene.RightAt (scene : Scene) (pos : Position) : Prop :=
  scene.surfaceUnder pos = (scene.topmost pos).map fun hit => (hit.1, hit.2.toF64)

theorem Scene.surfaceUnder_right_iff (scene : Scene) (pos : Position) :
    scene.RightAt pos ↔ scene.Clear pos := by
  rw [Scene.RightAt, Scene.surfaceUnder, (Option.map_injective toF64_hit_injective).eq_iff]
  cases h : scene.outputOf pos with
  | some o => exact Scene.focusUnder_eq_iff h
  | none =>
      rw [Scene.focusUnder, h, Option.bind_none, Scene.Clear, h, eq_comm, Scene.topmost,
        List.findSome?_eq_none_iff]

/-- A layer surface of a whole screen, which accepts input everywhere or nowhere. -/
def screenLayer (id : Nat) (accepts : Bool) : LayerView where
  surface := ⟨id, ⟨id⟩⟩
  layer := .top
  geometry := ⟨⟨0, 0⟩, 10, 10⟩
  bbox := ⟨⟨0, 0⟩, 10, 10⟩
  canReceiveKeyboardFocus := true
  surfaceUnder := fun _ => if accepts then some (⟨id⟩, ⟨0, 0⟩) else none

/-- One output with two surfaces on its Top layer, of which the lower accepts input. -/
def screenOutput (accepts : Bool) : OutputView where
  output := ⟨0, "eDP-1", ⟨10, 10⟩⟩
  location := ⟨0, 0⟩
  layers := [screenLayer 1 true, screenLayer 2 accepts]

def screenScene (accepts : Bool) : Scene where
  outputs := [screenOutput accepts]
  windows := []
  xwaylandRunning := false
  layerOf := fun surface => some ⟨surface.id, surface⟩
  layer_surfaces := by
    intro o ho l hl p hit h
    rw [List.mem_singleton] at ho
    subst ho
    simp only [screenOutput, List.mem_cons, List.not_mem_nil, or_false] at hl
    rcases hl with rfl | rfl
    · cases h
      rfl
    · cases accepts with
      | true =>
          cases h
          rfl
      | false => cases h
  window_surfaces := fun w hw => by cases hw
  layer_unique := by
    intro o ho l hl o' ho' l' hl' h
    rw [List.mem_singleton] at ho ho'
    subst ho ho'
    simp only [screenOutput, List.mem_cons, List.not_mem_nil, or_false] at hl hl'
    rcases hl with rfl | rfl <;> rcases hl' with rfl | rfl
    · exact ⟨rfl, rfl⟩
    · cases h
    · cases h
    · exact ⟨rfl, rfl⟩

/-- Below a surface that lets all input through, no surface is asked. -/
theorem Scene.surfaceUnder_screen :
    (screenScene false).surfaceUnder ⟨5, 5⟩ = none ∧
      (screenScene false).topmost ⟨5, 5⟩ = some (.wlSurface ⟨1⟩, ⟨0, 0⟩) := by
  decide +kernel

end Scape.Display
