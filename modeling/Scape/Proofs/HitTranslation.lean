import Scape.Proofs.HitTesting

/-!
# Where an output lies

An output is moved, with every window on it and with nothing else where it was or where
it comes to lie (`Scene.Alone`). All that a point on it can hit has moved along, so the
hit tests have the same answer at the moved point, up to the move, with two exceptions.
`layer_under` is given the point in the space, and so may come upon another layer
surface; and a point half way between two pixels is not rounded the same way on both
sides of zero, and so may be taken to be off the output.
-/

namespace Scape.Display

open Topmost

def OutputView.shift (o : OutputView) (v : Point) : OutputView :=
  { o with location := o.location + v }

def WindowView.shift (w : WindowView) (v : Point) : WindowView :=
  { w with location := w.location + v }

namespace Scene

def shiftOutput (output : SmithayOutput) (v : Point) (o : OutputView) : OutputView :=
  if o.output = output then o.shift v else o

def shiftWindow (on : WindowView → Bool) (v : Point) (w : WindowView) : WindowView :=
  if on w then w.shift v else w

@[simp] theorem shiftOutput_layers (output : SmithayOutput) (v : Point) (o : OutputView) :
    (shiftOutput output v o).layers = o.layers := by
  rw [shiftOutput]
  split <;> rfl

@[simp] theorem shiftWindow_underlying (on : WindowView → Bool) (v : Point) (w : WindowView) :
    (shiftWindow on v w).underlying = w.underlying := by
  rw [shiftWindow]
  split <;> rfl

/-- The scene with an output and the windows on it moved. -/
def shift (scene : Scene) (output : SmithayOutput) (on : WindowView → Bool) (v : Point) :
    Scene where
  outputs := scene.outputs.map (shiftOutput output v)
  windows := scene.windows.map (shiftWindow on v)
  xwaylandRunning := scene.xwaylandRunning
  layerOf := scene.layerOf
  layer_surfaces := by
    intro o ho l hl p hit h
    obtain ⟨o, hmem, rfl⟩ := List.mem_map.mp ho
    rw [shiftOutput_layers] at hl
    exact scene.layer_surfaces o hmem l hl p hit h
  window_surfaces := by
    intro w hw p hit h
    obtain ⟨w, hmem, rfl⟩ := List.mem_map.mp hw
    rw [shiftWindow_underlying] at h
    exact scene.window_surfaces w hmem p hit h
  layer_unique := by
    intro o ho l hl o' ho' l' hl' h
    obtain ⟨o, hmem, rfl⟩ := List.mem_map.mp ho
    obtain ⟨o', hmem', rfl⟩ := List.mem_map.mp ho'
    rw [shiftOutput_layers] at hl hl'
    obtain ⟨rfl, hll⟩ := scene.layer_unique o hmem l hl o' hmem' l' hl' h
    exact ⟨rfl, hll⟩

/-- Nothing but the output and the windows on it has the point, before the move or
after. -/
structure Alone (scene : Scene) (o : OutputView) (on : WindowView → Bool) (v : Point)
    (pos : Position) : Prop where
  outputs : ∀ o' ∈ scene.outputs, o' ≠ o → o'.output ≠ o.output ∧
    ∀ q ∈ [pos, pos + v.toF64],
      ¬ o'.geometry.containsF64 q ∧ ¬ o'.geometry.contains q.toI32Round
  windows : ∀ w ∈ scene.windows, on w = false →
    ∀ q ∈ [pos, pos + v.toF64], ¬ w.covers q

end Scene

/-! ## Points that move along -/

variable {scene : Scene} {o : OutputView} {l : LayerView} {w : WindowView}
  {on : WindowView → Bool} {v : Point} {pos q : Position} {upper lower : Layer}

theorem Position.sub_shift (p : Position) (a : Point) :
    p + v.toF64 - (a + v).toF64 = p - a.toF64 := by
  ext <;> simp

theorem Rectangle.containsF64_shift (r : Rectangle) :
    ({ r with loc := r.loc + v } : Rectangle).containsF64 (pos + v.toF64) = r.containsF64 pos := by
  simp only [Rectangle.containsF64, Position.add_x, Position.add_y, Point.add_x, Point.add_y,
    Point.toF64_x, Point.toF64_y, Int.cast_add, add_le_add_iff_right,
    add_right_comm (r.loc.x : ℚ) v.x, add_right_comm (r.loc.y : ℚ) v.y, add_lt_add_iff_right]

theorem WindowView.renderLocation_shift : (w.shift v).renderLocation = w.renderLocation + v := by
  show w.location + v - w.geometry.loc = w.location - w.geometry.loc + v
  ext
  · exact add_sub_right_comm ..
  · exact add_sub_right_comm ..

theorem WindowView.covers_shift : (w.shift v).covers (pos + v.toF64) = w.covers pos := by
  have hloc : w.bbox.loc + (w.renderLocation + v) = w.bbox.loc + w.renderLocation + v := by
    ext
    · exact (add_assoc ..).symm
    · exact (add_assoc ..).symm
  let box : Rectangle := { w.bbox with loc := w.bbox.loc + w.renderLocation }
  have hbox : ({ box with loc := box.loc + v } : Rectangle).containsF64 (pos + v.toF64) =
      box.containsF64 pos := Rectangle.containsF64_shift box
  simp only [WindowView.covers, renderLocation_shift, Position.sub_shift]
  rw [← hbox, ← hloc]
  rfl

/-- Where a target begins, after the move. -/
def movedHit (v : Point) (hit : PointerFocusTarget × Point) : PointerFocusTarget × Point :=
  (hit.1, hit.2 + v)

theorem movedHit_injective (v : Point) : Function.Injective (movedHit v) := by
  intro hit hit' h
  simp only [movedHit, Prod.mk.injEq] at h
  refine Prod.ext h.1 (Point.ext ?_ ?_)
  · have hx := congrArg Point.x h.2
    exact add_right_cancel hx
  · have hy := congrArg Point.y h.2
    exact add_right_cancel hy

theorem WindowView.focus_shift :
    (w.shift v).focus (pos + v.toF64) = (w.focus pos).map (movedHit v) := by
  rw [WindowView.focus, renderLocation_shift, Position.sub_shift, WindowView.focus,
    Option.map_map]
  show (w.surfaceUnder _).map _ = (w.surfaceUnder _).map _
  congr 1
  funext hit
  refine Prod.ext rfl (Point.ext ?_ ?_)
  · exact (add_assoc ..).symm
  · exact (add_assoc ..).symm

theorem OutputView.treeUnder_shift :
    (o.shift v).treeUnder (pos + v.toF64) l = o.treeUnder pos l := by
  show l.surfaceUnder (pos + v.toF64 - (o.location + v).toF64 - l.geometry.loc.toF64) = _
  rw [Position.sub_shift]
  rfl

theorem OutputView.layerHit_shift :
    (o.shift v).layerHit (pos + v.toF64) = fun l => (o.layerHit pos l).map (movedHit v) := by
  funext l
  rw [OutputView.layerHit, treeUnder_shift, OutputView.layerHit, Option.map_map]
  congr 1
  funext hit
  refine Prod.ext rfl (Point.ext ?_ ?_)
  · exact (add_assoc ..).symm
  · exact (add_assoc ..).symm

theorem OutputView.focusable_shift :
    (o.shift v).focusable (pos + v.toF64) = o.focusable pos := by
  funext l
  rw [OutputView.focusable, treeUnder_shift, OutputView.focusable]

theorem OutputView.containsF64_shift :
    (o.shift v).geometry.containsF64 (pos + v.toF64) = o.geometry.containsF64 pos :=
  Rectangle.containsF64_shift o.geometry

/-! ## What the moved scene finds -/

namespace Scene

/-- Whether the hit test takes a point to be on the output, before the move and after. -/
def lands (o : OutputView) (pos : Position) : Bool := o.geometry.contains pos.toI32Round

theorem shiftOutput_self : shiftOutput o.output v o = o.shift v := if_pos rfl

theorem shiftOutput_of_ne {o' : OutputView} (h : o'.output ≠ o.output) :
    shiftOutput o.output v o' = o' := if_neg h

theorem outputOf_of_alone (ho : o ∈ scene.outputs) (halone : scene.Alone o on v pos) :
    scene.outputOf pos = if lands o pos then some o else none := by
  refine find?_only ho fun o' ho' hcontains => ?_
  by_contra hne
  exact ((halone.outputs o' ho' hne).2 pos (List.mem_cons_self ..)).2 hcontains

theorem outputUnder_of_alone (ho : o ∈ scene.outputs) (hpos : o.geometry.containsF64 pos)
    (halone : scene.Alone o on v pos) : scene.outputUnder pos = some o := by
  have honly : ∀ o' ∈ scene.outputs.reverse, o'.geometry.containsF64 pos → o' = o := by
    intro o' ho' hcontains
    by_contra hne
    have hfar := (halone.outputs o' (List.mem_reverse.mp ho') hne).2 pos (List.mem_cons_self ..)
    exact hfar.1 hcontains
  rw [outputUnder, find?_only (List.mem_reverse.mpr ho) honly, if_pos hpos]

/-- Of the moved outputs, too, only the one that moved has the moved point. -/
theorem alone_shift (halone : scene.Alone o on v pos) {o' : OutputView}
    (ho' : o' ∈ (scene.shift o.output on v).outputs)
    (h : o'.geometry.containsF64 (pos + v.toF64) ∨ lands o' (pos + v.toF64)) :
    o' = o.shift v := by
  obtain ⟨o', hmem, rfl⟩ := List.mem_map.mp ho'
  by_cases hne : o' = o
  · subst hne
    exact shiftOutput_self
  · obtain ⟨hout, hfar⟩ := halone.outputs o' hmem hne
    rw [shiftOutput_of_ne hout] at h
    have hq := hfar (pos + v.toF64) (List.mem_cons_of_mem _ (List.mem_singleton_self _))
    exact (h.elim hq.1 hq.2).elim

theorem mem_shift (ho : o ∈ scene.outputs) : o.shift v ∈ (scene.shift o.output on v).outputs :=
  List.mem_map.mpr ⟨o, ho, shiftOutput_self⟩

theorem outputOf_shift (ho : o ∈ scene.outputs) (halone : scene.Alone o on v pos) :
    (scene.shift o.output on v).outputOf (pos + v.toF64) =
      if lands (o.shift v) (pos + v.toF64) then some (o.shift v) else none :=
  find?_only (mem_shift ho) fun _ ho' hlands => alone_shift halone ho' (.inr hlands)

theorem outputUnder_shift (ho : o ∈ scene.outputs) (hpos : o.geometry.containsF64 pos)
    (halone : scene.Alone o on v pos) :
    (scene.shift o.output on v).outputUnder (pos + v.toF64) = some (o.shift v) := by
  have honly : ∀ o' ∈ (scene.shift o.output on v).outputs.reverse,
      o'.geometry.containsF64 (pos + v.toF64) → o' = o.shift v := fun o' ho' hcontains =>
    alone_shift halone (List.mem_reverse.mp ho') (.inl hcontains)
  rw [outputUnder, find?_only (List.mem_reverse.mpr (mem_shift ho)) honly,
    if_pos (by rw [OutputView.containsF64_shift, hpos])]

theorem elementUnder_shift (halone : scene.Alone o on v pos) :
    (scene.shift o.output on v).elementUnder (pos + v.toF64) =
      (scene.elementUnder pos).map (·.shift v) := by
  have hcovers : ∀ w ∈ scene.windows.reverse,
      (shiftWindow on v w).covers (pos + v.toF64) = w.covers pos := by
    intro w hw
    rw [shiftWindow]
    cases hon : on w with
    | true => exact WindowView.covers_shift
    | false =>
        have hfar := halone.windows w (List.mem_reverse.mp hw) hon
        have hbefore := hfar pos (List.mem_cons_self ..)
        have hafter := hfar (pos + v.toF64) (List.mem_cons_of_mem _ (List.mem_singleton_self _))
        rw [Bool.not_eq_true] at hbefore hafter
        rw [hbefore]
        exact hafter
  show (scene.windows.map (shiftWindow on v)).reverse.find? _ = _
  rw [← List.map_reverse, find?_map_of_agree hcovers]
  show (scene.elementUnder pos).map (shiftWindow on v) = _
  cases hw : scene.elementUnder pos with
  | none => rfl
  | some w =>
      obtain ⟨hmem, hcov⟩ := mem_of_elementUnder hw
      -- a window that has the point is on the output
      cases hon : on w with
      | true =>
          rw [Option.map_some, shiftWindow, if_pos hon]
          rfl
      | false => exact absurd hcov (halone.windows w hmem hon pos (List.mem_cons_self ..))

/-! ## The pointer -/

/-- The layer surface `layer_under` comes upon for one position, if another hits it. -/
def hitLayer (o : OutputView) (upper lower : Layer) (pos q : Position) : Option LayerView :=
  reached (o.layerHit pos) (o.candidate upper lower q)

/-- No window has a surface there. -/
def NoWindow (scene : Scene) (pos : Position) : Prop :=
  ∀ w, scene.elementUnder pos = some w → w.window.kind = .egui

/-- Whatever `layer_under` is given, it comes upon the same. -/
def SameLayers (scene : Scene) (o : OutputView) (pos q : Position) : Prop :=
  hitLayer o .overlay .top pos pos = hitLayer o .overlay .top pos q ∧
    (hitLayer o .overlay .top pos pos = none → scene.NoWindow pos →
      hitLayer o .bottom .background pos pos = hitLayer o .bottom .background pos q)

def Misses (scene : Scene) (o : OutputView) (pos q : Position) : Prop :=
  hitLayer o .overlay .top pos q = none ∧ scene.NoWindow pos ∧
    hitLayer o .bottom .background pos q = none

/-- When the move does not change what is under the pointer. -/
def SameSurface (scene : Scene) (o : OutputView) (v : Point) (pos : Position) : Prop :=
  match lands o pos, lands (o.shift v) (pos + v.toF64) with
  | true, true => scene.SameLayers o pos (pos + v.toF64)
  | true, false => scene.Misses o pos pos
  | false, true => scene.Misses o pos (pos + v.toF64)
  | false, false => True

/-- What is under a position on an output, if `layer_under` is given another. -/
def foundAt (scene : Scene) (o : OutputView) (pos q : Position) :
    Option (PointerFocusTarget × Point) :=
  ((o.candidate .overlay .top q).bind (o.layerHit pos)).or
    (((scene.elementUnder pos).bind (·.focus pos)).or
      ((o.candidate .bottom .background q).bind (o.layerHit pos)))

theorem focusUnder_of_alone (ho : o ∈ scene.outputs) (halone : scene.Alone o on v pos) :
    scene.focusUnder pos = if lands o pos then scene.foundAt o pos pos else none := by
  rw [focusUnder, outputOf_of_alone ho halone]
  cases lands o pos with
  | true => rfl
  | false => rfl

theorem focusUnder_shift (ho : o ∈ scene.outputs) (halone : scene.Alone o on v pos) :
    (scene.shift o.output on v).focusUnder (pos + v.toF64) =
      (if lands (o.shift v) (pos + v.toF64) then scene.foundAt o pos (pos + v.toF64)
        else none).map (movedHit v) := by
  rw [focusUnder, outputOf_shift ho halone, elementUnder_shift halone]
  cases lands (o.shift v) (pos + v.toF64) with
  | false => rfl
  | true =>
      have hlayer : ∀ upper lower,
          ((o.shift v).candidate upper lower (pos + v.toF64)).bind
              ((o.shift v).layerHit (pos + v.toF64)) =
            ((o.candidate upper lower (pos + v.toF64)).bind (o.layerHit pos)).map
              (movedHit v) := by
        intro upper lower
        rw [OutputView.layerHit_shift, Option.map_bind]
        rfl
      have hwindow : ((scene.elementUnder pos).map (·.shift v)).bind
            (·.focus (pos + v.toF64)) =
          ((scene.elementUnder pos).bind (·.focus pos)).map (movedHit v) := by
        rw [Option.bind_map, Option.map_bind]
        congr 1
        funext w
        exact WindowView.focus_shift
      simp only [if_true, Option.bind_some, hlayer, hwindow, foundAt, Option.map_or]

theorem noWindow_iff : (scene.elementUnder pos).bind (·.focus pos) = none ↔ scene.NoWindow pos := by
  cases hw : scene.elementUnder pos with
  | none => simp [NoWindow, hw]
  | some w =>
      simp only [Option.bind_some, NoWindow, hw, Option.some.injEq, forall_eq']
      constructor
      · intro hnone
        by_contra hkind
        have hsome := WindowView.focus_isSome hkind (mem_of_elementUnder hw).2
        rw [hnone] at hsome
        cases hsome
      · intro hkind
        rw [WindowView.focus, WindowView.surfaceUnder, hkind]
        rfl

theorem foundAt_eq_none_iff : scene.foundAt o pos q = none ↔ scene.Misses o pos q := by
  rw [foundAt, Option.or_eq_none_iff, Option.or_eq_none_iff, noWindow_iff, Misses, hitLayer,
    hitLayer, reached_eq_none_iff, reached_eq_none_iff]

theorem foundAt_eq_iff (ho : o ∈ scene.outputs) :
    scene.foundAt o pos pos = scene.foundAt o pos q ↔ scene.SameLayers o pos q := by
  have htells : Tells (o.layerHit pos) (· ∈ o.layers) := fun l l' c hl hl' h h' =>
    (layerHit_unique ho hl ho hl' h h').2
  have hmem : ∀ upper lower q l, o.candidate upper lower q = some l → l ∈ o.layers :=
    fun _ _ _ _ h => (OutputView.mem_of_candidate h).1
  have hlink : ∀ upper lower,
      (o.candidate upper lower pos).bind (o.layerHit pos) =
          (o.candidate upper lower q).bind (o.layerHit pos) ↔
        hitLayer o upper lower pos pos = hitLayer o upper lower pos q := fun upper lower =>
    bind_eq_bind_iff htells (hmem upper lower pos) (hmem upper lower q)
  -- what an upper layer answers is found nowhere below
  have hapart : ∀ p p' c, (o.candidate .overlay .top p).bind (o.layerHit pos) = some c →
      ((scene.elementUnder pos).bind (·.focus pos)).or
        ((o.candidate .bottom .background p').bind (o.layerHit pos)) ≠ some c := by
    intro p p' c hc
    obtain ⟨l, hl, hlc⟩ := Option.bind_eq_some_iff.mp hc
    have hup : (o, l) ∈ scene.layers .overlay .top :=
      mem_layers.mpr ⟨ho, OutputView.mem_of_candidate hl⟩
    refine or_ne_some (windowHit_ne hup hlc).1 fun hlow => ?_
    obtain ⟨l', hl', hlc'⟩ := Option.bind_eq_some_iff.mp hlow
    have hdown : (o, l') ∈ scene.layers .bottom .background :=
      mem_layers.mpr ⟨ho, OutputView.mem_of_candidate hl'⟩
    exact upper_ne_lower hup hdown hlc hlc'
  rw [foundAt, foundAt, or_eq_or_iff (hapart pos q) (hapart q pos), or_left_eq_iff, hlink, hlink,
    SameLayers, noWindow_iff]
  refine and_congr_right fun _ => imp_congr_left ?_
  rw [hitLayer, reached_eq_none_iff]

theorem focusUnder_shift_iff (ho : o ∈ scene.outputs) (halone : scene.Alone o on v pos) :
    (scene.shift o.output on v).focusUnder (pos + v.toF64) =
        (scene.focusUnder pos).map (movedHit v) ↔
      scene.SameSurface o v pos := by
  rw [focusUnder_shift ho halone, focusUnder_of_alone ho halone,
    (Option.map_injective (movedHit_injective v)).eq_iff, SameSurface]
  cases lands o pos with
  | true =>
      cases lands (o.shift v) (pos + v.toF64) with
      | true => exact eq_comm.trans (foundAt_eq_iff ho)
      | false => exact eq_comm.trans foundAt_eq_none_iff
  | false =>
      cases lands (o.shift v) (pos + v.toF64) with
      | true => exact foundAt_eq_none_iff
      | false => exact iff_of_true rfl trivial

/-! ## The keyboard -/

/-- The layer surface that gets the focus, if `layer_under` is given another position. -/
def focusLayer (o : OutputView) (upper lower : Layer) (pos q : Position) : Option LayerView :=
  (o.candidate upper lower q).filter (o.focusable pos)

/-- When the move does not change what a press gives the focus to. -/
def SameFocus (scene : Scene) (o : OutputView) (v : Point) (pos : Position) : Prop :=
  focusLayer o .overlay .top pos pos = focusLayer o .overlay .top pos (pos + v.toF64) ∧
    (focusLayer o .overlay .top pos pos = none → scene.elementUnder pos = none →
      focusLayer o .bottom .background pos pos =
        focusLayer o .bottom .background pos (pos + v.toF64))

def chooseFocus (up : Option LayerView) (window : Option FocusUpdate)
    (low : Option LayerView) : FocusUpdate :=
  match up, window, low with
  | some l, _, _ => .focused (.layerSurface l.surface)
  | none, some update, _ => update
  | none, none, some l => .focused (.layerSurface l.surface)
  | none, none, none => .unchanged

theorem updateKeyboardFocus_eq :
    scene.updateKeyboardFocus pos =
      chooseFocus (scene.focusableLayer .overlay .top pos)
        ((scene.elementUnder pos).map scene.focusWindow)
        (scene.focusableLayer .bottom .background pos) := by
  rw [updateKeyboardFocus]
  cases scene.focusableLayer .overlay .top pos with
  | some l => rfl
  | none =>
      cases scene.elementUnder pos with
      | some w => rfl
      | none =>
          cases scene.focusableLayer .bottom .background pos with
          | some l => rfl
          | none => rfl

theorem focusWindow_ne_layer {layer : LayerSurface} :
    scene.focusWindow w ≠ .focused (.layerSurface layer) := by
  rw [focusWindow]
  split
  · split
    · exact nofun
    · split <;> exact nofun
  · exact nofun

theorem layerFocus_eq_iff {layer layer' : LayerSurface} :
    FocusUpdate.focused (.layerSurface layer) = .focused (.layerSurface layer') ↔
      layer = layer' := by
  rw [FocusUpdate.focused.injEq, KeyboardFocusTarget.layerSurface.injEq]

/-- Nothing below the upper layers gives the focus to one of their surfaces. -/
theorem chooseFocus_none_ne {low : Option LayerView} {window : Option FocusUpdate}
    (hwindow : ∀ layer, window ≠ some (.focused (.layerSurface layer)))
    (hapart : ∀ l', low = some l' → l'.surface ≠ l.surface) :
    chooseFocus none window low ≠ .focused (.layerSurface l.surface) := by
  intro h
  cases window with
  | some update => exact hwindow _ (congrArg some h)
  | none =>
      cases low with
      | none => cases h
      | some l' => exact hapart l' rfl (layerFocus_eq_iff.mp h)

theorem chooseFocus_lower_iff {low low' : Option LayerView}
    (hsame : ∀ l l', low = some l → low' = some l' → l.surface = l'.surface → l = l') :
    chooseFocus none none low' = chooseFocus none none low ↔ low = low' := by
  cases low with
  | none =>
      cases low' with
      | none => exact iff_of_true rfl rfl
      | some l' => exact iff_of_false (fun h => by cases h) fun h => by cases h
  | some l =>
      cases low' with
      | none => exact iff_of_false (fun h => by cases h) fun h => by cases h
      | some l' =>
          show FocusUpdate.focused _ = .focused _ ↔ _
          rw [layerFocus_eq_iff, Option.some.injEq]
          constructor
          · intro h
            exact hsame l l' rfl rfl h.symm
          · intro h
            rw [h]

theorem chooseFocus_eq_iff {up up' low low' : Option LayerView} {window : Option FocusUpdate}
    (hwindow : ∀ layer, window ≠ some (.focused (.layerSurface layer)))
    (hsame : ∀ l l', (up = some l ∧ up' = some l') ∨ (low = some l ∧ low' = some l') →
      l.surface = l'.surface → l = l')
    (hapart : ∀ l l', (up = some l ∧ low' = some l') ∨ (up' = some l ∧ low = some l') →
      l.surface ≠ l'.surface) :
    chooseFocus up' window low' = chooseFocus up window low ↔
      up = up' ∧ (up = none → window = none → low = low') := by
  cases up with
  | some l =>
      cases up' with
      | some l' =>
          show FocusUpdate.focused _ = .focused _ ↔ _
          rw [layerFocus_eq_iff]
          constructor
          · intro h
            obtain rfl := hsame l l' (.inl ⟨rfl, rfl⟩) h.symm
            exact ⟨rfl, fun he => by cases he⟩
          · intro h
            rw [Option.some.inj h.1]
      | none =>
          refine iff_of_false (chooseFocus_none_ne hwindow fun l' he => ?_) (fun h => by cases h.1)
          exact (hapart l l' (.inl ⟨rfl, he⟩)).symm
  | none =>
      cases up' with
      | some l' =>
          refine iff_of_false (fun h => ?_) (fun h => by cases h.1)
          refine chooseFocus_none_ne hwindow (fun l he => ?_) h.symm
          exact (hapart l' l (.inr ⟨rfl, he⟩)).symm
      | none =>
          cases window with
          | some update => exact iff_of_true rfl ⟨rfl, fun _ he => by cases he⟩
          | none =>
              rw [chooseFocus_lower_iff fun l l' hl hl' => hsame l l' (.inr ⟨hl, hl'⟩)]
              exact ⟨fun h => ⟨rfl, fun _ _ => h⟩, fun h => h.2 rfl rfl⟩

theorem mem_of_focusLayer (h : focusLayer o upper lower pos q = some l) :
    l ∈ o.layers ∧ (l.layer = upper ∨ l.layer = lower) :=
  OutputView.mem_of_candidate (Option.filter_eq_some_iff.mp h).1

theorem updateKeyboardFocus_shift_iff (ho : o ∈ scene.outputs)
    (hpos : o.geometry.containsF64 pos) (halone : scene.Alone o on v pos) :
    (scene.shift o.output on v).updateKeyboardFocus (pos + v.toF64) =
        scene.updateKeyboardFocus pos ↔
      scene.SameFocus o v pos := by
  have hbefore : ∀ upper lower,
      scene.focusableLayer upper lower pos = focusLayer o upper lower pos pos := by
    intro upper lower
    rw [focusableLayer, outputUnder_of_alone ho hpos halone]
    rfl
  have hafter : ∀ upper lower,
      (scene.shift o.output on v).focusableLayer upper lower (pos + v.toF64) =
        focusLayer o upper lower pos (pos + v.toF64) := by
    intro upper lower
    rw [focusableLayer, outputUnder_shift ho hpos halone, Option.bind_some,
      OutputView.focusable_shift]
    rfl
  have hwindow : ((scene.elementUnder pos).map (·.shift v)).map
        (scene.shift o.output on v).focusWindow =
      (scene.elementUnder pos).map scene.focusWindow := by
    rw [Option.map_map]
    rfl
  rw [updateKeyboardFocus_eq, updateKeyboardFocus_eq, hbefore, hbefore, hafter, hafter,
    elementUnder_shift halone, hwindow, SameFocus]
  rw [chooseFocus_eq_iff, Option.map_eq_none_iff]
  · intro layer h
    obtain ⟨w, -, hw⟩ := Option.map_eq_some_iff.mp h
    exact focusWindow_ne_layer hw
  · intro l l' h hs
    have hmem : l ∈ o.layers ∧ l' ∈ o.layers := by
      rcases h with ⟨h, h'⟩ | ⟨h, h'⟩
      · exact ⟨(mem_of_focusLayer h).1, (mem_of_focusLayer h').1⟩
      · exact ⟨(mem_of_focusLayer h).1, (mem_of_focusLayer h').1⟩
    exact (scene.layer_unique o ho l hmem.1 o ho l' hmem.2 hs).2
  · intro l l' h hs
    have hmem : (l ∈ o.layers ∧ (l.layer = .overlay ∨ l.layer = .top)) ∧
        (l' ∈ o.layers ∧ (l'.layer = .bottom ∨ l'.layer = .background)) := by
      rcases h with ⟨h, h'⟩ | ⟨h, h'⟩
      · exact ⟨mem_of_focusLayer h, mem_of_focusLayer h'⟩
      · exact ⟨mem_of_focusLayer h, mem_of_focusLayer h'⟩
    obtain ⟨⟨hl, hup⟩, hl', hlow⟩ := hmem
    have he := (scene.layer_unique o ho l hl o ho l' hl' hs).2
    rw [he] at hup
    exact Layer.upper_ne_lower _ hup hlow

/-! ## Both -/

/-- At the moved point the pointer is over the same target, which begins where it began,
moved; and a press gives the focus to the same. -/
def FollowsShift (scene : Scene) (o : OutputView) (on : WindowView → Bool) (v : Point)
    (pos : Position) : Prop :=
  (scene.shift o.output on v).surfaceUnder (pos + v.toF64) =
      (scene.surfaceUnder pos).map (fun hit => (hit.1, hit.2 + v.toF64)) ∧
    (scene.shift o.output on v).updateKeyboardFocus (pos + v.toF64) =
      scene.updateKeyboardFocus pos

theorem followsShift_iff (ho : o ∈ scene.outputs) (hpos : o.geometry.containsF64 pos)
    (halone : scene.Alone o on v pos) :
    scene.FollowsShift o on v pos ↔ scene.SameSurface o v pos ∧ scene.SameFocus o v pos := by
  have hmoved : (scene.surfaceUnder pos).map (fun hit => (hit.1, hit.2 + v.toF64)) =
      ((scene.focusUnder pos).map (movedHit v)).map fun hit => (hit.1, hit.2.toF64) := by
    rw [surfaceUnder, Option.map_map, Option.map_map]
    congr 1
    funext hit
    refine Prod.ext rfl (Position.ext ?_ ?_)
    · exact (Int.cast_add ..).symm
    · exact (Int.cast_add ..).symm
  rw [FollowsShift, hmoved, surfaceUnder, (Option.map_injective toF64_hit_injective).eq_iff,
    focusUnder_shift_iff ho halone, updateKeyboardFocus_shift_iff ho hpos halone]

theorem alone_screen (v : Point) :
    (screenScene true).Alone (screenOutput true) (fun _ => true) v ⟨5, 5⟩ where
  outputs := fun _ ho' hne => (hne (List.mem_singleton.mp ho')).elim
  windows := fun _ hw => by cases hw

/-- A screen that is moved down by three keeps what is under its point; one that is moved to
the right by ten does not. -/
theorem followsShift_screen :
    ((screenScene true).SameSurface (screenOutput true) ⟨0, 3⟩ ⟨5, 5⟩ ∧
        (screenScene true).SameFocus (screenOutput true) ⟨0, 3⟩ ⟨5, 5⟩) ∧
      ¬((screenScene true).SameSurface (screenOutput true) ⟨10, 0⟩ ⟨5, 5⟩ ∧
        (screenScene true).SameFocus (screenOutput true) ⟨10, 0⟩ ⟨5, 5⟩) := by
  have hpos : (screenOutput true).geometry.containsF64 ⟨5, 5⟩ := by decide +kernel
  have ho := List.mem_singleton_self (screenOutput true)
  refine ⟨(followsShift_iff ho hpos (alone_screen _)).mp ?_, fun h => ?_⟩
  · rw [FollowsShift]
    decide +kernel
  · have hfollows := (followsShift_iff ho hpos (alone_screen _)).mpr h
    rw [FollowsShift] at hfollows
    exact absurd hfollows (by decide +kernel)

/-- A screen that lies to the right of the origin has no layer surface under any point. -/
theorem shift_screen :
    (screenScene true).surfaceUnder ⟨5, 5⟩ = some (.wlSurface ⟨2⟩, ⟨0, 0⟩) ∧
      (screenScene true).updateKeyboardFocus ⟨5, 5⟩ =
        .focused (.layerSurface ⟨2, ⟨2⟩⟩) ∧
      ((screenScene true).shift (screenOutput true).output (fun _ => true) ⟨10, 0⟩).surfaceUnder
        ⟨15, 5⟩ = none ∧
      ((screenScene true).shift (screenOutput true).output (fun _ => true)
        ⟨10, 0⟩).updateKeyboardFocus ⟨15, 5⟩ = .unchanged := by
  decide +kernel

end Scene

end Scape.Display
