import Scape.Lib.Segments
import Scape.Proofs.HitTesting

/-!
# Clamping to the screen

`clamp_coords` is to keep the pointer on the outputs. It clamps the column first and then
looks for the output that has the column, to clamp the row by its height. The columns of
an output begin at its left edge and end before its right one, but the clamp allows the
right edge of the last output too. No output has that column, and the row is left as it is:
to the right of everything the pointer goes up and down without limit.
-/

namespace Scape.Display

open Segments

/-- The width of the mode. -/
def OutputView.width (o : OutputView) : Int := o.output.mode.width

def OutputView.height (o : OutputView) : Int := o.output.mode.height

/-- The column is on the output. -/
def OutputView.HasColumn (o : OutputView) (x : ℚ) : Prop :=
  o.location.x ≤ x ∧ x < o.location.x + o.width

namespace Scene

variable {scene : Scene} {row : List OutputView} {o o' : OutputView} {pos : Position} {x : ℚ}

/-- The outputs are laid out in a row from the left, each where the one before it ends. -/
structure SideBySide (scene : Scene) (row : List OutputView) : Prop where
  perm : row.Perm scene.outputs
  nonempty : row ≠ []
  nonneg : ∀ o ∈ row, 0 ≤ o.width
  location : ∀ before o after, row = before ++ o :: after →
    o.location = ⟨offset OutputView.width 0 before, 0⟩

/-- The output at a column; at the right edge, the last. -/
def ColumnOf (scene : Scene) (x : ℚ) (o : OutputView) : Prop :=
  o.HasColumn x ∨ (x = scene.totalWidth ∧ 0 < o.width ∧ o.location.x + o.width = scene.totalWidth)

/-- On the output at its column, which is one. -/
structure OnScreen (scene : Scene) (p : Position) : Prop where
  left : 0 ≤ p.x
  right : p.x ≤ scene.totalWidth
  output : ∃ o ∈ scene.outputs, scene.ColumnOf p.x o ∧ (0 ≤ p.y ∧ p.y ≤ o.height) ∧
    ∀ o' ∈ scene.outputs, scene.ColumnOf p.x o' → o' = o

/-- Clamped, a position is on the screen, and stays where it is when it is clamped again. -/
structure ClampedOnScreen (scene : Scene) (pos : Position) : Prop where
  onScreen : scene.OnScreen (scene.clampCoords pos)
  again : scene.clampCoords (scene.clampCoords pos) = scene.clampCoords pos

/-- A position that is not to the right of everything, over or below an output with some
height; or one in a row that the output at the next column has. -/
def InReach (scene : Scene) (pos : Position) : Prop :=
  (max 0 pos.x < scene.totalWidth ∧
    ∀ o ∈ scene.outputs, o.HasColumn (max 0 pos.x) → 0 < o.height) ∨
  ∃ o ∈ scene.outputs, scene.ColumnOf (max 0 (min pos.x scene.totalWidth)) o ∧
    0 ≤ pos.y ∧ pos.y ≤ o.height

/-! ## Columns -/

theorem SideBySide.totalWidth (h : scene.SideBySide row) :
    offset OutputView.width 0 row = scene.totalWidth := by
  rw [offset, zero_add, Scene.totalWidth]
  exact (h.perm.map OutputView.width).sum_eq

theorem SideBySide.totalWidth_nonneg (h : scene.SideBySide row) : 0 ≤ scene.totalWidth := by
  rw [← h.totalWidth]
  exact start_le_offset h.nonneg

theorem SideBySide.y_eq_zero (h : scene.SideBySide row) (ho : o ∈ scene.outputs) :
    o.location.y = 0 := by
  obtain ⟨before, after, hsplit⟩ := List.append_of_mem (h.perm.mem_iff.mpr ho)
  rw [h.location before o after hsplit]

theorem hasColumn_iff_floor :
    o.HasColumn x ↔ o.location.x ≤ ⌊x⌋ ∧ ⌊x⌋ < o.location.x + o.width := by
  rw [OutputView.HasColumn, Int.le_floor, Int.floor_lt, Int.cast_add]

/-- The output with a column is the one that it falls on in the row. -/
theorem SideBySide.within_iff (h : scene.SideBySide row) (ho : o ∈ scene.outputs) :
    Within OutputView.width 0 row ⌊x⌋ o ↔ o.HasColumn x := by
  rw [hasColumn_iff_floor]
  constructor
  · intro hw
    obtain ⟨before, after, hsplit, hle, hlt⟩ := hw
    rw [h.location before o after hsplit]
    exact ⟨hle, hlt⟩
  · intro hc
    obtain ⟨before, after, hsplit⟩ := List.append_of_mem (h.perm.mem_iff.mpr ho)
    rw [h.location before o after hsplit] at hc
    exact ⟨before, after, hsplit, hc.1, hc.2⟩

theorem SideBySide.exists_hasColumn (h : scene.SideBySide row) (hle : 0 ≤ x)
    (hlt : x < scene.totalWidth) : ∃ o ∈ scene.outputs, o.HasColumn x := by
  have hend : ⌊x⌋ < offset OutputView.width 0 row := by
    rw [h.totalWidth]
    exact Int.floor_lt.mpr hlt
  obtain ⟨o, ho⟩ := exists_within (Int.floor_nonneg.mpr hle) hend
  have hmem := h.perm.mem_iff.mp ho.mem
  exact ⟨o, hmem, (h.within_iff hmem).mp ho⟩

theorem SideBySide.hasColumn_lt (h : scene.SideBySide row) (ho : o ∈ scene.outputs)
    (hx : o.HasColumn x) : x < scene.totalWidth := by
  have hlt := ((h.within_iff ho).mpr hx).lt_offset h.nonneg
  rw [h.totalWidth] at hlt
  exact Int.floor_lt.mp hlt

theorem SideBySide.hasColumn_unique (h : scene.SideBySide row) (ho : o ∈ scene.outputs)
    (ho' : o' ∈ scene.outputs) (hx : o.HasColumn x) (hx' : o'.HasColumn x) : o' = o :=
  ((h.within_iff ho').mpr hx').unique h.nonneg ((h.within_iff ho).mpr hx)

/-- The last output has the column before the right edge. -/
theorem hasColumn_last (hw : 0 < o.width)
    (hend : o.location.x + o.width = scene.totalWidth) :
    o.HasColumn (scene.totalWidth - 1 : ℤ) := by
  rw [hasColumn_iff_floor, Int.floor_intCast]
  omega

theorem SideBySide.columnOf_unique (h : scene.SideBySide row) (ho : o ∈ scene.outputs)
    (ho' : o' ∈ scene.outputs) (hx : scene.ColumnOf x o) (hx' : scene.ColumnOf x o') :
    o' = o := by
  rcases hx with hx | ⟨hx, hw, hend⟩
  · rcases hx' with hx' | ⟨rfl, -, -⟩
    · exact h.hasColumn_unique ho ho' hx hx'
    · exact absurd (h.hasColumn_lt ho hx) (lt_irrefl _)
  · subst hx
    rcases hx' with hx' | ⟨-, hw', hend'⟩
    · exact absurd (h.hasColumn_lt ho' hx') (lt_irrefl _)
    · exact h.hasColumn_unique ho ho' (hasColumn_last hw hend) (hasColumn_last hw' hend')

/-! ## Clamping -/

theorem clamp_eq {q low high : ℚ} (h : low ≤ high) : clamp q low high = max low (min q high) := by
  rw [clamp]
  split
  next hlow => rw [min_eq_left (le_of_lt (lt_of_lt_of_le hlow h)), max_eq_left (le_of_lt hlow)]
  next hlow =>
    push Not at hlow
    split
    next hhigh => rw [min_eq_right (le_of_lt hhigh), max_eq_right h]
    next hhigh =>
      push Not at hhigh
      rw [min_eq_left hhigh, max_eq_right hlow]

/-- The column that a position is clamped to. -/
def clampedX (scene : Scene) (pos : Position) : ℚ := max 0 (min pos.x scene.totalWidth)

/-- The output that `clamp_coords` finds for a column. -/
def atColumn (scene : Scene) (x : ℚ) : Option OutputView :=
  scene.outputs.find? fun o => o.geometry.contains ⟨⌊x⌋, 0⟩

/-- The row that a position is clamped to, on the output that is found. -/
def clampedY (found : Option OutputView) (y : ℚ) : ℚ :=
  match found with
  | some o => clamp y 0 o.height
  | none => y

theorem SideBySide.clampCoords_eq (h : scene.SideBySide row) (pos : Position) :
    scene.clampCoords pos =
      ⟨scene.clampedX pos, clampedY (scene.atColumn (scene.clampedX pos)) pos.y⟩ := by
  have houtputs : ¬ scene.outputs.isEmpty = true := by
    rw [List.isEmpty_iff]
    intro hnil
    exact h.nonempty (hnil ▸ h.perm).eq_nil
  have hx : clamp pos.x 0 scene.totalWidth = scene.clampedX pos :=
    clamp_eq (Int.cast_nonneg h.totalWidth_nonneg)
  have hpos : 0 ≤ scene.clampedX pos := le_max_left _ _
  rw [clampCoords, if_neg houtputs]
  simp only [hx, if_pos hpos, atColumn]
  cases scene.outputs.find? fun o => o.geometry.contains ⟨⌊scene.clampedX pos⌋, 0⟩ with
  | none => rfl
  | some o => rfl

theorem SideBySide.contains_iff (h : scene.SideBySide row) (ho : o ∈ scene.outputs) :
    o.geometry.contains ⟨⌊x⌋, 0⟩ = true ↔ o.HasColumn x ∧ 0 < o.height := by
  have hy := h.y_eq_zero ho
  rw [hasColumn_iff_floor]
  simp only [Rectangle.contains, Bool.and_eq_true, decide_eq_true_eq]
  show ((o.location.x ≤ ⌊x⌋ ∧ ⌊x⌋ < o.location.x + o.width) ∧ o.location.y ≤ 0) ∧
    0 < o.location.y + o.height ↔ _
  rw [hy]
  omega

theorem SideBySide.atColumn_eq_some (h : scene.SideBySide row)
    (hfound : scene.atColumn x = some o) :
    o ∈ scene.outputs ∧ o.HasColumn x ∧ 0 < o.height := by
  have hmem := List.mem_of_find?_eq_some hfound
  have hcontains := List.find?_some hfound
  exact ⟨hmem, (h.contains_iff hmem).mp hcontains⟩

theorem SideBySide.atColumn_eq_none_iff (h : scene.SideBySide row) :
    scene.atColumn x = none ↔ ∀ o ∈ scene.outputs, ¬ (o.HasColumn x ∧ 0 < o.height) := by
  rw [atColumn, List.find?_eq_none]
  refine forall₂_congr fun o ho => ?_
  rw [← h.contains_iff ho]

theorem clamp_idem {q low high : ℚ} (h : low ≤ high) :
    clamp (clamp q low high) low high = clamp q low high := by
  rw [clamp_eq h, clamp_eq h, min_eq_left (max_le h (min_le_right q high)),
    max_eq_right (le_max_left low _)]

/-! ## Main result -/

/-- A second clamp changes nothing. -/
theorem SideBySide.clampCoords_again (h : scene.SideBySide row) (pos : Position) :
    scene.clampCoords (scene.clampCoords pos) = scene.clampCoords pos := by
  have hx : scene.clampedX (scene.clampCoords pos) = scene.clampedX pos := by
    have htotal : (0 : ℚ) ≤ scene.totalWidth := Int.cast_nonneg h.totalWidth_nonneg
    have hagain := clamp_idem (q := pos.x) htotal
    rw [clamp_eq htotal, clamp_eq htotal] at hagain
    rw [h.clampCoords_eq pos]
    exact hagain
  rw [h.clampCoords_eq (scene.clampCoords pos), hx, h.clampCoords_eq pos, Position.mk.injEq]
  refine ⟨rfl, ?_⟩
  cases hfound : scene.atColumn (scene.clampedX pos) with
  | none => rfl
  | some o =>
      have hheight : (0 : ℚ) ≤ o.height := Int.cast_nonneg (h.atColumn_eq_some hfound).2.2.le
      exact clamp_idem hheight

/-- A clamped position is on the screen exactly if its row is one of the output at its
column. -/
theorem SideBySide.onScreen_iff (h : scene.SideBySide row) (pos : Position) (y : ℚ) :
    scene.OnScreen ⟨scene.clampedX pos, y⟩ ↔
      ∃ o ∈ scene.outputs, scene.ColumnOf (scene.clampedX pos) o ∧ 0 ≤ y ∧ y ≤ o.height := by
  constructor
  · intro hon
    obtain ⟨o, ho, hcolumn, hy, -⟩ := hon.output
    exact ⟨o, ho, hcolumn, hy⟩
  · intro hon
    obtain ⟨o, ho, hcolumn, hy⟩ := hon
    have htotal : (0 : ℚ) ≤ scene.totalWidth := Int.cast_nonneg h.totalWidth_nonneg
    exact ⟨le_max_left _ _, max_le htotal (min_le_right _ _), o, ho, hcolumn, hy,
      fun o' ho' hcolumn' => h.columnOf_unique ho ho' hcolumn hcolumn'⟩

/-- To the left of the right edge the column is clamped from one side only. -/
theorem clampedX_lt_iff :
    scene.clampedX pos < scene.totalWidth ↔ max 0 pos.x < scene.totalWidth := by
  rw [clampedX, max_lt_iff, max_lt_iff, min_lt_iff, or_iff_left (lt_irrefl _)]

theorem clampedX_of_lt (h : max 0 pos.x < scene.totalWidth) :
    scene.clampedX pos = max 0 pos.x := by
  rw [clampedX, min_eq_left (le_of_lt (lt_of_le_of_lt (le_max_right 0 pos.x) h))]

/-- Clamping keeps the positions on the screen that are not to the right of everything, or
in a row of the last output. -/
theorem clampedOnScreen_iff (h : scene.SideBySide row) (pos : Position) :
    scene.ClampedOnScreen pos ↔ scene.InReach pos := by
  have hon : scene.ClampedOnScreen pos ↔ scene.OnScreen (scene.clampCoords pos) :=
    ⟨fun hclamped => hclamped.onScreen, fun hon => ⟨hon, h.clampCoords_again pos⟩⟩
  rw [hon, h.clampCoords_eq pos, h.onScreen_iff]
  cases hfound : scene.atColumn (scene.clampedX pos) with
  | some o =>
      obtain ⟨ho, hcolumn, hheight⟩ := h.atColumn_eq_some hfound
      have hheight' : (0 : ℚ) ≤ o.height := Int.cast_nonneg hheight.le
      refine iff_of_true ⟨o, ho, .inl hcolumn, ?_⟩ (.inl ?_)
      · rw [clampedY, clamp_eq hheight']
        exact ⟨le_max_left _ _, max_le hheight' (min_le_right _ _)⟩
      · have hlt := clampedX_lt_iff.mp (h.hasColumn_lt ho hcolumn)
        rw [clampedX_of_lt hlt] at hcolumn
        refine ⟨hlt, fun o' ho' hcolumn' => ?_⟩
        rw [h.hasColumn_unique ho ho' hcolumn hcolumn']
        exact hheight
  | none =>
      rw [InReach, or_iff_right]
      · rfl
      · intro hleft
        obtain ⟨o, ho, hcolumn⟩ := h.exists_hasColumn (le_max_left 0 pos.x) hleft.1
        have hnone := h.atColumn_eq_none_iff.mp hfound o ho
        rw [clampedX_of_lt hleft.1] at hnone
        exact hnone ⟨hcolumn, hleft.2 o ho hcolumn⟩

theorem screen_sideBySide : (screenScene true).SideBySide [screenOutput true] where
  perm := List.Perm.refl _
  nonempty := List.cons_ne_nil _ _
  nonneg := by
    intro o ho
    rw [List.mem_singleton.mp ho]
    decide
  location := by
    intro before o after hsplit
    cases before with
    | nil =>
        cases hsplit
        rfl
    | cons b before => exact absurd (List.cons.inj hsplit).2.symm (by simp)

/-- Above the screen the pointer is kept; to the right of it, below its rows, it is not. -/
theorem clampedOnScreen_above :
    (screenScene true).ClampedOnScreen ⟨5, -3⟩ ∧ ¬ (screenScene true).InReach ⟨15, 20⟩ := by
  constructor
  · refine (clampedOnScreen_iff screen_sideBySide ⟨5, -3⟩).mpr (.inl ⟨by decide +kernel, ?_⟩)
    intro o ho _
    rw [List.mem_singleton.mp ho]
    decide
  · intro hreach
    have hclamped := (clampedOnScreen_iff screen_sideBySide ⟨15, 20⟩).mpr hreach
    obtain ⟨o, ho, -, ⟨-, hy⟩, -⟩ := hclamped.onScreen.output
    rw [List.mem_singleton.mp ho] at hy
    revert hy
    decide +kernel

/-- To the right of a screen of ten rows the pointer goes to the twentieth. -/
theorem clampCoords_right :
    (screenScene true).SideBySide [screenOutput true] ∧
      (screenScene true).clampCoords ⟨15, 20⟩ = ⟨10, 20⟩ ∧
      ¬ (screenScene true).OnScreen ⟨10, 20⟩ := by
  refine ⟨screen_sideBySide, by decide +kernel, fun h => ?_⟩
  obtain ⟨o, ho, -, ⟨-, hy⟩, -⟩ := h.output
  rw [List.mem_singleton.mp ho] at hy
  revert hy
  decide +kernel

end Scene

end Scape.Display
