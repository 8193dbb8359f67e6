import Mathlib.Algebra.BigOperators.Group.List.Basic
import Mathlib.Algebra.Order.Monoid.Defs

/-!
# Segments laid end to end

A list of items that each have a length covers a line from its start on: the first item as
far as its length, the next from there. `Within` says which item a point falls on.
An item has its first point and not its last, so that no point is on two of them, as long
as no length is negative.
-/

namespace Segments

variable {α M : Type*} [AddCommMonoid M] {length : α → M} {start x : M} {a b : α} {l : List α}

/-- Where an item begins, by what comes before it. -/
def offset (length : α → M) (start : M) (before : List α) : M :=
  start + (before.map length).sum

theorem offset_nil : offset length start [] = start := add_zero start

theorem offset_cons (before : List α) :
    offset length start (b :: before) = offset length (start + length b) before := by
  rw [offset, offset, List.map_cons, List.sum_cons, add_assoc]

variable [LinearOrder M]

/-- The point is on an item of the list. -/
def Within (length : α → M) (start : M) (l : List α) (x : M) (a : α) : Prop :=
  ∃ before after, l = before ++ a :: after ∧
    offset length start before ≤ x ∧ x < offset length start before + length a

theorem not_within_nil : ¬ Within length start [] x a := by
  intro h
  obtain ⟨before, after, hsplit, -⟩ := h
  exact List.append_ne_nil_of_right_ne_nil before (List.cons_ne_nil a after) hsplit.symm

/-- A point is on the first item, or on one of those laid from where that ends. -/
theorem within_cons_iff :
    Within length start (b :: l) x a ↔
      (a = b ∧ start ≤ x ∧ x < start + length b) ∨ Within length (start + length b) l x a := by
  constructor
  · intro h
    obtain ⟨before, after, hsplit, hle, hlt⟩ := h
    cases before with
    | nil =>
        cases hsplit
        rw [offset_nil] at hle hlt
        exact .inl ⟨rfl, hle, hlt⟩
    | cons c before =>
        cases hsplit
        rw [offset_cons] at hle hlt
        exact .inr ⟨before, after, rfl, hle, hlt⟩
  · intro h
    rcases h with ⟨rfl, hle, hlt⟩ | ⟨before, after, rfl, hle, hlt⟩
    · exact ⟨[], l, rfl, by rwa [offset_nil], by rwa [offset_nil]⟩
    · exact ⟨b :: before, after, rfl, by rwa [offset_cons], by rwa [offset_cons]⟩

/-- Every point from the start to the end is on an item. -/
theorem exists_within (hle : start ≤ x) (hlt : x < offset length start l) :
    ∃ a, Within length start l x a := by
  induction l generalizing start with
  | nil =>
      rw [offset_nil] at hlt
      exact absurd hle (not_le_of_gt hlt)
  | cons b l ih =>
      rw [offset_cons] at hlt
      rcases lt_or_ge x (start + length b) with hhere | hlater
      · exact ⟨b, within_cons_iff.mpr (.inl ⟨rfl, hle, hhere⟩)⟩
      · obtain ⟨a, ha⟩ := ih hlater hlt
        exact ⟨a, within_cons_iff.mpr (.inr ha)⟩

theorem Within.mem (h : Within length start l x a) : a ∈ l := by
  obtain ⟨before, after, rfl, -⟩ := h
  exact List.mem_append_right before List.mem_cons_self

variable [IsOrderedAddMonoid M]

theorem start_le_offset (hnonneg : ∀ a ∈ l, 0 ≤ length a) : start ≤ offset length start l := by
  induction l generalizing start with
  | nil => exact le_of_eq offset_nil.symm
  | cons b l ih =>
      obtain ⟨hb, hl⟩ := List.forall_mem_cons.mp hnonneg
      rw [offset_cons]
      exact le_trans (le_add_of_nonneg_right hb) (ih hl)

theorem Within.start_le (hnonneg : ∀ a ∈ l, 0 ≤ length a)
    (h : Within length start l x a) : start ≤ x := by
  obtain ⟨before, after, rfl, hle, -⟩ := h
  exact le_trans (start_le_offset fun b hb => hnonneg b (List.mem_append_left _ hb)) hle

theorem Within.lt_offset (hnonneg : ∀ a ∈ l, 0 ≤ length a)
    (h : Within length start l x a) : x < offset length start l := by
  induction l generalizing start with
  | nil => exact absurd h not_within_nil
  | cons b l ih =>
      obtain ⟨-, hl⟩ := List.forall_mem_cons.mp hnonneg
      rw [offset_cons]
      rcases within_cons_iff.mp h with ⟨rfl, -, hlt⟩ | hrest
      · exact lt_of_lt_of_le hlt (start_le_offset hl)
      · exact ih hl hrest

/-- A point is on one item only. -/
theorem Within.unique (hnonneg : ∀ a ∈ l, 0 ≤ length a) (ha : Within length start l x a)
    (hb : Within length start l x b) : a = b := by
  induction l generalizing start with
  | nil => exact absurd ha not_within_nil
  | cons c l ih =>
      obtain ⟨-, hl⟩ := List.forall_mem_cons.mp hnonneg
      rw [within_cons_iff] at ha hb
      rcases ha with ⟨rfl, -, ha⟩ | ha
      · rcases hb with ⟨rfl, -, -⟩ | hb
        · rfl
        · exact absurd (hb.start_le hl) (not_le_of_gt ha)
      · rcases hb with ⟨rfl, -, hb⟩ | hb
        · exact absurd (ha.start_le hl) (not_le_of_gt hb)
        · exact ih hl ha hb

end Segments
