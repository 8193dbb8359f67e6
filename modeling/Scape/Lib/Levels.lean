import Mathlib.Data.List.Nodup
import Mathlib.Data.List.Sort

/-!
# Piles on levels

A pile is a list of keys with data, the topmost last, in which each key has a level of its
own. It is layered when no key occurs twice and no key lies below one of a lower level.

Two things happen to a pile. Something may be taken out of it, and a key may be put on it,
whether it was there before or not: it then lies on top of its level. Both keep a pile
layered, and keep what they are not about where it is among the rest (`Settles`).
-/

namespace Levels

variable {κ β ι : Type*} [DecidableEq κ] [LinearOrder ι] {level : κ → ι}
  {keys : List κ} {xs ys : List (κ × β)} {k : κ} {b : β}

structure Layered (level : κ → ι) (xs : List (κ × β)) : Prop where
  nodup : (xs.map Prod.fst).Nodup
  sorted : xs.Pairwise fun x y => level x.1 ≤ level y.1

def put (level : κ → ι) (xs : List (κ × β)) (k : κ) (b : β) : List (κ × β) :=
  (xs.filter (fun x => x.1 ≠ k) ++ [(k, b)]).insertionSort fun x y => level x.1 ≤ level y.1

/-- A key that has everything of its own level below it. -/
def OnTop (level : κ → ι) (k : κ) (ys : List (κ × β)) : Prop :=
  ∃ lower b higher, ys = lower ++ (k, b) :: higher ∧ ∀ y ∈ higher, level k < level y.1

/-- What a pile may turn into that is layered: nothing but these keys has changed its data or
its place among the rest, and if one of them has, it is on top of its level. -/
structure Settles (level : κ → ι) (keys : List κ) (xs ys : List (κ × β)) : Prop where
  layered : Layered level ys
  others : (ys.filter fun y => y.1 ∉ keys).Sublist xs
  top : ys.Sublist xs ∨ ∃ k ∈ keys, OnTop level k ys

/-! ## Layers -/

omit [DecidableEq κ] in
theorem layered_nil : Layered level ([] : List (κ × β)) := ⟨List.nodup_nil, List.Pairwise.nil⟩

omit [DecidableEq κ] in
theorem Layered.sublist (h : Layered level xs) (hsub : ys.Sublist xs) : Layered level ys :=
  ⟨h.nodup.sublist (hsub.map _), h.sorted.sublist hsub⟩

omit [DecidableEq κ] in
/-- What is put on a sorted pile goes to the end of its level. -/
theorem insertionSort_concat (h : xs.Pairwise fun x y => level x.1 ≤ level y.1) :
    ∃ lower higher, xs = lower ++ higher ∧
      (xs ++ [(k, b)]).insertionSort (fun x y => level x.1 ≤ level y.1) =
        lower ++ (k, b) :: higher ∧
      (∀ x ∈ lower, level x.1 ≤ level k) ∧ ∀ x ∈ higher, level k < level x.1 := by
  induction xs with
  | nil => exact ⟨[], [], rfl, rfl, by simp, by simp⟩
  | cons x xs ih =>
      obtain ⟨hx, hxs⟩ := List.pairwise_cons.mp h
      obtain ⟨lower, higher, rfl, hsort, hlower, hhigher⟩ := ih hxs
      by_cases hle : level x.1 ≤ level k
      · refine ⟨x :: lower, higher, rfl, ?_, List.forall_mem_cons.mpr ⟨hle, hlower⟩, hhigher⟩
        have hrel : ∀ y ∈ lower ++ higher ++ [(k, b)], level x.1 ≤ level y.1 := by
          intro y hy
          rcases List.mem_append.mp hy with hold | hnew
          · exact hx y hold
          · obtain rfl := List.mem_singleton.mp hnew
            exact hle
        rw [List.cons_append, List.cons_append, List.insertionSort_cons_of_forall_rel _ hrel,
          hsort]
      · have hlt : level k < level x.1 := lt_of_not_ge hle
        have hnil : lower = [] := by
          refine List.eq_nil_iff_forall_not_mem.mpr fun y hy => ?_
          have hxy := hx y (List.mem_append_left _ hy)
          exact absurd (hxy.trans (hlower y hy)) hle
        subst hnil
        refine ⟨[], x :: higher, rfl, ?_, by simp, List.forall_mem_cons.mpr ⟨hlt, hhigher⟩⟩
        rw [List.cons_append, List.insertionSort_cons, hsort, List.nil_append,
          List.orderedInsert_cons, if_neg hle]
        cases higher with
        | nil => rfl
        | cons y ys => rw [List.orderedInsert_cons, if_pos (hx y List.mem_cons_self)]; rfl

/-- The rest of the pile is parted where the key goes. -/
theorem put_cases (h : Layered level xs) :
    ∃ lower higher, xs.filter (fun x => x.1 ≠ k) = lower ++ higher ∧
      put level xs k b = lower ++ (k, b) :: higher ∧ ∀ x ∈ higher, level k < level x.1 := by
  obtain ⟨lower, higher, hrest, hput, -, hhigher⟩ := insertionSort_concat (h.sorted.filter _)
  exact ⟨lower, higher, hrest, hput, hhigher⟩

theorem Layered.put (h : Layered level xs) : Layered level (put level xs k b) := by
  have hperm : (Levels.put level xs k b).Perm (xs.filter (fun x => x.1 ≠ k) ++ [(k, b)]) :=
    List.perm_insertionSort ..
  refine ⟨?_, List.pairwise_insertionSort ..⟩
  rw [(hperm.map Prod.fst).nodup_iff, List.map_append, List.nodup_append_comm]
  refine List.nodup_cons.mpr ⟨fun hmem => ?_, h.nodup.sublist (List.filter_sublist.map _)⟩
  obtain ⟨x, hx, hxk⟩ := List.mem_map.mp hmem
  exact of_decide_eq_true (List.mem_filter.mp hx).2 hxk

/-! ## What may happen to a pile -/

theorem settles_of_sublist (h : Layered level xs) (hsub : ys.Sublist xs) :
    Settles level keys xs ys :=
  ⟨h.sublist hsub, List.filter_sublist.trans hsub, .inl hsub⟩

theorem settles_put (h : Layered level xs) (hk : k ∈ keys) :
    Settles level keys xs (put level xs k b) := by
  obtain ⟨lower, higher, hrest, hput, hhigher⟩ := put_cases (k := k) (b := b) h
  refine ⟨h.put, ?_, .inr ⟨k, hk, lower, b, higher, hput, hhigher⟩⟩
  rw [hput, List.filter_append, List.filter_cons_of_neg (by simpa using hk),
    ← List.filter_append, ← hrest]
  exact List.filter_sublist.trans List.filter_sublist

/-- One thing after another that is no taking out. -/
theorem Settles.put (h : Settles level keys xs ys) (hk : k ∈ keys) :
    Settles level keys xs (put level ys k b) := by
  have hput := settles_put (b := b) h.layered hk
  obtain ⟨lower, higher, -, heq, hhigher⟩ := put_cases (k := k) (b := b) h.layered
  refine ⟨hput.layered, ?_, .inr ⟨k, hk, lower, b, higher, heq, hhigher⟩⟩
  have hothers := (hput.others.filter fun y => decide (y.1 ∉ keys)).trans h.others
  simp only [List.filter_filter, Bool.and_self] at hothers
  exact hothers

/-- To put the topmost key where it is changes nothing. -/
theorem put_last (h : Layered level (xs ++ [(k, b)])) :
    Levels.put level (xs ++ [(k, b)]) k b = xs ++ [(k, b)] := by
  have hfilter : (xs ++ [(k, b)]).filter (fun x => x.1 ≠ k) = xs := by
    rw [List.filter_append, List.filter_cons_of_neg (by simp), List.filter_nil,
      List.append_nil, List.filter_eq_self]
    intro x hx
    have hnodup := h.nodup
    rw [List.map_append, List.nodup_append] at hnodup
    simpa using hnodup.2.2 x.1 (List.mem_map_of_mem hx) k (by simp)
  rw [Levels.put, hfilter]
  exact h.sorted.insertionSort_eq

/-- Keys that it is not about are where they were, or gone. -/
theorem Settles.rest (h : Settles level keys xs ys) {rest : List κ}
    (hrest : keys.Disjoint rest) :
    (ys.filter fun y => y.1 ∈ rest).Sublist (xs.filter fun x => x.1 ∈ rest) := by
  have hothers := h.others.filter fun y => decide (y.1 ∈ rest)
  rw [List.filter_filter] at hothers
  have heq : ys.filter (fun y => decide (y.1 ∈ rest)) =
      ys.filter fun y => decide (y.1 ∈ rest) && decide (y.1 ∉ keys) := by
    refine List.filter_congr fun y _ => ?_
    by_cases hy : y.1 ∈ rest
    · simpa [hy] using fun hkey => hrest hkey hy
    · simp [hy]
  rwa [heq]

end Levels
