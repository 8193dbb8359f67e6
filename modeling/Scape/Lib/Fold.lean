import Mathlib.Data.List.Basic

/-!
# Folds in any order

A fold over the entries of a hash map comes out the same in any order if its steps commute.
Often they do because there is only one that does anything: what the fold is about belongs
to one entry, and the steps of all others leave it alone.

A look at what is folded is such a fold itself, where what the look sees of a step depends on
no more than what it has seen before (`foldl_look`).
-/

namespace Fold

variable {α β γ : Type*} {f : β → α → β} {l l' : List α}

theorem foldl_eq_self (h : ∀ a ∈ l, ∀ b, f b a = b) (b : β) : l.foldl f b = b := by
  induction l with
  | nil => rfl
  | cons a l ih =>
      rw [List.foldl_cons, h a List.mem_cons_self]
      exact ih fun a' ha' => h a' (List.mem_cons_of_mem a ha')

/-- Of any two elements one does nothing, and so they come in any order. -/
theorem foldl_perm_of_one (h : l.Perm l')
    (hone : ∀ a ∈ l, ∀ a' ∈ l, a ≠ a' → (∀ b, f b a = b) ∨ ∀ b, f b a' = b) (b : β) :
    l.foldl f b = l'.foldl f b := by
  refine h.foldl_eq' (fun a ha a' ha' b => ?_) b
  by_cases he : a = a'
  · rw [he]
  · obtain hleft | hright := hone a ha a' ha' he
    · rw [hleft, hleft]
    · rw [hright, hright]

/-- What is the same all the way, `hkept`, may be used of each step. -/
theorem foldl_look (kept : β → Prop) (look : β → γ) {g : γ → α → γ}
    (hkept : ∀ b, kept b → ∀ a, kept (f b a))
    (hlook : ∀ b, kept b → ∀ a, look (f b a) = g (look b) a) (l : List α) {b : β} (hb : kept b) :
    look (l.foldl f b) = l.foldl g (look b) := by
  induction l generalizing b with
  | nil => rfl
  | cons a l ih =>
      rw [List.foldl_cons, ih (hkept b hb a), hlook b hb]
      rfl

end Fold
