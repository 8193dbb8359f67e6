import Mathlib.Logic.Function.Basic
import Mathlib.Data.List.Nodup
import Mathlib.Data.List.Perm.Basic

/-!
# A map that is never empty, and what its values hold

A `Registry` maps keys to values, always has one, and has an order in which it is
iterated: the first key is a key like any other, but it is the one a program gets
that asks for just any. Keys are never taken out. Adding one may change the order.

The values are containers of some kind, and what one holds is a relation. `Exclusive`
says that nothing is held twice; putting one thing into one value keeps that exactly
when no other value holds the thing (`exclusive_modify_iff`).
-/

structure Registry (κ ν : Type*) where
  keys : List κ
  value : κ → ν
  nodup : keys.Nodup
  nonempty : keys ≠ []

namespace Registry

variable {κ ν α : Type*} {m m' : Registry κ ν}

def firstKey (m : Registry κ ν) : κ := m.keys.head m.nonempty

def first (m : Registry κ ν) : ν := m.value m.firstKey

theorem firstKey_mem (m : Registry κ ν) : m.firstKey ∈ m.keys := List.head_mem _

theorem firstKey_congr (h : m.keys = m'.keys) : m.firstKey = m'.firstKey := by
  unfold firstKey
  simp only [h]

/-- The same map, iterated in another order. -/
def reorder (m : Registry κ ν) (keys : List κ) (h : keys.Perm m.keys) : Registry κ ν where
  keys := keys
  value := m.value
  nodup := h.nodup_iff.mpr m.nodup
  nonempty := by
    rintro rfl
    exact m.nonempty h.nil_eq.symm

@[simp] theorem reorder_value (m : Registry κ ν) (keys : List κ) (h : keys.Perm m.keys) :
    (m.reorder keys h).value = m.value := rfl

theorem mem_reorder {keys : List κ} {h : keys.Perm m.keys} {k : κ} :
    k ∈ (m.reorder keys h).keys ↔ k ∈ m.keys := h.mem_iff

def map (m : Registry κ ν) (f : ν → ν) : Registry κ ν :=
  { m with value := fun k => f (m.value k) }

/-- Nothing is held by two values. -/
def Exclusive (holds : ν → α → Prop) (m : Registry κ ν) : Prop :=
  ∀ k ∈ m.keys, ∀ k' ∈ m.keys, ∀ a, holds (m.value k) a → holds (m.value k') a → k = k'

variable {holds : ν → α → Prop}

variable [DecidableEq κ]

def get? (m : Registry κ ν) (k : κ) : Option ν :=
  if k ∈ m.keys then some (m.value k) else none

def modify (m : Registry κ ν) (k : κ) (f : ν → ν) : Registry κ ν :=
  { m with value := Function.update m.value k (f (m.value k)) }

/-- The map with an entry for the key, which is this one if there was none. -/
def ensure (m : Registry κ ν) (k : κ) (v : ν) : Registry κ ν :=
  if h : k ∈ m.keys then m
  else
    { keys := k :: m.keys
      value := Function.update m.value k v
      nodup := List.nodup_cons.mpr ⟨h, m.nodup⟩
      nonempty := List.cons_ne_nil k m.keys }

theorem get?_eq_some_iff {k : κ} {v : ν} :
    m.get? k = some v ↔ k ∈ m.keys ∧ m.value k = v := by
  unfold get?
  split
  next h => simp [h]
  next h => simp [h]

theorem get?_of_mem {k : κ} (h : k ∈ m.keys) : m.get? k = some (m.value k) := if_pos h

@[simp] theorem modify_keys (m : Registry κ ν) (k : κ) (f : ν → ν) :
    (m.modify k f).keys = m.keys := rfl

@[simp] theorem modify_value (m : Registry κ ν) (k : κ) (f : ν → ν) :
    (m.modify k f).value = Function.update m.value k (f (m.value k)) := rfl

theorem mem_ensure {k k' : κ} {v : ν} :
    k' ∈ (m.ensure k v).keys ↔ k' = k ∨ k' ∈ m.keys := by
  unfold ensure
  split
  next h =>
    refine (or_iff_right_of_imp fun he => ?_).symm
    rw [he]
    exact h
  next => exact List.mem_cons

theorem ensure_value {k k' : κ} {v : ν} (h : k' ∈ m.keys) :
    (m.ensure k v).value k' = m.value k' := by
  unfold ensure
  split
  next => rfl
  next hnot => exact Function.update_of_ne (ne_of_mem_of_not_mem h hnot) _ _

theorem ensure_value_new {k : κ} {v : ν} (h : k ∉ m.keys) :
    (m.ensure k v).value k = v := by
  unfold ensure
  rw [dif_neg h]
  exact Function.update_self ..

theorem get?_modify {k k' : κ} {f : ν → ν} (h : k ∈ m.keys) :
    (m.modify k f).get? k' = if k' = k then some (f (m.value k)) else m.get? k' := by
  unfold get?
  by_cases he : k' = k
  · subst he
    simp [h]
  · simp [he]

theorem get?_modify_map {k k' : κ} {f : ν → ν} :
    (m.modify k f).get? k' = if k' = k then (m.get? k).map f else m.get? k' := by
  by_cases h : k ∈ m.keys
  · rw [get?_modify h, get?_of_mem h]
    rfl
  · unfold get?
    by_cases he : k' = k
    · subst he
      simp [h]
    · simp [he]

theorem get?_ensure {k k' : κ} {v : ν} :
    (m.ensure k v).get? k' = if k' = k then some ((m.get? k).getD v) else m.get? k' := by
  unfold get?
  simp only [mem_ensure]
  by_cases he : k' = k
  · subst he
    by_cases h : k' ∈ m.keys
    · simp [h, ensure_value h]
    · simp [h, ensure_value_new h]
  · by_cases h : k' ∈ m.keys
    · simp [h, he, ensure_value h]
    · simp [h, he]

theorem get?_reorder {keys : List κ} {h : keys.Perm m.keys} {k : κ} :
    (m.reorder keys h).get? k = m.get? k := by
  unfold get?
  simp only [mem_reorder, reorder_value]

theorem exclusive_modify_iff (h : m.Exclusive holds) {k : κ} (hk : k ∈ m.keys) {f : ν → ν}
    {a : α} (hf : ∀ b, holds (f (m.value k)) b ↔ holds (m.value k) b ∨ b = a) :
    (m.modify k f).Exclusive holds ↔
      ∀ k' ∈ m.keys, holds (m.value k') a → k' = k := by
  have hself : ∀ b, holds ((m.modify k f).value k) b ↔ holds (m.value k) b ∨ b = a := by
    intro b
    rw [modify_value, Function.update_self]
    exact hf b
  have hother : ∀ k' ≠ k, (m.modify k f).value k' = m.value k' :=
    fun k' hne => Function.update_of_ne hne _ _
  constructor
  · intro hex k' hk' ha
    by_contra hne
    refine hne (hex k' hk' k hk a ?_ ((hself a).mpr (.inr rfl)))
    rw [hother k' hne]
    exact ha
  · intro hfree k₁ hk₁ k₂ hk₂ b h₁ h₂
    -- what a value holds now it held before, or it is the new thing
    have hold : ∀ k', holds ((m.modify k f).value k') b →
        holds (m.value k') b ∨ (k' = k ∧ b = a) := by
      intro k' hb
      by_cases he : k' = k
      · subst he
        exact ((hself b).mp hb).imp id fun hba => ⟨rfl, hba⟩
      · rw [hother k' he] at hb
        exact .inl hb
    rcases hold k₁ h₁ with hb₁ | ⟨he₁, ha⟩ <;> rcases hold k₂ h₂ with hb₂ | ⟨he₂, ha'⟩
    · exact h k₁ hk₁ k₂ hk₂ b hb₁ hb₂
    · rw [he₂]
      exact hfree k₁ hk₁ (ha' ▸ hb₁)
    · rw [he₁]
      exact (hfree k₂ hk₂ (ha ▸ hb₂)).symm
    · rw [he₁, he₂]

end Registry
