import Mathlib.Data.List.AList
import Mathlib.Data.List.Forall2

/-!
# Values by name

A value that cannot travel stays in a table, and its name travels instead. Whoever
has a name has the value, by way of the table: a list of names stands for a list of
values, and a name that may be missing for a value that may be missing.

The table changes while names are under way. What they stand for does not change as
long as the table keeps the entries that are in use. An entry under a fresh name
disturbs no other, and an entry may go when nobody uses its name any more.
-/

namespace Naming

variable {κ ν : Type*} [DecidableEq κ] {m m' m'' : AList fun _ : κ => ν} {k : κ} {v : ν}
  {used : κ → Prop}

/-- The value is in the table under the name. -/
def Names (m : AList fun _ : κ => ν) (k : κ) (v : ν) : Prop := m.lookup k = some v

/-- A name stands for a value, and what goes along with it is the same. -/
def Carries {α : Type*} (m : AList fun _ : κ => ν) (a : α × κ) (b : α × ν) : Prop :=
  a.1 = b.1 ∧ Names m a.2 b.2

/-- The entries in use are in the second table as they were in the first. -/
def Keeps (used : κ → Prop) (m m' : AList fun _ : κ => ν) : Prop :=
  ∀ k v, used k → Names m k v → Names m' k v

theorem names_insert : Names (m.insert k v) k v := AList.lookup_insert m

theorem Keeps.refl : Keeps used m m := fun _ _ _ h => h

theorem Keeps.trans (h : Keeps used m m') (h' : Keeps used m' m'') : Keeps used m m'' :=
  fun k v hk hv => h' k v hk (h k v hk hv)

theorem keeps_insert (h : k ∉ m) : Keeps used m (m.insert k v) := by
  intro k' v' _ hv
  have hne : k' ≠ k := by
    rintro rfl
    rw [Names, AList.lookup_eq_none.mpr h] at hv
    cases hv
  rw [Names, AList.lookup_insert_ne hne]
  exact hv

theorem keeps_erase (h : ¬ used k) : Keeps used m (m.erase k) := by
  intro k' v' hk' hv
  have hne : k' ≠ k := by
    rintro rfl
    exact h hk'
  rw [Names, AList.lookup_erase_ne hne]
  exact hv

/-- Two lists that are related item by item stay so under a relation that holds of the
items that are there. -/
theorem forall₂_of_mem {α β : Type*} {R R' : α → β → Prop} {as : List α} {bs : List β}
    (h : List.Forall₂ R as bs) (hR : ∀ a ∈ as, ∀ b, R a b → R' a b) :
    List.Forall₂ R' as bs :=
  ((List.forall₂_and_left as bs).mpr ⟨hR, h⟩).imp fun _ b hab => hab.1 b hab.2

theorem optionRel_of_mem {α β : Type*} {R R' : α → β → Prop} {a : Option α} {b : Option β}
    (h : Option.Rel R a b) (hR : ∀ x, a = some x → ∀ y, R x y → R' x y) : Option.Rel R' a b := by
  cases h with
  | none => exact .none
  | some hxy => exact .some (hR _ rfl _ hxy)

theorem forall₂_toList {α β : Type*} {R : α → β → Prop} {a : Option α} {b : Option β}
    (h : Option.Rel R a b) : List.Forall₂ R a.toList b.toList := by
  cases h with
  | none => exact .nil
  | some hxy => exact .cons hxy .nil

end Naming
