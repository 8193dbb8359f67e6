import Mathlib.Data.List.AList
import Mathlib.Data.Multiset.Bind
import Mathlib.Data.Finset.Basic
import Mathlib.Data.Finset.Dedup

/-!
# The values of an association list

An association list is a map, and the values of a map are a multiset: how often
a value occurs matters, where it occurs does not. Insertion replaces what the
key had, erasure takes it out, and both are exact equations between multisets,
which is what an argument that counts owners of a value needs.
-/

namespace Assoc

variable {κ ν : Type*} [DecidableEq κ]

def vals (m : AList fun _ : κ => ν) : Multiset ν :=
  (m.entries.map Sigma.snd : List ν)

def keySet (m : AList fun _ : κ => ν) : Finset κ :=
  m.keys.toFinset

omit [DecidableEq κ] in
@[simp] theorem vals_empty : vals (∅ : AList fun _ : κ => ν) = 0 := rfl

@[simp] theorem vals_insert (m : AList fun _ : κ => ν) (k : κ) (v : ν) :
    vals (m.insert k v) = v ::ₘ vals (m.erase k) := by
  rfl

/-- A map's values are the one stored under a key, if any, and the rest. -/
theorem vals_eq_lookup_add (m : AList fun _ : κ => ν) (k : κ) :
    vals m = (m.lookup k).toList + vals (m.erase k) := by
  by_cases hk : k ∈ m
  · obtain ⟨v, l₁, l₂, hnot, hl, herase⟩ := List.exists_of_kerase hk
    have hlookup : m.lookup k = some v := by
      rw [← Option.mem_def, AList.mem_lookup_iff, hl]
      simp
    have hrest : vals (m.erase k) = ((l₁ ++ l₂).map Sigma.snd : List ν) := by
      unfold vals
      rw [← herase]
      rfl
    rw [hrest, hlookup, vals, hl, List.map_append, List.map_append, List.map_cons]
    exact Multiset.coe_eq_coe.mpr List.perm_middle
  · have hnone : m.lookup k = none := AList.lookup_eq_none.mpr hk
    have hsame : m.erase k = m :=
      AList.ext (List.kerase_of_notMem_keys hk)
    simp [hnone, hsame]

theorem mem_vals_of_lookup {m : AList fun _ : κ => ν} {k : κ} {v : ν}
    (h : m.lookup k = some v) : v ∈ vals m := by
  rw [vals_eq_lookup_add m k, h]
  simp

@[simp] theorem mem_keySet {m : AList fun _ : κ => ν} {k : κ} :
    k ∈ keySet m ↔ k ∈ m := by
  simp [keySet, AList.mem_keys]

@[simp] theorem keySet_insert (m : AList fun _ : κ => ν) (k : κ) (v : ν) :
    keySet (m.insert k v) = insert k (keySet m) := by
  ext k'
  simp

@[simp] theorem keySet_erase (m : AList fun _ : κ => ν) (k : κ) :
    keySet (m.erase k) = (keySet m).erase k := by
  ext k'
  simp

end Assoc
