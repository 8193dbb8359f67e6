import Mathlib.Data.List.AList

/-!
# Things that are found by a handle they carry

Somebody hands out things and takes them back. To each of them a value may be attached, under
a key that the thing carries from then on, and the values are kept in a table by these keys. A
thing without a value carries a blank key.

The table is right (`Kept`) when each thing that is out finds its own value under the key that
it carries, and no entry is there that belongs to none of them. Handing out with a fresh key and
taking back keep it so.
-/

namespace Handles

variable {κ ν ι : Type} [DecidableEq κ]

/-- `out` are the things that are out, each with its value. -/
structure Kept (table : AList fun _ : κ => ν) (out : List (ι × Option ν)) (handle : ι → κ)
    (blank : κ → Prop) : Prop where
  finds : ∀ entry ∈ out, table.lookup (handle entry.1) = entry.2
  unattached : ∀ entry ∈ out, entry.2 = none → blank (handle entry.1)
  attached : ∀ k ∈ table, ¬ blank k ∧ ∃ entry ∈ out, handle entry.1 = k
  own : ∀ entry ∈ out, ∀ entry' ∈ out, entry.2.isSome → handle entry.1 = handle entry'.1 →
    entry.1 = entry'.1

variable {table : AList fun _ : κ => ν} {out : List (ι × Option ν)} {handle handle' : ι → κ}
  {blank : κ → Prop} {i : ι} {v : ν}

theorem kept_empty : Kept (∅ : AList fun _ : κ => ν) [] handle blank where
  finds _ hentry := absurd hentry List.not_mem_nil
  unattached _ hentry := absurd hentry List.not_mem_nil
  attached _ hk := absurd hk (AList.notMem_empty _)
  own _ hentry := absurd hentry List.not_mem_nil

/-- Only the keys of the things that are out count. -/
theorem Kept.congr (h : Kept table out handle blank)
    (hsame : ∀ entry ∈ out, handle' entry.1 = handle entry.1) :
    Kept table out handle' blank where
  finds entry hentry := by rw [hsame entry hentry]; exact h.finds entry hentry
  unattached entry hentry := by rw [hsame entry hentry]; exact h.unattached entry hentry
  attached k hk := by
    obtain ⟨hproper, entry, hentry, he⟩ := h.attached k hk
    exact ⟨hproper, entry, hentry, (hsame entry hentry).trans he⟩
  own entry hentry entry' hentry' := by
    rw [hsame entry hentry, hsame entry' hentry']
    exact h.own entry hentry entry' hentry'

theorem ne_of_new (hnew : i ∉ out.map Prod.fst) {entry : ι × Option ν} (hentry : entry ∈ out) :
    entry.1 ≠ i := by
  rintro rfl
  exact hnew (List.mem_map_of_mem hentry)

/-- A thing that has a value carries a key of the table. -/
theorem Kept.mem_table (h : Kept table out handle blank) {entry : ι × Option ν}
    (hentry : entry ∈ out) (hvalue : entry.2.isSome) : handle entry.1 ∈ table := by
  rw [← h.finds entry hentry] at hvalue
  exact AList.lookup_isSome.mp hvalue

/-- A thing is handed out without a value. -/
theorem Kept.give_none (h : Kept table out handle blank) (hnew : i ∉ out.map Prod.fst)
    (hblank : blank (handle' i)) (hold : ∀ j, j ≠ i → handle' j = handle j) :
    Kept table ((i, none) :: out) handle' blank := by
  have h' : Kept table out handle' blank :=
    h.congr fun entry hentry => hold _ (ne_of_new hnew hentry)
  have hmissing : handle' i ∉ table := fun hmem => (h'.attached _ hmem).1 hblank
  refine ⟨?_, ?_, fun k hk => ?_, ?_⟩
  · exact List.forall_mem_cons.mpr ⟨AList.lookup_eq_none.mpr hmissing, h'.finds⟩
  · exact List.forall_mem_cons.mpr ⟨fun _ => hblank, h'.unattached⟩
  · obtain ⟨hproper, entry, hentry, he⟩ := h'.attached k hk
    exact ⟨hproper, entry, List.mem_cons_of_mem _ hentry, he⟩
  · intro entry hentry entry' hentry' hvalue he
    rcases List.mem_cons.mp hentry with rfl | hentry
    · cases hvalue
    rcases List.mem_cons.mp hentry' with rfl | hentry'
    · exact absurd (he ▸ h'.mem_table hentry hvalue) hmissing
    · exact h'.own entry hentry entry' hentry' hvalue he

/-- A thing is handed out with a value, under a key that nothing has. -/
theorem Kept.give {k : κ} (h : Kept table out handle blank) (hnew : i ∉ out.map Prod.fst)
    (hk : handle' i = k) (hproper : ¬ blank k) (hfresh : k ∉ table)
    (hold : ∀ j, j ≠ i → handle' j = handle j) :
    Kept (table.insert k v) ((i, some v) :: out) handle' blank := by
  subst hk
  have h' : Kept table out handle' blank :=
    h.congr fun entry hentry => hold _ (ne_of_new hnew hentry)
  have hne : ∀ entry ∈ out, handle' entry.1 ≠ handle' i := by
    intro entry hentry he
    cases hvalue : entry.2 with
    | none => exact hproper (he ▸ h'.unattached entry hentry hvalue)
    | some w =>
        have hmem := h'.mem_table hentry (hvalue ▸ rfl)
        exact hfresh (he ▸ hmem)
  refine ⟨?_, ?_, fun k hk => ?_, ?_⟩
  · refine List.forall_mem_cons.mpr ⟨AList.lookup_insert _, fun entry hentry => ?_⟩
    rw [AList.lookup_insert_ne (hne entry hentry)]
    exact h'.finds entry hentry
  · exact List.forall_mem_cons.mpr ⟨fun hnone => (Option.some_ne_none v hnone).elim, h'.unattached⟩
  · rcases (AList.mem_insert _).mp hk with rfl | hk
    · exact ⟨hproper, _, List.mem_cons_self, rfl⟩
    · obtain ⟨hk, entry, hentry, he⟩ := h'.attached k hk
      exact ⟨hk, entry, List.mem_cons_of_mem _ hentry, he⟩
  · intro entry hentry entry' hentry' hvalue he
    rcases List.mem_cons.mp hentry with rfl | hentry
    · rcases List.mem_cons.mp hentry' with rfl | hentry'
      · rfl
      · exact absurd he.symm (hne entry' hentry')
    · rcases List.mem_cons.mp hentry' with rfl | hentry'
      · exact absurd he (hne entry hentry)
      · exact h'.own entry hentry entry' hentry' hvalue he

/-- A thing is taken back, and what is under its key is dropped. -/
theorem Kept.take [DecidableEq ι] (h : Kept table out handle blank)
    (hout : i ∈ out.map Prod.fst) :
    Kept (table.erase (handle i)) (out.filter fun entry => entry.1 ≠ i) handle blank := by
  have hmem : ∀ {entry}, entry ∈ out.filter (fun entry => entry.1 ≠ i) ↔
      entry ∈ out ∧ entry.1 ≠ i := by simp
  refine ⟨fun entry hentry => ?_, fun entry hentry => ?_, fun k hk => ?_, ?_⟩
  · obtain ⟨hin, hne⟩ := hmem.mp hentry
    by_cases he : handle entry.1 = handle i
    · rw [he, AList.lookup_erase]
      obtain ⟨taken, htaken, rfl⟩ := List.mem_map.mp hout
      cases hvalue : entry.2 with
      | none => rfl
      | some v => exact absurd (h.own entry hin taken htaken (hvalue ▸ rfl) he) hne
    · rw [AList.lookup_erase_ne he]
      exact h.finds entry hin
  · exact h.unattached entry (hmem.mp hentry).1
  · obtain ⟨hne, hk⟩ := AList.mem_erase.mp hk
    obtain ⟨hproper, entry, hentry, rfl⟩ := h.attached k hk
    refine ⟨hproper, entry, hmem.mpr ⟨hentry, ?_⟩, rfl⟩
    rintro rfl
    exact hne rfl
  · intro entry hentry entry' hentry'
    exact h.own entry (hmem.mp hentry).1 entry' (hmem.mp hentry').1

end Handles
