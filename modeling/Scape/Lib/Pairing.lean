import Mathlib.Logic.Function.Basic
import Mathlib.Data.Option.Basic

/-!
# Two registers of one set of things

Things are placed at keys. One register says what is at each key, another which things
there are, and every thing carries the key that it was made for. The registers agree
(`Paired`) when a thing is listed exactly if the place it was made for has it.

Three changes are considered: places are cleared without a word to the list, a new thing
is put at a key while the list drops one for it, and a place is cleared together with what
it had. The last keeps the agreement. The first keeps it only where there was nothing,
and the second only if the list drops what the place had before.
-/

namespace Pairing

variable {κ ω : Type*}

/-- The things that are listed are those that are placed, each at its own key. -/
structure Paired (placed : κ → Option ω) (listed : ω → Prop) (key : ω → Option κ) : Prop where
  place : ∀ o, listed o → ∃ k, key o = some k ∧ placed k = some o
  list : ∀ k o, placed k = some o → listed o ∧ key o = some k

variable {placed placed' : κ → Option ω} {listed listed' : ω → Prop} {key key' : ω → Option κ}
  {k : κ} {o : ω}

/-- A thing that is listed for a key is the one at the key. -/
theorem Paired.placed_eq (h : Paired placed listed key) (ho : listed o) (hk : key o = some k) :
    placed k = some o := by
  obtain ⟨k', hk', hplaced⟩ := h.place o ho
  rw [hk, Option.some.injEq] at hk'
  rw [hk', hplaced]

theorem paired_congr (hplaced : ∀ k, placed' k = placed k) (hlisted : ∀ o, listed' o ↔ listed o)
    (hkey : ∀ o, listed o → key' o = key o) :
    Paired placed' listed' key' ↔ Paired placed listed key := by
  constructor
  · intro h
    refine ⟨fun o ho => ?_, fun k o hk => ?_⟩
    · obtain ⟨k, hk, ho'⟩ := h.place o ((hlisted o).mpr ho)
      exact ⟨k, (hkey o ho).symm.trans hk, (hplaced k).symm.trans ho'⟩
    · obtain ⟨ho, hk'⟩ := h.list k o ((hplaced k).trans hk)
      have ho' := (hlisted o).mp ho
      exact ⟨ho', (hkey o ho').symm.trans hk'⟩
  · intro h
    refine ⟨fun o ho => ?_, fun k o hk => ?_⟩
    · have ho' := (hlisted o).mp ho
      obtain ⟨k, hk, hat⟩ := h.place o ho'
      exact ⟨k, (hkey o ho').trans hk, (hplaced k).trans hat⟩
    · obtain ⟨ho, hk'⟩ := h.list k o ((hplaced k).symm.trans hk)
      exact ⟨(hlisted o).mpr ho, (hkey o ho).trans hk'⟩

/-- Places are cleared, and the list is not told. -/
theorem Paired.clear_iff {gone : κ → Prop} (h : Paired placed listed key)
    (hgone : ∀ k, gone k → placed' k = none) (hkept : ∀ k, ¬ gone k → placed' k = placed k) :
    Paired placed' listed key ↔ ∀ k, gone k → placed k = none := by
  constructor
  · intro h' k hk
    by_contra hne
    obtain ⟨o, ho⟩ := Option.ne_none_iff_exists'.mp hne
    obtain ⟨hlisted, hkey⟩ := h.list k o ho
    have hplaced := h'.placed_eq hlisted hkey
    rw [hgone k hk] at hplaced
    cases hplaced
  · intro hempty
    refine (paired_congr (fun k => ?_) (fun _ => Iff.rfl) fun _ _ => rfl).mpr h
    by_cases hk : gone k
    · rw [hgone k hk, hempty k hk]
    · exact hkept k hk

/-- A place is cleared, and what it had is taken from the list. -/
theorem Paired.withdraw (h : Paired placed listed key) (hgone : placed' k = none)
    (hkept : ∀ k', k' ≠ k → placed' k' = placed k')
    (hlisted : ∀ o, listed' o ↔ listed o ∧ o ∉ placed k) : Paired placed' listed' key where
  place o ho := by
    obtain ⟨ho, hnot⟩ := (hlisted o).mp ho
    obtain ⟨k', hk', hplaced⟩ := h.place o ho
    refine ⟨k', hk', (hkept k' ?_).trans hplaced⟩
    rintro rfl
    exact hnot hplaced
  list k' o hk' := by
    have hne : k' ≠ k := by
      rintro rfl
      rw [hgone] at hk'
      cases hk'
    rw [hkept k' hne] at hk'
    obtain ⟨ho, hkey⟩ := h.list k' o hk'
    refine ⟨(hlisted o).mpr ⟨ho, fun hmem => hne ?_⟩, hkey⟩
    rw [(h.list k o hmem).2, Option.some.injEq] at hkey
    exact hkey.symm

/-- A new thing is put at a key, and the list has it for one of the others, if it drops
one. -/
theorem Paired.replace_iff {n : ω} {old : Option ω} (h : Paired placed listed key)
    (hnew : ¬ listed n) (hold : ∀ o ∈ old, listed o)
    (hplaced : placed' k = some n) (hkept : ∀ k', k' ≠ k → placed' k' = placed k')
    (hlisted : ∀ o, listed' o ↔ o = n ∨ listed o ∧ o ∉ old) (hkey : key' n = some k)
    (hkeys : ∀ o, listed o → key' o = key o) :
    Paired placed' listed' key' ↔ placed k = old := by
  constructor
  · intro h'
    ext o
    constructor
    · intro ho
      obtain ⟨hlist, hk⟩ := h.list k o ho
      by_contra hnot
      -- what is left in the list has lost its place
      have hk' : key' o = some k := (hkeys o hlist).trans hk
      have hat := h'.placed_eq ((hlisted o).mpr (.inr ⟨hlist, hnot⟩)) hk'
      rw [hplaced, Option.some.injEq] at hat
      exact hnew (hat ▸ hlist)
    · intro ho
      obtain ⟨k', hk', hat⟩ := h.place o (hold o ho)
      by_cases hkk : k' = k
      · rw [← hkk, hat]
      · have hlist := (h'.list k' o ((hkept k' hkk).trans hat)).1
        rcases (hlisted o).mp hlist with rfl | ⟨-, hnot⟩
        · exact absurd (hold o ho) hnew
        · exact absurd ho hnot
  · rintro rfl
    refine ⟨fun o ho => ?_, fun k' o hk' => ?_⟩
    · rcases (hlisted o).mp ho with rfl | ⟨ho, hnot⟩
      · exact ⟨k, hkey, hplaced⟩
      · obtain ⟨k', hk', hat⟩ := h.place o ho
        refine ⟨k', (hkeys o ho).trans hk', (hkept k' ?_).trans hat⟩
        rintro rfl
        exact hnot hat
    · by_cases hkk : k' = k
      · rw [hkk] at hk' ⊢
        rw [hplaced, Option.some.injEq] at hk'
        rw [← hk']
        exact ⟨(hlisted n).mpr (.inl rfl), hkey⟩
      · rw [hkept k' hkk] at hk'
        obtain ⟨ho, hko⟩ := h.list k' o hk'
        refine ⟨(hlisted o).mpr (.inr ⟨ho, fun hmem => hkk ?_⟩), (hkeys o ho).trans hko⟩
        rw [(h.list k o hmem).2, Option.some.injEq] at hko
        exact hko.symm

end Pairing
