import Mathlib.Data.List.Forall2

/-!
# Mapping a function that may fail

`List.mapM` in `Option` applies a partial function to every element and fails if
one application does. Its result stands in pointwise relation to its argument,
and that is all there is to know about it.
-/

namespace Traverse

variable {α β γ : Type*} {f : α → Option β}

theorem mapM_eq_some_iff {l : List α} {l' : List β} :
    l.mapM f = some l' ↔ List.Forall₂ (fun a b => f a = some b) l l' := by
  induction l generalizing l' with
  | nil =>
      rw [List.mapM_nil, List.forall₂_nil_left_iff]
      exact ⟨fun h => (Option.some.inj h).symm, fun h => h ▸ rfl⟩
  | cons a l ih =>
      rw [List.mapM_cons, List.forall₂_cons_left_iff]
      constructor
      · intro h
        cases ha : f a with
        | none => rw [ha] at h; cases h
        | some b =>
            cases hl : l.mapM f with
            | none => rw [ha, hl] at h; cases h
            | some bs =>
                rw [ha, hl] at h
                cases h
                exact ⟨b, bs, rfl, ih.mp hl, rfl⟩
      · rintro ⟨b, bs, ha, hl, rfl⟩
        rw [ha, ih.mpr hl]
        rfl

theorem mapM_isSome_iff {l : List α} :
    (∃ l', l.mapM f = some l') ↔ ∀ a ∈ l, ∃ b, f a = some b := by
  simp only [mapM_eq_some_iff]
  constructor
  · rintro ⟨l', h⟩ a ha
    induction h with
    | nil => cases ha
    | cons hab _ ih =>
        rcases List.mem_cons.mp ha with rfl | hmem
        · exact ⟨_, hab⟩
        · exact ih hmem
  · intro h
    induction l with
    | nil => exact ⟨[], .nil⟩
    | cons a l ih =>
        obtain ⟨b, hb⟩ := h a List.mem_cons_self
        obtain ⟨bs, hbs⟩ := ih fun a' ha' => h a' (List.mem_cons_of_mem _ ha')
        exact ⟨b :: bs, .cons hb hbs⟩

/-- What every application preserves, the whole list preserves. -/
theorem map_of_mapM {l : List α} {l' : List β} {g : β → γ} {h : α → γ}
    (hl : l.mapM f = some l') (hf : ∀ a b, f a = some b → g b = h a) :
    l'.map g = l.map h := by
  rw [mapM_eq_some_iff] at hl
  induction hl with
  | nil => rfl
  | cons hab _ ih => rw [List.map_cons, List.map_cons, ih, hf _ _ hab]

theorem flatMap_of_mapM {l : List α} {l' : List β} {g : β → List γ} {h : α → List γ}
    (hl : l.mapM f = some l') (hf : ∀ a b, f a = some b → g b = h a) :
    l'.flatMap g = l.flatMap h := by
  rw [List.flatMap_def, List.flatMap_def, map_of_mapM hl hf]

/-! ## With the position -/

section Indexed

variable {f : α × Nat → Option β} {l : List α}

/-- Whether it succeeds does not depend on the positions if no application does. -/
theorem mapM_zipIdx_isSome_iff {P : α → Prop} (hf : ∀ p, (∃ b, f p = some b) ↔ P p.1) :
    (∃ l', l.zipIdx.mapM f = some l') ↔ ∀ a ∈ l, P a := by
  simp only [mapM_isSome_iff, hf]
  conv_rhs => rw [← List.zipIdx_map_fst 0 l]
  rw [List.forall_mem_map]

theorem map_of_mapM_zipIdx {l' : List β} {g : β → γ} {h : α → γ}
    (hl : l.zipIdx.mapM f = some l') (hf : ∀ p b, f p = some b → g b = h p.1) :
    l'.map g = l.map h :=
  calc
    l'.map g = l.zipIdx.map (h ∘ Prod.fst) := map_of_mapM hl hf
    _ = l.map h := by rw [← List.map_map, List.zipIdx_map_fst]

theorem flatMap_of_mapM_zipIdx {l' : List β} {g : β → List γ} {h : α → List γ}
    (hl : l.zipIdx.mapM f = some l') (hf : ∀ p b, f p = some b → g b = h p.1) :
    l'.flatMap g = l.flatMap h := by
  rw [List.flatMap_def, List.flatMap_def, map_of_mapM_zipIdx hl hf]

end Indexed

end Traverse
