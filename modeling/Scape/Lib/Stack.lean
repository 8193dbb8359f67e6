import Mathlib.Data.List.Induction
import Mathlib.Data.List.Nodup
import Mathlib.Data.List.Perm.Basic

/-!
# Raising things in a stack

A stack is a list of distinct things, the topmost first. To raise one of them is to put
it on top and to leave the others as they are, so it permutes the stack.

Two habits of picking what to raise are followed here over many turns. To raise what lies
at position 1, then at 2, and so on, reverses a prefix of the stack and raises each thing
of it once (`raiseUpTo_eq`). To raise the first of a kind that is not on top, or the last
if one of the kind is, turns the stack of that kind round, so that as many turns as there
are things of the kind raise each of them once (`picks_perm`).
-/

namespace Stack

variable {α : Type*} [DecidableEq α] {a b : α} {l : List α}

def raise (a : α) (l : List α) : List α := a :: l.filter (· ≠ a)

theorem filter_ne_eq_erase (h : l.Nodup) : l.filter (· ≠ a) = l.erase a := by
  rw [h.erase_eq_filter]
  refine List.filter_congr fun b _ => ?_
  rw [Bool.eq_iff_iff, decide_eq_true_iff, bne_iff_ne]

theorem raise_perm (h : l.Nodup) (ha : a ∈ l) : (raise a l).Perm l := by
  rw [raise, filter_ne_eq_erase h]
  exact (List.perm_cons_erase ha).symm

theorem raise_nodup (h : l.Nodup) : (raise a l).Nodup :=
  List.nodup_cons.mpr ⟨fun hmem => by simp at hmem, h.filter _⟩

/-- Raising what lies below a part of the stack. -/
theorem raise_append {u v : List α} (h : (u ++ a :: v).Nodup) :
    raise a (u ++ a :: v) = a :: (u ++ v) := by
  have hmid := List.nodup_middle.mp h
  have hnot := (List.nodup_cons.mp hmid).1
  have hkeep : ∀ w : List α, a ∉ w → w.filter (· ≠ a) = w := by
    intro w hw
    exact List.filter_eq_self.mpr fun b hb => by simpa using ne_of_mem_of_not_mem hb hw
  rw [List.mem_append, not_or] at hnot
  rw [raise, List.filter_append, List.filter_cons_of_neg (by simp), hkeep u hnot.1,
    hkeep v hnot.2]

/-! ## One position after the other -/

/-- What lies there is raised, if anything does. -/
def raiseAt (l : List α) (i : ℕ) : List α :=
  match l[i]? with
  | some a => raise a l
  | none => l

def raiseUpTo (l : List α) (k : ℕ) : List α := ((List.range k).map (· + 1)).foldl raiseAt l

theorem raiseUpTo_succ (k : ℕ) : raiseUpTo l (k + 1) = raiseAt (raiseUpTo l k) (k + 1) := by
  rw [raiseUpTo, List.range_succ, List.map_append, List.foldl_append]
  rfl

theorem raiseAt_append {u v : List α} (h : (u ++ a :: v).Nodup) :
    raiseAt (u ++ a :: v) u.length = a :: (u ++ v) := by
  rw [raiseAt, List.getElem?_append_right (Nat.le_refl _), Nat.sub_self, List.getElem?_cons_zero]
  exact raise_append h

omit [DecidableEq α] in
theorem reverse_take_perm (k : ℕ) : ((l.take k).reverse ++ l.drop k).Perm l := by
  have h := (List.reverse_perm (l.take k)).append_right (l.drop k)
  rwa [List.take_append_drop] at h

/-- After `k` turns the things down to position `k` are turned round, and what lies below
is where it was. -/
theorem raiseUpTo_eq (h : l.Nodup) {k : ℕ} (hk : k < l.length) :
    raiseUpTo l k = (l.take (k + 1)).reverse ++ l.drop (k + 1) := by
  induction k with
  | zero =>
      cases l with
      | nil => cases hk
      | cons a l => rfl
  | succ k ih =>
      have hlt : k + 1 < l.length := hk
      have hdrop : l.drop (k + 1) = l[k + 1] :: l.drop (k + 2) := List.drop_eq_getElem_cons hlt
      have hlen : ((l.take (k + 1)).reverse).length = k + 1 := by
        rw [List.length_reverse, List.length_take, Nat.min_eq_left (Nat.le_of_lt hlt)]
      have hnodup : ((l.take (k + 1)).reverse ++ l[k + 1] :: l.drop (k + 2)).Nodup := by
        rw [← hdrop]
        exact (reverse_take_perm (k + 1)).nodup_iff.mpr h
      have hstep := raiseAt_append hnodup
      rw [hlen] at hstep
      rw [raiseUpTo_succ, ih (Nat.lt_of_succ_lt hk), hdrop, hstep,
        List.take_succ_eq_append_getElem hlt, List.reverse_append]
      rfl

/-- The thing that is raised next is still where it was at first. -/
theorem raiseUpTo_getElem? (h : l.Nodup) {k : ℕ} (hk : k + 1 < l.length) :
    (raiseUpTo l k)[k + 1]? = l[k + 1]? := by
  have hlen : ((l.take (k + 1)).reverse).length = k + 1 := by
    rw [List.length_reverse, List.length_take, Nat.min_eq_left (Nat.le_of_lt hk)]
  rw [raiseUpTo_eq h (Nat.lt_of_succ_lt hk), List.getElem?_append_right (Nat.le_of_eq hlen), hlen,
    Nat.sub_self, List.getElem?_drop]

/-! ## One of a kind after the other -/

variable {p : α → Bool}

/-- The first of a kind, but if that is on top, the last. -/
def pick (p : α → Bool) (l : List α) : Option α :=
  match l with
  | [] => none
  | a :: _ => if p a then (l.filter p).getLast? else (l.filter p).head?

omit [DecidableEq α] in
theorem pick_mem (h : pick p l = some a) : a ∈ l.filter p := by
  cases l with
  | nil => cases h
  | cons b l =>
      rw [pick] at h
      split at h
      · exact List.mem_of_getLast? h
      · exact List.mem_of_mem_head? h

omit [DecidableEq α] in
theorem pick_isSome_iff : (pick p l).isSome ↔ l.filter p ≠ [] := by
  cases l with
  | nil => simp [pick]
  | cons b l =>
      rw [pick]
      split
      · exact List.getLast?_isSome
      · exact List.isSome_head?

/-- The stack after a turn. -/
def turn (p : α → Bool) (l : List α) : List α :=
  match pick p l with
  | some a => raise a l
  | none => l

/-- What is raised in a number of turns. -/
def picks (p : α → Bool) : ℕ → List α → List (Option α)
  | 0, _ => []
  | n + 1, l => pick p l :: picks p n (turn p l)

theorem turn_nodup (h : l.Nodup) : (turn p l).Nodup := by
  rw [turn]
  split
  · exact raise_nodup h
  · exact h

theorem filter_raise_of_pos (h : p a = true) : (raise a l).filter p = raise a (l.filter p) := by
  rw [raise, raise, List.filter_cons_of_pos h, List.filter_comm]

/-- Once one of the kind is on top, every turn takes the last of them. -/
theorem picks_of_top {u v : List α} (htop : ∃ b, l.head? = some b ∧ p b = true) (h : l.Nodup)
    (hl : l.filter p = u ++ v) : picks p v.length l = v.reverse.map some := by
  induction v using List.reverseRecOn generalizing l u with
  | nil => rfl
  | append_singleton v a ih =>
      obtain ⟨b, hb, hpb⟩ := htop
      have hlast : pick p l = some a := by
        cases l with
        | nil => cases hb
        | cons c l =>
            obtain rfl := Option.some.inj hb
            rw [pick, if_pos hpb, hl, ← List.append_assoc, List.getLast?_concat]
      have hpa : p a = true := (List.mem_filter.mp (pick_mem hlast)).2
      have hturn : turn p l = raise a l := by
        rw [turn, hlast]
      have hfilter : (turn p l).filter p = (a :: u) ++ v := by
        have hnodup : ((u ++ v) ++ a :: []).Nodup := by
          rw [List.append_assoc, ← hl]
          exact h.filter _
        rw [hturn, filter_raise_of_pos hpa, hl, ← List.append_assoc, raise_append hnodup,
          List.append_nil, List.cons_append]
      have hrest := ih ⟨a, by rw [hturn]; rfl, hpa⟩ (turn_nodup h) hfilter
      rw [List.length_append, List.length_singleton, picks, hlast, hrest, List.reverse_concat]
      rfl

/-- As many turns as there are things of the kind raise each of them once. -/
theorem picks_perm (h : l.Nodup) :
    (picks p (l.filter p).length l).Perm ((l.filter p).map some) := by
  cases l with
  | nil => exact .refl _
  | cons b l =>
      by_cases hb : p b = true
      · have hpicks := picks_of_top (v := (b :: l).filter p) ⟨b, rfl, hb⟩ h (List.nil_append _).symm
        rw [hpicks]
        exact (List.reverse_perm _).map some
      · cases hfilter : (b :: l).filter p with
        | nil => exact .refl _
        | cons a v =>
            have hpick : pick p (b :: l) = some a := by
              rw [pick, if_neg hb, hfilter, List.head?_cons]
            have hpa : p a = true := (List.mem_filter.mp (pick_mem hpick)).2
            have hturn : turn p (b :: l) = raise a (b :: l) := by
              rw [turn, hpick]
            have hkeep : (turn p (b :: l)).filter p = [a] ++ v := by
              have hnodup : ([] ++ a :: v).Nodup := by
                rw [List.nil_append, ← hfilter]
                exact h.filter _
              rw [hturn, filter_raise_of_pos hpa, hfilter]
              exact raise_append hnodup
            have hrest := picks_of_top ⟨a, by rw [hturn]; rfl, hpa⟩ (turn_nodup h) hkeep
            rw [List.length_cons, picks, hpick, hrest, List.map_cons]
            exact ((List.reverse_perm v).map some).cons (some a)

end Stack
