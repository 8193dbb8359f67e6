import Mathlib.Algebra.Ring.Nat
import Mathlib.Data.Finset.Basic
import Mathlib.Data.Multiset.AddSub
import Mathlib.Data.Finset.Card

/-!
# A ledger of references

A store hands out references and drops an entry when its reference is given
back. In between the reference travels: it sits in a table, in a message, in a
slot, and always in exactly one of these. A `Book` is the two columns of that
arrangement, the references the store still has and the references somebody can
still name, the latter as a multiset so that a copy would show.

Four moves change a book. A reference is issued, or given back, or passed on
without either column noticing, or lost: dropped by its last owner while the
store keeps it. `Book.Sound` survives all four, and says that every nameable
reference is in the store and nameable once. What the store has in excess is
then exactly the number of references lost on the way (`Path.excess`), so the
store and its owners agree after a run if and only if the run lost nothing.
-/

namespace Ledger

variable {ρ : Type*}

/-- The references a store has, and those somebody can name. -/
structure Book (ρ : Type*) where
  live : Finset ρ
  owned : Multiset ρ

/-- Every nameable reference is in the store, and nameable once. -/
def Book.Sound (b : Book ρ) : Prop := b.owned ≤ b.live.val

/-- The store has the nameable references and no others. -/
def Book.Balanced (b : Book ρ) : Prop := b.owned = b.live.val

/-- How many references the store has that nobody can name. -/
def Book.excess (b : Book ρ) : Nat := b.live.card - b.owned.card

inductive Move (ρ : Type*) where
  | issue (r : ρ)
  | giveBack (r : ρ)
  | lose (r : ρ)

/-- The references a move loses: one or none. -/
def Move.losses : Move ρ → Nat
  | .lose _ => 1
  | _ => 0

theorem Book.Sound.card_le {b : Book ρ} (h : b.Sound) :
    b.owned.card ≤ b.live.card :=
  Multiset.card_le_card h

theorem Book.Sound.mem_live {b : Book ρ} (h : b.Sound) {r : ρ} (hr : r ∈ b.owned) :
    r ∈ b.live :=
  Multiset.mem_of_le h hr

theorem Book.Sound.balanced_iff {b : Book ρ} (h : b.Sound) :
    b.Balanced ↔ b.excess = 0 := by
  have hcard := h.card_le
  unfold Book.Balanced Book.excess
  constructor
  · intro he
    rw [he, Finset.card_val]
    omega
  · intro hz
    refine Multiset.eq_of_le_of_card_le h ?_
    rw [Finset.card_val]
    omega

/-- A reference that is nameable is so once. -/
theorem Book.Sound.notMem_rest {b : Book ρ} (h : b.Sound) {r : ρ} {rest : Multiset ρ}
    (howned : b.owned = r ::ₘ rest) : r ∉ rest := by
  have hnodup : b.owned.Nodup := Multiset.nodup_of_le h b.live.nodup
  rw [howned] at hnodup
  exact (Multiset.nodup_cons.mp hnodup).1

variable [DecidableEq ρ]

/-- The store and its owners agree as sets exactly when the book balances. -/
theorem Book.Sound.live_eq_iff {b : Book ρ} (h : b.Sound) :
    b.live = b.owned.toFinset ↔ b.Balanced := by
  have hnodup : b.owned.Nodup := Multiset.nodup_of_le h b.live.nodup
  constructor
  · intro he
    have := congrArg Finset.val he
    rw [Multiset.toFinset_val, Multiset.dedup_eq_self.mpr hnodup] at this
    exact this.symm
  · intro hb
    rw [hb, Finset.val_toFinset]

def Move.Takes : Move ρ → Book ρ → Book ρ → Prop
  | .issue r, b, b' =>
      r ∉ b.live ∧ b'.live = insert r b.live ∧ b'.owned = r ::ₘ b.owned
  | .giveBack r, b, b' => b'.live = b.live.erase r ∧ b.owned = r ::ₘ b'.owned
  | .lose r, b, b' => b'.live = b.live ∧ b.owned = r ::ₘ b'.owned

theorem Move.Takes.sound {m : Move ρ} {b b' : Book ρ} (ht : m.Takes b b')
    (h : b.Sound) : b'.Sound := by
  unfold Book.Sound at h ⊢
  cases m with
  | issue r =>
      obtain ⟨hr, hl, ho⟩ := ht
      rw [hl, ho, Finset.insert_val_of_notMem hr]
      exact Multiset.cons_le_cons r h
  | giveBack r =>
      obtain ⟨hl, ho⟩ := ht
      rw [hl, Finset.erase_val]
      rw [ho] at h
      simpa using Multiset.erase_le_erase r h
  | lose r =>
      obtain ⟨hl, ho⟩ := ht
      rw [hl]
      rw [ho] at h
      exact (Multiset.le_cons_self _ r).trans h

theorem Move.Takes.excess {m : Move ρ} {b b' : Book ρ} (ht : m.Takes b b')
    (h : b.Sound) : b'.excess = b.excess + m.losses := by
  have hcard := h.card_le
  cases m with
  | issue r =>
      obtain ⟨hr, hl, ho⟩ := ht
      simp only [Book.excess, hl, ho, Finset.card_insert_of_notMem hr,
        Multiset.card_cons, Move.losses]
      omega
  | giveBack r =>
      obtain ⟨hl, ho⟩ := ht
      have hr : r ∈ b.live := h.mem_live (by rw [ho]; exact Multiset.mem_cons_self r _)
      simp only [Book.excess, hl, ho, Finset.card_erase_of_mem hr,
        Multiset.card_cons, Move.losses]
      omega
  | lose r =>
      obtain ⟨hl, ho⟩ := ht
      rw [ho, Multiset.card_cons] at hcard
      simp only [Book.excess, hl, ho, Multiset.card_cons, Move.losses]
      omega

/-- Several moves in a row. A step of a program that moves no reference in or
out is the empty path. -/
inductive Path : Book ρ → List (Move ρ) → Book ρ → Prop
  | nil {b : Book ρ} : Path b [] b
  | cons {b b' b'' : Book ρ} {m : Move ρ} {ms : List (Move ρ)} :
      m.Takes b b' → Path b' ms b'' → Path b (m :: ms) b''

namespace Path

variable {b b' : Book ρ} {ms : List (Move ρ)}

theorem single {m : Move ρ} (h : m.Takes b b') : Path b [m] b' := .cons h .nil

theorem sound (h : Path b ms b') (hs : b.Sound) : b'.Sound := by
  induction h with
  | nil => exact hs
  | cons ht _ ih => exact ih (ht.sound hs)

/-- The excess of the store grows by the references lost on the way. -/
theorem excess (h : Path b ms b') (hs : b.Sound) :
    b'.excess = b.excess + (ms.map Move.losses).sum := by
  induction h with
  | nil => simp
  | cons ht _ ih =>
      rw [ih (ht.sound hs), ht.excess hs, List.map_cons, List.sum_cons]
      omega

end Path

end Ledger
