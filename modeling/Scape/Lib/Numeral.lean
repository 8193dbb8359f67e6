import Mathlib.Data.List.Basic
import Mathlib.Data.Option.Basic

/-!
# Reading numerals

A positional numeral is read from left to right, one digit at a time. A reader
for a machine integer does the same and gives up as soon as it is out of range.
Since reading further only makes the number larger, giving up early and checking
at the end come to the same thing.
-/

namespace Numeral

def decimalDigit (c : Char) : Option Nat :=
  if c.isDigit then some (c.toNat - '0'.toNat) else none

def hexDigit (c : Char) : Option Nat :=
  if c.isDigit then some (c.toNat - '0'.toNat)
  else if 'a' ≤ c ∧ c ≤ 'f' then some (c.toNat - 'a'.toNat + 10)
  else if 'A' ≤ c ∧ c ≤ 'F' then some (c.toNat - 'A'.toNat + 10)
  else none

variable (digit : Char → Option Nat) (base : Nat)

/-- The value of a string of digits, read on from `acc`. -/
def value (acc : Nat) : List Char → Option Nat
  | [] => some acc
  | c :: cs => (digit c).bind fun d => value (acc * base + d) cs

/-- The same for numbers below a bound. -/
def checked (bound acc : Nat) : List Char → Option Nat
  | [] => some acc
  | c :: cs => (digit c).bind fun d =>
      if acc * base + d < bound then checked bound (acc * base + d) cs else none

variable {digit : Char → Option Nat} {base : Nat}

theorem le_value (hbase : 0 < base) {acc v : Nat} {cs : List Char}
    (h : value digit base acc cs = some v) : acc ≤ v := by
  induction cs generalizing acc with
  | nil =>
      cases h
      exact Nat.le_refl _
  | cons c cs ih =>
      rw [value, Option.bind_eq_some_iff] at h
      obtain ⟨d, -, h⟩ := h
      have hmul : acc * 1 ≤ acc * base := Nat.mul_le_mul_left acc hbase
      have := ih h
      omega

/-- Checking at every digit is checking once. -/
theorem checked_eq (hbase : 0 < base) {bound acc : Nat} (hacc : acc < bound)
    (cs : List Char) :
    checked digit base bound acc cs =
      (value digit base acc cs).filter (fun v => decide (v < bound)) := by
  induction cs generalizing acc with
  | nil => rw [checked, value, Option.filter_some, if_pos (decide_eq_true hacc)]
  | cons c cs ih =>
      rw [checked, value]
      cases digit c with
      | none => rfl
      | some d =>
          simp only [Option.bind_some]
          split
          next hlt => exact ih hlt
          next hge =>
            cases hv : value digit base (acc * base + d) cs with
            | none => rfl
            | some v =>
                have := le_value hbase hv
                rw [Option.filter_some, if_neg]
                simp only [decide_eq_true_eq]
                omega

theorem value_eq_none {acc : Nat} {cs : List Char} {c : Char} (hc : c ∈ cs)
    (hdigit : digit c = none) : value digit base acc cs = none := by
  induction cs generalizing acc with
  | nil => cases hc
  | cons c' cs ih =>
      rw [value]
      rcases List.mem_cons.mp hc with rfl | hmem
      · rw [hdigit]; rfl
      · cases digit c' with
        | none => rfl
        | some d => exact ih hmem

end Numeral
