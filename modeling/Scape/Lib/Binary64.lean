import Mathlib.Data.Int.Log
import Mathlib.Data.Rat.Floor

/-!
# Rounding to binary64

An operation on floating-point numbers is the one on rational numbers, and then the result is
rounded to the nearest number that has 53 binary places, to the even one of two that are as
near. Below 2⁻¹⁰²² there are fewer places.

There is no largest number here. What would overflow to an infinity is a number out of the
range of every integer type, so a conversion that saturates does not tell them apart.
-/

namespace Binary64

/-- To the nearest integer, the even one of two. -/
def roundEven (q : ℚ) : ℤ :=
  if q - ⌊q⌋ < 1 / 2 ∨ (q - ⌊q⌋ = 1 / 2 ∧ ⌊q⌋ % 2 = 0) then ⌊q⌋ else ⌊q⌋ + 1

/-- The exponent of the last place that a number as large as this one has. -/
def lastPlace (q : ℚ) : ℤ := max (Int.log 2 |q| - 52) (-1074)

def rounded (q : ℚ) : ℚ := roundEven (q / 2 ^ lastPlace q) * 2 ^ lastPlace q

@[simp] theorem roundEven_intCast (n : ℤ) : roundEven n = n := by
  simp [roundEven]

theorem lastPlace_nonpos {n : ℕ} (h : n < 2 ^ 53) : lastPlace n ≤ 0 := by
  have hlog : Nat.log 2 n < 53 := Nat.log_lt_of_lt_pow' (by omega) h
  rw [lastPlace, Nat.abs_cast, Int.log_natCast]
  omega

/-- The integers of 53 places are there. -/
theorem rounded_natCast {n : ℕ} (h : n < 2 ^ 53) : rounded n = n := by
  obtain ⟨k, hk⟩ := Int.exists_eq_neg_ofNat (lastPlace_nonpos h)
  have hshift : (n : ℚ) / 2 ^ lastPlace n = ((n * 2 ^ k : ℤ) : ℚ) := by
    rw [hk, zpow_neg, zpow_natCast, div_inv_eq_mul]
    push_cast
    rfl
  rw [rounded, hshift, roundEven_intCast, ← hshift]
  exact div_mul_cancel₀ _ (zpow_ne_zero _ two_ne_zero)

end Binary64
