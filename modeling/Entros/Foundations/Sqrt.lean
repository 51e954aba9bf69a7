import Mathlib.Data.Nat.Sqrt
import Mathlib.Tactic.Linarith

/-
  Newton's iteration for the integer square root, started
  from above and stopped when it no longer descends.

  Key definitions include:
    * `newton`

  Key theorems include:
    * `sqrt_le_newton`
    * `sqrt_eq_of_le_newton`
    * `newton_sum_le`
-/

------------------------------------------------------------
-- Newton's Iteration
------------------------------------------------------------

namespace Foundations

/- One round, from the guess `x` for the root of `n`. -/
def newton (n x : ℕ) : ℕ := (x + n / x) / 2

variable {n x : ℕ}

/- A quotient by a guess bounds the root from above. -/
theorem two_mul_sqrt_le (hx : 0 < x) :
    2 * Nat.sqrt n ≤ x + n / x := by
  have hRoot : Nat.sqrt n * Nat.sqrt n ≤ n :=
    Nat.sqrt_le n
  generalize Nat.sqrt n = root at hRoot ⊢
  by_cases hSmall : 2 * root ≤ x
  · exact hSmall.trans (Nat.le_add_right x _)
  · have hGap : 2 * root - x ≤ n / x := by
      rw [Nat.le_div_iff_mul_le hx]
      zify [Nat.le_of_not_le hSmall] at hRoot ⊢
      nlinarith [sq_nonneg ((root : ℤ) - x)]
    omega

/- No round falls below the root. -/
theorem sqrt_le_newton (hx : 0 < x) :
    Nat.sqrt n ≤ newton n x := by
  have hTwice := two_mul_sqrt_le (n := n) hx
  unfold newton
  omega

/- When the iteration stops it is at the root. -/
theorem sqrt_eq_of_le_newton
    (hx : 0 < x)
    (hAbove : Nat.sqrt n ≤ x)
    (hStop : x ≤ newton n x) :
    Nat.sqrt n = x := by
  have hQuotient : x ≤ n / x := by
    unfold newton at hStop
    omega
  have hSquare : x * x ≤ n :=
    (Nat.le_div_iff_mul_le hx).mp hQuotient
  exact Nat.le_antisymm hAbove (Nat.le_sqrt.mpr hSquare)

/- A round that descends from below `n` does not overflow. -/
theorem newton_sum_le
    (hAbove : Nat.sqrt n ≤ x)
    (hx : 0 < x)
    (hBelow : x < n) :
    x + n / x ≤ max 4 n := by
  by_cases hOne : x = 1
  · have hSmall : n < (1 + 1) * (1 + 1) :=
      Nat.sqrt_lt.mp (by omega)
    subst hOne
    rw [Nat.div_one]
    omega
  · have hProduct : x * (n / x) ≤ n := Nat.mul_div_le n x
    have hQuotient : 0 < n / x := Nat.div_pos hBelow.le hx
    generalize n / x = quotient at hProduct hQuotient ⊢
    have hSum : x + quotient ≤ n := by
      by_cases hLast : quotient = 1
      · omega
      · have hFactors : 2 ≤ x ∧ 2 ≤ quotient := by omega
        nlinarith [Nat.mul_le_mul hFactors.1 hFactors.2]
    exact hSum.trans (Nat.le_max_right 4 n)

end Foundations
