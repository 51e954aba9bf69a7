import Mathlib.Tactic.Linarith
import Mathlib.Tactic.NormNum

/-
  Saturating and checked arithmetic on 64-bit machine
  integers, compared with arithmetic on the integers they
  denote.

  Key definitions include:
    * `saturatingSub`
    * `checkedAdd`
    * `checkedSub`
    * `checkedDiv`

  Key theorems include:
    * `toInt_saturatingSub`
    * `saturatingSub_le_iff`
    * `le_saturatingSub_iff`
    * `toInt_checkedAdd`
-/

------------------------------------------------------------
-- Signed 64-Bit Arithmetic
------------------------------------------------------------

namespace Foundations

/- Subtraction that stops at the ends of the range. -/
def saturatingSub (a b : Int64) : Int64 :=
  Int64.ofIntClamp (a.toInt - b.toInt)

/- An integer as a 64-bit number, when it fits. -/
def fitInt64 (value : ℤ) : Option Int64 :=
  if -2 ^ 63 ≤ value ∧ value < 2 ^ 63 then
    some (Int64.ofInt value)
  else
    none

/- Addition that fails when the sum does not fit. -/
def checkedAdd (a b : Int64) : Option Int64 :=
  fitInt64 (a.toInt + b.toInt)

/- Subtraction that fails when the result does not fit. -/
def checkedSub (a b : Int64) : Option Int64 :=
  fitInt64 (a.toInt - b.toInt)

/-
  Division that fails when the divisor is zero or the quotient
  does not fit.
-/
def checkedDiv (a b : Int64) : Option Int64 :=
  if b = 0 ∨ (a = Int64.minValue ∧ b = -1) then
    none
  else
    some (a / b)

theorem checkedDiv_of_ne
    {a b : Int64}
    (hZero : b ≠ 0)
    (hMinus : b ≠ -1) :
    checkedDiv a b = some (a / b) := by
  apply if_neg
  rintro (hEq | ⟨_, hEq⟩)
  · exact hZero hEq
  · exact hMinus hEq

theorem toInt_bounds (a : Int64) :
    -2 ^ 63 ≤ a.toInt ∧ a.toInt < 2 ^ 63 :=
  ⟨a.le_toInt, a.toInt_lt⟩

theorem toInt_saturatingSub (a b : Int64) :
    (saturatingSub a b).toInt =
      max (-2 ^ 63) (min (2 ^ 63 - 1) (a.toInt - b.toInt)) := by
  have hMin : Int64.minValue.toInt = -2 ^ 63 := rfl
  have hMax : Int64.maxValue.toInt = 2 ^ 63 - 1 := rfl
  unfold saturatingSub Int64.ofIntClamp
  by_cases hLow : Int64.minValue.toInt ≤ a.toInt - b.toInt
  · by_cases hHigh :
        a.toInt - b.toInt ≤ Int64.maxValue.toInt
    · rw [dif_pos hLow, dif_pos hHigh, Int64.toInt_ofIntLE]
      omega
    · rw [dif_pos hLow, dif_neg hHigh]
      omega
  · rw [dif_neg hLow]
    omega

/- Below the top of the range, saturation is invisible. -/
theorem saturatingSub_le_iff
    {a b bound : Int64}
    (hBound : bound.toInt < 2 ^ 63 - 1) :
    saturatingSub a b ≤ bound ↔
      a.toInt - b.toInt ≤ bound.toInt := by
  have hRange := toInt_bounds bound
  rw [Int64.le_iff_toInt_le, toInt_saturatingSub]
  omega

/- Above the bottom of the range, saturation is invisible. -/
theorem le_saturatingSub_iff
    {a b bound : Int64}
    (hBound : -2 ^ 63 < bound.toInt) :
    bound ≤ saturatingSub a b ↔
      bound.toInt ≤ a.toInt - b.toInt := by
  have hRange := toInt_bounds bound
  rw [Int64.le_iff_toInt_le, toInt_saturatingSub]
  omega

theorem toInt_fitInt64
    {value : ℤ}
    {result : Int64}
    (hFit : fitInt64 value = some result) :
    result.toInt = value := by
  unfold fitInt64 at hFit
  split_ifs at hFit with hRange
  rw [← Option.some.inj hFit]
  exact Int64.toInt_ofInt_of_le hRange.1 hRange.2

theorem toInt_checkedAdd
    {a b result : Int64}
    (hSum : checkedAdd a b = some result) :
    result.toInt = a.toInt + b.toInt :=
  toInt_fitInt64 hSum

/- A cast to unsigned keeps small numbers, and only those. -/
theorem toNat_toUInt64_eq_iff
    {a : Int64}
    {k : ℕ}
    (hk : k < 2 ^ 63) :
    a.toUInt64.toNat = k ↔ a.toInt = k := by
  have hSign : a.toInt =
      if 2 * a.toUInt64.toNat < 2 ^ 64 then
        (a.toUInt64.toNat : ℤ)
      else
        (a.toUInt64.toNat : ℤ) - (2 ^ 64 : ℕ) :=
    BitVec.toInt_eq_toNat_cond a.toBitVec
  have hRange := a.toUInt64.toNat_lt
  rw [hSign]
  split_ifs with hSmall
  · exact Int.ofNat_inj.symm
  · omega

end Foundations

------------------------------------------------------------
-- Unsigned Arithmetic
------------------------------------------------------------

namespace Foundations

/- Addition that stops at the top of the range. -/
def saturatingAdd64 (a b : UInt64) : UInt64 :=
  UInt64.ofNat (min (2 ^ 64 - 1) (a.toNat + b.toNat))

/- Multiplication that stops at the top of the range. -/
def saturatingMul64 (a b : UInt64) : UInt64 :=
  UInt64.ofNat (min (2 ^ 64 - 1) (a.toNat * b.toNat))

/- Addition that fails when the sum does not fit. -/
def checkedAdd64 (a b : UInt64) : Option UInt64 :=
  if a.toNat + b.toNat < 2 ^ 64 then some (a + b) else none

/- Multiplication that fails when the product does not fit. -/
def checkedMul64 (a b : UInt64) : Option UInt64 :=
  if a.toNat * b.toNat < 2 ^ 64 then some (a * b) else none

/- Division that fails when the divisor is zero. -/
def checkedDiv64 (a b : UInt64) : Option UInt64 :=
  if b = 0 then none else some (a / b)

/- Addition that fails when the sum does not fit. -/
def checkedAdd32 (a b : UInt32) : Option UInt32 :=
  if a.toNat + b.toNat < 2 ^ 32 then some (a + b) else none

theorem toNat_saturatingAdd64
    {a b : UInt64}
    (hRange : a.toNat + b.toNat < 2 ^ 64) :
    (saturatingAdd64 a b).toNat = a.toNat + b.toNat := by
  rw [saturatingAdd64, Nat.min_eq_right (by omega)]
  exact UInt64.toNat_ofNat_of_lt' hRange

theorem toNat_saturatingMul64
    {a b : UInt64}
    (hRange : a.toNat * b.toNat < 2 ^ 64) :
    (saturatingMul64 a b).toNat = a.toNat * b.toNat := by
  rw [saturatingMul64, Nat.min_eq_right (by omega)]
  exact UInt64.toNat_ofNat_of_lt' hRange

theorem toNat_checkedAdd64
    {a b result : UInt64}
    (hSum : checkedAdd64 a b = some result) :
    result.toNat = a.toNat + b.toNat := by
  unfold checkedAdd64 at hSum
  split_ifs at hSum with hRange
  rw [← Option.some.inj hSum, UInt64.toNat_add,
    Nat.mod_eq_of_lt hRange]

theorem toNat_checkedAdd32
    {a b result : UInt32}
    (hSum : checkedAdd32 a b = some result) :
    result.toNat = a.toNat + b.toNat := by
  unfold checkedAdd32 at hSum
  split_ifs at hSum with hRange
  rw [← Option.some.inj hSum, UInt32.toNat_add,
    Nat.mod_eq_of_lt hRange]

end Foundations
