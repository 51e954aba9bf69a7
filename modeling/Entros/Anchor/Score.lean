import Entros.Anchor.State

/-
  The activity ring and the trust score.

  Key definitions include:
    * `isqrt`
    * `recordVerification`
    * `activeBins`
    * `baseScore`
    * `trustScore`
-/

------------------------------------------------------------
-- Integer Square Root
------------------------------------------------------------

namespace Entros

open Foundations

namespace Anchor

/-
  The Newton loop of `isqrt`.  A division by zero or an
  overflowing sum is a panic, and so is running out of fuel;
  the guess decreases in every round.
-/
def isqrtLoop (n : UInt64) :
    ℕ → UInt64 → UInt64 → Result UInt64
| 0, _, _ => .error .panicked
| fuel + 1, x, y =>
    if y < x then do
      require (y ≠ 0) .panicked
      let sum ← okOr (checkedAdd64 y (n / y)) .panicked
      isqrtLoop n fuel y (sum / 2)
    else
      .ok x

/- `isqrt`. -/
def isqrt (n : UInt64) : Result UInt64 :=
  if n = 0 then
    .ok 0
  else
    isqrtLoop n (n.toNat + 1) n (n / 2 + n % 2)

end Anchor

end Entros

------------------------------------------------------------
-- Activity Ring
------------------------------------------------------------

namespace Entros

open Foundations

namespace Anchor

def binSizeSecs : Int64 := 604800
def numBins : ℕ := 12

/- The loop `for i in (1..len).rev() { ring[i] = ring[i-1] }`. -/
def shiftRing (ring : List Int64) : List Int64 :=
  (List.range' 1 (ring.length - 1)).reverse.foldl
    (fun shifted i => shifted.set i (shifted.getD (i - 1) 0))
    ring

theorem length_foldl_set
    (ring : List Int64)
    (indices : List ℕ) :
    (indices.foldl
      (fun shifted i =>
        shifted.set i (shifted.getD (i - 1) 0))
      ring).length = ring.length := by
  induction indices generalizing ring with
  | nil => rfl
  | cons i indices ih =>
      rw [List.foldl_cons, ih, List.length_set]

/- `record_verification`. -/
def recordVerification
    (ring : ActivityRing)
    (now : Int64) : ActivityRing :=
  if ring.head = 0 ∨
      binSizeSecs ≤ saturatingSub now ring.head then
    ⟨(shiftRing ring.toList).set 0 now, by
      rw [List.length_set, shiftRing, length_foldl_set,
        ring.toList_length]⟩
  else
    ring

end Anchor

end Entros

------------------------------------------------------------
-- Trust Score
------------------------------------------------------------

namespace Entros

open Foundations

namespace Anchor

/-
  The bin a timestamp falls in: signed division, then the
  cast to an unsigned index.
-/
def binIndex (now timestamp : Int64) : ℕ :=
  (saturatingSub now timestamp / binSizeSecs).toUInt64.toNat

/- Mark the bin of one ring entry. -/
def markBin
    (now : Int64)
    (bins : List Bool)
    (timestamp : Int64) : List Bool :=
  if timestamp = 0 then
    bins
  else if binIndex now timestamp < numBins then
    bins.set (binIndex now timestamp) true
  else
    bins

/- The weekly bins that hold an entry. -/
def activeBins
    (now : Int64)
    (timestamps : List Int64) : List Bool :=
  timestamps.foldl (markBin now) (List.replicate numBins false)

/- The contribution of one active bin. -/
def binWeight
    (baseTrustIncrement : UInt16)
    (index : ℕ) : UInt64 :=
  saturatingMul64 baseTrustIncrement.toUInt64
    (UInt64.ofNat (numBins - index)) / UInt64.ofNat numBins

/- The sum of the active bins' contributions. -/
def baseScore
    (baseTrustIncrement : UInt16)
    (bins : List Bool) : UInt64 :=
  bins.zipIdx.foldl
    (fun score entry =>
      if entry.1 then
        saturatingAdd64 score
          (binWeight baseTrustIncrement entry.2)
      else
        score)
    0

/- The bonus for the age of the identity. -/
def ageBonus
    (now creationTimestamp : Int64) : Result UInt64 := do
  let ageSeconds ← okOr (checkedSub now creationTimestamp)
    (.anchor .arithmeticOverflow)
  let ageDays := (max (ageSeconds / 86400) 0).toUInt64
  let root ← isqrt (min ageDays 365)
  return root * 4

/- The score stored by `process_anchor_update`. -/
def trustScore
    (now creationTimestamp : Int64)
    (timestamps : List Int64)
    (baseTrustIncrement maxTrustScore : UInt16) :
    Result UInt16 := do
  let bonus ← ageBonus now creationTimestamp
  let total := saturatingAdd64
    (baseScore baseTrustIncrement
      (activeBins now timestamps))
    bonus
  return (min total maxTrustScore.toUInt64).toUInt16

end Anchor

end Entros
