import Entros.Guarantees.ScorePreview
import Mathlib.Algebra.BigOperators.Ring.Finset

/-
  The arithmetic of the score, with every operation that can
  panic in Rust made explicit: divisions, the product of the
  age bonus, the subtraction of indices and the access to the
  bins.  On any account content none of them panics.

  Key definitions include:
    * `checkedActiveBins`
    * `checkedBaseScore`
    * `checkedAgeBonus`
    * `Anchor.checkedTrustScore`
    * `Registry.checkedTrustScore`
    * `ScoreSafe`
    * `UpdatesScore`

  Key theorems include:
    * `isqrt_root`
    * `Anchor.checkedTrustScore_eq`
    * `Registry.checkedTrustScore_eq`
    * `binIndex_eq_iff`
    * `two_mul_points_le`
    * `score_arithmetic`
-/

------------------------------------------------------------
-- Integer Square Root
------------------------------------------------------------

namespace Entros

open Foundations

/-
  Both square roots return, without a panic, the largest
  number whose square does not exceed the argument.
-/
theorem isqrt_root (n : UInt64) :
    ∃ root : UInt64,
      Anchor.isqrt n = .ok root ∧
        Registry.isqrt n = .ok root ∧
          root.toNat * root.toNat ≤ n.toNat ∧
            n.toNat < (root.toNat + 1) * (root.toNat + 1) := by
  have hRoot := Anchor.isqrt_eq n
  have hNat :
      (UInt64.ofNat (Nat.sqrt n.toNat)).toNat =
        Nat.sqrt n.toNat := by
    apply UInt64.toNat_ofNat_of_lt'
    exact (Nat.sqrt_le_self _).trans_lt n.toNat_lt
  refine ⟨UInt64.ofNat (Nat.sqrt n.toNat), hRoot, ?_, ?_, ?_⟩
  · rw [Registry.isqrt_eq_anchor]
    exact hRoot
  · rw [hNat]
    exact Nat.sqrt_le n.toNat
  · rw [hNat]
    exact Nat.lt_succ_sqrt n.toNat

end Entros

------------------------------------------------------------
-- The Score with Its Panics
------------------------------------------------------------

namespace Entros

open Foundations
open Anchor

/- `active_bins[bin_index] = true`. -/
def setBin
    (bins : List Bool)
    (index : ℕ) : Result (List Bool) := do
  require (index < bins.length) .panicked
  return bins.set index true

/- The loop over the timestamps, one entry of it. -/
def checkedMarkBin
    (now : Int64)
    (bins : List Bool)
    (timestamp : Int64) : Result (List Bool) :=
  if timestamp = 0 then
    .ok bins
  else do
    let bin ← okOr
      (checkedDiv (saturatingSub now timestamp) binSizeSecs)
      .panicked
    -- the cast to `usize` takes a negative bin out of range
    if bin.toUInt64.toNat < numBins then
      setBin bins bin.toUInt64.toNat
    else
      .ok bins

def checkedActiveBins
    (now : Int64)
    (timestamps : List Int64) : Result (List Bool) :=
  timestamps.foldlM (checkedMarkBin now)
    (List.replicate numBins false)

/- The contribution of a bin, from its index. -/
def checkedBinWeight
    (baseTrustIncrement : UInt16)
    (index : ℕ) : Result UInt64 := do
  require (index ≤ numBins) .panicked
  okOr
    (checkedDiv64
      (saturatingMul64 baseTrustIncrement.toUInt64
        (UInt64.ofNat (numBins - index)))
      (UInt64.ofNat numBins))
    .panicked

/- The loop over the bins. -/
def checkedBaseScore
    (baseTrustIncrement : UInt16)
    (bins : List Bool) : Result UInt64 :=
  bins.zipIdx.foldlM
    (fun score entry =>
      if entry.1 then do
        let weight ←
          checkedBinWeight baseTrustIncrement entry.2
        return saturatingAdd64 score weight
      else
        .ok score)
    0

/-
  The bonus for the age.  The two programs have a square root
  and an error of their own.
-/
def checkedAgeBonus
    (isqrt : UInt64 → Result UInt64)
    (overflow : Fault)
    (now creationTimestamp : Int64) : Result UInt64 := do
  let ageSeconds ← okOr (checkedSub now creationTimestamp)
    overflow
  let ageDays ← okOr (checkedDiv ageSeconds 86400) .panicked
  let root ← isqrt (min (max ageDays 0).toUInt64 365)
  okOr (checkedMul64 root 4) .panicked

/- The score of `process_anchor_update`. -/
def Anchor.checkedTrustScore
    (now creationTimestamp : Int64)
    (recentTimestamps : List.Vector Int64 52)
    (baseTrustIncrement maxTrustScore : UInt16) :
    Result UInt16 := do
  let bins ← checkedActiveBins now recentTimestamps.toList
  let baseScore ← checkedBaseScore baseTrustIncrement bins
  let ageBonus ← checkedAgeBonus Anchor.isqrt
    (.anchor .arithmeticOverflow) now creationTimestamp
  return (min (saturatingAdd64 baseScore ageBonus)
    maxTrustScore.toUInt64).toUInt16

/- The score of `compute_trust_score`. -/
def Registry.checkedTrustScore
    (now creationTimestamp : Int64)
    (recentTimestamps : List.Vector Int64 10)
    (baseTrustIncrement maxTrustScore : UInt16) :
    Result UInt16 := do
  let bins ← checkedActiveBins now recentTimestamps.toList
  let baseScore ← checkedBaseScore baseTrustIncrement bins
  let regularityBonus : UInt64 := 0
  let ageBonus ← checkedAgeBonus Registry.isqrt
    (.registry .arithmeticOverflow) now creationTimestamp
  let total := saturatingAdd64
    (saturatingAdd64 baseScore regularityBonus) ageBonus
  return (min total maxTrustScore.toUInt64).toUInt16

end Entros

------------------------------------------------------------
-- No Panics
------------------------------------------------------------

namespace Entros

open Foundations
open Anchor

theorem checkedMarkBin_eq
    {now timestamp : Int64}
    {bins : List Bool}
    (hBins : bins.length = numBins) :
    checkedMarkBin now bins timestamp =
      .ok (markBin now bins timestamp) := by
  have hDivides :
      checkedDiv (saturatingSub now timestamp) binSizeSecs =
        some (saturatingSub now timestamp / binSizeSecs) :=
    checkedDiv_of_ne (by decide) (by decide)
  unfold checkedMarkBin markBin
  rw [hDivides]
  by_cases hEmpty : timestamp = 0
  · rw [if_pos hEmpty, if_pos hEmpty]
  · rw [if_neg hEmpty, if_neg hEmpty]
    by_cases hInside : binIndex now timestamp < numBins
    · have hAccess : binIndex now timestamp < bins.length := by
        rw [hBins]
        exact hInside
      have hSet :
          setBin bins (binIndex now timestamp) =
            .ok (bins.set (binIndex now timestamp) true) := by
        unfold setBin
        rw [require_of hAccess]
        rfl
      rw [if_pos hInside, ← hSet]
      exact if_pos hInside
    · rw [if_neg hInside]
      exact if_neg hInside

/- The loop over the timestamps. -/
theorem checkedActiveBins_eq
    (now : Int64)
    (timestamps : List Int64) :
    checkedActiveBins now timestamps =
      .ok (activeBins now timestamps) := by
  unfold checkedActiveBins activeBins
  apply foldlM_eq_ok fun bins => bins.length = numBins
  · intro bins timestamp _ hBins
    exact ⟨checkedMarkBin_eq hBins,
      (length_markBin now bins timestamp).trans hBins⟩
  · exact List.length_replicate

theorem checkedBinWeight_eq
    {baseTrustIncrement : UInt16}
    {index : ℕ}
    (hIndex : index ≤ numBins) :
    checkedBinWeight baseTrustIncrement index =
      .ok (binWeight baseTrustIncrement index) := by
  unfold checkedBinWeight
  rw [require_of hIndex]
  rfl

/- The loop over the bins. -/
theorem checkedBaseScore_eq
    {baseTrustIncrement : UInt16}
    {bins : List Bool}
    (hBins : bins.length = numBins) :
    checkedBaseScore baseTrustIncrement bins =
      .ok (baseScore baseTrustIncrement bins) := by
  unfold checkedBaseScore baseScore
  apply foldlM_eq_ok fun _ => True
  · intro score entry hEntry _
    refine ⟨?_, trivial⟩
    have hIndex : entry.2 ≤ numBins := by
      have hLess := List.snd_lt_of_mem_zipIdx hEntry
      omega
    by_cases hActive : entry.1
    · rw [if_pos hActive, if_pos hActive,
        checkedBinWeight_eq hIndex]
      rfl
    · rw [if_neg hActive, if_neg hActive]
  · trivial

/- The root of an age is small. -/
theorem root_mul_four (ageSeconds : Int64) :
    UInt64.ofNat
          (Nat.sqrt
            (min (max (ageSeconds / 86400) 0).toUInt64
              365).toNat) * 4 =
        UInt64.ofNat (agePoints ageSeconds) ∧
      Nat.sqrt
          (min (max (ageSeconds / 86400) 0).toUInt64
            365).toNat ≤ 19 := by
  have hYear : (365 : UInt64).toNat = 365 := rfl
  have hPoints := agePoints_le ageSeconds
  rw [toNat_min, toNat_ageDays, hYear]
  constructor
  · rw [agePoints, Nat.mul_comm, UInt64.ofNat_mul]
    rfl
  · unfold agePoints at hPoints
    omega

section

variable {isqrt : UInt64 → Result UInt64} {overflow : Fault}
variable {now creationTimestamp ageSeconds : Int64}

theorem checkedAgeBonus_of_some
    (hRoot :
      ∀ n, isqrt n = .ok (UInt64.ofNat (Nat.sqrt n.toNat)))
    (hAge :
      checkedSub now creationTimestamp = some ageSeconds) :
    checkedAgeBonus isqrt overflow now creationTimestamp =
      .ok (UInt64.ofNat (agePoints ageSeconds)) := by
  rcases root_mul_four ageSeconds with ⟨hPoints, hSmall⟩
  have hDays :
      checkedDiv ageSeconds 86400 =
        some (ageSeconds / 86400) :=
    checkedDiv_of_ne (by decide) (by decide)
  have hFour : (4 : UInt64).toNat = 4 := rfl
  unfold checkedAgeBonus
  refine bind_eq_ok.mpr ⟨ageSeconds, okOr_eq_ok.mpr hAge, ?_⟩
  refine bind_eq_ok.mpr
    ⟨ageSeconds / 86400, okOr_eq_ok.mpr hDays, ?_⟩
  refine bind_eq_ok.mpr ⟨_, hRoot _, ?_⟩
  rw [okOr_eq_ok, checkedMul64, if_pos, hPoints]
  rw [hFour, UInt64.toNat_ofNat_of_lt']
  · omega
  · exact hSmall.trans_lt (by decide)

theorem checkedAgeBonus_of_none
    (hAge : checkedSub now creationTimestamp = none) :
    checkedAgeBonus isqrt overflow now creationTimestamp =
      .error overflow := by
  unfold checkedAgeBonus
  rw [hAge]
  rfl

end

section

variable {now creationTimestamp : Int64}
variable {baseTrustIncrement maxTrustScore : UInt16}

/- With its panics the stored score is the same. -/
theorem Anchor.checkedTrustScore_eq
    (recentTimestamps : List.Vector Int64 52) :
    Anchor.checkedTrustScore now creationTimestamp
        recentTimestamps baseTrustIncrement maxTrustScore =
      trustScore now creationTimestamp
        recentTimestamps.toList baseTrustIncrement
        maxTrustScore := by
  unfold Anchor.checkedTrustScore trustScore
  rw [checkedActiveBins_eq, ok_bind,
    checkedBaseScore_eq (length_activeBins _ _), ok_bind]
  cases hAge : checkedSub now creationTimestamp with
  | none =>
      rw [checkedAgeBonus_of_none hAge,
        ageBonus_eq_error hAge]
  | some ageSeconds =>
      rw [checkedAgeBonus_of_some isqrt_eq hAge,
        ageBonus_eq hAge]

/- So is the emitted one. -/
theorem Registry.checkedTrustScore_eq
    (recentTimestamps : List.Vector Int64 10) :
    Registry.checkedTrustScore now creationTimestamp
        recentTimestamps baseTrustIncrement maxTrustScore =
      Registry.previewScore now baseTrustIncrement
        maxTrustScore creationTimestamp
        recentTimestamps := by
  have hRoot (n : UInt64) :
      Registry.isqrt n =
        .ok (UInt64.ofNat (Nat.sqrt n.toNat)) := by
    rw [Registry.isqrt_eq_anchor]
    exact isqrt_eq n
  unfold Registry.checkedTrustScore Registry.previewScore
  rw [checkedActiveBins_eq, ok_bind,
    checkedBaseScore_eq (length_activeBins _ _), ok_bind]
  cases hAge : checkedSub now creationTimestamp with
  | none =>
      rw [checkedAgeBonus_of_none hAge]
      rfl
  | some ageSeconds =>
      rw [checkedAgeBonus_of_some hRoot hAge,
        ← (root_mul_four ageSeconds).1]
      simp only [okOr, ok_bind, hRoot]
      rfl

end

end Entros

------------------------------------------------------------
-- Bins and Bounds
------------------------------------------------------------

namespace Entros

open Foundations
open Anchor

/- The seconds between two times, cut off at 64 bits. -/
def elapsed (now time : Int64) : ℤ :=
  max (-2 ^ 63) (min (2 ^ 63 - 1) (now.toInt - time.toInt))

/- A bin is the truncated quotient of the elapsed time. -/
theorem binIndex_eq_iff
    {now time : Int64}
    {k : ℕ}
    (hk : k < numBins) :
    binIndex now time = k ↔
      (elapsed now time).tdiv 604800 = k := by
  have hWeek : binSizeSecs.toInt = 604800 := rfl
  have hQuotient :
      (saturatingSub now time / binSizeSecs).toInt =
        (elapsed now time).tdiv 604800 := by
    rw [Int64.toInt_div_of_ne_right _ _ (by decide),
      toInt_saturatingSub, hWeek]
    rfl
  rw [← hQuotient, binIndex]
  exact toNat_toUInt64_eq_iff (hk.trans (by decide))

/- Which bins an account content activates. -/
theorem activeBins_iff
    {now : Int64}
    {timestamps : List Int64}
    {k : ℕ} :
    (activeBins now timestamps)[k]? = some true ↔
      k < 12 ∧
        ∃ time ∈ timestamps,
          time ≠ 0 ∧
            (elapsed now time).tdiv 604800 = k := by
  rw [getElem?_activeBins, mem_hitBins]
  apply and_congr_right
  intro hk
  apply exists_congr
  intro time
  unfold InBin
  rw [binIndex_eq_iff hk]

/- All twelve bins together are worth 6.5 increments. -/
theorem two_mul_points_le
    (baseTrustIncrement : UInt16)
    (now : Int64)
    (timestamps : List Int64) :
    2 * points baseTrustIncrement (hitBins now timestamps) ≤
      13 * baseTrustIncrement.toNat := by
  have hSubset :
      hitBins now timestamps ⊆ Finset.range numBins :=
    Finset.filter_subset _ _
  have hAll :
      points baseTrustIncrement (hitBins now timestamps) ≤
        points baseTrustIncrement (Finset.range numBins) :=
    Finset.sum_le_sum_of_subset hSubset
  have hWeight (k : ℕ) :
      12 * weight baseTrustIncrement k ≤
        baseTrustIncrement.toNat * (12 - k) :=
    Nat.mul_div_le _ _
  have hTwelve :
      12 * points baseTrustIncrement (Finset.range numBins) ≤
        baseTrustIncrement.toNat * 78 := by
    have hFactors :
        ∑ k ∈ Finset.range numBins, (12 - k) = 78 := by
      decide
    unfold points
    rw [Finset.mul_sum, ← hFactors, Finset.mul_sum]
    exact Finset.sum_le_sum fun k _ => hWeight k
  omega

theorem uncapped_le
    (baseTrustIncrement : UInt16)
    (now ageSeconds : Int64)
    (timestamps : List Int64) :
    2 * uncapped now ageSeconds timestamps
        baseTrustIncrement ≤
      13 * baseTrustIncrement.toNat + 152 := by
  have hPoints :=
    two_mul_points_le baseTrustIncrement now timestamps
  have hBonus := agePoints_le ageSeconds
  unfold uncapped
  omega

/- The bin of the current week is worth one increment. -/
theorem le_points
    {baseTrustIncrement : UInt16}
    {now : Int64}
    {timestamps : List Int64}
    (hCurrent : 0 ∈ hitBins now timestamps) :
    baseTrustIncrement.toNat ≤
      points baseTrustIncrement
        (hitBins now timestamps) := by
  have hWeight :
      weight baseTrustIncrement 0 =
        baseTrustIncrement.toNat :=
    Nat.mul_div_cancel _ (by decide)
  rw [← hWeight]
  exact Finset.single_le_sum
    (fun k _ => Nat.zero_le (weight baseTrustIncrement k))
    hCurrent

end Entros

------------------------------------------------------------
-- Safety on Any Content
------------------------------------------------------------

namespace Entros

open Foundations
open Anchor

/-
  A score computation that fails for one reason only, with the
  given error, and whose results are bounded.
-/
structure ScoreSafe
    {n : ℕ}
    (overflow : Fault)
    (score :
      Int64 → Int64 → List.Vector Int64 n → UInt16 →
        UInt16 → Result UInt16) : Prop where
  fails :
    ∀ now created timestamps base cap fault,
      score now created timestamps base cap = .error fault →
        fault = overflow ∧
          ¬ (-2 ^ 63 ≤ now.toInt - created.toInt ∧
            now.toInt - created.toInt < 2 ^ 63)
  returns :
    ∀ now created timestamps base cap,
      -2 ^ 63 ≤ now.toInt - created.toInt →
        now.toInt - created.toInt < 2 ^ 63 →
          ∃ value,
            score now created timestamps base cap = .ok value
  bounded :
    ∀ now created timestamps base cap value,
      score now created timestamps base cap = .ok value →
        value.toNat ≤ cap.toNat ∧
          2 * value.toNat ≤ 13 * base.toNat + 152

/- An age exists when the difference fits into 64 bits. -/
theorem checkedSub_cases (now created : Int64) :
    (∃ age, checkedSub now created = some age ∧
        -2 ^ 63 ≤ now.toInt - created.toInt ∧
          now.toInt - created.toInt < 2 ^ 63) ∨
      checkedSub now created = none ∧
        ¬ (-2 ^ 63 ≤ now.toInt - created.toInt ∧
          now.toInt - created.toInt < 2 ^ 63) := by
  unfold checkedSub fitInt64
  by_cases hFits :
      -2 ^ 63 ≤ now.toInt - created.toInt ∧
        now.toInt - created.toInt < 2 ^ 63
  · rw [if_pos hFits]
    exact .inl ⟨_, rfl, hFits⟩
  · rw [if_neg hFits]
    exact .inr ⟨rfl, hFits⟩

theorem scoreSafe_of_cases
    {n : ℕ}
    {overflow : Fault}
    {score :
      Int64 → Int64 → List.Vector Int64 n → UInt16 →
        UInt16 → Result UInt16}
    (hNone :
      ∀ now created timestamps base cap,
        checkedSub now created = none →
          score now created timestamps base cap =
            .error overflow)
    (hSome :
      ∀ now created timestamps base cap age,
        checkedSub now created = some age →
          score now created timestamps base cap =
            .ok (UInt16.ofNat
              (min
                (uncapped now age timestamps.toList base)
                cap.toNat))) :
    ScoreSafe overflow score where
  fails := by
    intro now created timestamps base cap fault hFault
    rcases checkedSub_cases now created with
      ⟨age, hAge, _⟩ | ⟨hAge, hRange⟩
    · rw [hSome _ _ _ _ _ _ hAge] at hFault
      cases hFault
    · rw [hNone _ _ _ _ _ hAge] at hFault
      cases hFault
      exact ⟨rfl, hRange⟩
  returns := by
    intro now created timestamps base cap hLow hHigh
    rcases checkedSub_cases now created with
      ⟨age, hAge, _⟩ | ⟨_, hRange⟩
    · exact ⟨_, hSome _ _ _ _ _ _ hAge⟩
    · exact absurd ⟨hLow, hHigh⟩ hRange
  bounded := by
    intro now created timestamps base cap value hValue
    rcases checkedSub_cases now created with
      ⟨age, hAge, _⟩ | ⟨hAge, _⟩
    · rw [hSome _ _ _ _ _ _ hAge] at hValue
      have hCap := cap.toNat_lt
      have hSmall :
          min (uncapped now age timestamps.toList base)
              cap.toNat < 2 ^ 16 :=
        (Nat.min_le_right _ _).trans_lt hCap
      have hBound :=
        uncapped_le base now age timestamps.toList
      rw [← Except.ok.inj hValue,
        UInt16.toNat_ofNat_of_lt' hSmall]
      omega
    · rw [hNone _ _ _ _ _ hAge] at hValue
      cases hValue

theorem Anchor.scoreSafe :
    ScoreSafe (.anchor .arithmeticOverflow)
      Anchor.checkedTrustScore := by
  apply scoreSafe_of_cases
  · intro now created timestamps base cap hAge
    rw [Anchor.checkedTrustScore_eq, trustScore,
      ageBonus_eq_error hAge]
    rfl
  · intro now created timestamps base cap age hAge
    rw [Anchor.checkedTrustScore_eq, trustScore_eq hAge]

theorem Registry.scoreSafe :
    ScoreSafe (.registry .arithmeticOverflow)
      Registry.checkedTrustScore := by
  apply scoreSafe_of_cases
  · intro now created timestamps base cap hAge
    rw [Registry.checkedTrustScore_eq, Registry.previewScore,
      hAge]
    rfl
  · intro now created timestamps base cap age hAge
    rw [Registry.checkedTrustScore_eq,
      Registry.previewScore_eq_ok_iff, trustScore_eq hAge]

end Entros

------------------------------------------------------------
-- Updates
------------------------------------------------------------

namespace Entros

open Foundations
open Anchor

variable {now : Int64}

/- After an update the newest entry is less than a week old. -/
theorem newest_recorded
    {times : List Int64}
    (hPast : ∀ time, time ∈ times → time ≤ now) :
    ∃ newest older,
      recorded now times = newest :: older ∧
        newest ≤ now ∧
          now.toInt - newest.toInt < 604800 := by
  have hSelf : now.toInt - now.toInt < 604800 := by
    rw [Int.sub_self]
    decide
  cases times with
  | nil => exact ⟨now, [], rfl, Int64.le_refl now, hSelf⟩
  | cons newest older =>
      rw [recorded]
      split_ifs with hGate
      · exact ⟨now, newest :: older, rfl, Int64.le_refl now,
          hSelf⟩
      · have hWeek : binSizeSecs.toInt = 604800 := rfl
        rw [le_saturatingSub_iff (by decide), hWeek] at hGate
        exact ⟨newest, older, rfl, hPast newest (.head _),
          by omega⟩

/- So it lies in the bin of the current week. -/
theorem zero_mem_hitBins
    {newest : Int64}
    {older : List Int64}
    {ring : ActivityRing}
    (hKeeps : Keeps ring (newest :: older))
    (hPast : newest ≤ now)
    (hWeek : now.toInt - newest.toInt < 604800) :
    0 ∈ hitBins now ring.toList := by
  have hTaken : newest ∈ (newest :: older).take 52 :=
    List.mem_cons_self
  rcases hKeeps.mem_iff.mpr hTaken with ⟨hEntry, hNonzero⟩
  have hLe := Int64.le_iff_toInt_le.mp hPast
  have hElapsed : elapsed now newest =
      now.toInt - newest.toInt := by
    unfold elapsed
    omega
  have hBin : binIndex now newest = 0 := by
    rw [binIndex_eq_iff (by decide), hElapsed,
      Int.tdiv_eq_ediv_of_nonneg (by omega)]
    omega
  exact mem_hitBins.mpr
    ⟨by decide, newest, hEntry, hNonzero, hBin⟩

/- Then the score is worth one increment, up to the cap. -/
theorem le_trustScore
    {creationTimestamp : Int64}
    {times : List Int64}
    {baseTrustIncrement maxTrustScore score : UInt16}
    (hScore :
      trustScore now creationTimestamp times
        baseTrustIncrement maxTrustScore = .ok score)
    (hCurrent : 0 ∈ hitBins now times) :
    min maxTrustScore.toNat baseTrustIncrement.toNat ≤
      score.toNat := by
  cases hAge : checkedSub now creationTimestamp with
  | none =>
      rw [trustScore, ageBonus_eq_error hAge] at hScore
      cases hScore
  | some age =>
      have hPoints :
          baseTrustIncrement.toNat ≤
            points baseTrustIncrement (hitBins now times) :=
        le_points hCurrent
      have hCap := maxTrustScore.toNat_lt
      rw [trustScore_eq hAge] at hScore
      rw [← Except.ok.inj hScore,
        UInt16.toNat_ofNat_of_lt']
      · unfold uncapped
        omega
      · exact (Nat.min_le_right _ _).trans_lt hCap

variable {H : Host} {w w' : World}

/-
  Every update of a history stores the score that the checked
  computation yields, and at least one increment of it, up to
  the cap.
-/
def UpdatesScore (history : List (Event H)) : Prop :=
  ∀ event : Event H,
    event ∈ history →
      ∀ wallet,
        event.instruction.updates = some wallet →
          ∃ before after config,
            (event.source.ledger H).identity wallet =
                some before ∧
              (event.target.ledger H).identity wallet =
                  some after ∧
                readUpdateConfig
                    (protocolConfig H event.source)
                    before.projectionVersion = .ok config ∧
                  Anchor.checkedTrustScore event.now
                      after.creationTimestamp
                      after.recentTimestamps
                      config.baseTrustIncrement
                      config.maxTrustScore =
                        .ok after.trustScore ∧
                    min config.maxTrustScore.toNat
                        config.baseTrustIncrement.toNat ≤
                      after.trustScore.toNat

theorem updatesScore_run
    {history : List (Event H)}
    (hFresh : w.Fresh)
    (hClock : Clocked history)
    (hPositive : PositiveTimes history)
    (hRun : Run (Step H) w history w') :
    UpdatesScore history := by
  intro event hEvent wallet hUpdates
  rcases (event_step hFresh hRun hEvent).evolution
    (Instruction.rewrites_of_updates hUpdates) with
    ⟨before, after, hBefore, hAfter, hEvolution⟩
  rcases hEvolution.read_of_updates hUpdates with
    ⟨commitmentNew, config, hConfig, hUpdated⟩
  -- what the identity recorded before the update
  rcases List.mem_iff_getElem?.mp hEvent with ⟨i, hIndex⟩
  have hEarlier : Before (history.take i) event.now :=
    fun earlier hEarlier =>
      hClock.le_of_take hIndex hEarlier
  have hStart : PositiveTimes (history.take i) :=
    fun earlier hEarlier =>
      hPositive earlier (List.mem_of_mem_take hEarlier)
  rcases run_coherent hFresh (hClock.take i) hStart
    (hRun.source hIndex) wallet before event.now hBefore
    hEarlier with ⟨times, hCoherent⟩
  have hPast (time : Int64) (hTime : time ∈ times) :
      time ≤ event.now :=
    Int64.le_trans (hCoherent.recent time hTime).2.2
      hCoherent.past
  rcases newest_recorded hPast with
    ⟨newest, older, hRecorded, hNewest, hWeek⟩
  have hKeeps :=
    (hCoherent.updated (Int64.le_refl _)
      (hPositive event hEvent) hUpdated).keeps
  rw [hRecorded] at hKeeps
  have hScore := updatedIdentity_score hUpdated
  have hCreated :
      after.creationTimestamp = before.creationTimestamp := by
    rcases updatedIdentity_eq_ok hUpdated with
      ⟨_, _, _, rfl⟩
    rfl
  refine ⟨before, after, config, hBefore, hAfter, hConfig, ?_,
    ?_⟩
  · rw [Anchor.checkedTrustScore_eq, hCreated]
    exact hScore
  · exact le_trustScore hScore
      (zero_mem_hitBins hKeeps hNewest hWeek)

end Entros

------------------------------------------------------------
-- Summary
------------------------------------------------------------

namespace Entros

open Foundations
open Anchor

/-
  On any account content neither program panics while it
  computes a score, a missing age is the only failure, and
  bins and scores are as described; in a run with a clock that
  is positive and does not go back every update scores at
  least its own week.
-/
theorem score_arithmetic :
    ScoreSafe (.anchor .arithmeticOverflow)
        Anchor.checkedTrustScore ∧
      ScoreSafe (.registry .arithmeticOverflow)
          Registry.checkedTrustScore ∧
        (∀ (now : Int64) (timestamps : List Int64),
          ∃ bins,
            checkedActiveBins now timestamps = .ok bins ∧
              ∀ k : ℕ,
                bins[k]? = some true ↔
                  k < 12 ∧
                    ∃ time ∈ timestamps,
                      time ≠ 0 ∧
                        (elapsed now time).tdiv 604800 =
                          k) ∧
          ∀ (H : Host) (w w' : World)
            (history : List (Event H)),
            w.Fresh →
              Clocked history →
                PositiveTimes history →
                  Run (Step H) w history w' →
                    UpdatesScore history := by
  refine ⟨Anchor.scoreSafe, Registry.scoreSafe, ?_, ?_⟩
  · intro now timestamps
    exact ⟨_, checkedActiveBins_eq now timestamps,
      fun _ => activeBins_iff⟩
  · intro H w w' history hFresh hClock hPositive hRun
    exact updatesScore_run hFresh hClock hPositive hRun

open UpdateBacking in
theorem score_arithmetic_repeated :
    ∃ (history : List (Event tables.host)) (w' : World),
      Run (Step tables.host) .funded history w' ∧
        history.map Transition.label = repeated ∧
          UpdatesScore history := by
  rcases repeated_run with ⟨history, w', hRun, hLabels⟩
  have hClock : Clocked history :=
    clocked_of_labels hLabels (by decide)
  have hPositive : PositiveTimes history :=
    times_of_labels hLabels (by decide)
  exact ⟨history, w', hRun, hLabels,
    score_arithmetic.2.2.2 tables.host .funded w' history
      funded_fresh hClock hPositive hRun⟩

end Entros
