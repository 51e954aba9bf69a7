import Entros.Anchor.Instructions
import Entros.Guarantees.CleanReset

/-
  What the weekly gate of the activity ring costs: the bins
  move on with the clock while the gate stays with the entry
  it let through, so that a time it has skipped can be missed
  later.

  Key definitions include:
    * `allTimes`
    * `CostsNothing`
    * `Overlooks`

  Key theorems include:
    * `hitBins_verifyAll`
    * `weeklyGate_last`
    * `weeklyGate_iff`
    * `weeklyGate_costs`
-/

------------------------------------------------------------
-- Times of a Series
------------------------------------------------------------

namespace Entros

open Foundations
open Anchor

/- The times of all verifications, the last one included. -/
def allTimes
    (verifications : List Verification)
    (last : Verification) : List Int64 :=
  (verifications ++ [last]).map Verification.now

/- Positive times that do not go back. -/
structure TimesSound (times : List Int64) : Prop where
  positive : ∀ time, time ∈ times → 0 < time
  sorted :
    times.Pairwise fun earlier later => earlier ≤ later

variable {identity after : IdentityState}
variable {verifications : List Verification}
variable {last : Verification}

theorem TimesSound.take
    {times : List Int64}
    (hTimes : TimesSound times)
    (n : ℕ) :
    TimesSound (times.take n) where
  positive := fun time hTime =>
    hTimes.positive time (List.mem_of_mem_take hTime)
  sorted := List.Pairwise.sublist (List.take_sublist n times)
    hTimes.sorted

/- No time of a series is after its last one. -/
theorem le_last
    {time : Int64}
    (hTimes : TimesSound (allTimes verifications last))
    (hTime : time ∈ allTimes verifications last) :
    time ≤ last.now := by
  have hSorted := hTimes.sorted
  rw [allTimes, List.map_append, List.map_singleton]
    at hSorted hTime
  rcases List.mem_append.mp hTime with hOld | hLast
  · exact (List.pairwise_append.mp hSorted).2.2 time hOld
      last.now (List.mem_singleton_self _)
  · rw [List.mem_singleton.mp hLast]
    exact Int64.le_refl _

/- The ring hits the bins of the times the gate has kept. -/
theorem hitBins_verifyAll
    (hRing :
      identity.recentTimestamps = IdentityState.emptyRing)
    (hTimes : TimesSound (allTimes verifications last))
    (hSeries :
      verifyAll identity (verifications ++ [last]) =
        .ok after) :
    hitBins last.now after.recentTimestamps.toList =
      hitBins last.now
        (keptTimes (allTimes verifications last)) := by
  have hAfter := (verifyAll_fields hSeries).ring
  have hNonzero (time : Int64)
      (hTime : time ∈ allTimes verifications last) :
      time ≠ 0 := by
    rintro rfl
    exact absurd (hTimes.positive 0 hTime) (by decide)
  rw [hAfter, hRing]
  apply hitBins_keeps (keeps_keptTimes hNonzero)
    (spread_keptTimes _)
  intro time hTime
  have hMem := mem_of_mem_keptTimes hTime
  exact ⟨hTimes.positive time hMem, le_last hTimes hMem⟩

end Entros

------------------------------------------------------------
-- The Cost of the Gate
------------------------------------------------------------

namespace Entros

open Foundations
open Anchor

/-
  Every stored score is the one that the formula gives for
  the complete list of times.
-/
def CostsNothing
    (identity : IdentityState)
    (verifications : List Verification) : Prop :=
  ∀ n (last : Verification) (after : IdentityState),
    verifications[n]? = some last →
      verifyAll identity (verifications.take n ++ [last]) =
          .ok after →
        trustScore last.now identity.creationTimestamp
            (allTimes (verifications.take n) last)
            last.config.baseTrustIncrement
            last.config.maxTrustScore =
          .ok after.trustScore

/-
  At the last verification some skipped time lies in a bin of
  value that holds no kept time, and the kept times alone do
  not reach the cap.
-/
def Overlooks
    (creationTimestamp : Int64)
    (verifications : List Verification)
    (last : Verification) : Prop :=
  (∃ time k,
    time ∈ allTimes verifications last ∧
      InBin last.now k time ∧
        k < numBins ∧
          0 < weight last.config.baseTrustIncrement k ∧
            ∀ kept,
              kept ∈
                  keptTimes (allTimes verifications last) →
                ¬ InBin last.now k kept) ∧
    points last.config.baseTrustIncrement
          (hitBins last.now
            (keptTimes (allTimes verifications last))) +
        ageBonusAt last.now creationTimestamp <
      last.config.maxTrustScore.toNat

variable {identity after : IdentityState}
variable {verifications : List Verification}
variable {last : Verification}

/- Nothing of value is lost when no time is overlooked. -/
theorem covers_iff
    {now : Int64}
    {baseTrustIncrement : UInt16}
    {times times' : List Int64} :
    ¬ Covers now baseTrustIncrement times times' ↔
      ∃ time k,
        time ∈ times' ∧
          InBin now k time ∧
            k < numBins ∧
              0 < weight baseTrustIncrement k ∧
                ∀ kept, kept ∈ times →
                  ¬ InBin now k kept := by
  unfold Covers
  simp only [mem_hitBins, not_forall, not_and, not_exists]
  constructor
  · rintro ⟨k, ⟨hBound, time, hTime, hIn⟩, hMissing, hWeight⟩
    exact ⟨time, k, hTime, hIn, hBound,
      Nat.pos_of_ne_zero hWeight, hMissing hBound⟩
  · rintro ⟨time, k, hTime, hIn, hBound, hWeight, hMissing⟩
    exact ⟨k, ⟨hBound, time, hTime, hIn⟩, fun _ => hMissing,
      Nat.ne_of_gt hWeight⟩

/- The score of the last verification of a series. -/
theorem weeklyGate_last
    (hRing :
      identity.recentTimestamps = IdentityState.emptyRing)
    (hTimes : TimesSound (allTimes verifications last))
    (hSeries :
      verifyAll identity (verifications ++ [last]) =
        .ok after) :
    trustScore last.now identity.creationTimestamp
          (allTimes verifications last)
          last.config.baseTrustIncrement
          last.config.maxTrustScore =
        .ok after.trustScore ↔
      ¬ Overlooks identity.creationTimestamp verifications
        last := by
  rcases age_of_verifyAll hSeries with ⟨age, hAge, hBonus⟩
  have hBins := hitBins_verifyAll hRing hTimes hSeries
  have hSubset :
      hitBins last.now after.recentTimestamps.toList ⊆
        hitBins last.now (allTimes verifications last) := by
    rw [hBins]
    exact hitBins_subset fun time hTime _ =>
      mem_of_mem_keptTimes hTime
  have hCovers :
      Covers last.now last.config.baseTrustIncrement
          after.recentTimestamps.toList
          (allTimes verifications last) ↔
        Covers last.now last.config.baseTrustIncrement
          (keptTimes (allTimes verifications last))
          (allTimes verifications last) := by
    unfold Covers
    rw [hBins]
  rw [← verifyAll_score hSeries,
    eq_comm (a := trustScore _ _ (allTimes _ _) _ _),
    trustScore_covers_iff hAge hSubset, hCovers, uncapped,
    hBins, Overlooks, hBonus, not_and_or, ← covers_iff,
    not_not, Nat.not_lt]

/-
  For every series after a mint or a reset: the gate costs
  nothing exactly when no verification overlooks a skipped
  time.
-/
theorem weeklyGate_iff
    (hRing :
      identity.recentTimestamps = IdentityState.emptyRing)
    (hTimes :
      TimesSound (verifications.map Verification.now))
    (hSeries :
      verifyAll identity verifications = .ok after) :
    CostsNothing identity verifications ↔
      ∀ n (last : Verification),
        verifications[n]? = some last →
          ¬ Overlooks identity.creationTimestamp
            (verifications.take n) last := by
  have hUpTo (n : ℕ) (last : Verification)
      (hLast : verifications[n]? = some last) :
      TimesSound (allTimes (verifications.take n) last) := by
    have hTake := hTimes.take (n + 1)
    rw [← List.map_take, take_succ_of_getElem? hLast]
      at hTake
    exact hTake
  constructor
  · intro hCost n last hLast
    rcases verifyAll_take hSeries (n + 1) with
      ⟨between, hBetween⟩
    rw [take_succ_of_getElem? hLast] at hBetween
    exact (weeklyGate_last hRing (hUpTo n last hLast)
      hBetween).mp (hCost n last between hLast hBetween)
  · intro hNone n last between hLast hBetween
    exact (weeklyGate_last hRing (hUpTo n last hLast)
      hBetween).mpr (hNone n last hLast)

end Entros

------------------------------------------------------------
-- A Skipped Week
------------------------------------------------------------

namespace Entros

open Foundations
open Anchor

namespace WeeklyGate

open CleanReset

/-
  A verification some days after the mint; every other week
  starts with the new commitment.
-/
def afterDays (days : Int64) : Verification where
  now := 1700000000 + days * 86400
  commitmentNew :=
    if days % 14 = 0 then
      Sample.commitmentNew
    else
      Sample.commitmentPrev
  config := updateConfig

/- The score that a series of updates stores. -/
def storedScore
    (verifications : List Verification) : Result UInt16 := do
  let updated ← verifyAll (minted 1700000000) verifications
  return updated.trustScore

/- The score of the complete list of times. -/
def fullScore
    (verifications : List Verification)
    (last : Verification) : Result UInt16 :=
  trustScore last.now 1700000000 (allTimes verifications last)
    100 10000

end WeeklyGate

open CleanReset
open WeeklyGate

/-
  The gate skips day 6, which is in the same bin as day 0 at
  that time; on day 14 it is the only one in its bin.
-/
theorem weeklyGate_costs :
    storedScore [afterDays 0, afterDays 6, afterDays 14] =
        .ok 195 ∧
      fullScore [afterDays 0, afterDays 6] (afterDays 14) =
          .ok 286 ∧
        ¬ CostsNothing (minted 1700000000)
          [afterDays 0, afterDays 6, afterDays 14] := by
  have hStored :
      storedScore [afterDays 0, afterDays 6, afterDays 14] =
        .ok 195 := by
    decide +kernel
  have hFull :
      fullScore [afterDays 0, afterDays 6] (afterDays 14) =
        .ok 286 := by
    decide +kernel
  refine ⟨hStored, hFull, ?_⟩
  intro hCost
  rcases bind_eq_ok.mp hStored with ⟨after, hAfter, hScore⟩
  have hLast := hCost 2 (afterDays 14) after rfl hAfter
  have hEqual := Except.ok.inj (hFull.symm.trans hLast)
  rw [pure_eq_ok.mp hScore] at hEqual
  exact absurd hEqual (by decide)

/- Verifications every seven days lose nothing. -/
theorem weeklyGate_iff_weekly :
    ∃ after,
      verifyAll (minted 1700000000)
            [afterDays 0, afterDays 7, afterDays 14] =
          .ok after ∧
        (CostsNothing (minted 1700000000)
            [afterDays 0, afterDays 7, afterDays 14] ↔
          ∀ n (last : Verification),
            [afterDays 0, afterDays 7, afterDays 14][n]? =
                some last →
              ¬ Overlooks 1700000000
                ([afterDays 0, afterDays 7,
                  afterDays 14].take n) last) := by
  have hStored :
      storedScore [afterDays 0, afterDays 7, afterDays 14] =
        .ok 286 := by
    decide +kernel
  rcases bind_eq_ok.mp hStored with ⟨after, hAfter, _⟩
  have hTimes :
      TimesSound
        ([afterDays 0, afterDays 7, afterDays 14].map
          Verification.now) := by
    constructor
    · intro time hTime
      simp only [List.map_cons, List.map_nil, List.mem_cons,
        List.not_mem_nil, or_false] at hTime
      rcases hTime with rfl | rfl | rfl
      · decide
      · decide
      · decide
    · decide
  exact ⟨after, hAfter, weeklyGate_iff rfl hTimes hAfter⟩

end Entros
