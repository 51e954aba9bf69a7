import Entros.Anchor.Bins
import Entros.Anchor.Ring
import Entros.Anchor.Update

/-
  A series of updates of one identity and the score that each
  of them stores.

  Key definitions include:
    * `Verification`
    * `verifyAll`

  Key theorems include:
    * `hitBins_keeps`
    * `verifyAll_fields`
    * `verifyAll_score`
-/

------------------------------------------------------------
-- Bins of the Ring
------------------------------------------------------------

namespace Entros

open Foundations

namespace Anchor

variable {now time : Int64}

/- The bin of a past time counts its full weeks. -/
theorem binIndex_eq
    (hPositive : 0 < time)
    (hPast : time ≤ now) :
    binIndex now time =
      (now.toInt - time.toInt).toNat / 604800 := by
  have hLe := Int64.le_iff_toInt_le.mp hPast
  have hLt := Int64.lt_iff_toInt_lt.mp hPositive
  have hZero : (0 : Int64).toInt = 0 := rfl
  have hRange := now.toInt_lt
  have hElapsed :
      (saturatingSub now time).toInt =
        now.toInt - time.toInt := by
    rw [toInt_saturatingSub]
    omega
  have hWeek : binSizeSecs.toInt = 604800 := rfl
  have hQuotient :
      (saturatingSub now time / binSizeSecs).toInt =
        (now.toInt - time.toInt) / 604800 := by
    rw [Int64.toInt_div_of_ne_right _ _ (by decide),
      hElapsed, hWeek]
    exact Int.tdiv_eq_ediv_of_nonneg (by omega)
  have hNonneg : 0 ≤ saturatingSub now time / binSizeSecs := by
    rw [Int64.le_iff_toInt_le, hQuotient, hZero]
    omega
  unfold binIndex
  rw [Int64.toNat_toUInt64_of_le hNonneg,
    ← Int64.toNat_toInt, hQuotient]
  omega

/- Times twelve weeks back have left the window. -/
theorem numBins_le_binIndex
    (hPositive : 0 < time)
    (hOld : time.toInt + 604800 * 12 ≤ now.toInt) :
    numBins ≤ binIndex now time := by
  have hPast : time ≤ now := by
    rw [Int64.le_iff_toInt_le]
    omega
  have hBins : numBins = 12 := rfl
  rw [binIndex_eq hPositive hPast, hBins]
  omega

/- What has left the ring has left the window long before. -/
theorem hitBins_keeps
    {ring : ActivityRing}
    {kept : List Int64}
    (hKeeps : Keeps ring kept)
    (hSpread : Spread kept)
    (hKept : ∀ time, time ∈ kept → 0 < time ∧ time ≤ now) :
    hitBins now ring.toList = hitBins now kept := by
  apply Finset.Subset.antisymm
  · apply hitBins_subset
    intro time hTime hNonzero
    exact List.mem_of_mem_take
      (hKeeps.mem_iff.mp ⟨hTime, hNonzero⟩)
  · intro k hk
    rcases mem_hitBins.mp hk with
      ⟨hBound, time, hTime, hIn⟩
    refine mem_hitBins.mpr ⟨hBound, time, ?_, hIn⟩
    rcases List.mem_iff_getElem?.mp hTime with ⟨i, hIndex⟩
    have hPositive := (hKept time hTime).1
    by_cases hInside : i < 52
    · have hTaken : time ∈ kept.take 52 := by
        apply List.mem_of_getElem? (i := i)
        rw [List.getElem?_take_of_lt hInside]
        exact hIndex
      exact (hKeeps.mem_iff.mpr hTaken).1
    · -- an older time is at least 52 weeks old
      have hLength := (List.getElem?_eq_some_iff.mp hIndex).1
      have hFirst : kept[0]? = some kept[0] :=
        List.getElem?_eq_getElem (by omega)
      rw [← Nat.zero_add i] at hIndex
      have hGap := hSpread.gap hFirst i time hIndex
      have hNewest := (hKept kept[0]
        (List.mem_of_getElem? hFirst)).2
      have hLe := Int64.le_iff_toInt_le.mp hNewest
      have hGone : numBins ≤ binIndex now time :=
        numBins_le_binIndex hPositive (by omega)
      rw [hIn.2] at hGone
      exact absurd hBound (Nat.not_lt.mpr hGone)

end Anchor

end Entros

------------------------------------------------------------
-- Series of Updates
------------------------------------------------------------

namespace Entros

open Foundations

namespace Anchor

/- What an update takes besides the identity. -/
structure Verification where
  now : Int64
  commitmentNew : Bytes 32
  config : UpdateConfig
deriving DecidableEq

/- The identity after a series of updates. -/
def verifyAll :
    IdentityState → List Verification → Result IdentityState
| identity, [] => .ok identity
| identity, verification :: verifications => do
    let updated ← updatedIdentity identity verification.now
      verification.commitmentNew verification.config
    verifyAll updated verifications

variable {identity after : IdentityState}
variable {verifications : List Verification}
variable {last : Verification}

theorem verifyAll_concat
    (hSeries :
      verifyAll identity (verifications ++ [last]) =
        .ok after) :
    ∃ before,
      verifyAll identity verifications = .ok before ∧
        updatedIdentity before last.now last.commitmentNew
          last.config = .ok after := by
  induction verifications generalizing identity with
  | nil =>
      rw [List.nil_append, verifyAll, bind_eq_ok] at hSeries
      rcases hSeries with ⟨updated, hUpdated, hRest⟩
      rw [verifyAll] at hRest
      rw [Except.ok.inj hRest] at hUpdated
      exact ⟨identity, rfl, hUpdated⟩
  | cons verification verifications ih =>
      rw [List.cons_append, verifyAll, bind_eq_ok] at hSeries
      rcases hSeries with ⟨updated, hUpdated, hRest⟩
      rcases ih hRest with ⟨before, hBefore, hLast⟩
      refine ⟨before, ?_, hLast⟩
      rw [verifyAll]
      exact bind_eq_ok.mpr ⟨updated, hUpdated, hBefore⟩

/- A prefix of a successful series is successful. -/
theorem verifyAll_take
    (hSeries :
      verifyAll identity verifications = .ok after)
    (n : ℕ) :
    ∃ between,
      verifyAll identity (verifications.take n) =
        .ok between := by
  induction verifications generalizing identity n with
  | nil => exact ⟨identity, by rw [List.take_nil, verifyAll]⟩
  | cons verification verifications ih =>
      cases n with
      | zero => exact ⟨identity, rfl⟩
      | succ n =>
          rw [verifyAll, bind_eq_ok] at hSeries
          rcases hSeries with ⟨updated, hUpdated, hRest⟩
          rcases ih hRest n with ⟨between, hBetween⟩
          refine ⟨between, ?_⟩
          rw [List.take_succ_cons, verifyAll]
          exact bind_eq_ok.mpr
            ⟨updated, hUpdated, hBetween⟩

theorem take_succ_of_getElem?
    {n : ℕ}
    (hLast : verifications[n]? = some last) :
    verifications.take (n + 1) =
      verifications.take n ++ [last] := by
  rw [List.take_add_one, hLast]
  rfl

/- What a series leaves in the fields that are scored. -/
structure SeriesFields
    (identity : IdentityState)
    (verifications : List Verification)
    (after : IdentityState) : Prop where
  ring :
    after.recentTimestamps =
      (verifications.map Verification.now).foldl
        recordVerification identity.recentTimestamps
  creation :
    after.creationTimestamp = identity.creationTimestamp
  counted :
    after.verificationCount.toNat =
      identity.verificationCount.toNat + verifications.length

theorem verifyAll_fields
    (hSeries :
      verifyAll identity verifications = .ok after) :
    SeriesFields identity verifications after := by
  induction verifications generalizing identity with
  | nil =>
      rw [verifyAll] at hSeries
      rw [← Except.ok.inj hSeries]
      exact ⟨rfl, rfl, rfl⟩
  | cons verification verifications ih =>
      rw [verifyAll, bind_eq_ok] at hSeries
      rcases hSeries with ⟨updated, hUpdated, hRest⟩
      have hFields := ih hRest
      rcases updatedIdentity_eq_ok hUpdated with
        ⟨count, score, hCount, rfl⟩
      have hNext := toNat_checkedAdd32 hCount
      refine ⟨hFields.ring, hFields.creation, ?_⟩
      have hCounted := hFields.counted
      have hOne : (1 : UInt32).toNat = 1 := rfl
      rw [hCounted, List.length_cons]
      change count.toNat + verifications.length = _
      omega

/- The score of the last update of a series. -/
theorem verifyAll_score
    (hSeries :
      verifyAll identity (verifications ++ [last]) =
        .ok after) :
    trustScore last.now identity.creationTimestamp
        after.recentTimestamps.toList
        last.config.baseTrustIncrement
        last.config.maxTrustScore =
      .ok after.trustScore := by
  rcases verifyAll_concat hSeries with
    ⟨before, hBefore, hUpdated⟩
  rw [← (verifyAll_fields hBefore).creation]
  exact updatedIdentity_score hUpdated

end Anchor

end Entros
