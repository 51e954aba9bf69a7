import Entros.Anchor.Instructions
import Entros.Anchor.Series
import Entros.System.Replay

/-
  What two identities of one wallet still show of their past
  after the same reset and the same updates: nothing but the
  bonus for their age.

  Key definitions include:
    * `SameStanding`
    * `ageBonusAt`
    * `SameBonus`

  Key theorems include:
    * `trustScore_eq_iff_sameBonus`
    * `reset_sameStanding_iff`
    * `reset_keeps_age`
-/

------------------------------------------------------------
-- Standing
------------------------------------------------------------

namespace Entros

open Foundations
open Anchor

/-
  After every update of the series the two identities have
  the same score and the same count.
-/
def SameStanding
    (a b : IdentityState)
    (verifications : List Verification) : Prop :=
  ∀ n (a' b' : IdentityState),
    n ≤ verifications.length →
      verifyAll a (verifications.take n) = .ok a' →
        verifyAll b (verifications.take n) = .ok b' →
          a'.trustScore = b'.trustScore ∧
            a'.verificationCount = b'.verificationCount

/- The bonus that an update at `now` adds for the age. -/
def ageBonusAt (now creationTimestamp : Int64) : ℕ :=
  ((checkedSub now creationTimestamp).map agePoints).getD 0

/- What the bins are worth after a reset and some updates. -/
def pointsAfter
    (verifications : List Verification)
    (last : Verification) : ℕ :=
  points last.config.baseTrustIncrement
    (hitBins last.now
      (((verifications ++ [last]).map
        Verification.now).foldl recordVerification
          IdentityState.emptyRing).toList)

/-
  The ages make no difference to the last update: the bonuses
  are the same, or the cap hides the smaller of them.
-/
def SameBonus
    (a b : IdentityState)
    (verifications : List Verification)
    (last : Verification) : Prop :=
  ageBonusAt last.now a.creationTimestamp =
      ageBonusAt last.now b.creationTimestamp ∨
    last.config.maxTrustScore.toNat ≤
      pointsAfter verifications last +
        min (ageBonusAt last.now a.creationTimestamp)
          (ageBonusAt last.now b.creationTimestamp)

variable {a b a' b' : IdentityState}
variable {verifications : List Verification}
variable {last : Verification}

/- A successful update has an age to reckon with. -/
theorem age_of_verifyAll
    (hSeries :
      verifyAll a (verifications ++ [last]) = .ok a') :
    ∃ age,
      checkedSub last.now a.creationTimestamp = some age ∧
        ageBonusAt last.now a.creationTimestamp =
          agePoints age := by
  have hScore := verifyAll_score hSeries
  cases hAge : checkedSub last.now a.creationTimestamp with
  | none =>
      rw [trustScore, ageBonus_eq_error hAge] at hScore
      cases hScore
  | some age =>
      refine ⟨age, rfl, ?_⟩
      rw [ageBonusAt, hAge]
      rfl

/- After a reset only the age bonus can differ. -/
theorem trustScore_eq_iff_sameBonus
    (hRing : a.recentTimestamps = IdentityState.emptyRing)
    (hRing' : b.recentTimestamps = IdentityState.emptyRing)
    (hA :
      verifyAll a (verifications ++ [last]) = .ok a')
    (hB :
      verifyAll b (verifications ++ [last]) = .ok b') :
    a'.trustScore = b'.trustScore ↔
      SameBonus a b verifications last := by
  rcases age_of_verifyAll hA with ⟨age, hAge, hBonus⟩
  rcases age_of_verifyAll hB with ⟨age', hAge', hBonus'⟩
  have hScore := verifyAll_score hA
  have hScore' := verifyAll_score hB
  rw [(verifyAll_fields hA).ring, hRing] at hScore
  rw [(verifyAll_fields hB).ring, hRing'] at hScore'
  have hEqual :
      a'.trustScore = b'.trustScore ↔
        (.ok a'.trustScore : Result UInt16) =
          .ok b'.trustScore :=
    ⟨congrArg Except.ok, Except.ok.inj⟩
  rw [hEqual, ← hScore, ← hScore',
    trustScore_eq_iff hAge hAge', SameBonus, hBonus, hBonus']
  unfold uncapped pointsAfter
  omega

end Entros

------------------------------------------------------------
-- Resets
------------------------------------------------------------

namespace Entros

open Foundations
open Anchor

variable {a b a' b' : IdentityState}
variable {verifications : List Verification}

/-
  After the same reset and the same updates two identities
  stand alike exactly when their ages make no difference to
  any of the updates.
-/
theorem reset_sameStanding_iff
    {now : Int64}
    {newCommitment : Bytes 32}
    {projectionVersion : UInt16}
    (hA :
      verifyAll
          (resetIdentity a now newCommitment
            projectionVersion)
          verifications = .ok a')
    (hB :
      verifyAll
          (resetIdentity b now newCommitment
            projectionVersion)
          verifications = .ok b') :
    SameStanding
        (resetIdentity a now newCommitment
          projectionVersion)
        (resetIdentity b now newCommitment
          projectionVersion)
        verifications ↔
      ∀ n (last : Verification),
        verifications[n]? = some last →
          SameBonus a b (verifications.take n) last := by
  constructor
  · intro hSame n last hLast
    have hTake := take_succ_of_getElem? hLast
    rcases verifyAll_take hA (n + 1) with ⟨first, hFirst⟩
    rcases verifyAll_take hB (n + 1) with ⟨second, hSecond⟩
    have hBound := (List.getElem?_eq_some_iff.mp hLast).1
    have hScores :=
      (hSame (n + 1) first second hBound hFirst hSecond).1
    rw [hTake] at hFirst hSecond
    exact (trustScore_eq_iff_sameBonus rfl rfl hFirst
      hSecond).mp hScores
  · intro hBonus n first second hBound hFirst hSecond
    have hCount := (verifyAll_fields hFirst).counted
    have hCount' := (verifyAll_fields hSecond).counted
    refine ⟨?_, UInt32.toNat_inj.mp
      (hCount.trans hCount'.symm)⟩
    cases n with
    | zero =>
        rw [List.take_zero, verifyAll] at hFirst hSecond
        rw [← Except.ok.inj hFirst, ← Except.ok.inj hSecond]
        rfl
    | succ n =>
        have hLast :
            verifications[n]? = some verifications[n] :=
          List.getElem?_eq_getElem hBound
        rw [take_succ_of_getElem? hLast] at hFirst hSecond
        exact (trustScore_eq_iff_sameBonus rfl rfl hFirst
          hSecond).mpr (hBonus n _ hLast)

end Entros

------------------------------------------------------------
-- An Old and a New Identity
------------------------------------------------------------

namespace Entros

open Foundations
open Anchor

namespace CleanReset

open Sample

def updateConfig : UpdateConfig where
  maxTrustScore := 10000
  baseTrustIncrement := 100
  verificationFee := 0
  validatorKeys :=
    { primary := validator
      secondary := Pubkey.default
      secondaryValidUntil := 0 }

/- An identity of `alice`, minted at the time. -/
def minted (time : Int64) : IdentityState :=
  mintedIdentity tables.host alice.key time commitmentPrev 0

/- The same identity after a reset in 2024. -/
def afterReset (time : Int64) : IdentityState :=
  resetIdentity (minted time) 1731536000 commitmentPrev 0

/- An update right after the reset. -/
def firstUpdate : Verification where
  now := 1731536001
  commitmentNew := commitmentNew
  config := updateConfig

/- The score that the update stores. -/
def firstScore (time : Int64) : Result UInt16 := do
  let updated ← verifyAll (afterReset time) [firstUpdate]
  return updated.trustScore

end CleanReset

open CleanReset

/-
  An identity that is a year old scores 76 points more than
  one that is a second old, right after the same reset.
-/
theorem reset_keeps_age :
    (minted 1700000000).owner = (minted 1731535999).owner ∧
      firstScore 1700000000 = .ok 176 ∧
        firstScore 1731535999 = .ok 100 ∧
          ∃ a' b',
            verifyAll (afterReset 1700000000)
                [firstUpdate] = .ok a' ∧
              verifyAll (afterReset 1731535999)
                  [firstUpdate] = .ok b' ∧
                ¬ SameStanding (afterReset 1700000000)
                  (afterReset 1731535999)
                  [firstUpdate] := by
  have hOld : firstScore 1700000000 = .ok 176 := by
    decide +kernel
  have hNew : firstScore 1731535999 = .ok 100 := by
    decide +kernel
  rcases bind_eq_ok.mp hOld with ⟨a', hA, hScore⟩
  rcases bind_eq_ok.mp hNew with ⟨b', hB, hScore'⟩
  refine ⟨rfl, hOld, hNew, a', b', hA, hB, ?_⟩
  intro hSame
  have hEqual := (hSame 1 a' b' (Nat.le_refl 1) hA hB).1
  rw [pure_eq_ok.mp hScore, pure_eq_ok.mp hScore'] at hEqual
  exact absurd hEqual (by decide)

/- Two identities of one day stand alike after a reset. -/
theorem reset_sameStanding_sameDay :
    ∃ a' b',
      verifyAll (afterReset 1700000000) [firstUpdate] =
          .ok a' ∧
        verifyAll (afterReset 1700000001) [firstUpdate] =
            .ok b' ∧
          (SameStanding (afterReset 1700000000)
                (afterReset 1700000001) [firstUpdate] ↔
              ∀ n (last : Verification),
                [firstUpdate][n]? = some last →
                  SameBonus (minted 1700000000)
                    (minted 1700000001)
                    ([firstUpdate].take n) last) ∧
            firstScore 1700000000 =
              firstScore 1700000001 := by
  have hOld : firstScore 1700000000 = .ok 176 := by
    decide +kernel
  have hNew : firstScore 1700000001 = .ok 176 := by
    decide +kernel
  rcases bind_eq_ok.mp hOld with ⟨a', hA, _⟩
  rcases bind_eq_ok.mp hNew with ⟨b', hB, _⟩
  exact ⟨a', b', hA, hB, reset_sameStanding_iff hA hB,
    hOld.trans hNew.symm⟩

end Entros
