import Mathlib.Algebra.BigOperators.Intervals
import Mathlib.Algebra.Order.BigOperators.Group.Finset
import Entros.Anchor.Score
import Entros.Foundations.Machine
import Entros.Foundations.Sqrt

/-
  The trust score in terms of natural numbers: the sum of the
  weights of the bins that hold an entry, and a bonus for the
  age.

  Key definitions include:
    * `hitBins`
    * `weight`
    * `points`
    * `agePoints`
    * `uncapped`

  Key theorems include:
    * `isqrt_eq`
    * `toNat_baseScore`
    * `ageBonus_eq`
    * `trustScore_eq`
    * `trustScore_le`
-/

------------------------------------------------------------
-- Integer Square Root
------------------------------------------------------------

namespace Entros

open Foundations

namespace Anchor

/- The loop reaches the root before it runs out of fuel. -/
theorem isqrtLoop_eq
    {n x y : UInt64}
    {fuel : ℕ}
    (hn : 0 < n.toNat)
    (hAbove : Nat.sqrt n.toNat ≤ x.toNat)
    (hBelow : x.toNat ≤ n.toNat)
    (hGuess : y.toNat = newton n.toNat x.toNat)
    (hFuel : x.toNat < fuel) :
    isqrtLoop n fuel x y =
      .ok (UInt64.ofNat (Nat.sqrt n.toNat)) := by
  induction fuel generalizing x y with
  | zero => exact absurd hFuel (Nat.not_lt_zero _)
  | succ fuel ih =>
      have hRoot : 0 < Nat.sqrt n.toNat := Nat.sqrt_pos.mpr hn
      have hx : 0 < x.toNat := hRoot.trans_le hAbove
      unfold isqrtLoop
      by_cases hDescends : y < x
      · rw [if_pos hDescends]
        have hLess : y.toNat < x.toNat :=
          UInt64.lt_iff_toNat_lt.mp hDescends
        have hAbove' : Nat.sqrt n.toNat ≤ y.toNat := by
          rw [hGuess]
          exact sqrt_le_newton hx
        have hPositive : 0 < y.toNat := hRoot.trans_le hAbove'
        have hNonzero : y ≠ 0 := by
          rintro rfl
          exact absurd hPositive (by decide)
        have hSum : y.toNat + (n / y).toNat < 2 ^ 64 := by
          have hRound := newton_sum_le hAbove' hPositive
            (hLess.trans_le hBelow)
          have hRange := n.toNat_lt
          rw [UInt64.toNat_div]
          omega
        have hNext :
            ((y + n / y) / 2).toNat =
              newton n.toNat y.toNat := by
          rw [UInt64.toNat_div, UInt64.toNat_add,
            Nat.mod_eq_of_lt hSum, UInt64.toNat_div]
          rfl
        have hLoop := ih hAbove' (hLess.le.trans hBelow)
          hNext (by omega)
        rw [require, if_pos hNonzero, checkedAdd64,
          if_pos hSum]
        exact hLoop
      · rw [if_neg hDescends]
        have hStop : x.toNat ≤ newton n.toNat x.toNat := by
          rw [← hGuess]
          exact Nat.le_of_not_lt fun hLess =>
            hDescends (UInt64.lt_iff_toNat_lt.mpr hLess)
        rw [sqrt_eq_of_le_newton hx hAbove hStop,
          UInt64.ofNat_toNat]

/- `isqrt` is the integer square root. -/
theorem isqrt_eq (n : UInt64) :
    isqrt n = .ok (UInt64.ofNat (Nat.sqrt n.toNat)) := by
  unfold isqrt
  by_cases hZero : n = 0
  · subst hZero
    rfl
  · rw [if_neg hZero]
    have hn : 0 < n.toNat := by
      apply Nat.pos_of_ne_zero
      intro hNat
      exact hZero (UInt64.toNat_inj.mp hNat)
    apply isqrtLoop_eq hn (Nat.sqrt_le_self _)
      (Nat.le_refl _) _ (Nat.lt_succ_self _)
    -- the first guess is half of `n`, rounded up
    have hRange := n.toNat_lt
    rw [newton, Nat.div_self hn, UInt64.toNat_add,
      UInt64.toNat_div, UInt64.toNat_mod]
    have hTwo : (2 : UInt64).toNat = 2 := rfl
    rw [hTwo]
    omega

end Anchor

end Entros

------------------------------------------------------------
-- Bins
------------------------------------------------------------

namespace Entros

open Foundations

namespace Anchor

/- The entry lies in the bin; zero stands for no entry. -/
def InBin (now : Int64) (k : ℕ) (time : Int64) : Prop :=
  time ≠ 0 ∧ binIndex now time = k

instance (now : Int64) (k : ℕ) (time : Int64) :
    Decidable (InBin now k time) := by
  unfold InBin
  infer_instance

/- The bins of the scoring window that hold an entry. -/
def hitBins (now : Int64) (times : List Int64) : Finset ℕ :=
  (Finset.range numBins).filter fun k =>
    ∃ time ∈ times, InBin now k time

theorem mem_hitBins
    {now : Int64}
    {times : List Int64}
    {k : ℕ} :
    k ∈ hitBins now times ↔
      k < numBins ∧ ∃ time ∈ times, InBin now k time := by
  rw [hitBins, Finset.mem_filter, Finset.mem_range]

/- More entries hit more bins. -/
theorem hitBins_subset
    {now : Int64}
    {times times' : List Int64}
    (hTimes :
      ∀ time, time ∈ times → time ≠ 0 → time ∈ times') :
    hitBins now times ⊆ hitBins now times' := by
  intro k hk
  rcases mem_hitBins.mp hk with ⟨hBound, time, hTime, hIn⟩
  exact mem_hitBins.mpr
    ⟨hBound, time, hTimes time hTime hIn.1, hIn⟩

/- Marking one entry marks its bin. -/
theorem getElem?_markBin
    {now : Int64}
    {bins : List Bool}
    {time : Int64}
    {k : ℕ}
    (hBins : bins.length = numBins) :
    (markBin now bins time)[k]? = some true ↔
      bins[k]? = some true ∨
        k < numBins ∧ InBin now k time := by
  unfold markBin InBin
  split_ifs with hZero hBound
  · simp [hZero]
  · by_cases hk : binIndex now time = k
    · subst hk
      rw [List.getElem?_set_self (by omega)]
      simp [hZero, hBound]
    · rw [List.getElem?_set_ne hk]
      simp [hk]
  · constructor
    · exact .inl
    · rintro (hOld | ⟨hk, _, rfl⟩)
      · exact hOld
      · exact absurd hk hBound

theorem length_markBin
    (now : Int64)
    (bins : List Bool)
    (time : Int64) :
    (markBin now bins time).length = bins.length := by
  unfold markBin
  split_ifs
  · rfl
  · exact List.length_set
  · rfl

theorem foldl_markBin
    {now : Int64}
    {times : List Int64}
    {bins : List Bool}
    {k : ℕ}
    (hBins : bins.length = numBins) :
    (times.foldl (markBin now) bins).length = numBins ∧
      ((times.foldl (markBin now) bins)[k]? = some true ↔
        bins[k]? = some true ∨
          k < numBins ∧
            ∃ time ∈ times, InBin now k time) := by
  induction times generalizing bins with
  | nil => simp [hBins]
  | cons time times ih =>
      rw [List.foldl_cons]
      rcases ih ((length_markBin now bins time).trans hBins)
        with ⟨hLength, hMarked⟩
      refine ⟨hLength, ?_⟩
      rw [hMarked, getElem?_markBin hBins]
      simp only [List.mem_cons, exists_eq_or_imp]
      tauto

theorem length_activeBins
    (now : Int64)
    (times : List Int64) :
    (activeBins now times).length = numBins :=
  (foldl_markBin (k := 0) rfl).1

/- A bin is active when an entry lies in it. -/
theorem getElem?_activeBins
    {now : Int64}
    {times : List Int64}
    {k : ℕ} :
    (activeBins now times)[k]? = some true ↔
      k ∈ hitBins now times := by
  have hStart :
      (List.replicate numBins false)[k]? ≠ some true := by
    intro hSome
    have hMem := List.mem_of_getElem? hSome
    exact Bool.noConfusion (List.eq_of_mem_replicate hMem)
  have hMarked :
      (activeBins now times)[k]? = some true ↔
        (List.replicate numBins false)[k]? = some true ∨
          k < numBins ∧ ∃ time ∈ times, InBin now k time :=
    (foldl_markBin rfl).2
  rw [mem_hitBins]
  exact hMarked.trans (or_iff_right hStart)

end Anchor

end Entros

------------------------------------------------------------
-- Points
------------------------------------------------------------

namespace Entros

open Foundations

namespace Anchor

/- What an active bin is worth. -/
def weight (baseTrustIncrement : UInt16) (k : ℕ) : ℕ :=
  baseTrustIncrement.toNat * (numBins - k) / numBins

/- What a set of bins is worth. -/
def points
    (baseTrustIncrement : UInt16)
    (bins : Finset ℕ) : ℕ :=
  ∑ k ∈ bins, weight baseTrustIncrement k

variable {baseTrustIncrement : UInt16}

theorem weight_le (k : ℕ) :
    weight baseTrustIncrement k ≤
      baseTrustIncrement.toNat := by
  have hFactor : numBins - k ≤ numBins := Nat.sub_le _ _
  apply Nat.div_le_of_le_mul
  rw [Nat.mul_comm numBins]
  exact Nat.mul_le_mul_left _ hFactor

theorem toNat_binWeight (k : ℕ) :
    (binWeight baseTrustIncrement k).toNat =
      weight baseTrustIncrement k := by
  have hBase := baseTrustIncrement.toNat_lt
  have hFactor :
      (UInt64.ofNat (numBins - k)).toNat = numBins - k := by
    apply UInt64.toNat_ofNat_of_lt'
    exact (Nat.sub_le numBins k).trans_lt (by decide)
  have hProduct :
      baseTrustIncrement.toUInt64.toNat *
          (UInt64.ofNat (numBins - k)).toNat < 2 ^ 64 := by
    rw [hFactor, UInt16.toNat_toUInt64]
    have hLe := Nat.mul_le_mul hBase.le (Nat.sub_le numBins k)
    exact hLe.trans_lt (by decide)
  rw [binWeight, UInt64.toNat_div,
    toNat_saturatingMul64 hProduct, hFactor,
    UInt16.toNat_toUInt64]
  rfl

/- The loop adds up the weights of the active bins. -/
theorem toNat_foldl_binWeight
    {bins : List Bool}
    {n : ℕ}
    {score : UInt64}
    (hBound :
      score.toNat + bins.length * 65536 < 2 ^ 64) :
    ((bins.zipIdx n).foldl
        (fun score entry =>
          if entry.1 then
            saturatingAdd64 score
              (binWeight baseTrustIncrement entry.2)
          else
            score)
        score).toNat =
      score.toNat +
        ∑ i ∈ Finset.range bins.length,
          if bins[i]? = some true then
            weight baseTrustIncrement (n + i)
          else
            0 := by
  induction bins generalizing n score with
  | nil => simp
  | cons active bins ih =>
      have hWeight :
          weight baseTrustIncrement n < 65536 :=
        (weight_le n).trans_lt baseTrustIncrement.toNat_lt
      have hShift (i : ℕ) : n + 1 + i = n + (i + 1) := by
        omega
      rw [List.length_cons] at hBound
      rw [List.zipIdx_cons, List.foldl_cons,
        List.length_cons, Finset.sum_range_succ']
      simp only [List.getElem?_cons_succ,
        List.getElem?_cons_zero, Nat.add_zero,
        Option.some.injEq]
      cases active with
      | false =>
          have hRest :
              score.toNat + bins.length * 65536 < 2 ^ 64 := by
            apply Nat.lt_of_le_of_lt _ hBound
            exact Nat.add_le_add_left
              (Nat.mul_le_mul_right _ (Nat.le_succ _)) _
          rw [if_neg Bool.false_ne_true, ih hRest]
          simp [hShift]
      | true =>
          have hSum :
              (saturatingAdd64 score
                  (binWeight baseTrustIncrement n)).toNat =
                score.toNat + weight baseTrustIncrement n := by
            rw [toNat_saturatingAdd64, toNat_binWeight]
            rw [toNat_binWeight]
            omega
          have hRest :
              (saturatingAdd64 score
                    (binWeight baseTrustIncrement n)).toNat +
                  bins.length * 65536 < 2 ^ 64 := by omega
          rw [if_pos rfl, ih hRest, hSum]
          simp only [hShift, if_true]
          omega

theorem toNat_baseScore
    (now : Int64)
    (times : List Int64) :
    (baseScore baseTrustIncrement
        (activeBins now times)).toNat =
      points baseTrustIncrement (hitBins now times) := by
  have hLength := length_activeBins now times
  rw [baseScore, toNat_foldl_binWeight, hLength, points,
    hitBins, Finset.sum_filter]
  · have hZero : (0 : UInt64).toNat = 0 := rfl
    rw [hZero, Nat.zero_add]
    refine Finset.sum_congr rfl fun k hk => ?_
    rw [Nat.zero_add]
    refine if_congr ?_ rfl rfl
    rw [getElem?_activeBins, mem_hitBins]
    exact and_iff_right (Finset.mem_range.mp hk)
  · rw [hLength]
    decide

/- A window full of active bins is worth little. -/
theorem points_le (now : Int64) (times : List Int64) :
    points baseTrustIncrement (hitBins now times) ≤
      numBins * baseTrustIncrement.toNat := by
  have hCard : (hitBins now times).card ≤ numBins := by
    have hFilter := Finset.card_filter_le
      (Finset.range numBins)
      fun k => ∃ time ∈ times, InBin now k time
    rw [Finset.card_range] at hFilter
    exact hFilter
  have hSum := Finset.sum_le_card_nsmul
    (hitBins now times) (weight baseTrustIncrement)
    baseTrustIncrement.toNat fun k _ => weight_le k
  exact hSum.trans (Nat.mul_le_mul_right _ hCard)

end Anchor

end Entros

------------------------------------------------------------
-- Scores
------------------------------------------------------------

namespace Entros

open Foundations

namespace Anchor

/- The bonus for an age in seconds. -/
def agePoints (ageSeconds : Int64) : ℕ :=
  4 * Nat.sqrt
    (min (ageSeconds.toInt.tdiv 86400).toNat 365)

theorem agePoints_le (ageSeconds : Int64) :
    agePoints ageSeconds ≤ 76 := by
  have hRoot :
      Nat.sqrt
          (min (ageSeconds.toInt.tdiv 86400).toNat 365) ≤
        Nat.sqrt 365 :=
    Nat.sqrt_le_sqrt (Nat.min_le_right _ _)
  have hYear : 19 = Nat.sqrt 365 :=
    Nat.eq_sqrt.mpr (by decide)
  unfold agePoints
  omega

/- A negative age counts as none. -/
theorem toNat_ageDays (ageSeconds : Int64) :
    (max (ageSeconds / 86400) 0).toUInt64.toNat =
      (ageSeconds.toInt.tdiv 86400).toNat := by
  have hDays :
      (ageSeconds / 86400).toInt =
        ageSeconds.toInt.tdiv 86400 :=
    Int64.toInt_div_of_ne_right ageSeconds 86400 (by decide)
  rw [← hDays]
  change
    (if ageSeconds / 86400 ≤ 0 then (0 : Int64)
      else ageSeconds / 86400).toUInt64.toNat = _
  split_ifs with hNegative
  · have hLe := Int64.le_iff_toInt_le.mp hNegative
    exact (Int.toNat_of_nonpos hLe).symm
  · have hLe : 0 ≤ ageSeconds / 86400 :=
      Int64.le_of_lt (Int64.not_le.mp hNegative)
    exact Int64.toNat_toUInt64_of_le hLe

theorem toNat_min (a b : UInt64) :
    (min a b).toNat = min a.toNat b.toNat := by
  change (if a ≤ b then a else b).toNat = _
  split_ifs with hLe
  · exact (Nat.min_eq_left
      (UInt64.le_iff_toNat_le.mp hLe)).symm
  · exact (Nat.min_eq_right (Nat.le_of_not_le fun hNat =>
      hLe (UInt64.le_iff_toNat_le.mpr hNat))).symm

theorem ageBonus_eq
    {now creationTimestamp ageSeconds : Int64}
    (hAge :
      checkedSub now creationTimestamp = some ageSeconds) :
    ageBonus now creationTimestamp =
      .ok (UInt64.ofNat (agePoints ageSeconds)) := by
  have hYear : (365 : UInt64).toNat = 365 := rfl
  unfold ageBonus
  rw [hAge]
  refine bind_eq_ok.mpr ⟨ageSeconds, rfl, ?_⟩
  refine bind_eq_ok.mpr ⟨_, isqrt_eq _, ?_⟩
  rw [toNat_min, toNat_ageDays, hYear]
  apply congrArg Except.ok
  rw [agePoints, Nat.mul_comm, UInt64.ofNat_mul]
  rfl

/- Without an age there is no score. -/
theorem ageBonus_eq_error
    {now creationTimestamp : Int64}
    (hAge : checkedSub now creationTimestamp = none) :
    ageBonus now creationTimestamp =
      .error (.anchor .arithmeticOverflow) := by
  unfold ageBonus
  rw [hAge]
  rfl

/- The score before it is capped. -/
def uncapped
    (now ageSeconds : Int64)
    (times : List Int64)
    (baseTrustIncrement : UInt16) : ℕ :=
  points baseTrustIncrement (hitBins now times) +
    agePoints ageSeconds

theorem trustScore_eq
    {now creationTimestamp ageSeconds : Int64}
    {times : List Int64}
    {baseTrustIncrement maxTrustScore : UInt16}
    (hAge :
      checkedSub now creationTimestamp = some ageSeconds) :
    trustScore now creationTimestamp times
        baseTrustIncrement maxTrustScore =
      .ok (UInt16.ofNat
        (min
          (uncapped now ageSeconds times baseTrustIncrement)
          maxTrustScore.toNat)) := by
  have hBonus := agePoints_le ageSeconds
  have hPoints :
      points baseTrustIncrement (hitBins now times) ≤
        numBins * baseTrustIncrement.toNat :=
    points_le now times
  have hBase := baseTrustIncrement.toNat_lt
  have hBins : numBins = 12 := rfl
  have hBonusNat :
      (UInt64.ofNat (agePoints ageSeconds)).toNat =
        agePoints ageSeconds :=
    UInt64.toNat_ofNat_of_lt' (hBonus.trans_lt (by decide))
  have hTotal :
      (saturatingAdd64
          (baseScore baseTrustIncrement
            (activeBins now times))
          (UInt64.ofNat (agePoints ageSeconds))).toNat =
        uncapped now ageSeconds times baseTrustIncrement := by
    rw [toNat_saturatingAdd64, toNat_baseScore, hBonusNat]
    · rfl
    · rw [toNat_baseScore, hBonusNat]
      rw [hBins] at hPoints
      omega
  unfold trustScore
  refine bind_eq_ok.mpr ⟨_, ageBonus_eq hAge, ?_⟩
  apply congrArg Except.ok
  apply UInt16.toNat_inj.mp
  have hMax := maxTrustScore.toNat_lt
  rw [UInt64.toNat_toUInt16, toNat_min, hTotal,
    UInt16.toNat_toUInt64, UInt16.toNat_ofNat']

theorem trustScore_le
    {now creationTimestamp : Int64}
    {times : List Int64}
    {baseTrustIncrement maxTrustScore score : UInt16}
    (hScore :
      trustScore now creationTimestamp times
        baseTrustIncrement maxTrustScore = .ok score) :
    score ≤ maxTrustScore := by
  cases hAge : checkedSub now creationTimestamp with
  | none =>
      rw [trustScore, ageBonus_eq_error hAge] at hScore
      cases hScore
  | some ageSeconds =>
      rw [trustScore_eq hAge] at hScore
      have hMax := maxTrustScore.toNat_lt
      rw [← Except.ok.inj hScore, UInt16.le_iff_toNat_le,
        UInt16.toNat_ofNat_of_lt']
      · exact Nat.min_le_right _ _
      · exact (Nat.min_le_right _ _).trans_lt hMax

end Anchor

end Entros

------------------------------------------------------------
-- Comparing Scores
------------------------------------------------------------

namespace Entros

open Foundations

namespace Anchor

variable {now age age' : Int64}
variable {creationTimestamp creationTimestamp' : Int64}
variable {times times' : List Int64}
variable {baseTrustIncrement maxTrustScore : UInt16}

/- Scores agree when they do so up to the cap. -/
theorem trustScore_eq_iff
    (hAge : checkedSub now creationTimestamp = some age)
    (hAge' : checkedSub now creationTimestamp' = some age') :
    trustScore now creationTimestamp times
          baseTrustIncrement maxTrustScore =
        trustScore now creationTimestamp' times'
          baseTrustIncrement maxTrustScore ↔
      min (uncapped now age times baseTrustIncrement)
          maxTrustScore.toNat =
        min (uncapped now age' times' baseTrustIncrement)
          maxTrustScore.toNat := by
  have hMax := maxTrustScore.toNat_lt
  have hSmall (total : ℕ) :
      min total maxTrustScore.toNat < 2 ^ 16 :=
    (Nat.min_le_right _ _).trans_lt hMax
  rw [trustScore_eq hAge, trustScore_eq hAge']
  constructor
  · intro hScores
    have hNat := congrArg UInt16.toNat
      (Except.ok.inj hScores)
    rw [UInt16.toNat_ofNat_of_lt' (hSmall _),
      UInt16.toNat_ofNat_of_lt' (hSmall _)] at hNat
    exact hNat
  · intro hNat
    rw [hNat]

/- Bins that only the longer list hits are worth nothing. -/
def Covers
    (now : Int64)
    (baseTrustIncrement : UInt16)
    (times times' : List Int64) : Prop :=
  ∀ k, k ∈ hitBins now times' → k ∉ hitBins now times →
    weight baseTrustIncrement k = 0

theorem points_eq_iff
    (hSubset : hitBins now times ⊆ hitBins now times') :
    points baseTrustIncrement (hitBins now times) =
        points baseTrustIncrement (hitBins now times') ↔
      Covers now baseTrustIncrement times times' := by
  have hSplit := Finset.sum_sdiff hSubset
    (f := weight baseTrustIncrement)
  unfold points Covers
  constructor
  · intro hEqual k hk hMissing
    have hRest :
        ∑ k ∈ hitBins now times' \ hitBins now times,
          weight baseTrustIncrement k = 0 := by omega
    exact Finset.sum_eq_zero_iff.mp hRest k
      (Finset.mem_sdiff.mpr ⟨hk, hMissing⟩)
  · intro hCovers
    have hRest :
        ∑ k ∈ hitBins now times' \ hitBins now times,
          weight baseTrustIncrement k = 0 := by
      apply Finset.sum_eq_zero
      intro k hk
      rcases Finset.mem_sdiff.mp hk with ⟨hk, hMissing⟩
      exact hCovers k hk hMissing
    omega

/-
  Leaving entries out keeps the score exactly when nothing of
  value is lost or the rest already reaches the cap.
-/
theorem trustScore_covers_iff
    (hAge : checkedSub now creationTimestamp = some age)
    (hSubset : hitBins now times ⊆ hitBins now times') :
    trustScore now creationTimestamp times
          baseTrustIncrement maxTrustScore =
        trustScore now creationTimestamp times'
          baseTrustIncrement maxTrustScore ↔
      Covers now baseTrustIncrement times times' ∨
        maxTrustScore.toNat ≤
          uncapped now age times baseTrustIncrement := by
  have hLess :
      points baseTrustIncrement (hitBins now times) ≤
        points baseTrustIncrement (hitBins now times') :=
    Finset.sum_le_sum_of_subset hSubset
  rw [trustScore_eq_iff hAge hAge,
    ← points_eq_iff hSubset]
  unfold uncapped
  omega

end Anchor

end Entros
