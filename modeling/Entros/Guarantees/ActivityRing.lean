import Entros.Foundations.Thinning
import Entros.Guarantees.WeeklyGate

/-
  What the activity ring holds: the newest part of the weekly
  subsequence of all verification times, and all of it that a
  score can still depend on.

  Key definitions include:
    * `WeekApart`
    * `weeklyTimes`
    * `ScoresLike`

  Key theorems include:
    * `keptTimes_eq_weeklyTimes`
    * `binIndex_lt_of_spread`
    * `trustScore_congr`
    * `ring_holds_weeklyTimes`
-/

------------------------------------------------------------
-- Weekly Times
------------------------------------------------------------

namespace Entros

open Foundations
open Anchor

/- At least 604800 seconds lie between the two times. -/
def WeekApart (earlier later : Int64) : Prop :=
  earlier.toInt + 604800 ≤ later.toInt

instance : DecidableRel WeekApart := by
  intro earlier later
  unfold WeekApart
  infer_instance

/-
  The times that are the first one or at least a week after
  the last one kept.
-/
def weeklyTimes (times : List Int64) : List Int64 :=
  thin WeekApart times

/- The gate of the ring is the gap between the two times. -/
theorem recorded_eq_pushFar
    (now : Int64)
    (times : List Int64) :
    recorded now times = pushFar WeekApart times now := by
  cases times with
  | nil => rfl
  | cons newest older =>
      have hWeek : binSizeSecs.toInt = 604800 := rfl
      have hGate :
          binSizeSecs ≤ saturatingSub now newest ↔
            WeekApart newest now := by
        rw [le_saturatingSub_iff (by decide), WeekApart]
        omega
      rw [recorded, pushFar]
      exact if_congr hGate rfl rfl

/- What the gate lets through is the weekly subsequence. -/
theorem keptTimes_eq_weeklyTimes (times : List Int64) :
    keptTimes times = (weeklyTimes times).reverse := by
  rw [weeklyTimes, ← foldl_pushFar, keptTimes]
  congr 1
  funext kept time
  exact recorded_eq_pushFar time kept

end Entros

------------------------------------------------------------
-- Bins of Kept Times
------------------------------------------------------------

namespace Entros

open Foundations
open Anchor

variable {now : Int64}
variable {ring : ActivityRing}
variable {kept : List Int64}

/- An entry in use is found where the list has it. -/
theorem getElem?_of_keeps
    {i : ℕ}
    {time : Int64}
    (hKeeps : Keeps ring kept)
    (hEntry : ring.toList[i]? = some time)
    (hNonzero : time ≠ 0) :
    kept[i]? = some time := by
  rw [hKeeps.ring_eq] at hEntry
  have hMem : (kept ++ List.replicate 52 0)[i]? =
      some time := by
    rw [List.getElem?_take] at hEntry
    split_ifs at hEntry
    exact hEntry
  by_cases hInside : i < kept.length
  · rw [List.getElem?_append_left hInside] at hMem
    exact hMem
  · rw [List.getElem?_append_right (by omega)] at hMem
    exact absurd
      (List.eq_of_mem_replicate (List.mem_of_getElem? hMem))
      hNonzero

/- Of two kept times the older one is in a later bin. -/
theorem binIndex_lt_of_spread
    {i j : ℕ}
    {newer older : Int64}
    (hSpread : Spread kept)
    (hKept : ∀ time, time ∈ kept → 0 < time ∧ time ≤ now)
    (hNewer : kept[i]? = some newer)
    (hOlder : kept[j]? = some older)
    (hLess : i < j) :
    binIndex now newer < binIndex now older := by
  rcases hKept newer (List.mem_of_getElem? hNewer) with
    ⟨hPositive, hPast⟩
  rcases hKept older (List.mem_of_getElem? hOlder) with
    ⟨hPositive', hPast'⟩
  have hIndex : j = i + (j - i) := by omega
  rw [hIndex] at hOlder
  have hGap := hSpread.gap hNewer (j - i) older hOlder
  have hLe := Int64.le_iff_toInt_le.mp hPast
  rw [binIndex_eq hPositive hPast,
    binIndex_eq hPositive' hPast']
  omega

/- The score depends on the hit bins only. -/
theorem trustScore_congr
    {times times' : List Int64}
    (hBins : hitBins now times = hitBins now times')
    (creationTimestamp : Int64)
    (baseTrustIncrement maxTrustScore : UInt16) :
    trustScore now creationTimestamp times
        baseTrustIncrement maxTrustScore =
      trustScore now creationTimestamp times'
        baseTrustIncrement maxTrustScore := by
  cases hAge : checkedSub now creationTimestamp with
  | none =>
      rw [trustScore, trustScore, ageBonus_eq_error hAge]
      rfl
  | some age =>
      rw [trustScore_eq hAge, trustScore_eq hAge, uncapped,
        uncapped, hBins]

end Entros

------------------------------------------------------------
-- The Ring
------------------------------------------------------------

namespace Entros

open Foundations
open Anchor

/-
  For a score computed at `now` the bounded ring is as good as
  the complete list of kept times.
-/
structure ScoresLike
    (now : Int64)
    (ring kept : List Int64) : Prop where
  distinct :
    ∀ (i j : ℕ) (time time' : Int64),
      ring[i]? = some time →
        ring[j]? = some time' →
          time ≠ 0 →
            time' ≠ 0 →
              binIndex now time = binIndex now time' →
                i = j
  evicted :
    ∀ time ∈ kept.reverse.drop 52,
      numBins ≤ binIndex now time
  score :
    ∀ (creationTimestamp : Int64)
      (baseTrustIncrement maxTrustScore : UInt16),
      trustScore now creationTimestamp ring
          baseTrustIncrement maxTrustScore =
        trustScore now creationTimestamp kept
          baseTrustIncrement maxTrustScore

theorem scoresLike_of_keeps
    {now : Int64}
    {ring : ActivityRing}
    {kept : List Int64}
    (hKeeps : Keeps ring kept.reverse)
    (hSpread : Spread kept.reverse)
    (hKept :
      ∀ time, time ∈ kept.reverse → 0 < time ∧ time ≤ now) :
    ScoresLike now ring.toList kept where
  distinct := by
    intro i j time time' hTime hTime' hNonzero hNonzero' hBin
    have hFirst := getElem?_of_keeps hKeeps hTime hNonzero
    have hSecond := getElem?_of_keeps hKeeps hTime' hNonzero'
    rcases Nat.lt_trichotomy i j with hLess | hSame | hMore
    · have hLess := binIndex_lt_of_spread hSpread hKept hFirst
        hSecond hLess
      exact absurd hBin (Nat.ne_of_lt hLess)
    · exact hSame
    · have hMore := binIndex_lt_of_spread hSpread hKept
        hSecond hFirst hMore
      exact absurd hBin.symm (Nat.ne_of_lt hMore)
  evicted := by
    intro time hTime
    rcases List.mem_iff_getElem?.mp hTime with ⟨i, hIndex⟩
    rw [List.getElem?_drop] at hIndex
    have hLength := (List.getElem?_eq_some_iff.mp hIndex).1
    have hFirst :
        kept.reverse[0]? = some kept.reverse[0] :=
      List.getElem?_eq_getElem (by omega)
    have hNewest := hKept _ (List.mem_of_getElem? hFirst)
    have hLe := Int64.le_iff_toInt_le.mp hNewest.2
    rw [← Nat.zero_add (52 + i)] at hIndex
    have hGap := hSpread.gap hFirst (52 + i) time hIndex
    -- 52 weeks or more lie between it and the newest time
    exact numBins_le_binIndex
      (hKept time (List.mem_of_getElem? hIndex)).1 (by omega)
  score := by
    apply trustScore_congr
    rw [hitBins_keeps hKeeps hSpread hKept]
    apply Finset.Subset.antisymm
    · exact hitBins_subset fun time hTime _ =>
        List.mem_reverse.mp hTime
    · exact hitBins_subset fun time hTime _ =>
        List.mem_reverse.mpr hTime

/-
  For every sequence of verification times the ring holds the
  52 newest of the weekly times, and scores as all of them.
-/
theorem ring_holds_weeklyTimes
    {times : List Int64}
    (hTimes : TimesSound times) :
    (times.foldl recordVerification
        IdentityState.emptyRing).toList =
          ((weeklyTimes times).reverse ++
            List.replicate 52 0).take 52 ∧
      ∀ now,
        (∀ time, time ∈ times → time ≤ now) →
          ScoresLike now
            (times.foldl recordVerification
              IdentityState.emptyRing).toList
            (weeklyTimes times) := by
  have hNonzero (time : Int64) (hTime : time ∈ times) :
      time ≠ 0 := by
    rintro rfl
    exact absurd (hTimes.positive 0 hTime) (by decide)
  have hKeeps := keeps_keptTimes hNonzero
  have hSpread := spread_keptTimes times
  have hMember (time : Int64)
      (hTime : time ∈ keptTimes times) : time ∈ times :=
    mem_of_mem_keptTimes hTime
  rw [keptTimes_eq_weeklyTimes] at hKeeps hSpread hMember
  refine ⟨hKeeps.ring_eq, ?_⟩
  intro now hPast
  apply scoresLike_of_keeps hKeeps hSpread
  intro time hTime
  have hMem := hMember time hTime
  exact ⟨hTimes.positive time hMem, hPast time hMem⟩

/- Of day 0, day 6 and day 14 the ring holds two. -/
theorem ring_holds_weeklyTimes_fortnight :
    weeklyTimes [1700000000, 1700518400, 1701209600] =
        [1700000000, 1701209600] ∧
      ([1700000000, 1700518400, 1701209600].foldl
          recordVerification IdentityState.emptyRing).toList =
            ((weeklyTimes
              [1700000000, 1700518400,
                1701209600]).reverse ++
                  List.replicate 52 0).take 52 ∧
        ∀ now,
          (∀ time,
            time ∈ [1700000000, 1700518400, 1701209600] →
              time ≤ now) →
            ScoresLike now
              ([1700000000, 1700518400, 1701209600].foldl
                recordVerification
                IdentityState.emptyRing).toList
              (weeklyTimes
                [1700000000, 1700518400, 1701209600]) := by
  have hTimes :
      TimesSound [1700000000, 1700518400, 1701209600] := by
    constructor
    · intro time hTime
      simp only [List.mem_cons, List.not_mem_nil, or_false]
        at hTime
      rcases hTime with rfl | rfl | rfl
      · decide
      · decide
      · decide
    · decide
  exact ⟨by decide +kernel, ring_holds_weeklyTimes hTimes⟩

end Entros
