import Mathlib.Data.List.Induction
import Entros.Anchor.Score
import Entros.Foundations.Machine

/-
  The activity ring as the newest part of a list of times.

  Key definitions include:
    * `recorded`
    * `Keeps`
    * `Spread`
    * `keptTimes`

  Key theorems include:
    * `toList_recordVerification`
    * `Keeps.record`
    * `Keeps.mem_iff`
    * `Spread.gap`
    * `keeps_keptTimes`
-/

------------------------------------------------------------
-- Shifting
------------------------------------------------------------

namespace Entros

open Foundations

namespace Anchor

/- What the first rounds of the loop have moved. -/
theorem getElem?_shift
    {k : ℕ}
    {ring : List Int64}
    (hBound : k + 1 ≤ ring.length)
    (i : ℕ) :
    ((List.range' 1 k).reverse.foldl
        (fun shifted i =>
          shifted.set i (shifted.getD (i - 1) 0))
        ring)[i]? =
      if 1 ≤ i ∧ i ≤ k then ring[i - 1]? else ring[i]? := by
  induction k generalizing ring with
  | zero =>
      rw [if_neg (by omega)]
      rfl
  | succ k ih =>
      have hLength :
          (ring.set (1 + k)
            (ring.getD (1 + k - 1) 0)).length =
              ring.length := List.length_set
      have hGet :
          ring[k]? = some (ring.getD (1 + k - 1) 0) := by
        rw [Nat.add_sub_cancel_left,
          List.getD_eq_getElem?_getD,
          List.getElem?_eq_getElem (by omega)]
        rfl
      rw [List.range'_1_concat, List.reverse_concat,
        List.foldl_cons, ih (by omega)]
      by_cases hLast : i = k + 1
      · subst hLast
        rw [if_neg (by omega), if_pos (by omega),
          Nat.add_sub_cancel, hGet, Nat.add_comm 1 k,
          List.getElem?_set_self (by omega)]
      · by_cases hInside : 1 ≤ i ∧ i ≤ k
        · rw [if_pos hInside, if_pos (by omega),
            List.getElem?_set_ne (by omega)]
        · rw [if_neg hInside, if_neg (by omega),
            List.getElem?_set_ne (by omega)]

/- The shift drops the oldest entry. -/
theorem shiftRing_set
    {ring : List Int64}
    (hRing : ring ≠ [])
    (now : Int64) :
    (shiftRing ring).set 0 now =
      now :: ring.dropLast := by
  have hPositive : 0 < ring.length :=
    List.length_pos_iff.mpr hRing
  apply List.ext_getElem?
  intro i
  cases i with
  | zero =>
      rw [List.getElem?_set_self]
      · rfl
      · rw [shiftRing, length_foldl_set]
        exact hPositive
  | succ i =>
      rw [List.getElem?_set_ne (Nat.succ_ne_zero i).symm,
        shiftRing, getElem?_shift (by omega),
        List.getElem?_cons_succ, List.getElem?_dropLast]
      by_cases hInside : i < ring.length - 1
      · rw [if_pos (by omega), if_pos hInside,
          Nat.succ_eq_add_one, Nat.add_sub_cancel]
      · rw [if_neg (by omega), if_neg hInside,
          List.getElem?_eq_none_iff]
        omega

/- Recording puts the time in front, or does nothing. -/
theorem toList_recordVerification
    (ring : ActivityRing)
    (now : Int64) :
    (recordVerification ring now).toList =
      if ring.head = 0 ∨
          binSizeSecs ≤ saturatingSub now ring.head then
        now :: ring.toList.dropLast
      else
        ring.toList := by
  have hRing : ring.toList ≠ [] := by
    apply List.ne_nil_of_length_pos
    rw [ring.toList_length]
    decide
  by_cases hGate :
      ring.head = 0 ∨
        binSizeSecs ≤ saturatingSub now ring.head
  · rw [if_pos hGate, ← shiftRing_set hRing now]
    exact congrArg List.Vector.toList (if_pos hGate)
  · rw [if_neg hGate]
    exact congrArg List.Vector.toList (if_neg hGate)

end Anchor

end Entros

------------------------------------------------------------
-- Recorded Times
------------------------------------------------------------

namespace Entros

open Foundations

namespace Anchor

/-
  All times that have passed the weekly gate, newest first,
  after a verification at `now`.
-/
def recorded
    (now : Int64) : List Int64 → List Int64
| [] => [now]
| newest :: older =>
    if binSizeSecs ≤ saturatingSub now newest then
      now :: newest :: older
    else
      newest :: older

/- The ring consists of the newest of the times. -/
structure Keeps
    (ring : ActivityRing)
    (times : List Int64) : Prop where
  ring_eq :
    ring.toList = (times ++ List.replicate 52 0).take 52
  nonzero : ∀ time, time ∈ times → time ≠ 0

namespace Keeps

variable {ring : ActivityRing} {times : List Int64}

/- An empty ring keeps nothing. -/
theorem empty : Keeps IdentityState.emptyRing [] where
  ring_eq := rfl
  nonzero := by simp

/- The entries that are in use. -/
theorem mem_iff
    (hKeeps : Keeps ring times)
    {time : Int64} :
    (time ∈ ring.toList ∧ time ≠ 0) ↔
      time ∈ times.take 52 := by
  rw [hKeeps.ring_eq, List.take_append, List.mem_append]
  constructor
  · rintro ⟨hIn | hIn, hTime⟩
    · exact hIn
    · exact absurd
        (List.eq_of_mem_replicate (List.mem_of_mem_take hIn))
        hTime
  · intro hIn
    exact ⟨.inl hIn,
      hKeeps.nonzero time (List.mem_of_mem_take hIn)⟩

/- The entries in use come first. -/
theorem filter_eq (hKeeps : Keeps ring times) :
    ring.toList.filter (fun time => decide (time ≠ 0)) =
      times.take 52 := by
  have hTimes :
      (times.take 52).filter
          (fun time => decide (time ≠ 0)) =
        times.take 52 := by
    apply List.filter_eq_self.mpr
    intro time hTime
    exact decide_eq_true
      (hKeeps.nonzero time (List.mem_of_mem_take hTime))
  rw [hKeeps.ring_eq, List.take_append, List.filter_append,
    hTimes, List.take_replicate, List.filter_replicate,
    if_neg (by simp), List.append_nil]

theorem head_eq (hKeeps : Keeps ring times) :
    ring.head = times.head?.getD 0 := by
  have hHead : ring.toList.head? = some ring.head := by
    rw [← List.Vector.cons_head_tail ring]
    rfl
  rw [hKeeps.ring_eq, List.head?_take, if_neg (by decide)]
    at hHead
  cases times with
  | nil => exact (Option.some.inj hHead).symm
  | cons newest older => exact (Option.some.inj hHead).symm

/- The ring is empty when nothing has been recorded. -/
theorem emptyRing_iff (hKeeps : Keeps ring times) :
    ring = IdentityState.emptyRing ↔ times = [] := by
  constructor
  · intro hEmpty
    cases times with
    | nil => rfl
    | cons newest older =>
        have hHead := hKeeps.head_eq
        rw [hEmpty] at hHead
        exact absurd hHead.symm
          (hKeeps.nonzero newest (List.mem_cons_self ..))
  · intro hTimes
    subst hTimes
    apply Subtype.ext
    exact hKeeps.ring_eq

/- Recording in the ring records in the list. -/
theorem record
    {now : Int64}
    (hKeeps : Keeps ring times)
    (hNow : now ≠ 0) :
    Keeps (recordVerification ring now)
      (recorded now times) := by
  have hHead := hKeeps.head_eq
  have hDrop :
      (now :: ring.toList.dropLast) =
        ((now :: times) ++ List.replicate 52 0).take 52 := by
    have hLength :
        52 < (times ++ List.replicate 52 (0 : Int64)).length ∨
          times = [] := by
      cases times with
      | nil => exact .inr rfl
      | cons newest older => simp
    rcases hLength with hLength | rfl
    · rw [hKeeps.ring_eq, List.dropLast_take hLength]
      rfl
    · rw [hKeeps.ring_eq]
      rfl
  cases times with
  | nil =>
      refine ⟨?_, by simpa [recorded] using hNow⟩
      rw [toList_recordVerification, if_pos (.inl hHead),
        hDrop]
      rfl
  | cons newest older =>
      have hNewest :=
        hKeeps.nonzero newest (List.mem_cons_self ..)
      have hSame : ring.head = newest := hHead
      rw [recorded]
      by_cases hGate :
          binSizeSecs ≤ saturatingSub now newest
      · rw [if_pos hGate]
        refine ⟨?_, ?_⟩
        · rw [toList_recordVerification, hSame,
            if_pos (.inr hGate), hDrop]
        · intro time hTime
          rcases List.mem_cons.mp hTime with rfl | hOlder
          · exact hNow
          · exact hKeeps.nonzero time hOlder
      · rw [if_neg hGate]
        refine ⟨?_, hKeeps.nonzero⟩
        rw [toList_recordVerification, hSame,
          if_neg (not_or.mpr ⟨hNewest, hGate⟩)]
        exact hKeeps.ring_eq

end Keeps

theorem recorded_ne_nil
    (now : Int64)
    (times : List Int64) :
    recorded now times ≠ [] := by
  cases times with
  | nil => simp [recorded]
  | cons newest older =>
      rw [recorded]
      split_ifs
      · simp
      · simp

/- Every recorded time is new or was recorded before. -/
theorem mem_recorded
    {now time : Int64}
    {times : List Int64}
    (hTime : time ∈ recorded now times) :
    time = now ∨ time ∈ times := by
  cases times with
  | nil => exact .inl (List.mem_singleton.mp hTime)
  | cons newest older =>
      rw [recorded] at hTime
      split_ifs at hTime
      · exact List.mem_cons.mp hTime
      · exact .inr hTime

theorem length_recorded_le
    (now : Int64)
    (times : List Int64) :
    (recorded now times).length ≤ times.length + 1 := by
  cases times with
  | nil => exact Nat.le_refl 1
  | cons newest older =>
      rw [recorded]
      split_ifs
      · exact Nat.le_refl _
      · exact Nat.le_succ _

end Anchor

end Entros

------------------------------------------------------------
-- Weekly Gaps
------------------------------------------------------------

namespace Entros

open Foundations

namespace Anchor

/- Neighbouring times are at least a week apart. -/
def Spread (times : List Int64) : Prop :=
  ∀ i (newer older : Int64),
    times[i]? = some newer →
      times[i + 1]? = some older →
        older.toInt + 604800 ≤ newer.toInt

namespace Spread

variable {times : List Int64}

theorem empty : Spread [] := by
  intro i newer older hNewer
  cases hNewer

/- The gate lets a time pass after a week. -/
theorem record
    (hSpread : Spread times)
    (now : Int64) :
    Spread (recorded now times) := by
  cases times with
  | nil =>
      intro i newer older _ hOlder
      cases hOlder
  | cons newest rest =>
      rw [recorded]
      split_ifs with hGate
      · have hGap :
            newest.toInt + 604800 ≤ now.toInt := by
          have hWeek : binSizeSecs.toInt = 604800 := rfl
          have hLe := (le_saturatingSub_iff
            (by decide)).mp hGate
          omega
        intro i newer older hNewer hOlder
        cases i with
        | zero =>
            rw [← Option.some.inj hNewer,
              ← Option.some.inj hOlder]
            exact hGap
        | succ i => exact hSpread i newer older hNewer hOlder
      · exact hSpread

/- The gaps add up. -/
theorem gap
    {i : ℕ}
    {newer : Int64}
    (hSpread : Spread times)
    (hNewer : times[i]? = some newer)
    (k : ℕ)
    (older : Int64)
    (hOlder : times[i + k]? = some older) :
    older.toInt + 604800 * k ≤ newer.toInt := by
  induction k generalizing older with
  | zero =>
      have hSame := Option.some.inj (hNewer.symm.trans hOlder)
      rw [hSame]
      omega
  | succ k ih =>
      have hBound :=
        (List.getElem?_eq_some_iff.mp hOlder).1
      have hInside : i + k < times.length := by omega
      have hBetween : times[i + k]? = some times[i + k] :=
        List.getElem?_eq_getElem hInside
      have hBefore := ih _ hBetween
      have hStep := hSpread _ _ _ hBetween hOlder
      omega

end Spread

/- The times that a sequence of verifications records. -/
def keptTimes (times : List Int64) : List Int64 :=
  times.foldl (fun kept time => recorded time kept) []

theorem keptTimes_append
    (times : List Int64)
    (time : Int64) :
    keptTimes (times ++ [time]) =
      recorded time (keptTimes times) :=
  List.foldl_concat _ _ _ _

theorem spread_keptTimes (times : List Int64) :
    Spread (keptTimes times) := by
  induction times using List.reverseRecOn with
  | nil => exact .empty
  | append_singleton times time ih =>
      rw [keptTimes_append]
      exact ih.record time

theorem mem_of_mem_keptTimes
    {times : List Int64}
    {time : Int64}
    (hTime : time ∈ keptTimes times) :
    time ∈ times := by
  induction times using List.reverseRecOn with
  | nil => exact hTime
  | append_singleton times last ih =>
      rw [keptTimes_append] at hTime
      rcases mem_recorded hTime with rfl | hOld
      · exact List.mem_append_right _
          (List.mem_singleton_self _)
      · exact List.mem_append_left _ (ih hOld)

/- The ring keeps what the gate lets through. -/
theorem keeps_keptTimes
    {times : List Int64}
    (hTimes : ∀ time, time ∈ times → time ≠ 0) :
    Keeps
      (times.foldl recordVerification
        IdentityState.emptyRing)
      (keptTimes times) := by
  induction times using List.reverseRecOn with
  | nil => exact .empty
  | append_singleton times last ih =>
      rw [keptTimes_append, List.foldl_concat]
      have hLast : last ≠ 0 :=
        hTimes last (List.mem_append_right _
          (List.mem_singleton_self _))
      have hFront := ih fun time hTime =>
        hTimes time (List.mem_append_left _ hTime)
      exact hFront.record hLast

end Anchor

end Entros
