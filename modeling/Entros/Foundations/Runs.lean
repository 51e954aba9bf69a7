import Mathlib.Data.List.Induction
import Mathlib.Data.List.TakeDrop
import Mathlib.Logic.Function.Basic
import Mathlib.Order.Basic

/-
  Runs of labelled transition systems, and the traces they
  leave behind.

  Key definitions include:
    * `Transition`
    * `Run`
    * `LatestAt`
    * `StandsAt`
    * `Motion`
    * `follow`

  Key theorems include:
    * `Run.preserves`
    * `Run.source`
    * `LatestAt.use_unique`
    * `follow_injective`
-/

------------------------------------------------------------
-- Transition Systems
------------------------------------------------------------

namespace Foundations

variable {S L : Type}

/- One step, carrying the proof that the system allows it. -/
structure Transition
    (step : S → L → S → Prop) where
  source : S
  label : L
  target : S
  valid : step source label target

/-
  A finite run from `start`, indexed by its history and by the
  state it ends in.
-/
inductive Run
    (step : S → L → S → Prop)
    (start : S) :
    List (Transition step) → S → Prop
| nil : Run step start [] start
| snoc
    {history : List (Transition step)}
    (last : Transition step)
    (hRun : Run step start history last.source) :
    Run step start (history ++ [last]) last.target

namespace Run

variable {step : S → L → S → Prop}
variable {start state : S}
variable {history : List (Transition step)}

/-
  What holds at the start and is kept by every step of a run
  holds at its end.
-/
theorem preserves
    (Inv : List (Transition step) → S → Prop)
    (hStart : Inv [] start)
    (hStep :
      ∀ history last,
        Run step start history last.source →
          Inv history last.source →
            Inv (history ++ [last]) last.target)
    (hRun : Run step start history state) :
    Inv history state := by
  induction hRun with
  | nil => exact hStart
  | snoc last hRun ih => exact hStep _ last hRun ih

/- A run is a run up to the source of any of its steps. -/
theorem of_append
    {front back : List (Transition step)}
    {middle : Transition step}
    (hRun : Run step start (front ++ middle :: back) state) :
    Run step start front middle.source := by
  induction back using List.reverseRecOn
      generalizing state with
  | nil =>
      generalize hHistory : front ++ [middle] = full at hRun
      cases hRun with
      | nil => simp at hHistory
      | snoc last hFront =>
          rcases List.append_inj' hHistory rfl with
            ⟨rfl, hLast⟩
          rw [List.singleton_inj.mp hLast]
          exact hFront
  | append_singleton back final ih =>
      generalize hHistory :
        front ++ middle :: (back ++ [final]) = full at hRun
      cases hRun with
      | nil => simp at hHistory
      | @snoc shorter last hFront =>
          have hSplit :
              (front ++ middle :: back) ++ [final] =
                shorter ++ [last] := by
            simpa using hHistory
          rcases List.append_inj' hSplit rfl with ⟨rfl, _⟩
          exact ih hFront

/- The run that leads to the step at a given position. -/
theorem source
    {i : ℕ}
    {event : Transition step}
    (hRun : Run step start history state)
    (hEvent : history[i]? = some event) :
    Run step start (history.take i) event.source := by
  rcases List.getElem?_eq_some_iff.mp hEvent with
    ⟨hIndex, rfl⟩
  have hSplit :
      history.take i ++
          history[i] :: history.drop (i + 1) = history := by
    rw [List.getElem_cons_drop, List.take_append_drop]
  rw [← hSplit] at hRun
  exact of_append hRun

/- A step in front of a run. -/
theorem cons
    {next : S}
    {label : L}
    (hValid : step start label next)
    (hRun : Run step next history state) :
    Run step start
      ({ source := start
         label := label
         target := next
         valid := hValid } :: history)
      state := by
  induction hRun with
  | nil => exact snoc (Transition.mk _ _ _ hValid) nil
  | snoc last _ ih => exact snoc last ih

/- A run after a run. -/
theorem trans
    {middle : S}
    {later : List (Transition step)}
    (hRun : Run step start history middle)
    (hLater : Run step middle later state) :
    Run step start (history ++ later) state := by
  induction hLater with
  | nil =>
      rw [List.append_nil]
      exact hRun
  | snoc last _ ih =>
      rw [← List.append_assoc]
      exact snoc last ih

end Run

end Foundations

------------------------------------------------------------
-- Latest Occurrences
------------------------------------------------------------

namespace Foundations

variable {E : Type}

/- An element of a longer history is old or the new one. -/
theorem getElem?_snoc_cases
    {history : List E}
    {last later : E}
    {j : ℕ}
    (hLater : (history ++ [last])[j]? = some later) :
    history[j]? = some later ∨
      j = history.length ∧ later = last := by
  rcases Nat.lt_or_ge j history.length with hLt | hGe
  · rw [List.getElem?_append_left hLt] at hLater
    exact .inl hLater
  · have hIndex :=
      (List.getElem?_eq_some_iff.mp hLater).1
    rw [List.length_append, List.length_singleton]
      at hIndex
    have hEq : j = history.length := by omega
    subst hEq
    rw [List.getElem?_concat_length] at hLater
    exact .inr ⟨rfl, (Option.some.inj hLater).symm⟩

/- An element of a history is one of a longer history. -/
theorem getElem?_snoc_of_some
    {history : List E}
    {last event : E}
    {i : ℕ}
    (hEvent : history[i]? = some event) :
    (history ++ [last])[i]? = some event := by
  have hIndex := (List.getElem?_eq_some_iff.mp hEvent).1
  rw [List.getElem?_append_left hIndex]
  exact hEvent

/- An element of a prefix is one of the whole history. -/
theorem getElem?_of_take
    {history : List E}
    {event : E}
    {i j : ℕ}
    (hEvent : (history.take j)[i]? = some event) :
    history[i]? = some event := by
  have hIndex := (List.getElem?_eq_some_iff.mp hEvent).1
  rw [List.length_take] at hIndex
  rw [List.getElem?_take_of_lt (by omega)] at hEvent
  exact hEvent

/-
  `event` is the last element of the history that satisfies
  `p`, and it stands at position `i`.
-/
def LatestAt
    (p : E → Prop)
    (history : List E)
    (i : ℕ)
    (event : E) : Prop :=
  history[i]? = some event ∧ p event ∧
    ∀ j later,
      i < j → history[j]? = some later → ¬ p later

namespace LatestAt

variable {p : E → Prop}
variable {history : List E}
variable {i j : ℕ}
variable {event other last : E}

theorem lt_length (hLatest : LatestAt p history i event) :
    i < history.length :=
  (List.getElem?_eq_some_iff.mp hLatest.1).1

/- A new element that satisfies `p` becomes the latest. -/
theorem snoc_self
    (history : List E)
    (hLast : p last) :
    LatestAt p (history ++ [last]) history.length last := by
  refine ⟨by simp, hLast, ?_⟩
  intro j later hLt hLater
  rw [List.getElem?_eq_none (by simp; omega)] at hLater
  cases hLater

/- A new element that does not satisfy `p` changes nothing. -/
theorem snoc
    (hLatest : LatestAt p history i event)
    (hLast : ¬ p last) :
    LatestAt p (history ++ [last]) i event := by
  rcases hLatest with ⟨hEvent, hP, hAfter⟩
  refine ⟨getElem?_snoc_of_some hEvent, hP, ?_⟩
  intro j later hLt hLater
  rcases getElem?_snoc_cases hLater with hOld | ⟨_, rfl⟩
  · exact hAfter j later hLt hOld
  · exact hLast

/-
  Two uses that satisfy `p` cannot both find the same latest
  occurrence before them: the earlier use would stand
  between it and the later one.
-/
theorem use_unique
    {j₁ j₂ : ℕ}
    {use₁ use₂ : E}
    (hLatest₁ : LatestAt p (history.take j₁) i event)
    (hLatest₂ : LatestAt p (history.take j₂) i event)
    (hUse₁ : history[j₁]? = some use₁)
    (hUse₂ : history[j₂]? = some use₂)
    (hP₁ : p use₁)
    (hP₂ : p use₂) :
    j₁ = j₂ := by
  have hI₁ : i < j₁ := by
    have hLength := hLatest₁.lt_length
    simp only [List.length_take] at hLength
    omega
  have hI₂ : i < j₂ := by
    have hLength := hLatest₂.lt_length
    simp only [List.length_take] at hLength
    omega
  rcases Nat.lt_trichotomy j₁ j₂ with hLt | hEq | hGt
  · have hSeen : (history.take j₂)[j₁]? = some use₁ := by
      rw [List.getElem?_take_of_lt hLt]
      exact hUse₁
    exact absurd hP₁ (hLatest₂.2.2 j₁ use₁ hI₁ hSeen)
  · exact hEq
  · have hSeen : (history.take j₁)[j₂]? = some use₂ := by
      rw [List.getElem?_take_of_lt hGt]
      exact hUse₂
    exact absurd hP₂ (hLatest₁.2.2 j₂ use₂ hI₂ hSeen)

end LatestAt

/-
  Since the latest `p`, every element satisfies `q`, that
  occurrence included.
-/
structure StandsAt
    (p q : E → Prop)
    (history : List E)
    (i : ℕ)
    (event : E) : Prop where
  latest : LatestAt p history i event
  since :
    ∀ j later,
      i ≤ j → history[j]? = some later → q later

namespace StandsAt

variable {p q : E → Prop}
variable {history : List E}
variable {i : ℕ}
variable {event last : E}

theorem snoc_self
    (history : List E)
    (hLast : p last)
    (hSince : q last) :
    StandsAt p q (history ++ [last]) history.length
      last where
  latest := .snoc_self history hLast
  since := by
    intro j later hLe hLater
    rcases getElem?_snoc_cases hLater with hOld | ⟨_, rfl⟩
    · have hIndex :=
        (List.getElem?_eq_some_iff.mp hOld).1
      omega
    · exact hSince

theorem snoc
    (hStands : StandsAt p q history i event)
    (hLast : ¬ p last)
    (hSince : q last) :
    StandsAt p q (history ++ [last]) i event where
  latest := hStands.latest.snoc hLast
  since := by
    intro j later hLe hLater
    rcases getElem?_snoc_cases hLater with hOld | ⟨_, rfl⟩
    · exact hStands.since j later hLe hOld
    · exact hSince

end StandsAt

end Foundations

------------------------------------------------------------
-- Following Moving Objects
------------------------------------------------------------

namespace Foundations

/-
  What a step does to the objects kept in slots of type `K`:
  put a new one into a slot, carry one to another slot, or
  leave every object where it is.
-/
inductive Motion (K : Type) where
| birth (slot : K)
| move (origin destination : K)
| stay

/- The slots that hold an object after the step. -/
def Motion.Occupies
    {K : Type}
    (occupied : K → Prop)
    (slot : K) : Motion K → Prop
| .birth born => slot = born ∨ occupied slot
| .move origin destination =>
    slot ≠ origin ∧ (slot = destination ∨ occupied slot)
| .stay => occupied slot

/- The step puts an object into the slot or takes it out. -/
def Motion.Involves
    {K : Type}
    (slot : K) : Motion K → Prop
| .birth born => slot = born
| .move origin destination =>
    slot = origin ∨ slot = destination
| .stay => False

theorem Motion.occupies_congr
    {K : Type}
    {occupied occupied' : K → Prop}
    (hOccupied : ∀ slot, occupied slot ↔ occupied' slot)
    (motion : Motion K)
    (slot : K) :
    motion.Occupies occupied slot ↔
      motion.Occupies occupied' slot := by
  cases motion with
  | birth born => exact or_congr_right (hOccupied slot)
  | move origin destination =>
      exact and_congr_right fun _ =>
        or_congr_right (hOccupied slot)
  | stay => exact hOccupied slot

/-
  Which object each slot holds.  An object is named by the
  position of the step that created it.
-/
structure Placement (K : Type) where
  count : ℕ
  holder : K → Option ℕ

variable {E K : Type} [DecidableEq K]

/- The placement after one more step. -/
def Placement.apply
    (placement : Placement K) :
    Motion K → Placement K
| .birth slot =>
    { count := placement.count + 1
      holder := Function.update placement.holder slot
        (some placement.count) }
| .move origin destination =>
    { count := placement.count + 1
      holder := Function.update
        (Function.update placement.holder destination
          (placement.holder origin))
        origin none }
| .stay =>
    { count := placement.count + 1
      holder := placement.holder }

/- The placement that a history leads to from empty slots. -/
def follow
    (motion : E → Motion K)
    (history : List E) :
    Placement K :=
  history.foldl
    (fun placement event => placement.apply (motion event))
    { count := 0, holder := fun _ => none }

@[simp] theorem follow_nil (motion : E → Motion K) :
    follow motion [] =
      { count := 0, holder := fun _ => none } := rfl

@[simp] theorem follow_snoc
    (motion : E → Motion K)
    (history : List E)
    (last : E) :
    follow motion (history ++ [last]) =
      (follow motion history).apply (motion last) := by
  simp [follow]

/- One step, one object at most. -/
theorem follow_count
    (motion : E → Motion K)
    (history : List E) :
    (follow motion history).count = history.length := by
  induction history using List.reverseRecOn with
  | nil => rfl
  | append_singleton history last ih =>
      rw [follow_snoc, List.length_append,
        List.length_singleton, ← ih]
      cases motion last <;> rfl

/- Every object is held by one slot, and is already born. -/
structure Placement.Sound (placement : Placement K) :
    Prop where
  born :
    ∀ slot object,
      placement.holder slot = some object →
        object < placement.count
  injective :
    ∀ slot slot' object,
      placement.holder slot = some object →
        placement.holder slot' = some object →
          slot = slot'

theorem Placement.Sound.apply
    {placement : Placement K}
    (hSound : placement.Sound)
    (motion : Motion K) :
    (placement.apply motion).Sound := by
  have hBorn := hSound.born
  have hInjective := hSound.injective
  cases motion with
  | birth slot =>
      refine ⟨?_, ?_⟩
      · intro s object hHolder
        simp only [Placement.apply, Function.update_apply]
          at hHolder ⊢
        split_ifs at hHolder with hSlot
        · have hObject := Option.some.inj hHolder
          omega
        · have hLt := hBorn s object hHolder
          omega
      · intro s s' object hS hS'
        simp only [Placement.apply, Function.update_apply]
          at hS hS'
        split_ifs at hS hS' with hSlot hSlot' hSlot'
        · rw [hSlot, hSlot']
        · have hObject := Option.some.inj hS
          have hLt := hBorn s' object hS'
          omega
        · have hObject := Option.some.inj hS'
          have hLt := hBorn s object hS
          omega
        · exact hInjective s s' object hS hS'
  | move origin destination =>
      refine ⟨?_, ?_⟩
      · intro s object hHolder
        simp only [Placement.apply, Function.update_apply]
          at hHolder ⊢
        split_ifs at hHolder with hOrigin hDestination
        · have hLt := hBorn origin object hHolder
          omega
        · have hLt := hBorn s object hHolder
          omega
      · intro s s' object hS hS'
        simp only [Placement.apply, Function.update_apply]
          at hS hS'
        -- a slot other than the two keeps its own object,
        -- which the origin therefore cannot hold
        split_ifs at hS hS' with hO hD hO' hD' hO' hD'
        · rw [hD, hD']
        · exact absurd
            (hInjective s' origin object hS' hS) hO'
        · exact absurd
            (hInjective s origin object hS hS') hO
        · exact hInjective s s' object hS hS'
  | stay =>
      refine ⟨?_, hInjective⟩
      intro s object hHolder
      have hLt := hBorn s object hHolder
      simp only [Placement.apply]
      omega

/- Following objects never confuses two of them. -/
theorem follow_sound
    (motion : E → Motion K)
    (history : List E) :
    (follow motion history).Sound := by
  induction history using List.reverseRecOn with
  | nil => exact ⟨by simp, by simp⟩
  | append_singleton history last ih =>
      rw [follow_snoc]
      exact ih.apply (motion last)

/- No object is in two slots at once. -/
theorem follow_injective
    (motion : E → Motion K)
    (history : List E)
    {slot slot' : K}
    {object : ℕ}
    (hSlot : (follow motion history).holder slot = some object)
    (hSlot' :
      (follow motion history).holder slot' = some object) :
    slot = slot' :=
  (follow_sound motion history).injective
    slot slot' object hSlot hSlot'

/- An object is named by a position of the history. -/
theorem follow_lt
    (motion : E → Motion K)
    (history : List E)
    {slot : K}
    {object : ℕ}
    (hSlot :
      (follow motion history).holder slot = some object) :
    object < history.length := by
  have hBorn :=
    (follow_sound motion history).born slot object hSlot
  rwa [follow_count] at hBorn

end Foundations
