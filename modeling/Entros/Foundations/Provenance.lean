import Entros.Foundations.Runs
import Mathlib.Data.Set.Function

/-
  Where the contents of a store come from: in a run that
  starts with an empty store, whatever a step takes out was
  put in by an earlier step, and different takings have
  different origins.

  Key definitions include:
    * `positions`
    * `Changes`
    * `Fills`
    * `Takes`

  Key theorems include:
    * `Run.exists_origin`
    * `origin_unique`
    * `Run.exists_matching`
-/

------------------------------------------------------------
-- Stores
------------------------------------------------------------

namespace Foundations

variable {E S L K V : Type}
variable {step : S → L → S → Prop}

/- Where the elements of a kind stand in a history. -/
def positions
    (p : E → Prop)
    (history : List E) : Set ℕ :=
  {j | ∃ event, history[j]? = some event ∧ p event}

/- The step changes what the store holds under a key. -/
def Changes
    (store : S → K → Option V)
    (key : K)
    (event : Transition step) : Prop :=
  store event.target key ≠ store event.source key

/- The step puts a value under a key. -/
structure Fills
    (store : S → K → Option V)
    (key : K)
    (value : V)
    (event : Transition step) : Prop where
  before : store event.source key ≠ some value
  after : store event.target key = some value

/- The step takes a value out. -/
structure Takes
    (store : S → K → Option V)
    (key : K)
    (value : V)
    (event : Transition step) : Prop where
  before : store event.source key = some value
  after : store event.target key = none

theorem Takes.changes
    {store : S → K → Option V}
    {key : K}
    {value : V}
    {event : Transition step}
    (hTakes : Takes store key value event) :
    Changes store key event := by
  intro hSame
  rw [hTakes.before, hTakes.after] at hSame
  cases hSame

end Foundations

------------------------------------------------------------
-- Origins
------------------------------------------------------------

namespace Foundations

variable {S L K V : Type}
variable {step : S → L → S → Prop}
variable {start state : S}
variable {history : List (Transition step)}
variable {store : S → K → Option V}

/-
  What the store holds was put there by the latest step that
  changed it.
-/
theorem Run.exists_origin
    {key : K}
    {value : V}
    (hStart : store start key = none)
    (hRun : Run step start history state)
    (hValue : store state key = some value) :
    ∃ i origin,
      LatestAt (Changes store key) history i origin ∧
        Fills store key value origin := by
  refine hRun.preserves
    (fun history state =>
      ∀ value, store state key = some value →
        ∃ i origin,
          LatestAt (Changes store key) history i origin ∧
            Fills store key value origin)
    ?_ ?_ value hValue
  · intro value hNone
    rw [hStart] at hNone
    cases hNone
  · intro history last _ hOrigin value hAfter
    by_cases hChanges : Changes store key last
    · refine ⟨history.length, last,
        .snoc_self history hChanges, ?_, hAfter⟩
      intro hBefore
      exact hChanges (hAfter.trans hBefore.symm)
    · have hSame :
          store last.target key = store last.source key :=
        not_not.mp hChanges
      rcases hOrigin value (hSame.symm.trans hAfter) with
        ⟨i, origin, hLatest, hFills⟩
      exact ⟨i, origin, hLatest.snoc hChanges, hFills⟩

/-
  Two steps that take out what one step has put in are the
  same, provided that step filled a single key.
-/
theorem origin_unique
    {i j j' : ℕ}
    {origin origin' use use' : Transition step}
    {key key' : K}
    {value value' : V}
    (hLatest :
      LatestAt (Changes store key) (history.take j) i origin)
    (hLatest' :
      LatestAt (Changes store key') (history.take j') i
        origin')
    (hOne : origin = origin' → key = key')
    (hUse : history[j]? = some use)
    (hUse' : history[j']? = some use')
    (hTakes : Takes store key value use)
    (hTakes' : Takes store key' value' use') :
    j = j' := by
  have hOrigin : history[i]? = some origin :=
    getElem?_of_take hLatest.1
  have hOrigin' : history[i]? = some origin' :=
    getElem?_of_take hLatest'.1
  have hSame : origin = origin' :=
    Option.some.inj (hOrigin.symm.trans hOrigin')
  have hKey : key = key' := hOne hSame
  subst hSame hKey
  exact hLatest.use_unique hLatest' hUse hUse'
    hTakes.changes hTakes'.changes

/-
  The takings of a run can be matched with the earlier steps
  that they draw on, each with a step of its own.
-/
theorem Run.exists_matching
    (Uses : Transition step → K → V → Prop)
    (hStart : ∀ key, store start key = none)
    (hRun : Run step start history state)
    (hOne :
      ∀ origin ∈ history, ∀ key key' value value',
        Fills store key value origin →
          Fills store key' value' origin → key = key')
    (hTakes :
      ∀ use ∈ history, ∀ key value,
        Uses use key value → Takes store key value use) :
    ∃ matching : ℕ → ℕ,
      Set.InjOn matching
          (positions (fun use => ∃ key value,
            Uses use key value) history) ∧
        ∀ j use,
          history[j]? = some use →
            (∃ key value, Uses use key value) →
              matching j < j ∧
                ∃ key value origin,
                  Uses use key value ∧
                    history[matching j]? = some origin ∧
                      Fills store key value origin := by
  have hOrigin :
      ∀ j ∈ positions
          (fun use => ∃ key value, Uses use key value)
          history,
        ∃ i use key value origin,
          history[j]? = some use ∧ Uses use key value ∧
            LatestAt (Changes store key) (history.take j) i
              origin ∧
              Fills store key value origin := by
    rintro j ⟨use, hUse, key, value, hUses⟩
    have hTaken :=
      hTakes use (List.mem_of_getElem? hUse) key value hUses
    rcases (hRun.source hUse).exists_origin (hStart key)
      hTaken.before with ⟨i, origin, hLatest, hFills⟩
    exact ⟨i, use, key, value, origin, hUse, hUses, hLatest,
      hFills⟩
  choose! matching hMatching using hOrigin
  refine ⟨matching, ?_, ?_⟩
  · intro j hJ j' hJ' hEq
    rcases hMatching j hJ with
      ⟨use, key, value, origin, hUse, hUses, hLatest, hFills⟩
    rcases hMatching j' hJ' with
      ⟨use', key', value', origin', hUse', hUses', hLatest',
        hFills'⟩
    rw [← hEq] at hLatest'
    have hMem : origin ∈ history :=
      List.mem_of_getElem? (getElem?_of_take hLatest.1)
    have hTaken :=
      hTakes use (List.mem_of_getElem? hUse) key value hUses
    have hTaken' :=
      hTakes use' (List.mem_of_getElem? hUse') key' value'
        hUses'
    refine origin_unique hLatest hLatest' ?_ hUse hUse'
      hTaken hTaken'
    intro hSame
    subst hSame
    exact hOne origin hMem key key' value value' hFills
      hFills'
  · intro j use hUse hUses
    rcases hMatching j ⟨use, hUse, hUses⟩ with
      ⟨use', key, value, origin, hUse', hUses', hLatest,
        hFills⟩
    rw [hUse] at hUse'
    cases hUse'
    have hLength := hLatest.lt_length
    rw [List.length_take] at hLength
    exact ⟨by omega, key, value, origin, hUses',
      getElem?_of_take hLatest.1, hFills⟩

end Foundations
