import Entros.Foundations.Runs
import Mathlib.Order.Defs.PartialOrder

/-
  Version stamps: where each owner has a version that no step
  lowers, and nobody sees a change without a higher version,
  what was seen under a version is still there as long as the
  version is.

  Key definitions include:
    * `Versioned`
    * `Raises`

  Key theorems include:
    * `Run.since`
    * `Run.version_le`
    * `Run.view_eq`
    * `Run.raise_unique`
-/

------------------------------------------------------------
-- Versions
------------------------------------------------------------

namespace Foundations

variable {S L O N X : Type} [PartialOrder N]
variable {step : S → L → S → Prop}

/-
  The step lowers no version, and changes no owner's view at
  a version that it keeps.
-/
structure Versioned
    (version : S → O → N)
    (view : S → O → X)
    (event : Transition step) : Prop where
  le :
    ∀ owner,
      version event.source owner ≤ version event.target owner
  same :
    ∀ owner,
      version event.target owner =
          version event.source owner →
        view event.target owner = view event.source owner

/- The step raises the version of an owner. -/
def Raises
    (version : S → O → N)
    (owner : O)
    (event : Transition step) : Prop :=
  version event.source owner < version event.target owner

end Foundations

------------------------------------------------------------
-- Runs
------------------------------------------------------------

namespace Foundations

variable {S L O N X : Type} [PartialOrder N]
variable {step : S → L → S → Prop}
variable {start state : S}
variable {history : List (Transition step)}
variable {version : S → O → N} {view : S → O → X}
variable {owner : O} {i : ℕ} {event : Transition step}

/-
  After a step, versions never fall below what it has left,
  and at that version the view has not changed either.
-/
theorem Run.since
    (hRun : Run step start history state)
    (hSteps :
      ∀ event ∈ history, Versioned version view event)
    (hEvent : history[i]? = some event) :
    version event.target owner ≤ version state owner ∧
      (version event.target owner = version state owner →
        view event.target owner = view state owner) := by
  refine hRun.preserves
    (fun history state =>
      (∀ event ∈ history, Versioned version view event) →
        ∀ i event, history[i]? = some event →
          version event.target owner ≤ version state owner ∧
            (version event.target owner =
                version state owner →
              view event.target owner = view state owner))
    ?_ ?_ hSteps i event hEvent
  · intro _ i event hEvent
    cases hEvent
  · intro history last _ hBefore hSteps i event hEvent
    have hOlder :
        ∀ event ∈ history, Versioned version view event :=
      fun event hMem =>
        hSteps event (List.mem_append_left _ hMem)
    have hLast : Versioned version view last :=
      hSteps last (List.mem_append_right _
        (List.mem_singleton_self last))
    rcases getElem?_snoc_cases hEvent with hOld | ⟨_, rfl⟩
    · rcases hBefore hOlder i event hOld with ⟨hLe, hSame⟩
      refine ⟨hLe.trans (hLast.le owner), ?_⟩
      intro hEq
      -- the version cannot have left and returned
      have hSource :
          version event.target owner =
            version last.source owner :=
        le_antisymm hLe
          ((hLast.le owner).trans_eq hEq.symm)
      exact (hSame hSource).trans
        (hLast.same owner (hEq.symm.trans hSource)).symm
    · exact ⟨le_refl _, fun _ => rfl⟩

/- Versions only grow. -/
theorem Run.version_le
    (hRun : Run step start history state)
    (hSteps :
      ∀ event ∈ history, Versioned version view event)
    (hEvent : history[i]? = some event) :
    version event.target owner ≤ version state owner :=
  (hRun.since hSteps hEvent).1

/- What a step has seen stays as long as its version does. -/
theorem Run.view_eq
    (hRun : Run step start history state)
    (hSteps :
      ∀ event ∈ history, Versioned version view event)
    (hEvent : history[i]? = some event)
    (hVersion :
      version event.source owner = version state owner) :
    view event.source owner = view state owner := by
  have hOwn := hSteps event (List.mem_of_getElem? hEvent)
  rcases hRun.since hSteps hEvent with ⟨hLe, hSame⟩
  have hKept :
      version event.target owner =
        version event.source owner :=
    le_antisymm (hLe.trans_eq hVersion.symm) (hOwn.le owner)
  exact (hOwn.same owner hKept).symm.trans
    (hSame (hKept.trans hVersion))

/- After a step that raises a version, later ones see more. -/
theorem Run.raise_lt
    {j : ℕ}
    {later : Transition step}
    (hRun : Run step start history state)
    (hSteps :
      ∀ event ∈ history, Versioned version view event)
    (hEvent : history[i]? = some event)
    (hLater : history[j]? = some later)
    (hRaises : Raises version owner event)
    (hLt : i < j) :
    version event.source owner <
      version later.source owner := by
  have hBefore : (history.take j)[i]? = some event := by
    rw [List.getElem?_take_of_lt hLt]
    exact hEvent
  have hTaken :
      ∀ event ∈ history.take j,
        Versioned version view event :=
    fun event hMem => hSteps event (List.mem_of_mem_take hMem)
  exact lt_of_lt_of_le hRaises
    ((hRun.source hLater).version_le hTaken hBefore)

/- Only one step raises an owner from a given version. -/
theorem Run.raise_unique
    {j : ℕ}
    {other : Transition step}
    (hRun : Run step start history state)
    (hSteps :
      ∀ event ∈ history, Versioned version view event)
    (hEvent : history[i]? = some event)
    (hOther : history[j]? = some other)
    (hRaises : Raises version owner event)
    (hRaises' : Raises version owner other)
    (hVersion :
      version event.source owner =
        version other.source owner) :
    i = j := by
  rcases Nat.lt_trichotomy i j with hLt | hEq | hGt
  · have hGrows :=
      hRun.raise_lt hSteps hEvent hOther hRaises hLt
    exact absurd hVersion (ne_of_lt hGrows)
  · exact hEq
  · have hGrows :=
      hRun.raise_lt hSteps hOther hEvent hRaises' hGt
    exact absurd hVersion.symm (ne_of_lt hGrows)

end Foundations
