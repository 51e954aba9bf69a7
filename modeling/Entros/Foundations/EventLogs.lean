import Entros.Foundations.Runs

/-
  Event logs: an image of a system's states that is kept up to
  date from the entries which the steps emit, without looking
  at the states again.

  Key definitions include:
    * `Accepted`
    * `Follows`
    * `logOf`

  Key theorems include:
    * `accepted_append`
    * `Accepted.preserves`
    * `Run.follows`
-/

------------------------------------------------------------
-- Accepted Logs
------------------------------------------------------------

namespace Foundations

variable {I E : Type}

/- Every entry of the log is acceptable where it stands. -/
def Accepted
    (apply : I → E → I)
    (Accepts : I → E → Prop) : I → List E → Prop
| _, [] => True
| image, entry :: log =>
    Accepts image entry ∧
      Accepted apply Accepts (apply image entry) log

variable {apply : I → E → I} {Accepts : I → E → Prop}
variable {image : I} {log log' : List E} {entry : E}

theorem accepted_append :
    Accepted apply Accepts image (log ++ log') ↔
      Accepted apply Accepts image log ∧
        Accepted apply Accepts (log.foldl apply image)
          log' := by
  induction log generalizing image with
  | nil => exact (and_iff_right trivial).symm
  | cons entry log ih =>
      rw [List.cons_append, Accepted, ih, ← and_assoc]
      rfl

theorem accepted_single :
    Accepted apply Accepts image [entry] ↔
      Accepts image entry :=
  and_iff_left trivial

namespace Accepted

/-
  What holds of the empty log and is kept by every acceptable
  entry holds of an accepted log and the image it leads to.
-/
theorem preserves
    (Inv : List E → I → Prop)
    (hStart : Inv [] image)
    (hEntry :
      ∀ log image entry,
        Inv log image → Accepts image entry →
          Inv (log ++ [entry]) (apply image entry))
    (hAccepted : Accepted apply Accepts image log) :
    Inv log (log.foldl apply image) := by
  induction log using List.reverseRecOn with
  | nil => exact hStart
  | append_singleton log entry ih =>
      have hParts := accepted_append.mp hAccepted
      rw [List.foldl_append]
      exact hEntry log _ entry (ih hParts.1) hParts.2.1

end Accepted

end Foundations

------------------------------------------------------------
-- Logs of Runs
------------------------------------------------------------

namespace Foundations

variable {S L I E : Type} {step : S → L → S → Prop}

/- The image of the target is the source's, with the log. -/
structure Follows
    (view : S → I)
    (emitted : Transition step → List E)
    (apply : I → E → I)
    (Accepts : I → E → Prop)
    (last : Transition step) : Prop where
  image :
    view last.target =
      (emitted last).foldl apply (view last.source)
  accepted :
    Accepted apply Accepts (view last.source) (emitted last)

/- What the steps of a history emit. -/
def logOf
    (emitted : Transition step → List E)
    (history : List (Transition step)) : List E :=
  history.flatMap emitted

theorem logOf_snoc
    (emitted : Transition step → List E)
    (history : List (Transition step))
    (last : Transition step) :
    logOf emitted (history ++ [last]) =
      logOf emitted history ++ emitted last := by
  simp [logOf]

variable {view : S → I} {emitted : Transition step → List E}
variable {apply : I → E → I} {Accepts : I → E → Prop}
variable {start state : S}
variable {history : List (Transition step)}

/-
  If every step from a state with the invariant follows its
  log, a run follows its log: from the image of its start, the
  log leads to the image of its end.
-/
theorem Run.follows
    (Inv : S → Prop)
    (hStart : Inv start)
    (hStep :
      ∀ last : Transition step,
        Inv last.source →
          Inv last.target ∧
            Follows view emitted apply Accepts last)
    (hRun : Run step start history state) :
    view state =
        (logOf emitted history).foldl apply (view start) ∧
      Accepted apply Accepts (view start)
        (logOf emitted history) := by
  have hAll :
      Inv state ∧
        view state =
          (logOf emitted history).foldl apply (view start) ∧
            Accepted apply Accepts (view start)
              (logOf emitted history) := by
    refine hRun.preserves
      (fun history state =>
        Inv state ∧
          view state =
            (logOf emitted history).foldl apply
              (view start) ∧
              Accepted apply Accepts (view start)
                (logOf emitted history))
      ⟨hStart, rfl, trivial⟩ ?_
    rintro history last _ ⟨hSource, hImage, hAccepted⟩
    rcases hStep last hSource with ⟨hTarget, hFollows⟩
    refine ⟨hTarget, ?_, ?_⟩
    · rw [logOf_snoc, List.foldl_append, ← hImage]
      exact hFollows.image
    · rw [logOf_snoc, accepted_append, ← hImage]
      exact ⟨hAccepted, hFollows.accepted⟩
  exact hAll.2

end Foundations
