import Mathlib.Data.List.Basic

/-
  Thinning a sequence: an element is kept when it is the
  first one or lies far enough behind the last one kept.

  Key definitions include:
    * `thin`
    * `pushFar`

  Key theorems include:
    * `foldl_pushFar`
-/

------------------------------------------------------------
-- Thinning
------------------------------------------------------------

namespace Foundations

variable {A : Type}
variable (far : A → A → Prop) [DecidableRel far]

/- The elements kept after `last`, in their order. -/
def thinAfter (last : A) : List A → List A
| [] => []
| next :: rest =>
    if far last next then
      next :: thinAfter next rest
    else
      thinAfter last rest

/- The greedy subsequence of a list. -/
def thin : List A → List A
| [] => []
| first :: rest => first :: thinAfter far first rest

/- The same, one element at a time and newest first. -/
def pushFar (kept : List A) (next : A) : List A :=
  match kept with
  | [] => [next]
  | last :: older =>
      if far last next then
        next :: last :: older
      else
        last :: older

theorem foldl_pushFar_cons
    (last : A)
    (older rest : List A) :
    rest.foldl (pushFar far) (last :: older) =
      (thinAfter far last rest).reverse ++
        last :: older := by
  induction rest generalizing last older with
  | nil => rfl
  | cons next rest ih =>
      rw [List.foldl_cons, thinAfter, pushFar]
      by_cases hFar : far last next
      · rw [if_pos hFar, if_pos hFar, ih,
          List.reverse_cons, List.append_assoc,
          List.singleton_append]
      · rw [if_neg hFar, if_neg hFar, ih]

/- Pushing one by one yields the subsequence, reversed. -/
theorem foldl_pushFar (elements : List A) :
    elements.foldl (pushFar far) [] =
      (thin far elements).reverse := by
  cases elements with
  | nil => rfl
  | cons first rest =>
      rw [List.foldl_cons, thin, List.reverse_cons]
      exact foldl_pushFar_cons far first [] rest

end Foundations
