import Mathlib.Tactic.Common

/-
  Computations that may fail, in the `Except` monad: checks
  that abort with a given error, and how a successful
  computation splits into its successful parts.

  Key definitions include:
    * `require`
    * `okOr`
    * `remapError`
    * `Avoids`

  Key theorems include:
    * `bind_eq_ok`
    * `foldlM_eq_ok`
    * `require_eq_ok`
    * `okOr_eq_ok`
    * `remapError_eq_ok`
    * `Avoids.bind`
-/

------------------------------------------------------------
-- Failing Computations
------------------------------------------------------------

namespace Foundations

variable {E F A B : Type}

/- Abort with `error` unless `condition` holds. -/
def require
    (condition : Prop)
    [Decidable condition]
    (error : E) :
    Except E Unit :=
  if condition then .ok () else .error error

/- The value of an option, or `error` when there is none. -/
def okOr
    (value : Option A)
    (error : E) :
    Except E A :=
  match value with
  | none => .error error
  | some a => .ok a

/- Replace whatever error occurs by `error`. -/
def remapError
    (computation : Except E A)
    (error : F) :
    Except F A :=
  match computation with
  | .error _ => .error error
  | .ok a => .ok a

/-
  A sequence succeeds exactly when its first part does and
  its second part does on the value of the first.
-/
theorem bind_eq_ok
    {first : Except E A}
    {second : A → Except E B}
    {result : B} :
    (first >>= second) = .ok result ↔
      ∃ value, first = .ok value ∧ second value = .ok result := by
  cases first with
  | error e => simp [bind, Except.bind]
  | ok value => simp [bind, Except.bind]

@[simp] theorem ok_bind
    (value : A)
    (second : A → Except E B) :
    ((Except.ok value : Except E A) >>= second) =
      second value := rfl

@[simp] theorem error_bind
    (error : E)
    (second : A → Except E B) :
    ((Except.error error : Except E A) >>= second) =
      .error error := rfl

/- A map after a sequence acts on its second part. -/
theorem map_bind
    {C : Type}
    {first : Except E A}
    {second : A → Except E B}
    {f : B → C} :
    (first >>= second).map f =
      first >>= fun value => (second value).map f := by
  cases first with
  | error e => rfl
  | ok value => rfl

/- A map before a sequence acts on what is passed on. -/
theorem bind_map
    {C : Type}
    {first : Except E A}
    {f : A → B}
    {second : B → Except E C} :
    first.map f >>= second =
      first >>= fun value => second (f value) := by
  cases first with
  | error e => rfl
  | ok value => rfl

/- Only the values of the first part matter to the second. -/
theorem bind_congr_ok
    {first : Except E A}
    {second second' : A → Except E B}
    (hSecond :
      ∀ value, first = .ok value →
        second value = second' value) :
    first >>= second = first >>= second' := by
  cases first with
  | error e => rfl
  | ok value => exact hSecond value rfl

theorem map_congr_ok
    {first : Except E A}
    {f f' : A → B}
    (hValue :
      ∀ value, first = .ok value → f value = f' value) :
    first.map f = first.map f' := by
  cases first with
  | error e => rfl
  | ok value => exact congrArg Except.ok (hValue value rfl)

/- A map keeps errors and acts on values. -/
theorem map_eq_ok
    {first : Except E A}
    {f : A → B}
    {result : B} :
    first.map f = .ok result ↔
      ∃ value, first = .ok value ∧ f value = result := by
  cases first with
  | error e => simp [Except.map]
  | ok value => simp [Except.map]

/-
  A loop whose steps all succeed, while an invariant holds,
  succeeds.
-/
theorem foldlM_eq_ok
    {S : Type}
    (Inv : S → Prop)
    {step : S → A → Except E S}
    {next : S → A → S}
    {list : List A}
    {state : S}
    (hStep :
      ∀ state item,
        item ∈ list → Inv state →
          step state item = .ok (next state item) ∧
            Inv (next state item))
    (hState : Inv state) :
    list.foldlM step state =
      .ok (list.foldl next state) := by
  induction list generalizing state with
  | nil => rfl
  | cons item list ih =>
      rcases hStep state item (.head _) hState with
        ⟨hItem, hNext⟩
      rw [List.foldlM_cons, hItem, List.foldl_cons]
      apply ih _ hNext
      intro state' item' hMem
      exact hStep state' item' (.tail _ hMem)

@[simp] theorem require_eq_ok
    {condition : Prop}
    [Decidable condition]
    {error : E}
    {result : Unit} :
    require condition error = .ok result ↔ condition := by
  by_cases hCondition : condition
  · simp [require, hCondition]
  · simp [require, hCondition]

@[simp] theorem require_of
    {condition : Prop}
    [Decidable condition]
    {error : E}
    (hCondition : condition) :
    require condition error = .ok () := by
  simp [require, hCondition]

@[simp] theorem okOr_eq_ok
    {value : Option A}
    {error : E}
    {result : A} :
    okOr value error = .ok result ↔ value = some result := by
  cases value with
  | none => simp [okOr]
  | some a => simp [okOr]

@[simp] theorem remapError_eq_ok
    {computation : Except E A}
    {error : F}
    {result : A} :
    remapError computation error = .ok result ↔
      computation = .ok result := by
  cases computation with
  | error e => simp [remapError]
  | ok a => simp [remapError]

@[simp] theorem pure_eq_ok
    {value result : A} :
    (pure value : Except E A) = .ok result ↔
      value = result :=
  ⟨Except.ok.inj, congrArg Except.ok⟩

theorem toOption_eq_some
    {computation : Except E A}
    {result : A} :
    computation.toOption = some result ↔
      computation = .ok result := by
  cases computation with
  | error e => simp [Except.toOption]
  | ok a => simp [Except.toOption]

end Foundations

------------------------------------------------------------
-- Excluded Errors
------------------------------------------------------------

namespace Foundations

variable {E A B : Type}

/- The computation never ends with this error. -/
def Avoids
    (error : E)
    (computation : Except E A) : Prop :=
  computation ≠ .error error

namespace Avoids

variable {error : E}

theorem ok (value : A) :
    Avoids error (.ok value : Except E A) :=
  nofun

theorem of_ne
    {other : E}
    (hOther : other ≠ error) :
    Avoids error (.error other : Except E A) :=
  fun hEq => hOther (Except.error.inj hEq)

theorem of_eq_ok
    {computation : Except E A}
    {value : A}
    (hValue : computation = .ok value) :
    Avoids error computation := by
  rw [hValue]
  exact ok value

/- A check avoids every error but its own. -/
theorem require
    {condition : Prop}
    [Decidable condition]
    {other : E}
    (hOther : other ≠ error) :
    Avoids error (Foundations.require condition other) := by
  unfold Foundations.require
  split_ifs
  · exact ok ()
  · exact of_ne hOther

/- A check whose condition holds has no error at all. -/
theorem require_of
    {condition : Prop}
    [Decidable condition]
    {other : E}
    (hCondition : condition) :
    Avoids error (Foundations.require condition other) := by
  unfold Foundations.require
  rw [if_pos hCondition]
  exact ok ()

theorem okOr
    {value : Option A}
    {other : E}
    (hOther : other ≠ error) :
    Avoids error (Foundations.okOr value other) := by
  cases value with
  | none => exact of_ne hOther
  | some a => exact ok a

/- A remapped computation has one error only. -/
theorem remapError
    {F : Type}
    {computation : Except F A}
    {other : E}
    (hOther : other ≠ error) :
    Avoids error
      (Foundations.remapError computation other) := by
  cases computation with
  | error _ => exact of_ne hOther
  | ok a => exact ok a

/- Both branches of a test. -/
theorem ite
    {condition : Prop}
    [Decidable condition]
    {first second : Except E A}
    (hFirst : Avoids error first)
    (hSecond : Avoids error second) :
    Avoids error (if condition then first else second) := by
  split_ifs
  · exact hFirst
  · exact hSecond

/- The second part only runs on what the first returns. -/
theorem bind
    {first : Except E A}
    {second : A → Except E B}
    (hFirst : Avoids error first)
    (hSecond :
      ∀ value, first = .ok value →
        Avoids error (second value)) :
    Avoids error (first >>= second) := by
  cases first with
  | error other =>
      exact fun hEq => hFirst (congrArg Except.error
        (Except.error.inj hEq))
  | ok value => exact hSecond value rfl

end Avoids

end Foundations
