import Entros.Foundations.Runs
import Mathlib.Algebra.Order.BigOperators.Group.Finset
import Mathlib.Logic.Function.Basic

/-
  A pool: one balance out of which many members are paid back
  what each has deposited.  As long as nothing else is taken
  out, the balance covers all open deposits.

  Key definitions include:
    * `Pool`
    * `Pool.Solvent`
    * `Pool.Step`

  Key theorems include:
    * `Pool.Step.solvent`
    * `Pool.Solvent.covers`
-/

------------------------------------------------------------
-- Pools
------------------------------------------------------------

namespace Foundations

/- One balance, and the open deposit of each member. -/
structure Pool (K : Type) where
  balance : ℕ
  deposit : K → Option ℕ

namespace Pool

variable {K : Type}

/- The members that have a deposit in the pool. -/
def IsMembers
    (pool : Pool K)
    (members : Finset K) : Prop :=
  ∀ member, member ∈ members ↔ pool.deposit member ≠ none

/- The sum of the deposits of some members. -/
def total
    (pool : Pool K)
    (members : Finset K) : ℕ :=
  ∑ member ∈ members, (pool.deposit member).getD 0

/-
  Finitely many members have a deposit, and the balance
  covers the sum of all of them.
-/
def Solvent (pool : Pool K) : Prop :=
  ∃ members,
    pool.IsMembers members ∧
      pool.total members ≤ pool.balance

/- A new member deposits an amount. -/
def enter
    [DecidableEq K]
    (pool : Pool K)
    (member : K)
    (amount : ℕ) : Pool K where
  balance := pool.balance + amount
  deposit :=
    Function.update pool.deposit member (some amount)

/- A member leaves and takes an amount along. -/
def leave
    [DecidableEq K]
    (pool : Pool K)
    (member : K)
    (amount : ℕ) : Pool K where
  balance := pool.balance - amount
  deposit := Function.update pool.deposit member none

/-
  What may happen to a pool: a gift, a deposit of a new
  member, or the payment of a deposit.
-/
inductive Step
    [DecidableEq K]
    (pool : Pool K) : Pool K → Prop
| receive
    (balance : ℕ)
    (hGrows : pool.balance ≤ balance) :
    Step pool { pool with balance := balance }
| enter
    (member : K)
    (amount : ℕ)
    (hAbsent : pool.deposit member = none) :
    Step pool (pool.enter member amount)
| leave
    (member : K)
    (amount : ℕ)
    (hOpen : pool.deposit member = some amount) :
    Step pool (pool.leave member amount)

/- A pool without members. -/
theorem solvent_of_empty
    {pool : Pool K}
    (hEmpty : ∀ member, pool.deposit member = none) :
    pool.Solvent := by
  refine ⟨∅, ?_, ?_⟩
  · intro member
    simp [hEmpty member]
  · simp [total]

/- The total depends on the deposits of the members only. -/
theorem total_congr
    {pool pool' : Pool K}
    {members : Finset K}
    (hSame :
      ∀ member ∈ members,
        pool'.deposit member = pool.deposit member) :
    pool'.total members = pool.total members := by
  apply Finset.sum_congr rfl
  intro member hMember
  rw [hSame member hMember]

/- The balance covers each single deposit. -/
theorem Solvent.covers
    {pool : Pool K}
    {member : K}
    {amount : ℕ}
    (hSolvent : pool.Solvent)
    (hOpen : pool.deposit member = some amount) :
    amount ≤ pool.balance := by
  rcases hSolvent with ⟨members, hMembers, hCovers⟩
  have hMember : member ∈ members := by
    rw [hMembers member, hOpen]
    simp
  have hTerm :
      (pool.deposit member).getD 0 ≤ pool.total members :=
    Finset.single_le_sum
      (f := fun member => (pool.deposit member).getD 0)
      (fun _ _ => Nat.zero_le _) hMember
  rw [hOpen, Option.getD_some] at hTerm
  exact hTerm.trans hCovers

end Pool

end Foundations

------------------------------------------------------------
-- Solvency
------------------------------------------------------------

namespace Foundations

namespace Pool

variable {K : Type} [DecidableEq K]
variable {pool pool' : Pool K}
variable {members : Finset K}
variable {member : K}
variable {amount : ℕ}

/- A new member adds its deposit to the total. -/
theorem total_enter
    (hAbsent : member ∉ members) :
    (pool.enter member amount).total (insert member members) =
      amount + pool.total members := by
  have hOthers :
      (pool.enter member amount).total members =
        pool.total members := by
    apply total_congr
    intro other hOther
    have hNe : other ≠ member := by
      rintro rfl
      exact hAbsent hOther
    exact Function.update_of_ne hNe _ _
  have hOwn :
      (pool.enter member amount).deposit member =
        some amount :=
    Function.update_self _ _ _
  rw [total, Finset.sum_insert hAbsent, hOwn,
    Option.getD_some, ← hOthers, total]

/- A member that leaves takes its deposit off the total. -/
theorem total_leave
    (hMember : member ∈ members)
    (hOpen : pool.deposit member = some amount) :
    amount +
        (pool.leave member amount).total
          (members.erase member) =
      pool.total members := by
  have hOthers :
      (pool.leave member amount).total
          (members.erase member) =
        pool.total (members.erase member) := by
    apply total_congr
    intro other hOther
    exact Function.update_of_ne
      (Finset.ne_of_mem_erase hOther) _ _
  have hSum :=
    Finset.add_sum_erase members
      (fun member => (pool.deposit member).getD 0) hMember
  rw [hOpen, Option.getD_some] at hSum
  rw [hOthers]
  exact hSum

/- No step makes a solvent pool insolvent. -/
theorem Step.solvent
    (hSolvent : pool.Solvent)
    (hStep : pool.Step pool') :
    pool'.Solvent := by
  rcases hSolvent with ⟨members, hMembers, hCovers⟩
  cases hStep with
  | receive balance hGrows =>
      exact ⟨members, hMembers, hCovers.trans hGrows⟩
  | enter member amount hAbsent =>
      have hNew : member ∉ members := by
        rw [hMembers member, hAbsent]
        simp
      refine ⟨insert member members, ?_, ?_⟩
      · intro other
        by_cases hOther : other = member
        · subst hOther
          simp [Pool.enter]
        · simp [Pool.enter, hOther, hMembers other]
      · rw [total_enter hNew, Nat.add_comm]
        exact Nat.add_le_add_right hCovers amount
  | leave member amount hOpen =>
      have hMember : member ∈ members := by
        rw [hMembers member, hOpen]
        simp
      refine ⟨members.erase member, ?_, ?_⟩
      · intro other
        by_cases hOther : other = member
        · subst hOther
          simp [Pool.leave]
        · simp [Pool.leave, hOther, hMembers other]
      · apply Nat.le_sub_of_add_le
        rw [Nat.add_comm, total_leave hMember hOpen]
        exact hCovers

end Pool

end Foundations
