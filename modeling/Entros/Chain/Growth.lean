import Entros.Chain.World

/-
  Growing an account with a top-up of its rent, and that this
  commutes with what happens to other accounts as long as
  the payer can pay for both.

  Key definitions include:
    * `moved`
    * `World.shortfall`
    * `World.grown`
    * `World.Covers`

  Key theorems include:
    * `World.topUp_covered`
    * `World.growAccount_covered`
    * `World.setData_grown`
    * `World.createAccount_grown`
    * `World.saveAccount_grown`
-/

------------------------------------------------------------
-- Moving Lamports
------------------------------------------------------------

namespace Entros

open Foundations

/- The balances after lamports have been moved. -/
def moved
    (lamports : Address → ℕ)
    (source destination : Address)
    (amount : ℕ) : Address → ℕ :=
  Function.update
    (Function.update lamports source
      (lamports source - amount))
    destination (lamports destination + amount)

section

variable {lamports : Address → ℕ}
variable {source first second address : Address}
variable {amount amount' : ℕ}

theorem moved_source (hDistinct : source ≠ first) :
    moved lamports source first amount source =
      lamports source - amount := by
  unfold moved
  rw [Function.update_of_ne hDistinct, Function.update_self]

theorem moved_of_ne
    (hSource : address ≠ source)
    (hFirst : address ≠ first) :
    moved lamports source first amount address =
      lamports address := by
  unfold moved
  rw [Function.update_of_ne hFirst,
    Function.update_of_ne hSource]

@[simp] theorem moved_zero :
    moved lamports source first 0 = lamports := by
  unfold moved
  rw [Nat.sub_zero, Nat.add_zero, Function.update_eq_self,
    Function.update_eq_self]

/- Payments to two accounts can change places. -/
theorem moved_comm
    (hFirst : source ≠ first)
    (hSecond : source ≠ second)
    (hDistinct : first ≠ second) :
    moved (moved lamports source first amount) source second
        amount' =
      moved (moved lamports source second amount') source
        first amount := by
  funext address
  unfold moved
  by_cases hSource : address = source
  · subst hSource
    simp [Function.update_apply, hFirst, hSecond,
      Nat.sub_right_comm]
  · by_cases hAddress : address = first
    · subst hAddress
      simp [Function.update_apply, hSource, hDistinct]
    · simp [Function.update_apply, hSource, hAddress,
        hDistinct.symm, hFirst.symm, hSecond.symm]

end

end Entros

------------------------------------------------------------
-- Growing Accounts
------------------------------------------------------------

namespace Entros

open Foundations

namespace World

/- What an address lacks of the rent-exempt balance. -/
def shortfall
    (H : Host)
    (w : World)
    (address : Address)
    (size : ℕ) : ℕ :=
  H.minimumBalance size - w.lamports address

/- The account resized and its rent topped up. -/
def grown
    (H : Host)
    (payer target : Address)
    (size : ℕ)
    (w : World) : World :=
  { w.setData target (resize (w.accounts target).data size)
      with
    lamports :=
      moved w.lamports payer target
        (w.shortfall H target size) }

/- The payer has what the account lacks. -/
def Covers
    (H : Host)
    (payer target : Address)
    (size : ℕ)
    (w : World) : Prop :=
  w.shortfall H target size ≤ w.lamports payer

variable {H : Host} {w : World}
variable {payer target other : Address}
variable {size space : ℕ}

/- A covered top-up moves exactly the shortfall. -/
theorem topUp_covered
    (hPayer : payer ≠ target)
    (hCovers : w.Covers H payer target size) :
    w.topUp H payer target size =
      .ok { w with
        lamports :=
          moved w.lamports payer target
            (w.shortfall H target size) } := by
  unfold topUp
  split_ifs with hShort
  · have hAmount :
        H.minimumBalance size - w.lamports target ≤
          w.lamports payer := hCovers
    unfold transfer
    rw [require_of hAmount]
    simp only [ok_bind]
    rw [Function.update_of_ne hPayer.symm]
    rfl
  · have hNone : w.shortfall H target size = 0 :=
      Nat.sub_eq_zero_of_le (Nat.le_of_not_lt hShort)
    rw [hNone, moved_zero]

theorem growAccount_covered
    (hPayer : payer ≠ target)
    (hCovers : w.Covers H payer target size) :
    w.growAccount H payer target size =
      .ok (w.grown H payer target size) := by
  unfold growAccount
  exact topUp_covered hPayer hCovers

theorem grown_accounts_of_ne (hOther : other ≠ target) :
    (w.grown H payer target size).accounts other =
      w.accounts other :=
  Function.update_of_ne hOther _ _

theorem grown_accounts_self :
    (w.grown H payer target size).accounts target =
      { owner := (w.accounts target).owner
        data := resize (w.accounts target).data size } :=
  Function.update_self _ _ _

/- A change of another account commutes with the growth. -/
theorem setAccount_grown
    (hOther : other ≠ target)
    (account : Account) :
    (w.grown H payer target size).setAccount other account =
      (w.setAccount other account).grown H payer target
        size := by
  have hTarget :
      (w.setAccount other account).accounts target =
        w.accounts target :=
    Function.update_of_ne hOther.symm _ _
  unfold grown setData
  rw [hTarget]
  unfold setAccount
  rw [Function.update_comm hOther]
  rfl

theorem setData_grown
    (hOther : other ≠ target)
    (data : List UInt8) :
    (w.grown H payer target size).setData other data =
      (w.setData other data).grown H payer target size := by
  unfold setData
  rw [grown_accounts_of_ne hOther]
  exact setAccount_grown hOther _

/- The payer can pay for two accounts. -/
structure CoversBoth
    (H : Host)
    (payer target other : Address)
    (size space : ℕ)
    (w : World) : Prop where
  payer_ne_target : payer ≠ target
  payer_ne_other : payer ≠ other
  other_ne_target : other ≠ target
  funds :
    w.shortfall H target size + w.shortfall H other space ≤
      w.lamports payer

/- The world in which the payer has paid for an account. -/
def paid
    (H : Host)
    (payer other : Address)
    (space : ℕ)
    (w : World) : World :=
  { w with
    lamports :=
      moved w.lamports payer other
        (w.shortfall H other space) }

section

variable (hCovers : w.CoversBoth H payer target other size space)

include hCovers

/- Paying for the other account leaves enough to grow. -/
theorem paid_shortfall :
    (w.paid H payer other space).shortfall H target size =
        w.shortfall H target size ∧
      (w.paid H payer other space).Covers H payer target
        size := by
  have hTarget :
      (w.paid H payer other space).lamports target =
        w.lamports target :=
    moved_of_ne hCovers.payer_ne_target.symm
      hCovers.other_ne_target.symm
  have hPayer :
      (w.paid H payer other space).lamports payer =
        w.lamports payer - w.shortfall H other space :=
    moved_source hCovers.payer_ne_other
  have hFunds := hCovers.funds
  unfold Covers shortfall at *
  rw [hTarget, hPayer]
  omega

theorem paid_grown :
    (w.grown H payer target size).paid H payer other space =
      (w.paid H payer other space).grown H payer target
        size := by
  have hOther :
      (w.grown H payer target size).shortfall H other space =
        w.shortfall H other space := by
    have hLamports :
        (w.grown H payer target size).lamports other =
          w.lamports other :=
      moved_of_ne hCovers.payer_ne_other.symm
        hCovers.other_ne_target
    unfold shortfall
    rw [hLamports]
  have hMoved :
      moved (w.grown H payer target size).lamports payer
          other (w.shortfall H other space) =
        moved (w.paid H payer other space).lamports payer
          target (w.shortfall H target size) :=
    moved_comm hCovers.payer_ne_target
      hCovers.payer_ne_other hCovers.other_ne_target.symm
  have hTarget := (paid_shortfall hCovers).1
  unfold paid at *
  rw [hOther, hMoved]
  conv_rhs => unfold grown
  rw [hTarget]
  rfl

theorem topUp_other :
    w.topUp H payer other space =
        .ok (w.paid H payer other space) ∧
      (w.grown H payer target size).topUp H payer other
          space =
        .ok ((w.paid H payer other space).grown H payer
          target size) := by
  have hFunds := hCovers.funds
  constructor
  · apply topUp_covered hCovers.payer_ne_other
    unfold Covers
    omega
  · rw [← paid_grown hCovers]
    apply topUp_covered hCovers.payer_ne_other
    have hOther :
        (w.grown H payer target size).lamports other =
          w.lamports other :=
      moved_of_ne hCovers.payer_ne_other.symm
        hCovers.other_ne_target
    have hPayer :
        (w.grown H payer target size).lamports payer =
          w.lamports payer - w.shortfall H target size :=
      moved_source hCovers.payer_ne_target
    unfold Covers shortfall at *
    rw [hOther, hPayer]
    omega

/- So does the creation of another account. -/
theorem createAccount_grown (owner : ProgramId) :
    (w.grown H payer target size).createAccount H payer
        other space owner =
      (w.createAccount H payer other space owner).map
        (grown H payer target size) := by
  rcases topUp_other hCovers with ⟨hTopUp, hGrown⟩
  unfold createAccount
  rw [hTopUp, hGrown]
  simp only [ok_bind, allocate]
  rw [grown_accounts_of_ne hCovers.other_ne_target]
  by_cases hVacant :
      (w.paid H payer other space).accounts other = .vacant
  · rw [require_of hVacant]
    exact congrArg Except.ok
      (setAccount_grown hCovers.other_ne_target _)
  · unfold require
    rw [if_neg hVacant]
    rfl

/- Creation keeps the other account and what it lacks. -/
theorem createAccount_covers
    {w' : World}
    {owner : ProgramId}
    (hCreate :
      w.createAccount H payer other space owner = .ok w') :
    w'.accounts target = w.accounts target ∧
      w'.Covers H payer target size := by
  unfold createAccount at hCreate
  rw [(topUp_other hCovers).1] at hCreate
  simp only [ok_bind, allocate, bind_eq_ok, require_eq_ok,
    pure_eq_ok] at hCreate
  rcases hCreate with ⟨_, _, rfl⟩
  exact ⟨Function.update_of_ne
    hCovers.other_ne_target.symm _ _,
    (paid_shortfall hCovers).2⟩

end

theorem saveAccount_grown
    {A : Type}
    [Packed A]
    (hOther : other ≠ target)
    (name : String)
    (value : A) :
    (w.grown H payer target size).saveAccount H name other
        value =
      (w.saveAccount H name other value).map
        (grown H payer target size) := by
  unfold saveAccount
  rw [grown_accounts_of_ne hOther]
  cases trySerialize H name value
      (w.accounts other).data with
  | error _ => rfl
  | ok data =>
      exact congrArg Except.ok (setData_grown hOther data)

theorem saveAccount_covers
    {A : Type}
    [Packed A]
    {w' : World}
    {name : String}
    {value : A}
    (hOther : other ≠ target)
    (hCovers : w.Covers H payer target size)
    (hSave : w.saveAccount H name other value = .ok w') :
    w'.accounts target = w.accounts target ∧
      w'.Covers H payer target size := by
  simp only [saveAccount, bind_eq_ok, pure_eq_ok] at hSave
  rcases hSave with ⟨data, _, rfl⟩
  exact ⟨Function.update_of_ne hOther.symm _ _, hCovers⟩

end World

end Entros
