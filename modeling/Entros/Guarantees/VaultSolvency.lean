import Entros.System.Replay
import Entros.System.Vault

/-
  The stake vault stays solvent: in every run it covers the
  stakes of all open registrations, so a validator that
  unstakes is always paid exactly what it has deposited.

  Key definitions include:
    * `World.Unstaked`
    * `Deposited`
    * `VaultServes`

  Key theorems include:
    * `unstakeValidator_pays`
    * `run_stakesSound`
    * `run_solvent`
    * `exists_deposit`
    * `vault_serves`
-/

------------------------------------------------------------
-- Unstaking
------------------------------------------------------------

namespace Entros

open Foundations
open Registry

variable {H : Host} {w : World}
variable {validator : Signer} {state : ValidatorState}

/- A covered registration can be unstaked. -/
theorem unstakeValidator_pays
    (hSound : w.StakesSound H)
    (hSolvent : (stakePool H w).Solvent)
    (hOpen : registration H w validator.key = some state) :
    ∃ w', unstakeValidator H w validator = .ok w' ∧
      Unstakes H validator state w w' := by
  rcases hSound.registered hOpen with
    ⟨_, hAuthority, hBump⟩
  have hStake :
      recordedStake H w validator.key =
        some state.stake.toNat := by
    rw [recordedStake, hOpen]
    rfl
  have hCovered :
      state.stake.toNat ≤ w.lamports (vaultAddress H) :=
    hSolvent.covers hStake
  have hLoad := registration_eq_load.mp hOpen
  have hUnstake :
      ∃ w', unstakeValidator H w validator = .ok w' := by
    simp only [unstakeValidator, bind_eq_ok, require_eq_ok,
      pure_eq_ok, World.transfer]
    exact ⟨_, state, hLoad, (), hBump, (), hAuthority, _,
      ⟨(), hCovered, rfl⟩, rfl⟩
  rcases hUnstake with ⟨w', hOk⟩
  rcases unstakeValidator_moves hOk with
    ⟨stored, hUnstakes⟩
  have hSame : stored = state := by
    have hStored := hUnstakes.registered
    rw [hOpen] at hStored
    exact (Option.some.inj hStored).symm
  rw [hSame] at hUnstakes
  exact ⟨w', hOk, hUnstakes⟩

/- Without a registration the vault is not asked. -/
theorem unstakeValidator_unfunded
    (hSound : w.StakesSound H)
    (hSolvent : (stakePool H w).Solvent) :
    unstakeValidator H w validator ≠
      .error (.runtime .insufficientFunds) := by
  cases hOpen : registration H w validator.key with
  | some state =>
      rcases unstakeValidator_pays hSound hSolvent hOpen with
        ⟨w', hOk, _⟩
      rw [hOk]
      simp
  | none =>
      rcases hSound.validator validator.key with
        hVacant | ⟨state, hAccount, _⟩
      · intro hFailed
        have hAddress :
            w.accounts
                (H.findProgramAddress
                  (.validator validator.key)) =
              .vacant := hVacant
        unfold unstakeValidator World.loadAccount at hFailed
        dsimp only at hFailed
        rw [hAddress] at hFailed
        by_cases hEmpty :
            w.lamports
                (H.findProgramAddress
                  (.validator validator.key)) = 0
        · simp [require, hEmpty, Account.vacant, Bind.bind,
            Except.bind] at hFailed
        · simp [require, hEmpty, Account.vacant, Bind.bind,
            Except.bind] at hFailed
      · rw [registration_of_registered hAccount] at hOpen
        cases hOpen

end Entros

------------------------------------------------------------
-- Runs
------------------------------------------------------------

namespace Entros

open Foundations
open Registry

variable {H : Host} {w w' : World}
variable {history : List (Event H)}

/- A deployment in which nobody has registered yet. -/
structure World.Unstaked
    (H : Host)
    (w : World) : Prop where
  vault : (w.accounts (vaultAddress H)).owner ≠ .verifier
  validator :
    ∀ validator,
      w.accounts (validatorAddress H validator) = .vacant

theorem World.Unstaked.sound
    (hUnstaked : w.Unstaked H) :
    w.StakesSound H where
  vault := hUnstaked.vault
  validator validator := .inl (hUnstaked.validator validator)

theorem World.Unstaked.recordedStake
    (hUnstaked : w.Unstaked H)
    (validator : Pubkey) :
    recordedStake H w validator = none := by
  unfold Entros.recordedStake
  rw [registration_of_vacant (hUnstaked.validator validator)]
  rfl

theorem run_stakesSound
    (hUnstaked : w.Unstaked H)
    (hRun : Run (Step H) w history w') :
    w'.StakesSound H := by
  refine hRun.preserves
    (fun _ state => state.StakesSound H) hUnstaked.sound ?_
  intro _ last _ hSound
  exact (stakeMove_of_step hSound last.valid).sound hSound

/- The vault covers all open registrations together. -/
theorem run_solvent
    (hUnstaked : w.Unstaked H)
    (hRun : Run (Step H) w history w') :
    (stakePool H w').Solvent := by
  refine hRun.preserves
    (fun _ state => (stakePool H state).Solvent) ?_ ?_
  · exact Pool.solvent_of_empty hUnstaked.recordedStake
  · intro _ last hBefore hSolvent
    have hSound := run_stakesSound hUnstaked hBefore
    exact (stakeMove_of_step hSound last.valid).pool.solvent
      hSolvent

/-
  The event is the latest that concerns the validator, and
  registers it with the stake.
-/
def Deposited
    (history : List (Event H))
    (validator : Pubkey)
    (stake : ℕ) : Prop :=
  ∃ i event signer stakeAmount,
    LatestAt
        (fun event : Event H =>
          event.instruction.Stakes validator)
        history i event ∧
      event.instruction =
          .registry
            (.registerValidator signer stakeAmount) ∧
        signer.key = validator ∧
          stakeAmount.toNat = stake

/- A recorded stake is what its registration deposited. -/
theorem exists_deposit
    {validator : Pubkey}
    {stake : ℕ}
    (hUnstaked : w.Unstaked H)
    (hRun : Run (Step H) w history w')
    (hStake : recordedStake H w' validator = some stake) :
    Deposited history validator stake := by
  refine hRun.preserves
    (fun history state =>
      ∀ stake, recordedStake H state validator = some stake →
        Deposited history validator stake)
    ?_ ?_ stake hStake
  · intro stake hNone
    rw [hUnstaked.recordedStake] at hNone
    cases hNone
  · intro history last hBefore hDeposited stake hAfter
    have hMove :=
      stakeMove_of_step (run_stakesSound hUnstaked hBefore)
        last.valid
    by_cases hStakes :
        last.label.instruction.Stakes validator
    · cases hMove with
      | register signer stakeAmount hCall hRegisters =>
          have hKey : signer.key = validator := by
            rw [hCall] at hStakes
            exact hStakes
          rw [← hKey, hRegisters.recordedStake.2] at hAfter
          exact ⟨history.length, last, signer, stakeAmount,
            .snoc_self history hStakes, hCall, hKey,
            Option.some.inj hAfter⟩
      | unstake signer state hCall hUnstakes =>
          have hKey : signer.key = validator := by
            rw [hCall] at hStakes
            exact hStakes
          rw [← hKey, hUnstakes.recordedStake.2] at hAfter
          cases hAfter
      | other hOther hVault hValidators =>
          exact absurd hStakes (hOther validator)
    · have hSame :
          recordedStake H last.target validator =
            recordedStake H last.source validator := by
        by_contra hChanges
        exact hStakes ((hMove.changes_iff validator).mp
          hChanges)
      rw [hSame] at hAfter
      rcases hDeposited stake hAfter with
        ⟨i, event, signer, stakeAmount, hLatest, hOrigin⟩
      exact ⟨i, event, signer, stakeAmount,
        hLatest.snoc hStakes, hOrigin⟩

end Entros

------------------------------------------------------------
-- Solvency
------------------------------------------------------------

namespace Entros

open Foundations
open Registry

variable {H : Host} {w w' : World}

/-
  The vault covers the stakes of all open registrations, no
  unstaking fails for lack of funds, and every validator with
  an open registration can unstake and is paid the stake that
  this registration has deposited.
-/
structure VaultServes
    (H : Host)
    (history : List (Event H))
    (w : World) : Prop where
  solvent : (stakePool H w).Solvent
  funded :
    ∀ validator,
      unstakeValidator H w validator ≠
        .error (.runtime .insufficientFunds)
  pays :
    ∀ validator state,
      registration H w validator.key = some state →
        (∃ w', unstakeValidator H w validator = .ok w' ∧
          Unstakes H validator state w w') ∧
          Deposited history validator.key state.stake.toNat

theorem vault_serves
    {history : List (Event H)}
    (hUnstaked : w.Unstaked H)
    (hRun : Run (Step H) w history w') :
    VaultServes H history w' := by
  have hSound := run_stakesSound hUnstaked hRun
  have hSolvent := run_solvent hUnstaked hRun
  refine ⟨hSolvent, ?_, ?_⟩
  · intro validator
    exact unstakeValidator_unfunded hSound hSolvent
  · intro validator state hOpen
    refine ⟨unstakeValidator_pays hSound hSolvent hOpen, ?_⟩
    apply exists_deposit hUnstaked hRun
    rw [recordedStake, hOpen]
    rfl

/- Two validators, of which one leaves and comes back. -/
namespace VaultSolvency

open Sample

def tables : Tables where
  requestBound := false
  digests :=
    (ascii "account:ValidatorState", Bytes.ofList 32
      [217, 140, 124, 163, 31, 187, 1, 89, 98, 223, 45, 195,
        86, 192, 82, 178, 178, 4, 32, 122, 172, 196, 44, 213,
        66, 118, 127, 182, 182, 177, 47, 79]) ::
      accountDigests
  addresses :=
    (.vault, Bytes.ofList 32
        [46, 207, 66, 255, 92, 163, 13, 162, 194, 26, 41, 133,
          206, 222, 39, 231, 247, 238, 90, 174, 130, 2, 17,
          237, 207, 190, 225, 31, 40, 187, 213, 70],
        254) ::
      (.validator alice.key, Bytes.ofList 32
        [145, 72, 131, 149, 18, 127, 118, 95, 122, 20, 16, 7,
          82, 170, 38, 185, 221, 94, 201, 1, 16, 155, 13, 81,
          158, 241, 231, 102, 32, 130, 116, 63],
        249) ::
        (.validator bob.key, Bytes.ofList 32
          [139, 172, 18, 183, 45, 56, 182, 202, 182, 28, 8,
            45, 192, 116, 8, 158, 73, 253, 159, 174, 229, 236,
            9, 168, 102, 113, 79, 17, 10, 49, 22, 14],
          251) ::
          addresses
  proofs := []
  signatures := []

def call
    (now : Int64)
    (instruction : Instruction) : Call tables.host where
  now := now
  tx := tables.alone
  instruction := instruction

def rejoined : List (Call tables.host) :=
  [call 1700000000
      (.registry (.initializeProtocol admin 1000000 300 10000
        100 0 validator)),
    call 1700000010
      (.registry (.registerValidator alice 5000000)),
    call 1700000020
      (.registry (.registerValidator bob 7000000)),
    call 1700000030
      (.outside (.transfer admin (vaultAddress tables.host)
        1000)),
    call 1700000040 (.registry (.unstakeValidator alice)),
    call 1700000050
      (.registry (.registerValidator alice 2000000))]

end VaultSolvency

open VaultSolvency

theorem vault_serves_rejoined :
    ∃ (history : List (Event tables.host)) (w' : World),
      Run (Step tables.host) .funded history w' ∧
        history.map Transition.label = rejoined ∧
          (w'.lamports (vaultAddress tables.host),
              recordedStake tables.host w' Sample.alice.key,
              recordedStake tables.host w' Sample.bob.key) =
            (9001000, some 2000000, some 7000000) ∧
            VaultServes tables.host history w' := by
  have hReplay :
      (replay .funded rejoined).map (fun replayed =>
          (replayed.2.lamports (vaultAddress tables.host),
            recordedStake tables.host replayed.2
              Sample.alice.key,
            recordedStake tables.host replayed.2
              Sample.bob.key)) =
        some (9001000, some 2000000, some 7000000) := by
    decide +kernel
  rcases exists_run hReplay with
    ⟨history, w', hRun, hLabels, hValues⟩
  have hUnstaked : World.funded.Unstaked tables.host :=
    ⟨by decide, fun _ => rfl⟩
  exact ⟨history, w', hRun, hLabels, hValues,
    vault_serves hUnstaked hRun⟩

end Entros
