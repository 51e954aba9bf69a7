import Entros.Foundations.Pool
import Entros.System.Spares

/-
  The stake vault as a pool: the registered validators are
  its members, and every call of the deployment is a step of
  that pool.

  Key definitions include:
    * `recordedStake`
    * `stakePool`
    * `World.StakesSound`
    * `StakeMove`

  Key theorems include:
    * `registerValidator_moves`
    * `unstakeValidator_moves`
    * `stakeMove_of_step`
    * `StakeMove.pool`
-/

------------------------------------------------------------
-- Configuration Instructions
------------------------------------------------------------

namespace Entros

open Foundations

namespace Registry

variable {H : Host} {w w' : World} {seeds : Seeds}
variable (hSeeds : seeds ≠ .protocolConfig)

include hSeeds

theorem configAddress_ne :
    H.findProgramAddress seeds ≠ configAddress H := by
  intro hEq
  exact hSeeds (H.findProgramAddress_inj.mp hEq)

theorem saveConfig_spares
    {config : ProtocolConfig}
    (hSave :
      w.saveAccount H ProtocolConfig.accountName
        (configAddress H) config = .ok w') :
    Spares H seeds w w' := by
  simp only [World.saveAccount, bind_eq_ok, pure_eq_ok]
    at hSave
  rcases hSave with ⟨data, _, rfl⟩
  exact .setAccount _ (configAddress_ne hSeeds)

theorem growConfig_spares
    {payer : Signer}
    {size : ℕ}
    (hGrow :
      w.growAccount H (walletAddress payer)
        (configAddress H) size = .ok w') :
    Spares H seeds w w' :=
  (Spares.setAccount _ (configAddress_ne hSeeds)).trans
    (.of_topUp hGrow)

theorem ensureProtocolConfigLen_spares
    {payer : Signer}
    (hEnsure : ensureProtocolConfigLen H w payer = .ok w') :
    Spares H seeds w w' := by
  unfold ensureProtocolConfigLen at hEnsure
  split_ifs at hEnsure
  · exact growConfig_spares hSeeds hEnsure
  · rw [Except.ok.inj hEnsure]
    exact .refl w'

/- Growing the configuration and writing its bytes. -/
theorem rewriteConfig_spares
    {payer : Signer}
    {grown : World}
    (data : List UInt8)
    (hEnsure :
      ensureProtocolConfigLen H w payer = .ok grown) :
    Spares H seeds w
      (grown.setData (configAddress H) data) :=
  (ensureProtocolConfigLen_spares hSeeds hEnsure).trans
    (.setAccount _ (configAddress_ne hSeeds))

end Registry

open Registry

/- The instructions that move lamports out of a PDA. -/
inductive RegistryInstruction.MovesFunds :
    RegistryInstruction → Prop
| withdrawTreasury (admin : Signer) (amount : UInt64) :
    MovesFunds (.withdrawTreasury admin amount)
| registerValidator
    (validator : Signer)
    (stakeAmount : UInt64) :
    MovesFunds (.registerValidator validator stakeAmount)
| unstakeValidator (validator : Signer) :
    MovesFunds (.unstakeValidator validator)

/- The others touch the configuration only. -/
theorem registry_spares
    {H : Host}
    {w w' : World}
    {seeds : Seeds}
    {now : Int64}
    {instruction : RegistryInstruction}
    (hSeeds : seeds ≠ .protocolConfig)
    (hFunds : ¬ instruction.MovesFunds)
    (hExecute : instruction.execute H now w = .ok w') :
    Spares H seeds w w' := by
  cases instruction with
  | initializeProtocol admin minStake challengeExpiry
      maxTrustScore baseTrustIncrement verificationFee
      validatorPubkey =>
      simp only [RegistryInstruction.execute,
        initializeProtocol, bind_eq_ok, require_eq_ok]
        at hExecute
      rcases hExecute with ⟨created, hCreate, _, _, hSave⟩
      exact (Spares.of_createAt hCreate
        (configAddress_ne hSeeds)).trans
          (saveConfig_spares hSeeds hSave)
  | updateProtocolConfig admin verificationFee =>
      simp only [RegistryInstruction.execute,
        updateProtocolConfig, bind_eq_ok, require_eq_ok]
        at hExecute
      rcases hExecute with
        ⟨config, _, grown, hGrow, _, _, hSave⟩
      exact (growConfig_spares hSeeds hGrow).trans
        (saveConfig_spares hSeeds hSave)
  | setValidatorPubkey admin validatorPubkey =>
      simp only [RegistryInstruction.execute,
        setValidatorPubkey, bind_eq_ok, require_eq_ok,
        pure_eq_ok] at hExecute
      rcases hExecute with
        ⟨_, _, _, _, grown, hEnsure, data, _, rfl⟩
      exact rewriteConfig_spares hSeeds data hEnsure
  | rotateValidatorPubkey admin newValidatorPubkey
      gracePeriodSecs =>
      simp only [RegistryInstruction.execute,
        rotateValidatorPubkey, bind_eq_ok, require_eq_ok,
        pure_eq_ok] at hExecute
      rcases hExecute with
        ⟨_, _, _, _, _, _, _, _, _, _, grown, hEnsure, _, _,
          data, _, rfl⟩
      exact rewriteConfig_spares hSeeds data hEnsure
  | setProjectionVersions admin current minimum =>
      simp only [RegistryInstruction.execute,
        setProjectionVersions, bind_eq_ok, pure_eq_ok]
        at hExecute
      rcases hExecute with
        ⟨_, _, _, _, _, _, _, _, grown, hEnsure, _, _, data,
          _, rfl⟩
      exact rewriteConfig_spares hSeeds data hEnsure
  | proposeAuthority admin newAuthority =>
      simp only [RegistryInstruction.execute,
        proposeAuthority, bind_eq_ok, require_eq_ok,
        pure_eq_ok] at hExecute
      rcases hExecute with
        ⟨_, _, _, _, _, _, grown, hEnsure, data, _, rfl⟩
      exact rewriteConfig_spares hSeeds data hEnsure
  | acceptAuthority pendingAuthority =>
      simp only [RegistryInstruction.execute,
        acceptAuthority, bind_eq_ok, require_eq_ok,
        pure_eq_ok] at hExecute
      rcases hExecute with
        ⟨_, _, _, _, _, _, _, _, _, _, _, _, data, _, rfl⟩
      exact .setAccount _ (configAddress_ne hSeeds)
  | migrateAdmin newAdmin =>
      simp only [RegistryInstruction.execute, migrateAdmin,
        bind_eq_ok, require_eq_ok] at hExecute
      rcases hExecute with
        ⟨_, _, _, _, _, _, data, _, hTopUp⟩
      exact (Spares.setAccount _
        (configAddress_ne hSeeds)).trans (.of_topUp hTopUp)
  | withdrawTreasury admin amount =>
      exact absurd (.withdrawTreasury admin amount) hFunds
  | registerValidator validator stakeAmount =>
      exact absurd
        (.registerValidator validator stakeAmount) hFunds
  | computeTrustScore count creation recent =>
      rw [computeTrustScore_unchanged hExecute]
      exact .refl w
  | unstakeValidator validator =>
      exact absurd (.unstakeValidator validator) hFunds

/- A withdrawal takes lamports from the treasury only. -/
theorem withdrawTreasury_spares
    {H : Host}
    {w w' : World}
    {seeds : Seeds}
    {admin : Signer}
    {amount : UInt64}
    (hSeeds : seeds ≠ .protocolTreasury)
    (hWithdraw : withdrawTreasury H w admin amount = .ok w') :
    Spares H seeds w w' := by
  simp only [withdrawTreasury, bind_eq_ok, require_eq_ok]
    at hWithdraw
  rcases hWithdraw with ⟨_, _, _, _, _, _, hTransfer⟩
  have hSource :
      H.findProgramAddress seeds ≠
        H.findProgramAddress .protocolTreasury := by
    intro hEq
    exact hSeeds (H.findProgramAddress_inj.mp hEq)
  exact .of_transferFrom hTransfer hSource

end Entros

------------------------------------------------------------
-- Registrations
------------------------------------------------------------

namespace Entros

open Foundations
open Registry

/- The addresses of the vault and of a registration. -/
def vaultAddress (H : Host) : Address :=
  H.findProgramAddress .vault

def validatorAddress
    (H : Host)
    (validator : Pubkey) : Address :=
  H.findProgramAddress (.validator validator)

/- The open `ValidatorState` account of a validator. -/
def registration
    (H : Host)
    (w : World)
    (validator : Pubkey) : Option ValidatorState :=
  (w.loadAccount ValidatorState H ValidatorState.accountName
    .registry (validatorAddress H validator)).toOption

/- The stake it records. -/
def recordedStake
    (H : Host)
    (w : World)
    (validator : Pubkey) : Option ℕ :=
  (registration H w validator).map fun state =>
    state.stake.toNat

/- The vault with the stakes that it owes. -/
def stakePool (H : Host) (w : World) : Pool Pubkey where
  balance := w.lamports (vaultAddress H)
  deposit := recordedStake H w

/- How an open registration is stored. -/
def registeredAccount
    (H : Host)
    (state : ValidatorState) : Account where
  owner := .registry
  data := serialized H ValidatorState.accountName state

/-
  The validators' accounts are vacant or hold what
  `register_validator` has written for their own validator.
-/
structure World.StakesSound
    (H : Host)
    (w : World) : Prop where
  vault : (w.accounts (vaultAddress H)).owner ≠ .verifier
  validator :
    ∀ validator,
      w.accounts (validatorAddress H validator) = .vacant ∨
        ∃ state,
          w.accounts (validatorAddress H validator) =
              registeredAccount H state ∧
            state.authority = validator ∧
              state.bump =
                H.canonicalBump (.validator validator)

variable {H : Host} {w w' : World}
variable {validator : Pubkey} {state : ValidatorState}

theorem registration_eq_load :
    registration H w validator = some state ↔
      w.loadAccount ValidatorState H
          ValidatorState.accountName .registry
          (validatorAddress H validator) = .ok state := by
  unfold registration
  cases w.loadAccount ValidatorState H
      ValidatorState.accountName .registry
      (validatorAddress H validator) with
  | error fault => simp [Except.toOption]
  | ok value => simp [Except.toOption]

theorem registration_eq_some :
    registration H w validator = some state ↔
      (w.accounts (validatorAddress H validator)).owner =
          .registry ∧
        tryDeserialize ValidatorState H
            ValidatorState.accountName
            (w.accounts
              (validatorAddress H validator)).data =
          .ok state := by
  rw [registration_eq_load]
  constructor
  · exact World.loadAccount_eq_ok
  · rintro ⟨hOwner, hRead⟩
    simp [World.loadAccount, hOwner, hRead]

/- A registration is a matter of the account alone. -/
theorem registration_congr
    (hAccount :
      w'.accounts (validatorAddress H validator) =
        w.accounts (validatorAddress H validator)) :
    registration H w' validator =
      registration H w validator := by
  apply Option.ext
  intro state
  rw [registration_eq_some, registration_eq_some, hAccount]

theorem registration_of_vacant
    (hVacant :
      w.accounts (validatorAddress H validator) = .vacant) :
    registration H w validator = none := by
  apply Option.eq_none_iff_forall_ne_some.mpr
  intro state hSome
  rw [registration_eq_some, hVacant] at hSome
  cases hSome.1

theorem registration_of_registered
    (hAccount :
      w.accounts (validatorAddress H validator) =
        registeredAccount H state) :
    registration H w validator = some state := by
  rw [registration_eq_some, hAccount]
  refine ⟨rfl, ?_⟩
  have hRead :
      tryDeserialize ValidatorState H
          ValidatorState.accountName
          (serialized H ValidatorState.accountName state ++
            []) = .ok state :=
    tryDeserialize_serialized state []
  rw [List.append_nil] at hRead
  exact hRead

/- In a sound state, an open registration is one's own. -/
theorem World.StakesSound.registered
    (hSound : w.StakesSound H)
    (hOpen : registration H w validator = some state) :
    w.accounts (validatorAddress H validator) =
        registeredAccount H state ∧
      state.authority = validator ∧
        state.bump =
          H.canonicalBump (.validator validator) := by
  rcases hSound.validator validator with
    hVacant | ⟨stored, hAccount, hOwn⟩
  · rw [registration_of_vacant hVacant] at hOpen
    cases hOpen
  · rw [registration_of_registered hAccount] at hOpen
    rw [← Option.some.inj hOpen]
    exact ⟨hAccount, hOwn⟩

end Entros

------------------------------------------------------------
-- Moves
------------------------------------------------------------

namespace Entros

open Foundations
open Registry

/- The accounts of the vault and of the other validators. -/
def KeepsOthers
    (H : Host)
    (validator : Pubkey)
    (w w' : World) : Prop :=
  w'.accounts (vaultAddress H) =
      w.accounts (vaultAddress H) ∧
    ∀ other ≠ validator,
      w'.accounts (validatorAddress H other) =
        w.accounts (validatorAddress H other)

/- What a successful registration does. -/
structure Registers
    (H : Host)
    (now : Int64)
    (validator : Signer)
    (stakeAmount : UInt64)
    (w w' : World) : Prop where
  vacant :
    w.accounts (validatorAddress H validator.key) = .vacant
  registered :
    w'.accounts (validatorAddress H validator.key) =
      registeredAccount H
        { authority := validator.key
          stake := stakeAmount
          registrationTime := now
          isActive := true
          verificationsPerformed := 0
          bump := H.canonicalBump (.validator validator.key) }
  vault :
    w'.lamports (vaultAddress H) =
      w.lamports (vaultAddress H) + stakeAmount.toNat
  others : KeepsOthers H validator.key w w'

/- What a successful unstaking does. -/
structure Unstakes
    (H : Host)
    (validator : Signer)
    (state : ValidatorState)
    (w w' : World) : Prop where
  registered :
    registration H w validator.key = some state
  vacant :
    w'.accounts (validatorAddress H validator.key) = .vacant
  covered :
    state.stake.toNat ≤ w.lamports (vaultAddress H)
  vault :
    w'.lamports (vaultAddress H) =
      w.lamports (vaultAddress H) - state.stake.toNat
  paid :
    w'.lamports (walletAddress validator) =
      w.lamports (walletAddress validator) +
        state.stake.toNat +
          w.lamports (validatorAddress H validator.key)
  others : KeepsOthers H validator.key w w'

variable {H : Host} {w w' : World}
variable {validator : Signer} {stakeAmount : UInt64}

theorem transfer_lamports
    {source destination : Address}
    {amount : ℕ}
    (hTransfer :
      w.transfer source destination amount = .ok w')
    (hNe : source ≠ destination) :
    amount ≤ w.lamports source ∧
      w'.lamports =
        Function.update
          (Function.update w.lamports source
            (w.lamports source - amount))
          destination (w.lamports destination + amount) := by
  simp only [World.transfer, bind_eq_ok, require_eq_ok,
    pure_eq_ok] at hTransfer
  rcases hTransfer with ⟨_, hCovered, rfl⟩
  refine ⟨hCovered, ?_⟩
  rw [Function.update_of_ne hNe.symm]

/- Creating an account leaves other PDAs' lamports alone. -/
theorem createAccount_lamports
    {key : Pubkey}
    {seeds other : Seeds}
    {size : ℕ}
    {owner : ProgramId}
    (hCreate :
      w.createAccount H (.key key)
        (H.findProgramAddress other) size owner = .ok w')
    (hSeeds : seeds ≠ other) :
    w'.lamports (H.findProgramAddress seeds) =
      w.lamports (H.findProgramAddress seeds) := by
  have hAddress :
      H.findProgramAddress seeds ≠
        H.findProgramAddress other := by
    intro hEq
    exact hSeeds (H.findProgramAddress_inj.mp hEq)
  simp only [World.createAccount, World.allocate, bind_eq_ok,
    require_eq_ok, pure_eq_ok] at hCreate
  rcases hCreate with ⟨funded, hFunded, _, _, rfl⟩
  change funded.lamports _ = _
  unfold World.topUp at hFunded
  split_ifs at hFunded
  · rw [(transfer_lamports hFunded
        (by simp [Host.findProgramAddress])).2,
      Function.update_of_ne hAddress,
      Function.update_of_ne (by simp [Host.findProgramAddress])]
  · rw [Except.ok.inj hFunded]

/- An update at one validator's account keeps the others. -/
theorem keepsOthers_of_update
    {validator : Pubkey}
    {account : Account}
    (hAccounts :
      w'.accounts =
        Function.update w.accounts
          (validatorAddress H validator) account) :
    KeepsOthers H validator w w' := by
  refine ⟨?_, ?_⟩
  · rw [hAccounts]
    exact Function.update_of_ne
      (by simp [vaultAddress, validatorAddress,
        Host.findProgramAddress]) _ _
  · intro other hOther
    rw [hAccounts]
    apply Function.update_of_ne
    intro hEq
    exact hOther
      (Seeds.validator.inj (H.findProgramAddress_inj.mp hEq))

theorem registerValidator_moves
    {now : Int64}
    (hRegister :
      registerValidator H w now validator stakeAmount =
        .ok w') :
    Registers H now validator stakeAmount w w' := by
  rcases registerValidator_accounts hRegister with
    ⟨account, hAccounts⟩
  simp only [registerValidator, bind_eq_ok, require_eq_ok]
    at hRegister
  rcases hRegister with
    ⟨_, _, created, hCreate, _, _, staked, hStake, hSave⟩
  rcases World.createAccount_eq_ok hCreate with
    ⟨hVacant, hCreated, _⟩
  have hBlank :
      staked.accounts (validatorAddress H validator.key) =
        { owner := .registry
          data := List.replicate ValidatorState.len 0 } := by
    rw [(World.transfer_sameState hStake).1, hCreated]
    exact Function.update_self _ _ _
  have hSize :
      (List.replicate ValidatorState.len (0 : UInt8)).length =
        8 + Packed.width ValidatorState :=
    List.length_replicate.trans ValidatorState.width_eq.symm
  have hWritten :=
    World.saveAccount_accounts hSave hBlank hSize
  have hStaked := (transfer_lamports hStake (by
    simp [walletAddress, Host.findProgramAddress])).2
  simp only [World.saveAccount, bind_eq_ok, pure_eq_ok]
    at hSave
  rcases hSave with ⟨data, _, rfl⟩
  refine ⟨hVacant, ?_, ?_, keepsOthers_of_update hAccounts⟩
  · rw [hWritten]
    exact Function.update_self _ _ _
  · change staked.lamports (vaultAddress H) = _
    rw [hStaked]
    change Function.update _ (vaultAddress H) _ _ = _
    rw [Function.update_self,
      createAccount_lamports hCreate (by simp)]
    rfl

theorem unstakeValidator_moves
    (hUnstake : unstakeValidator H w validator = .ok w') :
    ∃ state, Unstakes H validator state w w' := by
  rcases unstakeValidator_accounts hUnstake with
    ⟨account, hAccounts⟩
  simp only [unstakeValidator, bind_eq_ok, require_eq_ok,
    pure_eq_ok] at hUnstake
  rcases hUnstake with
    ⟨state, hLoad, _, _, _, _, paid, hPaid, rfl⟩
  rcases transfer_lamports hPaid (by
    simp [walletAddress, Host.findProgramAddress]) with
    ⟨hCovered, hLamports⟩
  refine ⟨state,
    ⟨registration_eq_some.mpr (World.loadAccount_eq_ok hLoad),
      ?_, hCovered, ?_, ?_, keepsOthers_of_update hAccounts⟩⟩
  · exact Function.update_self _ _ _
  · simp [World.closeAccount, hLamports, vaultAddress,
      walletAddress, Host.findProgramAddress]
  · simp [World.closeAccount, hLamports, validatorAddress,
      walletAddress, Host.findProgramAddress]

end Entros

------------------------------------------------------------
-- Steps
------------------------------------------------------------

namespace Entros

open Foundations
open Registry

/- The instruction opens or closes a validator's account. -/
def Instruction.Stakes
    (validator : Pubkey) : Instruction → Prop
| .registry (.registerValidator signer _) =>
    signer.key = validator
| .registry (.unstakeValidator signer) =>
    signer.key = validator
| _ => False

/- What a call does to the vault and its validators. -/
inductive StakeMove
    (H : Host)
    (w : World)
    (call : Call H)
    (w' : World) : Prop
| register
    (validator : Signer)
    (stakeAmount : UInt64)
    (hCall :
      call.instruction =
        .registry (.registerValidator validator stakeAmount))
    (hRegisters :
      Registers H call.now validator stakeAmount w w')
| unstake
    (validator : Signer)
    (state : ValidatorState)
    (hCall :
      call.instruction =
        .registry (.unstakeValidator validator))
    (hUnstakes : Unstakes H validator state w w')
| other
    (hOther :
      ∀ validator, ¬ call.instruction.Stakes validator)
    (hVault : Spares H .vault w w')
    (hValidators :
      ∀ validator, Spares H (.validator validator) w w')

variable {H : Host} {w w' : World} {call : Call H}

theorem World.StakesSound.validator_owner
    (hSound : w.StakesSound H)
    (validator : Pubkey) :
    (w.accounts (validatorAddress H validator)).owner ≠
      .verifier := by
  rcases hSound.validator validator with
    hVacant | ⟨state, hAccount, _⟩
  · rw [hVacant]
    simp [Account.vacant]
  · rw [hAccount]
    simp [registeredAccount]

/- Every successful call is such a move. -/
theorem stakeMove_of_step
    (hSound : w.StakesSound H)
    (hStep : Step H w call w') :
    StakeMove H w call w' := by
  have hOther
      (hCall :
        ∀ validator, ¬ call.instruction.Stakes validator)
      (hSpares :
        ∀ seeds,
          seeds = .vault ∨
              (∃ validator, seeds = .validator validator) →
            (w.accounts (H.findProgramAddress seeds)).owner ≠
                .verifier →
              Spares H seeds w w') :
      StakeMove H w call w' :=
    .other hCall (hSpares _ (.inl rfl) hSound.vault)
      fun validator =>
        hSpares _ (.inr ⟨validator, rfl⟩)
          (hSound.validator_owner validator)
  have hRegistry :
      ∀ seeds : Seeds,
        seeds = .vault ∨
            (∃ validator, seeds = .validator validator) →
          seeds.OfRegistry ∧ seeds ≠ .protocolConfig ∧
            seeds ≠ .protocolTreasury := by
    rintro seeds (rfl | ⟨validator, rfl⟩)
    · exact ⟨trivial, by simp, by simp⟩
    · exact ⟨trivial, by simp, by simp⟩
  unfold Step execute at hStep
  cases hInstruction : call.instruction with
  | registry instruction =>
      rw [hInstruction] at hStep hOther
      by_cases hFunds : instruction.MovesFunds
      · cases hFunds with
        | withdrawTreasury admin amount =>
            refine hOther (fun _ hStakes => hStakes) ?_
            intro seeds hSeeds _
            exact withdrawTreasury_spares
              (hRegistry seeds hSeeds).2.2 hStep
        | registerValidator validator stakeAmount =>
            exact .register validator stakeAmount hInstruction
              (registerValidator_moves hStep)
        | unstakeValidator validator =>
            rcases unstakeValidator_moves hStep with
              ⟨state, hUnstakes⟩
            exact .unstake validator state hInstruction
              hUnstakes
      · refine hOther ?_ ?_
        · intro validator hStakes
          cases instruction with
          | registerValidator signer stakeAmount =>
              exact hFunds (.registerValidator _ _)
          | unstakeValidator signer =>
              exact hFunds (.unstakeValidator _)
          | _ => exact hStakes
        · intro seeds hSeeds _
          exact registry_spares (hRegistry seeds hSeeds).2.1
            hFunds hStep
  | verifier instruction =>
      rw [hInstruction] at hStep hOther
      refine hOther (fun _ hStakes => hStakes) ?_
      intro seeds hSeeds hOwner
      exact verifier_spares (hRegistry seeds hSeeds).1 hStep
        hOwner
  | anchor instruction =>
      rw [hInstruction] at hStep hOther
      refine hOther (fun _ hStakes => hStakes) ?_
      intro seeds hSeeds hOwner
      exact anchor_spares (hRegistry seeds hSeeds).1 hStep
        hOwner
  | outside instruction =>
      rw [hInstruction] at hStep hOther
      refine hOther (fun _ hStakes => hStakes) ?_
      intro seeds hSeeds _
      exact outside_spares (hRegistry seeds hSeeds).1 hStep

end Entros

------------------------------------------------------------
-- The Pool
------------------------------------------------------------

namespace Entros

open Foundations
open Registry

variable {H : Host} {w w' : World} {call : Call H}

theorem KeepsOthers.recordedStake
    {validator other : Pubkey}
    (hKeeps : KeepsOthers H validator w w')
    (hOther : other ≠ validator) :
    recordedStake H w' other = recordedStake H w other := by
  unfold Entros.recordedStake
  rw [registration_congr (hKeeps.2 other hOther)]

theorem Registers.recordedStake
    {now : Int64}
    {validator : Signer}
    {stakeAmount : UInt64}
    (hRegisters :
      Registers H now validator stakeAmount w w') :
    recordedStake H w validator.key = none ∧
      recordedStake H w' validator.key =
        some stakeAmount.toNat := by
  unfold Entros.recordedStake
  rw [registration_of_vacant hRegisters.vacant,
    registration_of_registered hRegisters.registered]
  exact ⟨rfl, rfl⟩

theorem Unstakes.recordedStake
    {validator : Signer}
    {state : ValidatorState}
    (hUnstakes : Unstakes H validator state w w') :
    recordedStake H w validator.key =
        some state.stake.toNat ∧
      recordedStake H w' validator.key = none := by
  unfold Entros.recordedStake
  rw [hUnstakes.registered,
    registration_of_vacant hUnstakes.vacant]
  exact ⟨rfl, rfl⟩

namespace StakeMove

/- The accounts of the validators stay well formed. -/
theorem sound
    (hSound : w.StakesSound H)
    (hMove : StakeMove H w call w') :
    w'.StakesSound H := by
  have hAlter
      {validator : Pubkey}
      (hKeeps : KeepsOthers H validator w w')
      (hOwn :
        w'.accounts (validatorAddress H validator) =
            .vacant ∨
          ∃ state,
            w'.accounts (validatorAddress H validator) =
                registeredAccount H state ∧
              state.authority = validator ∧
                state.bump =
                  H.canonicalBump (.validator validator)) :
      w'.StakesSound H := by
    refine ⟨?_, ?_⟩
    · rw [hKeeps.1]
      exact hSound.vault
    · intro other
      by_cases hOther : other = validator
      · rw [hOther]
        exact hOwn
      · rw [hKeeps.2 other hOther]
        exact hSound.validator other
  cases hMove with
  | register validator stakeAmount _ hRegisters =>
      exact hAlter hRegisters.others
        (.inr ⟨_, hRegisters.registered, rfl, rfl⟩)
  | unstake validator state _ hUnstakes =>
      exact hAlter hUnstakes.others (.inl hUnstakes.vacant)
  | other _ hVault hValidators =>
      refine ⟨?_, ?_⟩
      · rw [vaultAddress, hVault.account]
        exact hSound.vault
      · intro validator
        rw [validatorAddress, (hValidators validator).account]
        exact hSound.validator validator

/- Every move is a step of the pool. -/
theorem pool
    (hMove : StakeMove H w call w') :
    (stakePool H w).Step (stakePool H w') := by
  cases hMove with
  | register validator stakeAmount _ hRegisters =>
      have hTarget :
          stakePool H w' =
            (stakePool H w).enter validator.key
              stakeAmount.toNat := by
        unfold stakePool Pool.enter
        congr 1
        · exact hRegisters.vault
        · funext other
          by_cases hOther : other = validator.key
          · rw [hOther, Function.update_self]
            exact hRegisters.recordedStake.2
          · rw [Function.update_of_ne hOther]
            exact hRegisters.others.recordedStake hOther
      rw [hTarget]
      exact .enter _ _ hRegisters.recordedStake.1
  | unstake validator state _ hUnstakes =>
      have hTarget :
          stakePool H w' =
            (stakePool H w).leave validator.key
              state.stake.toNat := by
        unfold stakePool Pool.leave
        congr 1
        · exact hUnstakes.vault
        · funext other
          by_cases hOther : other = validator.key
          · rw [hOther, Function.update_self]
            exact hUnstakes.recordedStake.2
          · rw [Function.update_of_ne hOther]
            exact hUnstakes.others.recordedStake hOther
      rw [hTarget]
      exact .leave _ _ hUnstakes.recordedStake.1
  | other _ hVault hValidators =>
      have hTarget :
          stakePool H w' =
            { stakePool H w with
              balance := w'.lamports (vaultAddress H) } := by
        unfold stakePool
        congr 1
        funext validator
        unfold recordedStake
        rw [registration_congr
          (hValidators validator).account]
      rw [hTarget]
      exact .receive _ hVault.lamports

/- A recorded stake changes with its validator only. -/
theorem changes_iff
    (hMove : StakeMove H w call w')
    (validator : Pubkey) :
    recordedStake H w' validator ≠
        recordedStake H w validator ↔
      call.instruction.Stakes validator := by
  have hAlter
      {own : Pubkey}
      (hKeeps : KeepsOthers H own w w')
      (hOwn :
        recordedStake H w' own ≠ recordedStake H w own) :
      recordedStake H w' validator ≠
          recordedStake H w validator ↔
        own = validator := by
    by_cases hSame : own = validator
    · subst hSame
      simp [hOwn]
    · rw [hKeeps.recordedStake (Ne.symm hSame)]
      simp [hSame]
  cases hMove with
  | register own stakeAmount hCall hRegisters =>
      rw [hCall]
      apply hAlter hRegisters.others
      rw [hRegisters.recordedStake.1,
        hRegisters.recordedStake.2]
      simp
  | unstake own state hCall hUnstakes =>
      rw [hCall]
      apply hAlter hUnstakes.others
      rw [hUnstakes.recordedStake.1,
        hUnstakes.recordedStake.2]
      simp
  | other hOther hVault hValidators =>
      have hSame :
          recordedStake H w' validator =
            recordedStake H w validator := by
        unfold recordedStake
        rw [registration_congr
          (hValidators validator).account]
      simp [hSame, hOther validator]

end StakeMove

end Entros
