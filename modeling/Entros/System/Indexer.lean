import Entros.Foundations.EventLogs
import Entros.System.Frames
import Entros.System.Identities
import Entros.System.Logs
import Entros.System.Vault

/-
  An indexer of the event log: what it stores, how it applies
  an entry without looking at any account, and which entries
  can follow what it has stored.

  Key definitions include:
    * `Profile`
    * `Index`
    * `Index.apply`
    * `Index.Accepts`
    * `World.index`
    * `World.Indexed`
    * `Announces`

  Key theorems include:
    * `World.Indexed.step`
    * `World.Indexed.ledgerStep`
    * `registry_announces`
-/

------------------------------------------------------------
-- The Index
------------------------------------------------------------

namespace Entros

open Foundations
open Anchor
open Registry

/- What the log tells about a live identity. -/
structure Profile where
  commitment : Bytes 32
  verificationCount : UInt32
  trustScore : UInt16
  projectionVersion : UInt16
deriving DecidableEq

/- The configuration, the identities and the stakes. -/
structure Index where
  config : ProtocolConfig
  profile : Pubkey → Option Profile
  stake : Pubkey → Option UInt64

namespace Index

/- An identity without reputation at the current version. -/
def newcomer
    (index : Index)
    (commitment : Bytes 32) : Profile where
  commitment := commitment
  verificationCount := 0
  trustScore := 0
  projectionVersion := index.config.currentProjectionVersion

def setProfile
    (index : Index)
    (wallet : Pubkey)
    (profile : Option Profile) : Index :=
  { index with
    profile := Function.update index.profile wallet profile }

def setStake
    (index : Index)
    (validator : Pubkey)
    (stake : Option UInt64) : Index :=
  { index with
    stake := Function.update index.stake validator stake }

/- The index after one more entry. -/
def apply (index : Index) : Log → Index
| .anchorMinted owner _ commitment =>
    index.setProfile owner (some (index.newcomer commitment))
| .migrateIdentityEvent walletOld walletNew _ _ =>
    (index.setProfile walletNew
      (index.profile walletOld)).setProfile walletOld none
| .anchorUpdated owner verificationCount trustScore
    commitment =>
    index.setProfile owner
      ((index.profile owner).map fun profile =>
        { profile with
          commitment := commitment
          verificationCount := verificationCount
          trustScore := trustScore })
| .anchorReset owner _ commitment =>
    index.setProfile owner (some (index.newcomer commitment))
| .encryptedBaselineSet _ => index
| .anchorRebaselined owner commitment projectionVersion =>
    index.setProfile owner
      ((index.profile owner).map fun profile =>
        { profile with
          commitment := commitment
          projectionVersion := projectionVersion })
| .receiptSessionBound _ _ _ _ _ => index
| .validatorRegistered authority stake =>
    index.setStake authority (some stake)
| .trustScoreComputed _ => index
| .validatorUnstaked authority _ =>
    index.setStake authority none
| .protocolConfigUpdated _ verificationFee =>
    { index with
      config := { index.config with
        verificationFee := verificationFee } }
| .treasuryWithdrawn _ _ => index
| .adminMigrated _ newAdmin =>
    { index with
      config := { index.config with admin := newAdmin } }
| .validatorPubkeySet _ validatorPubkey =>
    { index with
      config := { index.config with
        validatorPubkey := validatorPubkey
        secondaryValidatorPubkey := Pubkey.default
        secondaryValidatorValidUntil := 0 } }
| .projectionVersionsSet _ current minimum =>
    { index with
      config := { index.config with
        currentProjectionVersion := current
        minimumSupportedProjectionVersion := minimum } }
| .validatorPubkeyRotated _ newValidatorPubkey secondary
    validUntil =>
    { index with
      config := { index.config with
        validatorPubkey := newValidatorPubkey
        secondaryValidatorPubkey := secondary
        secondaryValidatorValidUntil := validUntil } }
| .authorityTransferProposed _ pendingAuthority =>
    { index with
      config := { index.config with
        pendingAuthority := pendingAuthority } }
| .authorityTransferAccepted _ newAdmin =>
    { index with
      config := { index.config with
        admin := newAdmin
        pendingAuthority := Pubkey.default } }
| .challengeCreated _ _ _ => index
| .verificationComplete _ _ _ => index

/- The entries that can follow what has been indexed. -/
def Accepts (H : Host) (index : Index) : Log → Prop
| .anchorMinted owner mint commitment =>
    index.profile owner = none ∧ mint = mintKey H owner ∧
      commitment ≠ Bytes.zero 32
| .migrateIdentityEvent walletOld walletNew identityOld
    identityNew =>
    index.profile walletOld ≠ none ∧
      index.profile walletNew = none ∧
        identityOld = H.toPubkey (identityAddress H walletOld) ∧
          identityNew =
            H.toPubkey (identityAddress H walletNew)
| .anchorUpdated owner verificationCount trustScore
    commitment =>
    ∃ profile,
      index.profile owner = some profile ∧
        checkedAdd32 profile.verificationCount 1 =
            some verificationCount ∧
          trustScore ≤ index.config.maxTrustScore ∧
            commitment ≠ profile.commitment ∧
              commitment ≠ Bytes.zero 32
| .anchorReset owner mint commitment =>
    index.profile owner ≠ none ∧ mint = mintKey H owner ∧
      commitment ≠ Bytes.zero 32
| .encryptedBaselineSet owner => index.profile owner ≠ none
| .anchorRebaselined owner commitment projectionVersion =>
    ∃ profile,
      index.profile owner = some profile ∧
        profile.projectionVersion < projectionVersion ∧
          projectionVersion =
              index.config.currentProjectionVersion ∧
            commitment ≠ Bytes.zero 32
| .receiptSessionBound owner _ projectionVersion _ _ =>
    ∃ profile,
      index.profile owner = some profile ∧
        profile.projectionVersion = projectionVersion
| .validatorRegistered authority stake =>
    index.stake authority = none ∧
      index.config.minStake ≤ stake
| .trustScoreComputed computed =>
    ∃ now recentTimestamps,
      previewScore now index.config.baseTrustIncrement
          index.config.maxTrustScore
          computed.creationTimestamp recentTimestamps =
        .ok computed.trustScore
| .validatorUnstaked authority amount =>
    index.stake authority = some amount
| .protocolConfigUpdated admin _ =>
    admin = index.config.admin
| .treasuryWithdrawn admin _ => admin = index.config.admin
| .adminMigrated oldAdmin _ => oldAdmin = index.config.admin
| .validatorPubkeySet admin validatorPubkey =>
    admin = index.config.admin ∧
      validatorPubkey ≠ Pubkey.default
| .projectionVersionsSet admin current minimum =>
    admin = index.config.admin ∧
      validateProjectionTransition
          (index.config.currentProjectionVersion,
            index.config.minimumSupportedProjectionVersion)
          (current, minimum) = .ok ()
| .validatorPubkeyRotated admin newValidatorPubkey secondary
    validUntil =>
    admin = index.config.admin ∧
      newValidatorPubkey ≠ Pubkey.default ∧
        (secondary = index.config.validatorPubkey ∨
          secondary = Pubkey.default ∧ validUntil = 0)
| .authorityTransferProposed currentAdmin pendingAuthority =>
    currentAdmin = index.config.admin ∧
      pendingAuthority ≠ Pubkey.default
| .authorityTransferAccepted oldAdmin newAdmin =>
    oldAdmin = index.config.admin ∧
      newAdmin = index.config.pendingAuthority ∧
        newAdmin ≠ Pubkey.default
| .challengeCreated _ nonce _ => nonce ≠ Bytes.zero 32
| .verificationComplete _ isValid nonce =>
    isValid = true ∧ nonce ≠ Bytes.zero 32

end Index

end Entros

------------------------------------------------------------
-- The Accounts Behind It
------------------------------------------------------------

namespace Entros

open Foundations
open Anchor
open Registry

def profileOf (identity : IdentityState) : Profile where
  commitment := identity.currentCommitment
  verificationCount := identity.verificationCount
  trustScore := identity.trustScore
  projectionVersion := identity.projectionVersion

def profilesOf
    (identity : Pubkey → Option IdentityState)
    (wallet : Pubkey) : Option Profile :=
  (identity wallet).map profileOf

def stakesOf
    (H : Host)
    (w : World)
    (validator : Pubkey) : Option UInt64 :=
  (registration H w validator).map ValidatorState.stake

/- What an indexer of the accounts themselves would store. -/
def World.index (H : Host) (w : World) : Index where
  config := configRecord H w
  profile := profilesOf (w.ledger H).identity
  stake := stakesOf H w

/-
  A configured deployment whose accounts have been written by
  the programs alone.
-/
structure World.Indexed (H : Host) (w : World) : Prop where
  config : w.ConfigSound H
  configured : (protocolConfig H w).owner = .registry
  stakes : w.StakesSound H
  ledger : Represents H w.accounts (w.ledger H)
  held : IdentitySound H (w.ledger H).identity

variable {H : Host} {w w' : World} {call : Call H}

theorem profilesOf_update
    (identity : Pubkey → Option IdentityState)
    (wallet : Pubkey)
    (stored : Option IdentityState) :
    profilesOf (Function.update identity wallet stored) =
      Function.update (profilesOf identity) wallet
        (stored.map profileOf) := by
  funext other
  by_cases hOther : other = wallet
  · subst hOther
    rw [profilesOf, Function.update_self,
      Function.update_self]
  · rw [profilesOf, Function.update_of_ne hOther,
      Function.update_of_ne hOther]
    rfl

theorem profilesOf_some
    {identity : Pubkey → Option IdentityState}
    {wallet : Pubkey}
    {stored : IdentityState}
    (hStored : identity wallet = some stored) :
    profilesOf identity wallet = some (profileOf stored) := by
  rw [profilesOf, hStored]
  rfl

theorem profilesOf_none
    {identity : Pubkey → Option IdentityState}
    {wallet : Pubkey}
    (hVacant : identity wallet = none) :
    profilesOf identity wallet = none := by
  rw [profilesOf, hVacant]
  rfl

/- A configuration stays the registry's. -/
theorem configured_step
    (hConfigured : (protocolConfig H w).owner = .registry)
    (hStep : Step H w call w') :
    (protocolConfig H w').owner = .registry := by
  have hOther : (protocolConfig H w).owner ≠ .verifier := by
    rw [hConfigured]
    exact ProgramId.noConfusion
  have hKept
      (hKeeps : KeepsConfig H w w') :
      (protocolConfig H w').owner = .registry := by
    rw [hKeeps]
    exact hConfigured
  unfold Step execute at hStep
  cases hInstruction : call.instruction with
  | registry instruction =>
      rw [hInstruction] at hStep
      rcases registry_owner hStep with hOwner | hOwner
      · exact hOwner.trans hConfigured
      · exact hOwner
  | verifier instruction =>
      rw [hInstruction] at hStep
      exact hKept (verifier_keepsConfig hStep hOther)
  | anchor instruction =>
      rw [hInstruction] at hStep
      exact hKept (anchor_keepsConfig hStep hOther)
  | outside instruction =>
      rw [hInstruction] at hStep
      exact hKept (outside_keepsConfig hStep)

/- The ledgers before and after a call. -/
theorem World.Indexed.ledgerStep
    (hIndexed : w.Indexed H)
    (hStep : Step H w call w') :
    LedgerStep H (protocolConfig H w) call (w.ledger H)
      (w'.ledger H) := by
  rcases step_refines hIndexed.ledger hStep with
    ⟨l', hLedger, hRep⟩
  rw [hRep.ledger_eq]
  exact hLedger

/- The accounts stay well formed. -/
theorem World.Indexed.step
    (hIndexed : w.Indexed H)
    (hStep : Step H w call w') :
    w'.Indexed H where
  config := (config_step hIndexed.config hStep).1
  configured := configured_step hIndexed.configured hStep
  stakes :=
    (stakeMove_of_step hIndexed.stakes hStep).sound
      hIndexed.stakes
  ledger := by
    rcases step_refines hIndexed.ledger hStep with
      ⟨l', _, hRep⟩
    rw [hRep.ledger_eq]
    exact hRep
  held :=
    (hIndexed.ledgerStep hStep).identityStep.sound
      hIndexed.held

end Entros

------------------------------------------------------------
-- Announcements
------------------------------------------------------------

namespace Entros

open Foundations
open Anchor
open Registry

/- The log leads from the one index to the other. -/
structure Announces
    (H : Host)
    (w w' : World)
    (log : List Log) : Prop where
  image : w'.index H = log.foldl Index.apply (w.index H)
  accepted :
    Accepted Index.apply (Index.Accepts H) (w.index H) log

variable {H : Host} {w w' : World} {call : Call H}

theorem Announces.silent
    (hImage : w'.index H = w.index H) :
    Announces H w w' [] where
  image := hImage
  accepted := trivial

theorem Announces.single
    {entry : Log}
    (hImage : w'.index H = (w.index H).apply entry)
    (hAccepts : (w.index H).Accepts H entry) :
    Announces H w w' [entry] where
  image := hImage
  accepted := accepted_single.mpr hAccepts

/- Only two instructions touch the registrations. -/
theorem stakes_kept
    (hIndexed : w.Indexed H)
    (hStep : Step H w call w')
    (hCall :
      ∀ validator, ¬ call.instruction.Stakes validator) :
    stakesOf H w' = stakesOf H w := by
  cases stakeMove_of_step hIndexed.stakes hStep with
  | register validator stakeAmount hInstruction =>
      rw [hInstruction] at hCall
      exact absurd rfl (hCall validator.key)
  | unstake validator state hInstruction =>
      rw [hInstruction] at hCall
      exact absurd rfl (hCall validator.key)
  | other _ _ hValidators =>
      funext validator
      rw [stakesOf,
        registration_congr (hValidators validator).account]
      rfl

/- Only the registry touches the configuration. -/
theorem config_kept
    (hIndexed : w.Indexed H)
    (hStep : Step H w call w')
    (hCall :
      ∀ instruction,
        call.instruction ≠ .registry instruction) :
    configRecord H w' = configRecord H w := by
  rcases (config_step hIndexed.config hStep).2 with
    ⟨instruction, hRegistry, _⟩ | ⟨_, hSame⟩
  · exact absurd hRegistry (hCall instruction)
  · exact hSame

end Entros

------------------------------------------------------------
-- Registry Events
------------------------------------------------------------

namespace Entros

open Foundations
open Anchor
open Registry

variable {H : Host} {w w' : World} {now : Int64}

/- The admin bytes are those of the record. -/
theorem readAdmin_eq
    {data : List UInt8}
    (hLength : 40 ≤ data.length) :
    readField Pubkey data ProtocolConfig.offsetAdmin =
      .ok (recordOf data).admin := by
  rcases encodes_recordOf data with ⟨tag, rest, hData⟩
  rw [readField_eq_ok]
  exact hData.read ConfigField.admin hLength

theorem readPending_eq
    {data : List UInt8}
    (hLength :
      ProtocolConfig.offsetPendingAuthority + 32 ≤
        data.length) :
    readField Pubkey data
        ProtocolConfig.offsetPendingAuthority =
      .ok (recordOf data).pendingAuthority := by
  rcases encodes_recordOf data with ⟨tag, rest, hData⟩
  rw [readField_eq_ok]
  exact hData.read ConfigField.pendingAuthority hLength

/- The key that a rotation announces as its secondary. -/
theorem graceWindow_cases
    {old new : Pubkey}
    {grace : Int64}
    {secondary : Pubkey × Int64}
    (hWindow : graceWindow old new grace now = .ok secondary) :
    secondary.1 = old ∨
      secondary.1 = Pubkey.default ∧ secondary.2 = 0 := by
  unfold graceWindow at hWindow
  split_ifs at hWindow
  · simp only [bind_eq_ok, pure_eq_ok] at hWindow
    rcases hWindow with ⟨validUntil, _, rfl⟩
    exact .inl rfl
  · rw [← Except.ok.inj hWindow]
    exact .inr ⟨rfl, rfl⟩

/- What a rotation emits is what it stores. -/
theorem rotateValidatorPubkey_logs
    {admin : Signer}
    {new : Pubkey}
    {grace : Int64}
    {secondary : Pubkey × Int64}
    (hDocumented : Documented (configData H w))
    (hWindow :
      graceWindow (configRecord H w).validatorPubkey new grace
        now = .ok secondary)
    (hRotate :
      rotateValidatorPubkey H w now admin new grace =
        .ok w') :
    rotateValidatorPubkeyLogs H w now admin new grace =
      .ok [.validatorPubkeyRotated admin.key new secondary.1
        secondary.2] := by
  simp only [rotateValidatorPubkey, bind_eq_ok,
    require_eq_ok] at hRotate
  rcases hRotate with
    ⟨_, _, _, _, _, _, _, _, old, hOld, _⟩
  have hRecord :
      (configRecord H w).validatorPubkey = old :=
    oldValidator_spec hDocumented hOld
  rw [hRecord] at hWindow
  simp only [rotateValidatorPubkeyLogs, hOld, hWindow,
    ok_bind]
  rfl

theorem acceptAuthority_logs
    {pendingAuthority : Signer}
    (hAccept :
      acceptAuthority H w pendingAuthority = .ok w') :
    acceptAuthorityLogs H w =
      .ok [.authorityTransferAccepted (configRecord H w).admin
        (configRecord H w).pendingAuthority] := by
  simp only [acceptAuthority, bind_eq_ok, require_eq_ok]
    at hAccept
  rcases hAccept with ⟨_, _, _, hLength, _⟩
  have hShort :
      40 ≤ (w.accounts (configAddress H)).data.length :=
    le_trans (by decide) hLength
  simp only [acceptAuthorityLogs, readAdmin_eq hShort,
    readPending_eq hLength, ok_bind]
  rfl

theorem migrateAdmin_logs
    {newAdmin : Signer}
    (hMigrate : migrateAdmin H w newAdmin = .ok w') :
    migrateAdminLogs H w newAdmin =
      .ok [.adminMigrated (configRecord H w).admin
        newAdmin.key] := by
  simp only [migrateAdmin, bind_eq_ok, require_eq_ok]
    at hMigrate
  rcases hMigrate with ⟨_, _, _, _, _, hLength, _⟩
  simp only [migrateAdminLogs, readAdmin_eq hLength, ok_bind]
  rfl

theorem withdrawTreasury_admin
    {admin : Signer}
    {amount : UInt64}
    (hWithdraw :
      withdrawTreasury H w admin amount = .ok w') :
    (configRecord H w).admin = admin.key := by
  simp only [withdrawTreasury, bind_eq_ok, require_eq_ok]
    at hWithdraw
  rcases hWithdraw with ⟨config, hLoad, _, hAdmin, _⟩
  rw [configRecord_of_load hLoad]
  exact hAdmin

theorem registerValidator_minStake
    {validator : Signer}
    {stakeAmount : UInt64}
    (hRegister :
      registerValidator H w now validator stakeAmount =
        .ok w') :
    (configRecord H w).minStake ≤ stakeAmount := by
  simp only [registerValidator, bind_eq_ok, require_eq_ok]
    at hRegister
  rcases hRegister with ⟨config, hLoad, _, _, _, hStake, _⟩
  rw [configRecord_of_load hLoad]
  exact hStake

end Entros

------------------------------------------------------------
-- Registry Calls
------------------------------------------------------------

namespace Entros

open Foundations
open Anchor
open Registry

variable {H : Host} {w w' : World} {call : Call H}
variable {instruction : RegistryInstruction}

theorem World.index_eq
    {config : ProtocolConfig}
    {profile : Pubkey → Option Profile}
    {stake : Pubkey → Option UInt64}
    (hConfig : configRecord H w = config)
    (hProfile : profilesOf (w.ledger H).identity = profile)
    (hStake : stakesOf H w = stake) :
    w.index H = Index.mk config profile stake := by
  rw [← hConfig, ← hProfile, ← hStake]
  rfl

/- The registry leaves the identities alone. -/
theorem registry_profiles
    (hIndexed : w.Indexed H)
    (hInstruction :
      call.instruction = .registry instruction)
    (hStep : Step H w call w') :
    profilesOf (w'.ledger H).identity =
      profilesOf (w.ledger H).identity := by
  unfold Step execute at hStep
  rw [hInstruction] at hStep
  have hLedger : w'.ledger H = w.ledger H :=
    (hIndexed.ledger.registry hStep).ledger_eq
  rw [hLedger]

theorem registry_stakes
    (hIndexed : w.Indexed H)
    (hInstruction :
      call.instruction = .registry instruction)
    (hStep : Step H w call w')
    (hOther :
      ∀ validator,
        ¬ (Instruction.registry instruction).Stakes validator) :
    stakesOf H w' = stakesOf H w := by
  apply stakes_kept hIndexed hStep
  rw [hInstruction]
  exact hOther

/- Treasury and validators leave the configuration alone. -/
theorem apart_record
    (hInstruction :
      call.instruction = .registry instruction)
    (hApart : instruction.Apart)
    (hStep : Step H w call w') :
    configRecord H w' = configRecord H w := by
  unfold Step execute at hStep
  rw [hInstruction] at hStep
  exact congrArg
    (fun account : Account => recordOf account.data)
    (apart_account hApart hStep)

theorem withdrawTreasury_announces
    {admin : Signer}
    {amount : UInt64}
    (hIndexed : w.Indexed H)
    (hInstruction :
      call.instruction =
        .registry (.withdrawTreasury admin amount))
    (hStep : Step H w call w')
    (hExecute :
      withdrawTreasury H w admin amount = .ok w') :
    Announces H w w' [.treasuryWithdrawn admin.key amount] := by
  refine .single ?_ (withdrawTreasury_admin hExecute).symm
  exact World.index_eq
    (apart_record hInstruction (.withdrawTreasury _ _) hStep)
    (registry_profiles hIndexed hInstruction hStep)
    (registry_stakes hIndexed hInstruction hStep
      fun _ hStakes => hStakes)

theorem registerValidator_announces
    {validator : Signer}
    {stakeAmount : UInt64}
    (hIndexed : w.Indexed H)
    (hInstruction :
      call.instruction =
        .registry (.registerValidator validator stakeAmount))
    (hStep : Step H w call w')
    (hExecute :
      registerValidator H w call.now validator stakeAmount =
        .ok w') :
    Announces H w w'
      [.validatorRegistered validator.key stakeAmount] := by
  have hMoves := registerValidator_moves hExecute
  have hStakes :
      stakesOf H w' =
        Function.update (stakesOf H w) validator.key
          (some stakeAmount) := by
    funext other
    by_cases hOther : other = validator.key
    · subst hOther
      rw [Function.update_self, stakesOf,
        registration_of_registered hMoves.registered]
      rfl
    · rw [Function.update_of_ne hOther, stakesOf,
        registration_congr (hMoves.others.2 other hOther)]
      rfl
  refine .single ?_ ⟨?_, registerValidator_minStake hExecute⟩
  · exact World.index_eq
      (apart_record hInstruction (.registerValidator _ _)
        hStep)
      (registry_profiles hIndexed hInstruction hStep)
      hStakes
  · change stakesOf H w validator.key = none
    rw [stakesOf, registration_of_vacant hMoves.vacant]
    rfl

theorem computeTrustScore_announces
    {verificationCount : UInt32}
    {creationTimestamp : Int64}
    {recentTimestamps : List.Vector Int64 10}
    (hExecute :
      (RegistryInstruction.computeTrustScore
          verificationCount creationTimestamp
          recentTimestamps).execute H call.now w = .ok w') :
    ∃ log,
      (RegistryInstruction.computeTrustScore
          verificationCount creationTimestamp
          recentTimestamps).logs H call.now w = .ok log ∧
        Announces H w w' log := by
  rcases bind_eq_ok.mp hExecute with
    ⟨computed, hComputed, hSame⟩
  rw [← Except.ok.inj hSame]
  refine ⟨_, bind_eq_ok.mpr ⟨computed, hComputed, rfl⟩,
    .single rfl ?_⟩
  simp only [computeTrustScore, bind_eq_ok, pure_eq_ok]
    at hComputed
  rcases hComputed with
    ⟨config, hLoad, trustScore, hScore, rfl⟩
  refine ⟨call.now, recentTimestamps, ?_⟩
  change previewScore call.now
      (configRecord H w).baseTrustIncrement
      (configRecord H w).maxTrustScore creationTimestamp
      recentTimestamps = .ok trustScore
  rw [configRecord_of_load hLoad]
  exact hScore

theorem unstakeValidator_announces
    {validator : Signer}
    (hIndexed : w.Indexed H)
    (hInstruction :
      call.instruction =
        .registry (.unstakeValidator validator))
    (hStep : Step H w call w')
    (hExecute : unstakeValidator H w validator = .ok w') :
    ∃ log,
      unstakeValidatorLogs H w validator = .ok log ∧
        Announces H w w' log := by
  rcases unstakeValidator_moves hExecute with
    ⟨state, hMoves⟩
  rcases hIndexed.stakes.registered hMoves.registered with
    ⟨_, hAuthority, _⟩
  have hLoad := registration_eq_load.mp hMoves.registered
  have hStakes :
      stakesOf H w' =
        Function.update (stakesOf H w) state.authority
          none := by
    rw [hAuthority]
    funext other
    by_cases hOther : other = validator.key
    · subst hOther
      rw [Function.update_self, stakesOf,
        registration_of_vacant hMoves.vacant]
      rfl
    · rw [Function.update_of_ne hOther, stakesOf,
        registration_congr (hMoves.others.2 other hOther)]
      rfl
  refine ⟨[.validatorUnstaked state.authority state.stake],
    ?_, .single ?_ ?_⟩
  · exact bind_eq_ok.mpr ⟨state, hLoad, rfl⟩
  · exact World.index_eq
      (apart_record hInstruction (.unstakeValidator _) hStep)
      (registry_profiles hIndexed hInstruction hStep)
      hStakes
  · change stakesOf H w state.authority = some state.stake
    rw [hAuthority, stakesOf, hMoves.registered]
    rfl

/- An instruction on the configuration announces its fields. -/
theorem config_announces
    {entry : Log}
    {record : ProtocolConfig}
    (hIndexed : w.Indexed H)
    (hInstruction :
      call.instruction = .registry instruction)
    (hFunds :
      ∀ validator,
        ¬ (Instruction.registry instruction).Stakes validator)
    (hStep : Step H w call w')
    (hRecord : configRecord H w' = record)
    (hApply :
      (w.index H).apply entry =
        { w.index H with config := record })
    (hAccepts : (w.index H).Accepts H entry) :
    Announces H w w' [entry] := by
  refine .single ?_ hAccepts
  rw [hApply]
  exact World.index_eq hRecord
    (registry_profiles hIndexed hInstruction hStep)
    (registry_stakes hIndexed hInstruction hStep hFunds)

/- A configured deployment is not initialised again. -/
theorem initializeProtocol_fails
    {admin : Signer}
    {minStake verificationFee : UInt64}
    {challengeExpiry : Int64}
    {maxTrustScore baseTrustIncrement : UInt16}
    {validatorPubkey : Pubkey}
    (hConfigured : (protocolConfig H w).owner = .registry)
    (hInit :
      initializeProtocol H w admin minStake challengeExpiry
        maxTrustScore baseTrustIncrement verificationFee
        validatorPubkey = .ok w') :
    False := by
  have hVacant := (initializeProtocol_record hInit).2.1
  unfold protocolConfig at hConfigured
  rw [show w.accounts (H.findProgramAddress .protocolConfig) =
    .vacant from hVacant] at hConfigured
  cases hConfigured

/- Every call of the registry announces what it does. -/
theorem registry_announces
    (hIndexed : w.Indexed H)
    (hInstruction :
      call.instruction = .registry instruction)
    (hStep : Step H w call w') :
    ∃ log,
      instruction.logs H call.now w = .ok log ∧
        Announces H w w' log := by
  have hExecute := hStep
  unfold Step execute at hExecute
  rw [hInstruction] at hExecute
  have hRecord :=
    (registry_step hIndexed.config.layout hExecute).1
  generalize hAfter : configRecord H w' = record at hRecord
  cases hRecord with
  | initializeProtocol =>
      exact (initializeProtocol_fails hIndexed.configured
        hExecute).elim
  | updateProtocolConfig admin verificationFee hAdmin =>
      exact ⟨_, rfl, config_announces hIndexed hInstruction
        (fun _ hStakes => hStakes) hStep hAfter rfl
        hAdmin.symm⟩
  | setValidatorPubkey admin validatorPubkey hAdmin hKey =>
      exact ⟨_, rfl, config_announces hIndexed hInstruction
        (fun _ hStakes => hStakes) hStep hAfter rfl
        ⟨hAdmin.symm, hKey⟩⟩
  | rotateValidatorPubkey admin new grace secondary hAdmin
      hKey _ hWindow =>
      exact ⟨_, rotateValidatorPubkey_logs
        hIndexed.config.layout hWindow hExecute,
        config_announces hIndexed hInstruction
          (fun _ hStakes => hStakes) hStep hAfter rfl
          ⟨hAdmin.symm, hKey, graceWindow_cases hWindow⟩⟩
  | setProjectionVersions admin current minimum hAdmin
      hTransition =>
      exact ⟨_, rfl, config_announces hIndexed hInstruction
        (fun _ hStakes => hStakes) hStep hAfter rfl
        ⟨hAdmin.symm, hTransition⟩⟩
  | proposeAuthority admin newAuthority hAdmin hNew =>
      exact ⟨_, rfl, config_announces hIndexed hInstruction
        (fun _ hStakes => hStakes) hStep hAfter rfl
        ⟨hAdmin.symm, hNew⟩⟩
  | acceptAuthority pendingAuthority hPending hProposed =>
      refine ⟨_, acceptAuthority_logs hExecute,
        config_announces hIndexed hInstruction
          (fun _ hStakes => hStakes) hStep hAfter ?_
          ⟨rfl, rfl, ?_⟩⟩
      · rw [hPending]
        rfl
      · rw [hPending]
        exact hProposed
  | migrateAdmin newAdmin =>
      exact ⟨_, migrateAdmin_logs hExecute,
        config_announces hIndexed hInstruction
          (fun _ hStakes => hStakes) hStep hAfter rfl rfl⟩
  | apart _ hApart =>
      cases hApart with
      | withdrawTreasury admin amount =>
          exact ⟨_, rfl, withdrawTreasury_announces hIndexed
            hInstruction hStep hExecute⟩
      | registerValidator validator stakeAmount =>
          exact ⟨_, rfl, registerValidator_announces hIndexed
            hInstruction hStep hExecute⟩
      | computeTrustScore count creation recent =>
          exact computeTrustScore_announces hExecute
      | unstakeValidator validator =>
          exact unstakeValidator_announces hIndexed
            hInstruction hStep hExecute

end Entros
