import Entros.Registry.Effects
import Entros.System.Execution

/-
  The instructions of entros-registry as steps of the
  configuration record.

  Key definitions include:
    * `RegistryInstruction.Apart`
    * `ConfigStep`

  Key theorems include:
    * `apart_accounts`
    * `registry_step`
    * `registry_frame`
    * `registry_owner`
-/

------------------------------------------------------------
-- Steps of the Record
------------------------------------------------------------

namespace Entros

open Foundations
open Registry

/- The instructions that do not write the configuration. -/
inductive RegistryInstruction.Apart :
    RegistryInstruction → Prop
| withdrawTreasury (admin : Signer) (amount : UInt64) :
    Apart (.withdrawTreasury admin amount)
| registerValidator
    (validator : Signer)
    (stakeAmount : UInt64) :
    Apart (.registerValidator validator stakeAmount)
| computeTrustScore
    (verificationCount : UInt32)
    (creationTimestamp : Int64)
    (recentTimestamps : List.Vector Int64 10) :
    Apart
      (.computeTrustScore verificationCount creationTimestamp
        recentTimestamps)
| unstakeValidator (validator : Signer) :
    Apart (.unstakeValidator validator)

/-
  A step from the record `c`, taken at `now` while the
  programdata account holds `programData`.
-/
inductive ConfigStep
    (H : Host)
    (now : Int64)
    (programData : List UInt8)
    (c : ProtocolConfig) :
    RegistryInstruction → ProtocolConfig → Prop
| initializeProtocol
    (admin : Signer)
    (minStake : UInt64)
    (challengeExpiry : Int64)
    (maxTrustScore baseTrustIncrement : UInt16)
    (verificationFee : UInt64)
    (validatorPubkey : Pubkey)
    (hKey : validatorPubkey ≠ Pubkey.default)
    (hVacant : c = .zero) :
    ConfigStep H now programData c
      (.initializeProtocol admin minStake challengeExpiry
        maxTrustScore baseTrustIncrement verificationFee
        validatorPubkey)
      (initialRecord H admin.key minStake challengeExpiry
        maxTrustScore baseTrustIncrement verificationFee
        validatorPubkey)
| updateProtocolConfig
    (admin : Signer)
    (verificationFee : UInt64)
    (hAdmin : c.admin = admin.key) :
    ConfigStep H now programData c
      (.updateProtocolConfig admin verificationFee)
      { c with verificationFee := verificationFee }
| setValidatorPubkey
    (admin : Signer)
    (validatorPubkey : Pubkey)
    (hAdmin : c.admin = admin.key)
    (hKey : validatorPubkey ≠ Pubkey.default) :
    ConfigStep H now programData c
      (.setValidatorPubkey admin validatorPubkey)
      { c with
        validatorPubkey := validatorPubkey
        secondaryValidatorPubkey := Pubkey.default
        secondaryValidatorValidUntil := 0 }
| rotateValidatorPubkey
    (admin : Signer)
    (newValidatorPubkey : Pubkey)
    (gracePeriodSecs : Int64)
    (secondary : Pubkey × Int64)
    (hAdmin : c.admin = admin.key)
    (hKey : newValidatorPubkey ≠ Pubkey.default)
    (hGrace :
      gracePeriodSecs ≤
        ProtocolConfig.maxValidatorGracePeriodSecs)
    (hWindow :
      graceWindow c.validatorPubkey newValidatorPubkey
        gracePeriodSecs now = .ok secondary) :
    ConfigStep H now programData c
      (.rotateValidatorPubkey admin newValidatorPubkey
        gracePeriodSecs)
      { c with
        validatorPubkey := newValidatorPubkey
        secondaryValidatorPubkey := secondary.1
        secondaryValidatorValidUntil := secondary.2 }
| setProjectionVersions
    (admin : Signer)
    (current minimum : UInt16)
    (hAdmin : c.admin = admin.key)
    (hTransition :
      validateProjectionTransition
        (c.currentProjectionVersion,
          c.minimumSupportedProjectionVersion)
        (current, minimum) = .ok ()) :
    ConfigStep H now programData c
      (.setProjectionVersions admin current minimum)
      { c with
        currentProjectionVersion := current
        minimumSupportedProjectionVersion := minimum }
| proposeAuthority
    (admin : Signer)
    (newAuthority : Pubkey)
    (hAdmin : c.admin = admin.key)
    (hNew : newAuthority ≠ Pubkey.default) :
    ConfigStep H now programData c
      (.proposeAuthority admin newAuthority)
      { c with pendingAuthority := newAuthority }
| acceptAuthority
    (pendingAuthority : Signer)
    (hPending : c.pendingAuthority = pendingAuthority.key)
    (hProposed : pendingAuthority.key ≠ Pubkey.default) :
    ConfigStep H now programData c
      (.acceptAuthority pendingAuthority)
      { c with
        admin := pendingAuthority.key
        pendingAuthority := Pubkey.default }
| migrateAdmin
    (newAdmin : Signer)
    (hAuthority :
      upgradeAuthority programData = .ok newAdmin.key) :
    ConfigStep H now programData c (.migrateAdmin newAdmin)
      { c with admin := newAdmin.key }
| apart
    (instruction : RegistryInstruction)
    (hApart : instruction.Apart) :
    ConfigStep H now programData c instruction c

end Entros

------------------------------------------------------------
-- Refinement
------------------------------------------------------------

namespace Entros

open Foundations

namespace Registry

variable {H : Host} {w w' : World}

/- An account that does not exist stands for the zeros. -/
theorem recordOf_nil : recordOf [] = .zero := by
  decide +kernel

/- Treasury and validators: at most one account changes. -/
theorem apart_accounts
    {now : Int64}
    {instruction : RegistryInstruction}
    (hApart : instruction.Apart)
    (hExecute : instruction.execute H now w = .ok w') :
    w'.accounts = w.accounts ∨
      ∃ authority account,
        w'.accounts =
          Function.update w.accounts
            (H.findProgramAddress (.validator authority))
            account := by
  cases hApart with
  | withdrawTreasury admin amount =>
      exact .inl (withdrawTreasury_accounts hExecute)
  | registerValidator validator stakeAmount =>
      exact .inr ⟨validator.key,
        registerValidator_accounts hExecute⟩
  | computeTrustScore count creation recent =>
      exact .inl (congrArg World.accounts
        (computeTrustScore_unchanged hExecute))
  | unstakeValidator validator =>
      exact .inr ⟨validator.key,
        unstakeValidator_accounts hExecute⟩

theorem apart_account
    {now : Int64}
    {instruction : RegistryInstruction}
    (hApart : instruction.Apart)
    (hExecute : instruction.execute H now w = .ok w') :
    w'.accounts (configAddress H) =
      w.accounts (configAddress H) := by
  rcases apart_accounts hApart hExecute with
    hSame | ⟨authority, account, hSame⟩
  · rw [hSame]
  · have hAddress :
        configAddress H ≠
          H.findProgramAddress (.validator authority) := by
      simp [configAddress, H.findProgramAddress_inj]
    rw [hSame, Function.update_of_ne hAddress]

theorem apart_step
    {now : Int64}
    {instruction : RegistryInstruction}
    (hApart : instruction.Apart)
    (hDocumented : Documented (configData H w))
    (hExecute : instruction.execute H now w = .ok w') :
    ConfigStep H now w.programData (configRecord H w)
        instruction (configRecord H w') ∧
      Documented (configData H w') := by
  have hData : configData H w' = configData H w :=
    congrArg Account.data (apart_account hApart hExecute)
  have hRecord : configRecord H w' = configRecord H w :=
    congrArg recordOf hData
  rw [hRecord, hData]
  exact ⟨.apart instruction hApart, hDocumented⟩

theorem initializeProtocol_documented
    {admin : Signer}
    {minStake verificationFee : UInt64}
    {challengeExpiry : Int64}
    {maxTrustScore baseTrustIncrement : UInt16}
    {validatorPubkey : Pubkey}
    (hInit :
      initializeProtocol H w admin minStake challengeExpiry
        maxTrustScore baseTrustIncrement verificationFee
        validatorPubkey = .ok w') :
    configRecord H w = .zero ∧
      configRecord H w' =
        initialRecord H admin.key minStake challengeExpiry
          maxTrustScore baseTrustIncrement verificationFee
          validatorPubkey ∧
        Documented (configData H w') := by
  rcases initializeProtocol_record hInit with
    ⟨_, hVacant, hAccounts⟩
  have hData :
      configData H w' =
        serialized H ProtocolConfig.accountName
          (initialRecord H admin.key minStake
            challengeExpiry maxTrustScore baseTrustIncrement
            verificationFee validatorPubkey) := by
    rw [configData, hAccounts, Function.update_self]
  refine ⟨?_, ?_, ?_⟩
  · rw [configRecord, configData, hVacant]
    exact recordOf_nil
  · have hBytes :
        Encodes (configData H w')
          (discriminator H ProtocolConfig.accountName) _
          [] :=
      .of_eq (hData.trans (List.append_nil _).symm)
    exact hBytes.record_eq
  · rw [Documented, hData, length_serialized]
    decide

/-
  From a documented layout, every successful instruction is
  a step of the record and leads to a documented layout.
-/
theorem registry_step
    {now : Int64}
    {instruction : RegistryInstruction}
    (hDocumented : Documented (configData H w))
    (hExecute : instruction.execute H now w = .ok w') :
    ConfigStep H now w.programData (configRecord H w)
        instruction (configRecord H w') ∧
      Documented (configData H w') := by
  cases instruction with
  | initializeProtocol admin minStake challengeExpiry
      maxTrustScore baseTrustIncrement verificationFee
      validatorPubkey =>
      rcases initializeProtocol_documented hExecute with
        ⟨hVacant, hRecord, hDocumented'⟩
      rw [hRecord]
      exact ⟨.initializeProtocol _ _ _ _ _ _ _
        (initializeProtocol_record hExecute).1 hVacant,
        hDocumented'⟩
  | updateProtocolConfig admin verificationFee =>
      rcases updateProtocolConfig_record hExecute with
        ⟨hAdmin, hRewrites⟩
      rw [hRewrites.record_eq]
      exact ⟨.updateProtocolConfig _ _ hAdmin,
        hRewrites.documented hDocumented⟩
  | setValidatorPubkey admin validatorPubkey =>
      rcases setValidatorPubkey_record hExecute with
        ⟨hAdmin, hKey, hRewrites⟩
      rw [hRewrites.record_eq]
      exact ⟨.setValidatorPubkey _ _ hAdmin hKey,
        hRewrites.documented hDocumented⟩
  | rotateValidatorPubkey admin newValidatorPubkey
      gracePeriodSecs =>
      rcases rotateValidatorPubkey_record hDocumented
        hExecute with
        ⟨secondary, hAdmin, hKey, hGrace, hWindow,
          hRewrites⟩
      rw [hRewrites.record_eq]
      exact ⟨.rotateValidatorPubkey _ _ _ secondary hAdmin
        hKey hGrace hWindow,
        hRewrites.documented hDocumented⟩
  | setProjectionVersions admin current minimum =>
      rcases setProjectionVersions_record hExecute with
        ⟨hAdmin, hTransition, hRewrites⟩
      rw [hRewrites.record_eq]
      exact ⟨.setProjectionVersions _ _ _ hAdmin
        hTransition, hRewrites.documented hDocumented⟩
  | proposeAuthority admin newAuthority =>
      rcases proposeAuthority_record hExecute with
        ⟨hAdmin, hNew, hRewrites⟩
      rw [hRewrites.record_eq]
      exact ⟨.proposeAuthority _ _ hAdmin hNew,
        hRewrites.documented hDocumented⟩
  | acceptAuthority pendingAuthority =>
      rcases acceptAuthority_record hExecute with
        ⟨hPending, hProposed, hRewrites⟩
      rw [hRewrites.record_eq]
      exact ⟨.acceptAuthority _ hPending hProposed,
        hRewrites.documented hDocumented⟩
  | migrateAdmin newAdmin =>
      rcases migrateAdmin_record hExecute with
        ⟨hAuthority, hRewrites⟩
      rw [hRewrites.record_eq]
      exact ⟨.migrateAdmin _ hAuthority,
        hRewrites.documented hDocumented⟩
  | withdrawTreasury admin amount =>
      exact apart_step (.withdrawTreasury _ _) hDocumented
        hExecute
  | registerValidator validator stakeAmount =>
      exact apart_step (.registerValidator _ _) hDocumented
        hExecute
  | computeTrustScore count creation recent =>
      exact apart_step (.computeTrustScore _ _ _) hDocumented
        hExecute
  | unstakeValidator validator =>
      exact apart_step (.unstakeValidator _) hDocumented
        hExecute

end Registry

end Entros

------------------------------------------------------------
-- Frames
------------------------------------------------------------

namespace Entros

open Foundations

namespace Registry

variable {H : Host} {w w' : World}

/-
  The registry writes the configuration and the accounts of
  its validators, and no other.
-/
theorem registry_frame
    {now : Int64}
    {instruction : RegistryInstruction}
    {address : Address}
    (hExecute : instruction.execute H now w = .ok w')
    (hConfig : address ≠ configAddress H)
    (hValidator :
      ∀ authority,
        address ≠
          H.findProgramAddress (.validator authority)) :
    w'.accounts address = w.accounts address := by
  have hApart (hApart : instruction.Apart) :
      w'.accounts address = w.accounts address := by
    rcases apart_accounts hApart hExecute with
      hSame | ⟨authority, account, hSame⟩
    · rw [hSame]
    · rw [hSame,
        Function.update_of_ne (hValidator authority)]
  cases instruction with
  | initializeProtocol admin minStake challengeExpiry
      maxTrustScore baseTrustIncrement verificationFee
      validatorPubkey =>
      rw [(initializeProtocol_record hExecute).2.2,
        Function.update_of_ne hConfig]
  | updateProtocolConfig admin verificationFee =>
      exact (updateProtocolConfig_record hExecute).2.frame
        address hConfig
  | setValidatorPubkey admin validatorPubkey =>
      exact (setValidatorPubkey_record hExecute).2.2.frame
        address hConfig
  | rotateValidatorPubkey admin newValidatorPubkey
      gracePeriodSecs =>
      exact (rotateValidatorPubkey_frame hExecute).2 address
        hConfig
  | setProjectionVersions admin current minimum =>
      exact
        (setProjectionVersions_record hExecute).2.2.frame
          address hConfig
  | proposeAuthority admin newAuthority =>
      exact (proposeAuthority_record hExecute).2.2.frame
        address hConfig
  | acceptAuthority pendingAuthority =>
      exact (acceptAuthority_record hExecute).2.2.frame
        address hConfig
  | migrateAdmin newAdmin =>
      exact (migrateAdmin_record hExecute).2.frame address
        hConfig
  | withdrawTreasury admin amount =>
      exact hApart (.withdrawTreasury _ _)
  | registerValidator validator stakeAmount =>
      exact hApart (.registerValidator _ _)
  | computeTrustScore count creation recent =>
      exact hApart (.computeTrustScore _ _ _)
  | unstakeValidator validator =>
      exact hApart (.unstakeValidator _)

/- The configuration keeps its owner once it has one. -/
theorem registry_owner
    {now : Int64}
    {instruction : RegistryInstruction}
    (hExecute : instruction.execute H now w = .ok w') :
    (w'.accounts (configAddress H)).owner =
        (w.accounts (configAddress H)).owner ∨
      (w'.accounts (configAddress H)).owner =
        .registry := by
  have hApart (hApart : instruction.Apart) :
      (w'.accounts (configAddress H)).owner =
        (w.accounts (configAddress H)).owner := by
    rw [apart_account hApart hExecute]
  cases instruction with
  | initializeProtocol admin minStake challengeExpiry
      maxTrustScore baseTrustIncrement verificationFee
      validatorPubkey =>
      rw [(initializeProtocol_record hExecute).2.2,
        Function.update_self]
      exact .inr rfl
  | updateProtocolConfig admin verificationFee =>
      exact .inl
        (updateProtocolConfig_record hExecute).2.owner
  | setValidatorPubkey admin validatorPubkey =>
      exact .inl
        (setValidatorPubkey_record hExecute).2.2.owner
  | rotateValidatorPubkey admin newValidatorPubkey
      gracePeriodSecs =>
      exact .inl (rotateValidatorPubkey_frame hExecute).1
  | setProjectionVersions admin current minimum =>
      exact .inl
        (setProjectionVersions_record hExecute).2.2.owner
  | proposeAuthority admin newAuthority =>
      exact .inl
        (proposeAuthority_record hExecute).2.2.owner
  | acceptAuthority pendingAuthority =>
      exact .inl (acceptAuthority_record hExecute).2.2.owner
  | migrateAdmin newAdmin =>
      exact .inl (migrateAdmin_record hExecute).2.owner
  | withdrawTreasury admin amount =>
      exact .inl (hApart (.withdrawTreasury _ _))
  | registerValidator validator stakeAmount =>
      exact .inl (hApart (.registerValidator _ _))
  | computeTrustScore count creation recent =>
      exact .inl (hApart (.computeTrustScore _ _ _))
  | unstakeValidator validator =>
      exact .inl (hApart (.unstakeValidator _))

end Registry

end Entros
