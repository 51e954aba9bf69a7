import Entros.Registry.Record

/-
  What each instruction of entros-registry does to the
  configuration, as a step of the abstract record, and which
  accounts it leaves alone.

  Key definitions include:
    * `configData`
    * `configRecord`
    * `OnlyConfig`
    * `Rewrites`

  Key theorems include:
    * `initializeProtocol_record`
    * `setValidatorPubkey_record`
    * `rotateValidatorPubkey_record`
    * `setProjectionVersions_record`
    * `proposeAuthority_record`
    * `acceptAuthority_record`
    * `migrateAdmin_record`
    * `registerValidator_accounts`
    * `unstakeValidator_accounts`
-/

------------------------------------------------------------
-- Frames
------------------------------------------------------------

namespace Entros

open Foundations

namespace Registry

/- The bytes of the configuration account. -/
def configData (H : Host) (w : World) : List UInt8 :=
  (w.accounts (configAddress H)).data

/- The record stored in the configuration account. -/
def configRecord (H : Host) (w : World) : ProtocolConfig :=
  recordOf (configData H w)

/- No account but the configuration changes. -/
def OnlyConfig (H : Host) (w w' : World) : Prop :=
  ∀ address, address ≠ configAddress H →
    w'.accounts address = w.accounts address

namespace OnlyConfig

variable {H : Host} {w w' w'' : World}

theorem trans
    (hFirst : OnlyConfig H w w')
    (hSecond : OnlyConfig H w' w'') :
    OnlyConfig H w w'' :=
  fun address hAddress =>
    (hSecond address hAddress).trans
      (hFirst address hAddress)

theorem of_eq (hSame : w'.accounts = w.accounts) :
    OnlyConfig H w w' :=
  fun address _ => congrFun hSame address

theorem of_update
    {account : Account}
    (hUpdate :
      w'.accounts =
        Function.update w.accounts (configAddress H)
          account) :
    OnlyConfig H w w' := by
  intro address hAddress
  rw [hUpdate, Function.update_of_ne hAddress]

end OnlyConfig

section

variable {H : Host} {w w' : World}

theorem setData_config (data : List UInt8) :
    configData H (w.setData (configAddress H) data) =
      data := by
  simp [configData]

theorem setData_owner (data : List UInt8) :
    ((w.setData (configAddress H) data).accounts
        (configAddress H)).owner =
      (w.accounts (configAddress H)).owner := by
  simp

theorem setData_onlyConfig (data : List UInt8) :
    OnlyConfig H w (w.setData (configAddress H) data) :=
  .of_update rfl

/- `ensure_protocol_config_len` zero-extends the bytes. -/
theorem ensureProtocolConfigLen_spec
    {payer : Signer}
    (hEnsure : ensureProtocolConfigLen H w payer = .ok w') :
    configData H w' = ensuredData (configData H w) ∧
      (w'.accounts (configAddress H)).owner =
        (w.accounts (configAddress H)).owner ∧
        OnlyConfig H w w' := by
  unfold ensureProtocolConfigLen at hEnsure
  split_ifs at hEnsure with hShort
  · have hGrown := (World.growAccount_sameState hEnsure).1
    refine ⟨?_, ?_, .of_update hGrown⟩
    · rw [configData, hGrown, World.setData_accounts,
        Function.update_self]
      exact (if_pos hShort).symm
    · rw [hGrown]
      exact setData_owner _
  · rw [← Except.ok.inj hEnsure]
    exact ⟨(if_neg hShort).symm, rfl, .of_eq rfl⟩

/-
  The bytes of the configuration become those of `record`,
  under the same tag, and nothing else changes.
-/
structure Rewrites
    (H : Host)
    (w w' : World)
    (record : ProtocolConfig) : Prop where
  encodes :
    ∀ tag rest,
      Encodes (configData H w) tag
          (configRecord H w) rest →
        ∃ rest', Encodes (configData H w') tag record rest'
  documented :
    Documented (configData H w) →
      Documented (configData H w')
  owner :
    (w'.accounts (configAddress H)).owner =
      (w.accounts (configAddress H)).owner
  frame : OnlyConfig H w w'

namespace Rewrites

variable {record : ProtocolConfig}

theorem record_eq (hRewrites : Rewrites H w w' record) :
    configRecord H w' = record := by
  rcases encodes_recordOf (configData H w) with
    ⟨tag, rest, hData⟩
  rcases hRewrites.encodes tag rest hData with
    ⟨rest', hData'⟩
  exact hData'.record_eq

/-
  Writing fields over the zero-extended bytes, as the raw
  instructions do.
-/
theorem of_ensured
    {payer : Signer}
    {grown : World}
    {data : List UInt8}
    (hEnsure :
      ensureProtocolConfigLen H w payer = .ok grown)
    (hLength :
      data.length = (configData H grown).length)
    (hWrite :
      ∀ tag rest,
        Encodes (configData H grown) tag
            (configRecord H w) rest →
          Encodes data tag record rest) :
    Rewrites H w (grown.setData (configAddress H) data)
      record where
  encodes := by
    intro tag rest hData
    have hEnsured := (ensureProtocolConfigLen_spec hEnsure).1
    refine ⟨rest, ?_⟩
    rw [setData_config]
    exact hWrite tag rest (hEnsured ▸ hData.ensured)
  documented := by
    intro hDocumented
    have hEnsured := (ensureProtocolConfigLen_spec hEnsure).1
    rw [setData_config, Documented, hLength, hEnsured,
      length_ensuredData_of_documented hDocumented]
    decide
  owner :=
    (setData_owner data).trans
      (ensureProtocolConfigLen_spec hEnsure).2.1
  frame :=
    (ensureProtocolConfigLen_spec hEnsure).2.2.trans
      (setData_onlyConfig data)

end Rewrites

/- The stored admin is the one the raw bytes show. -/
theorem checkStoredAdmin_spec
    {data : List UInt8}
    {admin : Signer}
    (hCheck : checkStoredAdmin data admin = .ok ()) :
    (recordOf data).admin = admin.key := by
  simp only [checkStoredAdmin, bind_eq_ok, require_eq_ok,
    readField_eq_ok] at hCheck
  rcases hCheck with ⟨_, hLength, stored, hStored, hAdmin⟩
  rcases encodes_recordOf data with ⟨tag, rest, hData⟩
  have hField :
      some (recordOf data).admin = some stored :=
    (hData.read ConfigField.admin hLength).symm.trans hStored
  exact (Option.some.inj hField).trans hAdmin

end

end Registry

end Entros

------------------------------------------------------------
-- Typed Instructions
------------------------------------------------------------

namespace Entros

open Foundations

namespace Registry

variable {H : Host} {w w' : World}

/- What `initialize_protocol` stores. -/
def initialRecord
    (H : Host)
    (admin : Pubkey)
    (minStake : UInt64)
    (challengeExpiry : Int64)
    (maxTrustScore baseTrustIncrement : UInt16)
    (verificationFee : UInt64)
    (validatorPubkey : Pubkey) : ProtocolConfig :=
  { ProtocolConfig.zero with
    admin := admin
    minStake := minStake
    challengeExpiry := challengeExpiry
    maxTrustScore := maxTrustScore
    baseTrustIncrement := baseTrustIncrement
    bump := H.canonicalBump .protocolConfig
    verificationFee := verificationFee
    validatorPubkey := validatorPubkey }

theorem initializeProtocol_record
    {admin : Signer}
    {minStake verificationFee : UInt64}
    {challengeExpiry : Int64}
    {maxTrustScore baseTrustIncrement : UInt16}
    {validatorPubkey : Pubkey}
    (hInit :
      initializeProtocol H w admin minStake challengeExpiry
        maxTrustScore baseTrustIncrement verificationFee
        validatorPubkey = .ok w') :
    validatorPubkey ≠ Pubkey.default ∧
      w.accounts (configAddress H) = .vacant ∧
        w'.accounts =
          Function.update w.accounts (configAddress H)
            { owner := .registry
              data :=
                serialized H ProtocolConfig.accountName
                  (initialRecord H admin.key minStake
                    challengeExpiry maxTrustScore
                    baseTrustIncrement verificationFee
                    validatorPubkey) } := by
  simp only [initializeProtocol, bind_eq_ok, require_eq_ok]
    at hInit
  rcases hInit with ⟨created, hCreate, _, hKey, hSave⟩
  rcases World.createAccount_eq_ok hCreate with
    ⟨hVacant, hCreated, _⟩
  rw [World.setAccount_accounts] at hCreated
  have hZeros := congrFun hCreated (configAddress H)
  rw [Function.update_self] at hZeros
  have hWritten := World.saveAccount_accounts hSave hZeros
    (List.length_replicate.trans
      ProtocolConfig.width_eq.symm)
  rw [hCreated, Function.update_idem] at hWritten
  exact ⟨hKey, hVacant, hWritten⟩

theorem loadProtocolConfig_spec
    {config : ProtocolConfig}
    (hLoad : loadProtocolConfig H w = .ok config) :
    ∃ rest,
      configData H w =
        serialized H ProtocolConfig.accountName config ++
          rest := by
  simp only [loadProtocolConfig, bind_eq_ok, require_eq_ok,
    pure_eq_ok] at hLoad
  rcases hLoad with ⟨read, hRead, _, _, rfl⟩
  exact eq_of_tryDeserialize
    (World.loadAccount_eq_ok hRead).2

theorem updateProtocolConfig_record
    {admin : Signer}
    {verificationFee : UInt64}
    (hUpdate :
      updateProtocolConfig H w admin verificationFee =
        .ok w') :
    (configRecord H w).admin = admin.key ∧
      Rewrites H w w'
        { configRecord H w with
          verificationFee := verificationFee } := by
  simp only [updateProtocolConfig, bind_eq_ok,
    require_eq_ok] at hUpdate
  rcases hUpdate with
    ⟨config, hLoad, grown, hGrow, _, hAdmin, hSave⟩
  rcases loadProtocolConfig_spec hLoad with ⟨rest, hBytes⟩
  have hData :
      Encodes (configData H w)
        (discriminator H ProtocolConfig.accountName) config
        rest :=
    .of_eq hBytes
  have hGrown := (World.growAccount_sameState hGrow).1
  have hAccount := congrFun hGrown (configAddress H)
  rw [World.setData_accounts, Function.update_self]
    at hAccount
  have hWritten := World.saveAccount_accounts hSave hAccount
    ((length_resize _ _).trans ProtocolConfig.width_eq.symm)
  have hBytes' :
      configData H w' =
        serialized H ProtocolConfig.accountName
          { config with
            verificationFee := verificationFee } := by
    rw [configData, hWritten, Function.update_self]
  have hRecord : configRecord H w = config :=
    hData.record_eq
  rw [hRecord]
  refine ⟨hAdmin, ?_, ?_, ?_, ?_⟩
  · intro tag rest' hData'
    rw [hRecord] at hData'
    rw [hData'.tag_unique hData]
    refine ⟨[], .of_eq ?_⟩
    rw [List.append_nil, hBytes']
    rfl
  · intro _
    rw [Documented, hBytes', length_serialized]
    decide
  · rw [hWritten, Function.update_self]
  · exact (OnlyConfig.of_update hGrown).trans
      (.of_update hWritten)

end Registry

end Entros

------------------------------------------------------------
-- Raw Instructions
------------------------------------------------------------

namespace Entros

open Foundations

namespace Registry

variable {H : Host} {w w' : World}

/- The three writes shared by both rotation instructions. -/
theorem writeValidatorKeys_record
    {data written rest : List UInt8}
    {tag : Bytes 8}
    {record : ProtocolConfig}
    {primary secondary : Pubkey}
    {validUntil : Int64}
    (hData : Encodes data tag record rest)
    (hWrite :
      writeValidatorKeys data primary secondary validUntil =
        .ok written) :
    Encodes written tag
      { record with
        validatorPubkey := primary
        secondaryValidatorPubkey := secondary
        secondaryValidatorValidUntil := validUntil }
      rest := by
  simp only [writeValidatorKeys, bind_eq_ok] at hWrite
  rcases hWrite with ⟨first, hFirst, second, hSecond, hThird⟩
  have hPrimary :=
    hData.write ConfigField.validatorPubkey hFirst
  have hSecondary :=
    hPrimary.write ConfigField.secondaryValidatorPubkey
      hSecond
  exact hSecondary.write
    ConfigField.secondaryValidatorValidUntil hThird

theorem length_writeValidatorKeys
    {data written : List UInt8}
    {primary secondary : Pubkey}
    {validUntil : Int64}
    (hWrite :
      writeValidatorKeys data primary secondary validUntil =
        .ok written) :
    written.length = data.length := by
  simp only [writeValidatorKeys, bind_eq_ok] at hWrite
  rcases hWrite with ⟨first, hFirst, second, hSecond, hThird⟩
  rw [length_writeField hThird, length_writeField hSecond,
    length_writeField hFirst]

theorem setValidatorPubkey_record
    {admin : Signer}
    {validatorPubkey : Pubkey}
    (hSet :
      setValidatorPubkey H w admin validatorPubkey =
        .ok w') :
    (configRecord H w).admin = admin.key ∧
      validatorPubkey ≠ Pubkey.default ∧
        Rewrites H w w'
          { configRecord H w with
            validatorPubkey := validatorPubkey
            secondaryValidatorPubkey := Pubkey.default
            secondaryValidatorValidUntil := 0 } := by
  simp only [setValidatorPubkey, bind_eq_ok, require_eq_ok,
    pure_eq_ok] at hSet
  rcases hSet with
    ⟨_, hKey, ⟨⟩, hAdmin, grown, hEnsure, data, hWrite,
      rfl⟩
  refine ⟨checkStoredAdmin_spec hAdmin, hKey, ?_⟩
  refine .of_ensured hEnsure
    (length_writeValidatorKeys hWrite) ?_
  intro tag rest hData
  exact writeValidatorKeys_record hData hWrite

/-
  The key a rotation replaces, in every documented layout:
  short layouts have none, and their record has zeros.
-/
theorem oldValidator_spec
    {data : List UInt8}
    {old : Pubkey}
    (hDocumented : Documented data)
    (hOld : oldValidator data = .ok old) :
    (recordOf data).validatorPubkey = old := by
  rcases encodes_recordOf data with ⟨tag, rest, hData⟩
  unfold oldValidator at hOld
  split_ifs at hOld with hLength
  · have hField :=
      hData.read ConfigField.validatorPubkey hLength
    exact Option.some.inj
      (hField.symm.trans (readField_eq_ok.mp hOld))
  · have hShort :
        data.length ≤
          ProtocolConfig.offsetValidatorPubkey := by
      simp only [Documented, List.mem_cons,
        List.not_mem_nil, or_false] at hDocumented
      simp only [ProtocolConfig.offsetValidatorPubkey]
        at hLength ⊢
      omega
    have hZero :=
      hData.read_zero ConfigField.validatorPubkey hShort
    rw [← Except.ok.inj hOld]
    exact Bytes.toList_injective hZero

theorem rotateValidatorPubkey_record
    {now gracePeriodSecs : Int64}
    {admin : Signer}
    {newValidatorPubkey : Pubkey}
    (hDocumented : Documented (configData H w))
    (hRotate :
      rotateValidatorPubkey H w now admin newValidatorPubkey
        gracePeriodSecs = .ok w') :
    ∃ secondary,
      (configRecord H w).admin = admin.key ∧
        newValidatorPubkey ≠ Pubkey.default ∧
          gracePeriodSecs ≤
              ProtocolConfig.maxValidatorGracePeriodSecs ∧
            graceWindow
                (configRecord H w).validatorPubkey
                newValidatorPubkey gracePeriodSecs now =
              .ok secondary ∧
              Rewrites H w w'
                { configRecord H w with
                  validatorPubkey := newValidatorPubkey
                  secondaryValidatorPubkey := secondary.1
                  secondaryValidatorValidUntil :=
                    secondary.2 } := by
  simp only [rotateValidatorPubkey, bind_eq_ok,
    require_eq_ok, pure_eq_ok] at hRotate
  rcases hRotate with
    ⟨_, hKey, _, ⟨_, hGrace⟩, ⟨⟩, _, ⟨⟩, hAdmin, old, hOld,
      grown, hEnsure, secondary, hWindow, data, hWrite, rfl⟩
  have hOldKey := oldValidator_spec hDocumented hOld
  rw [← hOldKey] at hWindow
  refine ⟨secondary, checkStoredAdmin_spec hAdmin, hKey,
    hGrace, hWindow, ?_⟩
  refine .of_ensured hEnsure
    (length_writeValidatorKeys hWrite) ?_
  intro tag rest hData
  exact writeValidatorKeys_record hData hWrite

/- Whatever the layout, only the configuration changes. -/
theorem rotateValidatorPubkey_frame
    {now gracePeriodSecs : Int64}
    {admin : Signer}
    {newValidatorPubkey : Pubkey}
    (hRotate :
      rotateValidatorPubkey H w now admin newValidatorPubkey
        gracePeriodSecs = .ok w') :
    (w'.accounts (configAddress H)).owner =
        (w.accounts (configAddress H)).owner ∧
      OnlyConfig H w w' := by
  simp only [rotateValidatorPubkey, bind_eq_ok,
    require_eq_ok, pure_eq_ok] at hRotate
  rcases hRotate with
    ⟨_, _, _, _, _, _, _, _, _, _, grown, hEnsure, _, _,
      data, _, rfl⟩
  rcases ensureProtocolConfigLen_spec hEnsure with
    ⟨_, hOwner, hFrame⟩
  exact ⟨(setData_owner data).trans hOwner,
    hFrame.trans (setData_onlyConfig data)⟩

section

variable {data rest : List UInt8} {tag : Bytes 8}
variable {c : ProtocolConfig}

/- A layout without projection fields is at version zero. -/
theorem projection_of_short
    (hShort : data.length ≤ 109)
    (hData : Encodes data tag c rest) :
    c.currentProjectionVersion = 0 ∧
      c.minimumSupportedProjectionVersion = 0 := by
  have hCurrent :=
    hData.read_zero ConfigField.currentProjectionVersion
      hShort
  have hMinimum :=
    hData.read_zero
      ConfigField.minimumSupportedProjectionVersion
      (hShort.trans (by decide))
  have hZero :
      Packed.encode (0 : UInt16) =
        List.replicate (Packed.width UInt16) 0 := rfl
  exact ⟨Packed.encode_injective
      (hCurrent.trans hZero.symm),
    Packed.encode_injective (hMinimum.trans hZero.symm)⟩

theorem current_of_long
    (hLong : 113 ≤ data.length)
    (hData : Encodes data tag c rest) :
    fieldAt UInt16 data 109 =
      some c.currentProjectionVersion :=
  hData.read ConfigField.currentProjectionVersion
    (le_trans (by decide) hLong)

theorem minimum_of_long
    (hLong : 113 ≤ data.length)
    (hData : Encodes data tag c rest) :
    fieldAt UInt16 data 111 =
      some c.minimumSupportedProjectionVersion :=
  hData.read ConfigField.minimumSupportedProjectionVersion
    hLong

end

/- The stored versions are those of the record. -/
theorem readProjectionVersions_spec
    {data : List UInt8}
    {versions : UInt16 × UInt16}
    (hRead : readProjectionVersions data = .ok versions) :
    versions =
        ((recordOf data).currentProjectionVersion,
          (recordOf data).minimumSupportedProjectionVersion) ∧
      versions.2 ≤ versions.1 := by
  rcases encodes_recordOf data with ⟨tag, rest, hData⟩
  unfold readProjectionVersions at hRead
  split_ifs at hRead with hShort
  · rcases projection_of_short hShort hData with
      ⟨hCurrent, hMinimum⟩
    rw [← Except.ok.inj hRead, hCurrent, hMinimum]
    exact ⟨rfl, UInt16.le_refl 0⟩
  · simp only [bind_eq_ok, require_eq_ok, readField_eq_ok,
      pure_eq_ok] at hRead
    rcases hRead with
      ⟨_, hLength, current, hCurrent, minimum, hMinimum, _,
        hOrder, rfl⟩
    have hLong : 113 ≤ data.length := hLength
    have hFirst := current_of_long hLong hData
    have hSecond := minimum_of_long hLong hData
    rw [Option.some.inj (hFirst.symm.trans hCurrent),
      Option.some.inj (hSecond.symm.trans hMinimum)]
    exact ⟨rfl, hOrder⟩

theorem setProjectionVersions_record
    {admin : Signer}
    {current minimum : UInt16}
    (hSet :
      setProjectionVersions H w admin current minimum =
        .ok w') :
    (configRecord H w).admin = admin.key ∧
      validateProjectionTransition
          ((configRecord H w).currentProjectionVersion,
            (configRecord
              H w).minimumSupportedProjectionVersion)
          (current, minimum) = .ok () ∧
        Rewrites H w w'
          { configRecord H w with
            currentProjectionVersion := current
            minimumSupportedProjectionVersion :=
              minimum } := by
  simp only [setProjectionVersions, bind_eq_ok, pure_eq_ok]
    at hSet
  rcases hSet with
    ⟨⟨⟩, _, ⟨⟩, hAdmin, versions, hVersions, ⟨⟩, hTransition,
      grown, hEnsure, first, hFirst, data, hSecond, rfl⟩
  rw [(readProjectionVersions_spec hVersions).1]
    at hTransition
  refine ⟨checkStoredAdmin_spec hAdmin, hTransition, ?_⟩
  refine .of_ensured hEnsure
    ((length_writeField hSecond).trans
      (length_writeField hFirst)) ?_
  intro tag rest hData
  have hCurrent :=
    hData.write ConfigField.currentProjectionVersion hFirst
  exact hCurrent.write
    ConfigField.minimumSupportedProjectionVersion hSecond

theorem proposeAuthority_record
    {admin : Signer}
    {newAuthority : Pubkey}
    (hPropose :
      proposeAuthority H w admin newAuthority = .ok w') :
    (configRecord H w).admin = admin.key ∧
      newAuthority ≠ Pubkey.default ∧
        Rewrites H w w'
          { configRecord H w with
            pendingAuthority := newAuthority } := by
  simp only [proposeAuthority, bind_eq_ok, require_eq_ok,
    pure_eq_ok] at hPropose
  rcases hPropose with
    ⟨_, hNew, ⟨⟩, _, ⟨⟩, hAdmin, grown, hEnsure, data,
      hWrite, rfl⟩
  refine ⟨checkStoredAdmin_spec hAdmin, hNew, ?_⟩
  refine .of_ensured hEnsure (length_writeField hWrite) ?_
  intro tag rest hData
  exact hData.write ConfigField.pendingAuthority hWrite

theorem acceptAuthority_record
    {pendingAuthority : Signer}
    (hAccept :
      acceptAuthority H w pendingAuthority = .ok w') :
    (configRecord H w).pendingAuthority =
        pendingAuthority.key ∧
      pendingAuthority.key ≠ Pubkey.default ∧
        Rewrites H w w'
          { configRecord H w with
            admin := pendingAuthority.key
            pendingAuthority := Pubkey.default } := by
  simp only [acceptAuthority, bind_eq_ok, require_eq_ok,
    readField_eq_ok, pure_eq_ok] at hAccept
  rcases hAccept with
    ⟨⟨⟩, _, _, hLength, pending, hPending, _, hProposed, _,
      hSigner, first, hFirst, data, hSecond, rfl⟩
  subst hSigner
  rcases encodes_recordOf (configData H w) with
    ⟨tag, rest, hData⟩
  have hField :=
    hData.read ConfigField.pendingAuthority hLength
  refine ⟨Option.some.inj (hField.symm.trans hPending),
    hProposed, ?_, ?_, setData_owner data,
    setData_onlyConfig data⟩
  · intro tag' rest' hData'
    have hAdmin :=
      Encodes.write ConfigField.admin hData' hFirst
    refine ⟨rest', ?_⟩
    rw [setData_config]
    exact hAdmin.write ConfigField.pendingAuthority hSecond
  · intro hDocumented
    rw [setData_config, Documented,
      length_writeField hSecond, length_writeField hFirst]
    exact hDocumented

theorem migrateAdmin_record
    {newAdmin : Signer}
    (hMigrate : migrateAdmin H w newAdmin = .ok w') :
    upgradeAuthority w.programData = .ok newAdmin.key ∧
      Rewrites H w w'
        { configRecord H w with
          admin := newAdmin.key } := by
  simp only [migrateAdmin, bind_eq_ok, require_eq_ok]
    at hMigrate
  rcases hMigrate with
    ⟨authority, hAuthority, _, hSigner, _, _, data, hWrite,
      hTopUp⟩
  have hAccounts := (World.topUp_sameState hTopUp).1
  have hWritten : configData H w' = data := by
    rw [configData, hAccounts]
    exact setData_config data
  refine ⟨hSigner ▸ hAuthority, ?_, ?_, ?_,
    (setData_onlyConfig data).trans (.of_eq hAccounts)⟩
  · intro tag rest hData
    rw [hWritten]
    exact ⟨[], hData.resize.write ConfigField.admin hWrite⟩
  · intro _
    rw [hWritten, Documented, length_writeField hWrite,
      length_resize]
    decide
  · rw [hAccounts]
    exact setData_owner data

end Registry

end Entros

------------------------------------------------------------
-- Treasury and Validators
------------------------------------------------------------

namespace Entros

open Foundations

namespace Registry

variable {H : Host} {w w' : World}

theorem withdrawTreasury_accounts
    {admin : Signer}
    {amount : UInt64}
    (hWithdraw :
      withdrawTreasury H w admin amount = .ok w') :
    w'.accounts = w.accounts := by
  simp only [withdrawTreasury, bind_eq_ok, require_eq_ok]
    at hWithdraw
  rcases hWithdraw with ⟨_, _, _, _, _, _, hTransfer⟩
  exact (World.transfer_sameState hTransfer).1

theorem registerValidator_accounts
    {now : Int64}
    {validator : Signer}
    {stakeAmount : UInt64}
    (hRegister :
      registerValidator H w now validator stakeAmount =
        .ok w') :
    ∃ account,
      w'.accounts =
        Function.update w.accounts
          (H.findProgramAddress (.validator validator.key))
          account := by
  simp only [registerValidator, bind_eq_ok, require_eq_ok]
    at hRegister
  rcases hRegister with
    ⟨_, _, created, hCreate, _, _, staked, hStake, hSave⟩
  have hCreated := (World.createAccount_eq_ok hCreate).2.1
  have hStaked := (World.transfer_sameState hStake).1
  simp only [World.saveAccount, bind_eq_ok, pure_eq_ok]
    at hSave
  rcases hSave with ⟨data, _, rfl⟩
  rw [World.setAccount_accounts] at hCreated
  rw [World.setData_accounts, hStaked, hCreated,
    Function.update_idem]
  exact ⟨_, rfl⟩

theorem unstakeValidator_accounts
    {validator : Signer}
    (hUnstake : unstakeValidator H w validator = .ok w') :
    ∃ account,
      w'.accounts =
        Function.update w.accounts
          (H.findProgramAddress (.validator validator.key))
          account := by
  simp only [unstakeValidator, bind_eq_ok, require_eq_ok,
    pure_eq_ok] at hUnstake
  rcases hUnstake with
    ⟨_, _, _, _, _, _, paid, hPaid, rfl⟩
  rw [World.closeAccount_accounts,
    (World.transfer_sameState hPaid).1]
  exact ⟨_, rfl⟩

end Registry

end Entros
