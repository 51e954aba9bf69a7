import Entros.Chain.Growth
import Entros.Guarantees.Administration

/-
  The instructions that grow a configuration of an earlier
  layout.  Those that work on the raw bytes do what they would
  do on the zero-extended account; the one that uses the typed
  account reads it before it has grown, and fails.

  Key definitions include:
    * `LegacyConfig`
    * `RegistryInstruction.grower`
    * `extended`
    * `toppedUp`

  Key theorems include:
    * `ensureProtocolConfigLen_short`
    * `updateProtocolConfig_short`
    * `execute_extended`
    * `growing_admin_agrees`
-/

------------------------------------------------------------
-- Short Configurations
------------------------------------------------------------

namespace Entros

open Foundations

namespace Registry

/-
  A configuration of an earlier layout, with any contents
  behind the tag but for the bump and the two versions.
-/
structure LegacyConfig (H : Host) (w : World) : Prop where
  owner :
    (w.accounts (configAddress H)).owner = .registry
  length :
    (configData H w).length ∈ [69, 77, 109, 113]
  tag :
    slice (configData H w) 0 8 =
      (discriminator H ProtocolConfig.accountName).toList
  bump :
    (configRecord H w).bump =
      H.canonicalBump .protocolConfig
  versions :
    (configRecord H w).minimumSupportedProjectionVersion ≤
      (configRecord H w).currentProjectionVersion

/- The same world, with the configuration zero-extended. -/
def extended (H : Host) (w : World) : World :=
  w.setData (configAddress H)
    (resize (configData H w) ProtocolConfig.len)

/- The top-up that growing the configuration costs. -/
def toppedUp
    (H : Host)
    (w : World)
    (admin : Signer)
    (after : World) : World :=
  { after with
    lamports :=
      moved w.lamports (walletAddress admin)
        (configAddress H)
        (w.shortfall H (configAddress H)
          ProtocolConfig.len) }

/- The admin can pay for it. -/
def GrowthCovered
    (H : Host)
    (w : World)
    (admin : Signer) : Prop :=
  w.Covers H (walletAddress admin) (configAddress H)
    ProtocolConfig.len

namespace LegacyConfig

variable {H : Host} {w : World}

theorem documented (hLegacy : LegacyConfig H w) :
    Documented (configData H w) := by
  have hLength := hLegacy.length
  simp only [List.mem_cons, List.not_mem_nil, or_false]
    at hLength
  simp only [Documented, List.mem_cons, List.not_mem_nil,
    or_false]
  omega

theorem short (hLegacy : LegacyConfig H w) :
    (configData H w).length < ProtocolConfig.len := by
  have hLength := hLegacy.length
  simp only [List.mem_cons, List.not_mem_nil, or_false]
    at hLength
  unfold ProtocolConfig.len
  omega

theorem holds_admin (hLegacy : LegacyConfig H w) :
    40 ≤ (configData H w).length := by
  have hLength := hLegacy.length
  simp only [List.mem_cons, List.not_mem_nil, or_false]
    at hLength
  omega

end LegacyConfig

section

variable {H : Host} {w : World} {admin : Signer}

theorem extended_data :
    configData H (extended H w) =
      resize (configData H w) ProtocolConfig.len :=
  setData_config _

theorem extended_documented :
    Documented (configData H (extended H w)) := by
  rw [extended_data, Documented, length_resize]
  decide

/- The bytes stand for the same record. -/
theorem extended_record (hLegacy : LegacyConfig H w) :
    configRecord H (extended H w) = configRecord H w := by
  unfold configRecord recordOf
  rw [extended_data,
    ensuredData_resize hLegacy.documented]

/- A short account grows to the zero-extended one. -/
theorem ensureProtocolConfigLen_short
    (hLegacy : LegacyConfig H w)
    (hFunds : GrowthCovered H w admin) :
    ensureProtocolConfigLen H w admin =
      .ok (toppedUp H w admin (extended H w)) := by
  have hWallet :
      walletAddress admin ≠ configAddress H := nofun
  have hShort := hLegacy.short
  unfold configData at hShort
  unfold ensureProtocolConfigLen
  rw [if_pos hShort]
  exact World.growAccount_covered hWallet hFunds

/- The zero-extended account does not grow. -/
theorem ensureProtocolConfigLen_extended :
    ensureProtocolConfigLen H (extended H w) admin =
      .ok (extended H w) := by
  have hLong :
      ¬ (configData H (extended H w)).length <
        ProtocolConfig.len := by
    rw [extended_data, length_resize]
    exact lt_irrefl _
  exact if_neg hLong

end

end Registry

end Entros

------------------------------------------------------------
-- Reading Both Accounts
------------------------------------------------------------

namespace Entros

open Foundations

namespace Registry

variable {data : List UInt8}

/- The raw admin check is one on the record. -/
theorem checkStoredAdmin_eq
    {admin : Signer}
    (hLength : 40 ≤ data.length) :
    checkStoredAdmin data admin =
      require ((recordOf data).admin = admin.key)
        (.registry .unauthorized) := by
  rcases encodes_recordOf data with ⟨tag, rest, hData⟩
  have hAdmin :
      readField Pubkey data ProtocolConfig.offsetAdmin =
        .ok (recordOf data).admin := by
    rw [readField_eq_ok]
    exact hData.read ConfigField.admin hLength
  unfold checkStoredAdmin
  rw [require_of hLength, hAdmin]
  rfl

/- The key that a rotation replaces is the record's. -/
theorem oldValidator_eq (hDocumented : Documented data) :
    oldValidator data =
      .ok (recordOf data).validatorPubkey := by
  rcases encodes_recordOf data with ⟨tag, rest, hData⟩
  have hOld : ∃ old, oldValidator data = .ok old := by
    unfold oldValidator
    split_ifs with hLength
    · refine ⟨(recordOf data).validatorPubkey, ?_⟩
      rw [readField_eq_ok]
      exact hData.read ConfigField.validatorPubkey hLength
    · exact ⟨Pubkey.default, rfl⟩
  rcases hOld with ⟨old, hOld⟩
  rw [oldValidator_spec hDocumented hOld]
  exact hOld

variable {H : Host} {w : World} {admin : Signer}

/- The checks see the same on both accounts. -/
theorem checkStoredAdmin_extended
    (hLegacy : LegacyConfig H w)
    (admin : Signer) :
    checkStoredAdmin (configData H (extended H w)) admin =
      checkStoredAdmin (configData H w) admin := by
  have hLength :
      40 ≤ (configData H (extended H w)).length := by
    rw [extended_data, length_resize]
    decide
  have hRecord := extended_record hLegacy
  unfold configRecord at hRecord
  rw [checkStoredAdmin_eq hLength,
    checkStoredAdmin_eq hLegacy.holds_admin, hRecord]

theorem oldValidator_extended
    (hLegacy : LegacyConfig H w) :
    oldValidator (configData H (extended H w)) =
      oldValidator (configData H w) := by
  have hRecord := extended_record hLegacy
  unfold configRecord at hRecord
  rw [oldValidator_eq extended_documented,
    oldValidator_eq hLegacy.documented, hRecord]

theorem readProjectionVersions_extended
    (hLegacy : LegacyConfig H w) :
    readProjectionVersions (configData H (extended H w)) =
      readProjectionVersions (configData H w) := by
  have hRecord := extended_record hLegacy
  have hOrdered := hLegacy.versions
  unfold configRecord at hRecord hOrdered
  rw [registry_readProjectionVersions_eq
      hLegacy.documented hOrdered,
    registry_readProjectionVersions_eq
      extended_documented (hRecord.symm ▸ hOrdered),
    hRecord]

theorem checkConfigOwner_extended :
    checkConfigOwner H (extended H w) =
      checkConfigOwner H w := by
  unfold checkConfigOwner extended
  rw [setData_owner]

end Registry

end Entros

------------------------------------------------------------
-- Instructions
------------------------------------------------------------

namespace Entros

open Foundations

/- The admin of an instruction that grows the account. -/
def RegistryInstruction.grower :
    RegistryInstruction → Option Signer
| .updateProtocolConfig admin _ => some admin
| .setValidatorPubkey admin _ => some admin
| .rotateValidatorPubkey admin _ _ => some admin
| .setProjectionVersions admin _ _ => some admin
| .proposeAuthority admin _ => some admin
| _ => none

namespace Registry

variable {H : Host} {w : World} {admin : Signer}

/- Fewer bytes than its fields take are no record. -/
theorem decode_short
    {data : List UInt8}
    (hShort : data.length < ProtocolConfig.len) :
    Packed.decode (A := ProtocolConfig) (data.drop 8) =
      none := by
  cases hDecode :
    Packed.decode (A := ProtocolConfig) (data.drop 8) with
  | none => rfl
  | some read =>
      have hBytes :=
        congrArg List.length
          (Packed.eq_of_decode _ _ _ hDecode)
      rw [List.length_drop, List.length_append,
        Packed.length_encode] at hBytes
      have hWidth : Packed.width ProtocolConfig = 177 := rfl
      have hLen : ProtocolConfig.len = 185 := rfl
      omega

/- The typed account is read before it has grown. -/
theorem updateProtocolConfig_short
    (hLegacy : LegacyConfig H w)
    (verificationFee : UInt64) :
    updateProtocolConfig H w admin verificationFee =
      .error (.framework .accountDidNotDeserialize) := by
  have hOwner := hLegacy.owner
  have hTag := hLegacy.tag
  have hShort := hLegacy.short
  have hLength : 8 ≤ (configData H w).length :=
    le_trans (by decide) hLegacy.holds_admin
  have hRead :
      tryDeserialize ProtocolConfig H
          ProtocolConfig.accountName (configData H w) =
        .error (.framework .accountDidNotDeserialize) := by
    unfold tryDeserialize
    rw [require_of hLength, require_of hTag,
      decode_short hShort]
    rfl
  have hExists :
      ¬ ((w.accounts (configAddress H)).owner = .system ∧
        w.lamports (configAddress H) = 0) := by
    rw [hOwner]
    exact fun hSystem => nomatch hSystem.1
  unfold configData at hRead
  unfold updateProtocolConfig loadProtocolConfig
    World.loadAccount
  rw [require_of hExists, require_of hOwner, hRead]
  rfl

theorem setValidatorPubkey_extended
    (hLegacy : LegacyConfig H w)
    (hFunds : GrowthCovered H w admin)
    (validatorPubkey : Pubkey) :
    setValidatorPubkey H w admin validatorPubkey =
      (setValidatorPubkey H (extended H w) admin
        validatorPubkey).map (toppedUp H w admin) := by
  have hAdmin := checkStoredAdmin_extended hLegacy admin
  unfold configData at hAdmin
  unfold setValidatorPubkey
  rw [hAdmin, ensureProtocolConfigLen_short hLegacy hFunds,
    ensureProtocolConfigLen_extended]
  simp only [map_bind, ok_bind]
  rfl

theorem rotateValidatorPubkey_extended
    (hLegacy : LegacyConfig H w)
    (hFunds : GrowthCovered H w admin)
    (now : Int64)
    (newValidatorPubkey : Pubkey)
    (gracePeriodSecs : Int64) :
    rotateValidatorPubkey H w now admin newValidatorPubkey
        gracePeriodSecs =
      (rotateValidatorPubkey H (extended H w) now admin
        newValidatorPubkey gracePeriodSecs).map
        (toppedUp H w admin) := by
  have hAdmin := checkStoredAdmin_extended hLegacy admin
  have hOld := oldValidator_extended hLegacy
  unfold configData at hAdmin hOld
  unfold rotateValidatorPubkey
  rw [hAdmin, hOld, checkConfigOwner_extended,
    ensureProtocolConfigLen_short hLegacy hFunds,
    ensureProtocolConfigLen_extended]
  simp only [map_bind, ok_bind]
  rfl

theorem setProjectionVersions_extended
    (hLegacy : LegacyConfig H w)
    (hFunds : GrowthCovered H w admin)
    (current minimum : UInt16) :
    setProjectionVersions H w admin current minimum =
      (setProjectionVersions H (extended H w) admin current
        minimum).map (toppedUp H w admin) := by
  have hAdmin := checkStoredAdmin_extended hLegacy admin
  have hVersions := readProjectionVersions_extended hLegacy
  unfold configData at hAdmin hVersions
  unfold setProjectionVersions
  rw [hAdmin, hVersions, checkConfigOwner_extended,
    ensureProtocolConfigLen_short hLegacy hFunds,
    ensureProtocolConfigLen_extended]
  simp only [map_bind, ok_bind]
  rfl

theorem proposeAuthority_extended
    (hLegacy : LegacyConfig H w)
    (hFunds : GrowthCovered H w admin)
    (newAuthority : Pubkey) :
    proposeAuthority H w admin newAuthority =
      (proposeAuthority H (extended H w) admin
        newAuthority).map (toppedUp H w admin) := by
  have hAdmin := checkStoredAdmin_extended hLegacy admin
  unfold configData at hAdmin
  unfold proposeAuthority
  rw [hAdmin, checkConfigOwner_extended,
    ensureProtocolConfigLen_short hLegacy hFunds,
    ensureProtocolConfigLen_extended]
  simp only [map_bind, ok_bind]
  rfl

/- All of them end as on the zero-extended account. -/
theorem execute_extended
    {now : Int64}
    {instruction : RegistryInstruction}
    (hLegacy : LegacyConfig H w)
    (hGrower : instruction.grower = some admin)
    (hFunds : GrowthCovered H w admin)
    (hRaw :
      ∀ fee,
        instruction ≠ .updateProtocolConfig admin fee) :
    instruction.execute H now w =
      (instruction.execute H now (extended H w)).map
        (toppedUp H w admin) := by
  cases instruction with
  | updateProtocolConfig signer fee =>
      rw [← Option.some.inj hGrower] at hRaw
      exact absurd rfl (hRaw fee)
  | setValidatorPubkey signer validatorPubkey =>
      rw [← Option.some.inj hGrower] at hFunds ⊢
      exact setValidatorPubkey_extended hLegacy hFunds
        validatorPubkey
  | rotateValidatorPubkey signer newValidatorPubkey
      gracePeriodSecs =>
      rw [← Option.some.inj hGrower] at hFunds ⊢
      exact rotateValidatorPubkey_extended hLegacy hFunds now
        newValidatorPubkey gracePeriodSecs
  | setProjectionVersions signer current minimum =>
      rw [← Option.some.inj hGrower] at hFunds ⊢
      exact setProjectionVersions_extended hLegacy hFunds
        current minimum
  | proposeAuthority signer newAuthority =>
      rw [← Option.some.inj hGrower] at hFunds ⊢
      exact proposeAuthority_extended hLegacy hFunds
        newAuthority
  | _ => cases hGrower

end Registry

end Entros

------------------------------------------------------------
-- All Growing Instructions
------------------------------------------------------------

namespace Entros

open Foundations
open Registry

/- What they leave behind has the full length. -/
theorem length_of_accepted
    {H : Host}
    {w w' : World}
    {admin : Signer}
    {now : Int64}
    {instruction : RegistryInstruction}
    (hGrower : instruction.grower = some admin)
    (hRaw :
      ∀ fee, instruction ≠ .updateProtocolConfig admin fee)
    (hExecute :
      instruction.execute H now (extended H w) = .ok w') :
    (configData H w').length = ProtocolConfig.len := by
  have hWritten : ∃ windows,
      instruction.written = some windows := by
    cases instruction with
    | updateProtocolConfig signer fee =>
        rw [← Option.some.inj hGrower] at hRaw
        exact absurd rfl (hRaw fee)
    | setValidatorPubkey => exact ⟨_, rfl⟩
    | rotateValidatorPubkey => exact ⟨_, rfl⟩
    | setProjectionVersions => exact ⟨_, rfl⟩
    | proposeAuthority => exact ⟨_, rfl⟩
    | _ => cases hGrower
  rcases hWritten with ⟨windows, hWritten⟩
  rcases (registry_bytes extended_documented hWritten
    hExecute).2 with hKept | hFull
  · rw [hKept, extended_data, length_resize]
  · exact hFull

/-
  Given arguments that the instruction accepts on the zero-
  extended account, it succeeds on the account of the earlier
  layout and leaves the same 185 bytes exactly when it is not
  `update_protocol_config`.
-/
theorem growing_admin_agrees
    {H : Host}
    {w wide : World}
    {admin : Signer}
    {now : Int64}
    {instruction : RegistryInstruction}
    (hLegacy : LegacyConfig H w)
    (hGrower : instruction.grower = some admin)
    (hFunds : GrowthCovered H w admin)
    (hAccepted :
      instruction.execute H now (extended H w) = .ok wide) :
    (∃ w', instruction.execute H now w = .ok w' ∧
        configData H w' = configData H wide ∧
          (configData H w').length = 185) ↔
      ∀ fee,
        instruction ≠ .updateProtocolConfig admin fee := by
  constructor
  · rintro ⟨w', hExecute, _⟩ fee rfl
    have hFails :
        (RegistryInstruction.updateProtocolConfig admin
          fee).execute H now w =
            .error (.framework .accountDidNotDeserialize) :=
      updateProtocolConfig_short hLegacy fee
    rw [hFails] at hExecute
    cases hExecute
  · intro hRaw
    have hLength := length_of_accepted hGrower hRaw hAccepted
    have hSame :
        instruction.execute H now w =
          .ok (toppedUp H w admin wide) := by
      rw [execute_extended hLegacy hGrower hFunds hRaw,
        hAccepted]
      rfl
    exact ⟨_, hSame, rfl, hLength⟩

end Entros

------------------------------------------------------------
-- The Shortest Layout
------------------------------------------------------------

namespace Entros

open Foundations
open Registry
open Administration (legacy)
open Sample (admin tables)

namespace ConfigGrowth

theorem legacyConfig : LegacyConfig tables.host legacy where
  owner := by decide
  length := by decide +kernel
  tag := by decide +kernel
  bump := by decide +kernel
  versions := by decide +kernel

theorem covered : GrowthCovered tables.host legacy admin := by
  unfold GrowthCovered World.Covers
  decide +kernel

end ConfigGrowth

open ConfigGrowth

theorem growing_admin_agrees_versions :
    ∃ w',
      setProjectionVersions tables.host legacy admin 3 2 =
          .ok w' ∧
        (configData tables.host w').length = 185 := by
  have hAccepted :
      ∃ wide,
        (RegistryInstruction.setProjectionVersions admin 3
          2).execute tables.host 1700000000
            (extended tables.host legacy) = .ok wide := by
    have hEvaluated :
        ((RegistryInstruction.setProjectionVersions admin 3
          2).execute tables.host 1700000000
            (extended tables.host legacy)).map
              (fun _ => ()) = .ok () := by
      decide +kernel
    rcases map_eq_ok.mp hEvaluated with ⟨wide, hWide, _⟩
    exact ⟨wide, hWide⟩
  rcases hAccepted with ⟨wide, hAccepted⟩
  rcases (growing_admin_agrees legacyConfig rfl covered
    hAccepted).mpr (fun _ => nofun) with
    ⟨w', hExecute, _, hLength⟩
  exact ⟨w', hExecute, hLength⟩

/-
  On 69 bytes `update_protocol_config` fails, with a fee that
  it accepts on the zero-extended account.
-/
theorem growing_admin_agrees_fee :
    LegacyConfig tables.host legacy ∧
      GrowthCovered tables.host legacy admin ∧
        (∃ wide,
          (RegistryInstruction.updateProtocolConfig admin
            6000).execute tables.host 1700000000
              (extended tables.host legacy) = .ok wide ∧
            (configData tables.host wide).length = 185) ∧
          (RegistryInstruction.updateProtocolConfig admin
            6000).execute tables.host 1700000000 legacy =
              .error
                (.framework .accountDidNotDeserialize) := by
  have hEvaluated :
      ((RegistryInstruction.updateProtocolConfig admin
        6000).execute tables.host 1700000000
          (extended tables.host legacy)).map
            (fun wide =>
              (configData tables.host wide).length) =
        .ok 185 := by
    decide +kernel
  exact ⟨legacyConfig, covered, map_eq_ok.mp hEvaluated,
    updateProtocolConfig_short legacyConfig 6000⟩

end Entros
