import Entros.Registry.State

/-
  The instructions of entros-registry.

  The instructions that handle legacy layouts read and write
  the bytes of the configuration account directly; the others
  use the typed record.

  Key definitions include:
    * `readProjectionVersions`
    * `ensureProtocolConfigLen`
    * `initializeProtocol`
    * `setValidatorPubkey`
    * `rotateValidatorPubkey`
    * `proposeAuthority`
    * `acceptAuthority`
    * `setProjectionVersions`
    * `migrateAdmin`
    * `registerValidator`
    * `unstakeValidator`
-/

------------------------------------------------------------
-- Helpers
------------------------------------------------------------

namespace Entros

open Foundations

namespace Registry

/- The address of the configuration account. -/
def configAddress (H : Host) : Address :=
  H.findProgramAddress .protocolConfig

/- `read_projection_versions`: current, then minimum. -/
def readProjectionVersions
    (data : List UInt8) : Result (UInt16 × UInt16) :=
  if data.length ≤
      ProtocolConfig.offsetCurrentProjectionVersion then
    .ok (0, 0)
  else do
    require (ProtocolConfig.lenPreRollover ≤ data.length)
      (.registry .invalidProtocolConfig)
    let current ← readField UInt16 data
      ProtocolConfig.offsetCurrentProjectionVersion
    let minimum ← readField UInt16 data
      ProtocolConfig.offsetMinimumSupportedProjectionVersion
    require (minimum ≤ current)
      (.registry .invalidProtocolConfig)
    return (current, minimum)

/- `validate_projection_transition`. -/
def validateProjectionTransition
    (stored next : UInt16 × UInt16) : Result Unit := do
  require (next.2 ≤ next.1)
    (.registry .invalidProjectionVersionRange)
  require (stored.1 ≤ next.1)
    (.registry .projectionVersionRollback)
  require (stored.2 ≤ next.2)
    (.registry .minimumProjectionVersionRollback)

/- `ensure_protocol_config_len`. -/
def ensureProtocolConfigLen
    (H : Host)
    (w : World)
    (payer : Signer) : Result World :=
  if (w.accounts (configAddress H)).data.length <
      ProtocolConfig.len then
    w.growAccount H (walletAddress payer) (configAddress H)
      ProtocolConfig.len
  else
    .ok w

/- The admin check shared by the raw-byte instructions. -/
def checkStoredAdmin
    (data : List UInt8)
    (admin : Signer) : Result Unit := do
  require (40 ≤ data.length)
    (.registry .invalidProtocolConfig)
  let storedAdmin ← readField Pubkey data
    ProtocolConfig.offsetAdmin
  require (storedAdmin = admin.key) (.registry .unauthorized)

/- `require_keys_eq!(*config_info.owner, crate::ID)`. -/
def checkConfigOwner
    (H : Host)
    (w : World) : Result Unit :=
  require ((w.accounts (configAddress H)).owner = .registry)
    (.registry .invalidProtocolConfig)

/- Read the configuration as a typed account with its bump. -/
def loadProtocolConfig
    (H : Host)
    (w : World) : Result ProtocolConfig := do
  let config ← w.loadAccount ProtocolConfig H
    ProtocolConfig.accountName .registry (configAddress H)
  require (config.bump = H.canonicalBump .protocolConfig)
    (.framework .constraintSeeds)
  return config

end Registry

end Entros

------------------------------------------------------------
-- Configuration
------------------------------------------------------------

namespace Entros

open Foundations

namespace Registry

/- `initialize_protocol`. -/
def initializeProtocol
    (H : Host)
    (w : World)
    (admin : Signer)
    (minStake : UInt64)
    (challengeExpiry : Int64)
    (maxTrustScore baseTrustIncrement : UInt16)
    (verificationFee : UInt64)
    (validatorPubkey : Pubkey) : Result World := do
  let created ← w.createAccount H (walletAddress admin)
    (configAddress H) ProtocolConfig.len .registry
  require (validatorPubkey ≠ Pubkey.default)
    (.registry .invalidValidatorPubkey)
  created.saveAccount H ProtocolConfig.accountName
    (configAddress H)
    { ProtocolConfig.zero with
      admin := admin.key
      minStake := minStake
      challengeExpiry := challengeExpiry
      maxTrustScore := maxTrustScore
      baseTrustIncrement := baseTrustIncrement
      bump := H.canonicalBump .protocolConfig
      verificationFee := verificationFee
      validatorPubkey := validatorPubkey
      currentProjectionVersion := 0
      minimumSupportedProjectionVersion := 0
      pendingAuthority := Pubkey.default
      secondaryValidatorPubkey := Pubkey.default
      secondaryValidatorValidUntil := 0 }

/-
  `update_protocol_config`.  The typed account is read before
  the `realloc` constraint resizes it.
-/
def updateProtocolConfig
    (H : Host)
    (w : World)
    (admin : Signer)
    (verificationFee : UInt64) : Result World := do
  let config ← loadProtocolConfig H w
  let grown ← w.growAccount H (walletAddress admin)
    (configAddress H) ProtocolConfig.len
  require (config.admin = admin.key)
    (.registry .unauthorized)
  grown.saveAccount H ProtocolConfig.accountName
    (configAddress H)
    { config with verificationFee := verificationFee }

/- The key fields rewritten by both rotation instructions. -/
def writeValidatorKeys
    (data : List UInt8)
    (primary secondary : Pubkey)
    (validUntil : Int64) : Result (List UInt8) := do
  let data ← writeField data
    ProtocolConfig.offsetValidatorPubkey primary
  let data ← writeField data
    ProtocolConfig.offsetSecondaryValidatorPubkey secondary
  writeField data
    ProtocolConfig.offsetSecondaryValidatorValidUntil
    validUntil

/- `set_validator_pubkey`. -/
def setValidatorPubkey
    (H : Host)
    (w : World)
    (admin : Signer)
    (validatorPubkey : Pubkey) : Result World := do
  require (validatorPubkey ≠ Pubkey.default)
    (.registry .invalidValidatorPubkey)
  checkStoredAdmin (w.accounts (configAddress H)).data admin
  let grown ← ensureProtocolConfigLen H w admin
  let data ← writeValidatorKeys
    (grown.accounts (configAddress H)).data
    validatorPubkey Pubkey.default 0
  return grown.setData (configAddress H) data

/- The key being replaced, zero on layouts without one. -/
def oldValidator (data : List UInt8) : Result Pubkey :=
  if ProtocolConfig.offsetValidatorPubkey + 32 ≤
      data.length then
    readField Pubkey data
      ProtocolConfig.offsetValidatorPubkey
  else
    .ok Pubkey.default

/- The secondary key and expiry a rotation leaves behind. -/
def graceWindow
    (oldValidator newValidatorPubkey : Pubkey)
    (gracePeriodSecs now : Int64) :
    Result (Pubkey × Int64) :=
  if 0 < gracePeriodSecs ∧ oldValidator ≠ Pubkey.default ∧
      oldValidator ≠ newValidatorPubkey then do
    let validUntil ← okOr (checkedAdd now gracePeriodSecs)
      (.registry .arithmeticOverflow)
    return (oldValidator, validUntil)
  else
    .ok (Pubkey.default, 0)

/- `rotate_validator_pubkey`. -/
def rotateValidatorPubkey
    (H : Host)
    (w : World)
    (now : Int64)
    (admin : Signer)
    (newValidatorPubkey : Pubkey)
    (gracePeriodSecs : Int64) : Result World := do
  require (newValidatorPubkey ≠ Pubkey.default)
    (.registry .invalidValidatorPubkey)
  require
    (0 ≤ gracePeriodSecs ∧
      gracePeriodSecs ≤
        ProtocolConfig.maxValidatorGracePeriodSecs)
    (.registry .invalidValidatorGracePeriod)
  checkConfigOwner H w
  checkStoredAdmin (w.accounts (configAddress H)).data admin
  let old ← oldValidator (w.accounts (configAddress H)).data
  let grown ← ensureProtocolConfigLen H w admin
  let secondary ← graceWindow old newValidatorPubkey
    gracePeriodSecs now
  let data ← writeValidatorKeys
    (grown.accounts (configAddress H)).data
    newValidatorPubkey secondary.1 secondary.2
  return grown.setData (configAddress H) data

/- `set_projection_versions`. -/
def setProjectionVersions
    (H : Host)
    (w : World)
    (admin : Signer)
    (currentProjectionVersion
      minimumSupportedProjectionVersion : UInt16) :
    Result World := do
  checkConfigOwner H w
  checkStoredAdmin (w.accounts (configAddress H)).data admin
  let storedVersions ← readProjectionVersions
    (w.accounts (configAddress H)).data
  validateProjectionTransition storedVersions
    (currentProjectionVersion,
      minimumSupportedProjectionVersion)
  let grown ← ensureProtocolConfigLen H w admin
  let data ← writeField
    (grown.accounts (configAddress H)).data
    ProtocolConfig.offsetCurrentProjectionVersion
    currentProjectionVersion
  let data ← writeField data
    ProtocolConfig.offsetMinimumSupportedProjectionVersion
    minimumSupportedProjectionVersion
  return grown.setData (configAddress H) data

end Registry

end Entros

------------------------------------------------------------
-- Authority
------------------------------------------------------------

namespace Entros

open Foundations

namespace Registry

/- `propose_authority`. -/
def proposeAuthority
    (H : Host)
    (w : World)
    (admin : Signer)
    (newAuthority : Pubkey) : Result World := do
  require (newAuthority ≠ Pubkey.default)
    (.registry .invalidPendingAuthority)
  checkConfigOwner H w
  checkStoredAdmin (w.accounts (configAddress H)).data admin
  let grown ← ensureProtocolConfigLen H w admin
  let data ← writeField
    (grown.accounts (configAddress H)).data
    ProtocolConfig.offsetPendingAuthority newAuthority
  return grown.setData (configAddress H) data

/- `accept_authority`. -/
def acceptAuthority
    (H : Host)
    (w : World)
    (pendingAuthority : Signer) : Result World := do
  checkConfigOwner H w
  let data := (w.accounts (configAddress H)).data
  require
    (ProtocolConfig.offsetPendingAuthority + 32 ≤
      data.length)
    (.registry .noPendingAuthority)
  let pending ← readField Pubkey data
    ProtocolConfig.offsetPendingAuthority
  require (pending ≠ Pubkey.default)
    (.registry .noPendingAuthority)
  require (pending = pendingAuthority.key)
    (.registry .unauthorized)
  let data ← writeField data ProtocolConfig.offsetAdmin
    pending
  let data ← writeField data
    ProtocolConfig.offsetPendingAuthority Pubkey.default
  return w.setData (configAddress H) data

/- The upgrade authority recorded in the programdata account. -/
def upgradeAuthority
    (programData : List UInt8) : Result Pubkey := do
  require (45 ≤ programData.length)
    (.registry .programDataBytes)
  let tag ← readField UInt8 programData 12
  require (tag = 1) (.registry .programDataBytes)
  readField Pubkey programData 13

/-
  `migrate_admin`.  Only the admin bytes are written; the
  pending authority and every other field stay as they are.
-/
def migrateAdmin
    (H : Host)
    (w : World)
    (newAdmin : Signer) : Result World := do
  let authority ← upgradeAuthority w.programData
  require (authority = newAdmin.key)
    (.registry .wrongUpgradeAuthority)
  let stored := (w.accounts (configAddress H)).data
  require (40 ≤ stored.length)
    (.registry .invalidProtocolConfig)
  let data ← writeField (resize stored ProtocolConfig.len)
    ProtocolConfig.offsetAdmin newAdmin.key
  (w.setData (configAddress H) data).topUp H
    (walletAddress newAdmin) (configAddress H)
    ProtocolConfig.len

end Registry

end Entros

------------------------------------------------------------
-- Treasury and Validators
------------------------------------------------------------

namespace Entros

open Foundations

namespace Registry

/- `withdraw_treasury`. -/
def withdrawTreasury
    (H : Host)
    (w : World)
    (admin : Signer)
    (amount : UInt64) : Result World := do
  let config ← loadProtocolConfig H w
  require (config.admin = admin.key)
    (.registry .unauthorized)
  let treasury := H.findProgramAddress .protocolTreasury
  require
    (amount.toNat ≤
      w.lamports treasury - H.minimumBalance 0)
    (.registry .insufficientTreasuryBalance)
  w.transfer treasury (walletAddress admin) amount.toNat

/- `register_validator`. -/
def registerValidator
    (H : Host)
    (w : World)
    (now : Int64)
    (validator : Signer)
    (stakeAmount : UInt64) : Result World := do
  let config ← loadProtocolConfig H w
  let address :=
    H.findProgramAddress (.validator validator.key)
  let created ← w.createAccount H (walletAddress validator)
    address ValidatorState.len .registry
  require (config.minStake ≤ stakeAmount)
    (.registry .insufficientStake)
  let staked ← created.transfer (walletAddress validator)
    (H.findProgramAddress .vault) stakeAmount.toNat
  staked.saveAccount H ValidatorState.accountName address
    ({ authority := validator.key
       stake := stakeAmount
       registrationTime := now
       isActive := true
       verificationsPerformed := 0
       bump := H.canonicalBump (.validator validator.key) } :
      ValidatorState)

/- `unstake_validator`. -/
def unstakeValidator
    (H : Host)
    (w : World)
    (validator : Signer) : Result World := do
  let address :=
    H.findProgramAddress (.validator validator.key)
  let state ← w.loadAccount ValidatorState H
    ValidatorState.accountName .registry address
  require
    (state.bump = H.canonicalBump (.validator validator.key))
    (.framework .constraintSeeds)
  require (state.authority = validator.key)
    (.registry .unauthorized)
  let paid ← w.transfer (H.findProgramAddress .vault)
    (walletAddress validator) state.stake.toNat
  return paid.closeAccount address (walletAddress validator)

end Registry

end Entros
