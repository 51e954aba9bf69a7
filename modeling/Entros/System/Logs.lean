import Entros.System.Execution

/-
  The events of the three programs: what each instruction
  emits, computed from the same values as in its body.

  Key definitions include:
    * `Log`
    * `Anchor.receiptSessionLogs`
    * `Anchor.processAnchorUpdateLogs`
    * `RegistryInstruction.logs`
    * `VerifierInstruction.logs`
    * `AnchorInstruction.logs`
    * `emitted`
    * `Event.logs`
-/

------------------------------------------------------------
-- Events
------------------------------------------------------------

namespace Entros

open Foundations

/- The events of entros-anchor, entros-registry, entros-verifier. -/
inductive Log where
| anchorMinted
    (owner mint : Pubkey)
    (commitment : Bytes 32)
| migrateIdentityEvent
    (walletOld walletNew identityOld identityNew : Pubkey)
| anchorUpdated
    (owner : Pubkey)
    (verificationCount : UInt32)
    (trustScore : UInt16)
    (commitment : Bytes 32)
| anchorReset
    (owner mint : Pubkey)
    (commitment : Bytes 32)
| encryptedBaselineSet (owner : Pubkey)
| anchorRebaselined
    (owner : Pubkey)
    (commitment : Bytes 32)
    (projectionVersion : UInt16)
| receiptSessionBound
    (owner : Pubkey)
    (purpose : UInt8)
    (projectionVersion : UInt16)
    (finalDigest : Bytes 32)
    (assuranceTier : UInt8)
| validatorRegistered
    (authority : Pubkey)
    (stake : UInt64)
| trustScoreComputed
    (computed : Registry.TrustScoreComputed)
| validatorUnstaked
    (authority : Pubkey)
    (amount : UInt64)
| protocolConfigUpdated
    (admin : Pubkey)
    (verificationFee : UInt64)
| treasuryWithdrawn
    (admin : Pubkey)
    (amount : UInt64)
| adminMigrated (oldAdmin newAdmin : Pubkey)
| validatorPubkeySet (admin validatorPubkey : Pubkey)
| projectionVersionsSet
    (admin : Pubkey)
    (currentProjectionVersion
      minimumSupportedProjectionVersion : UInt16)
| validatorPubkeyRotated
    (admin newValidatorPubkey
      secondaryValidatorPubkey : Pubkey)
    (secondaryValidatorValidUntil : Int64)
| authorityTransferProposed
    (currentAdmin pendingAuthority : Pubkey)
| authorityTransferAccepted (oldAdmin newAdmin : Pubkey)
| challengeCreated
    (challenger : Pubkey)
    (nonce : Bytes 32)
    (expiresAt : Int64)
| verificationComplete
    (verifier : Pubkey)
    (isValid : Bool)
    (nonce : Bytes 32)
deriving DecidableEq

end Entros

------------------------------------------------------------
-- Events of the Anchor Program
------------------------------------------------------------

namespace Entros

open Foundations

namespace Anchor

/- `emit_receipt_session`: only a v3 receipt has a session. -/
def receiptSessionLogs
    (owner : Pubkey)
    (purpose : ReceiptPurpose)
    (projectionVersion : UInt16)
    (session : Option ReceiptSession) : List Log :=
  match session with
  | none => []
  | some session =>
      [.receiptSessionBound owner purpose.code
        projectionVersion session.finalDigest
        session.assuranceTier]

/-
  The events of `mint_anchor`.  What precedes the reading of
  the configuration leaves that account alone.
-/
def mintAnchorLogs
    {H : Host}
    (tx : Transaction H)
    (w : World)
    (now : Int64)
    (user : Signer)
    (initialCommitment : Bytes 32) : Result (List Log) := do
  let config ← readLifecycleConfig (protocolConfig H w)
  let version := config.projectionPolicy.current
  let session ← verifyValidatorReceipt tx
    config.validatorKeys user.key initialCommitment .mint
    version now
  let identity := mintedIdentity H user.key now
    initialCommitment version
  return .anchorMinted identity.owner identity.mint
      initialCommitment ::
    receiptSessionLogs identity.owner .mint version session

/- The event of `migrate_identity`. -/
def migrateIdentityLogs
    (H : Host)
    (user : Signer)
    (walletOld : Pubkey) : List Log :=
  [.migrateIdentityEvent walletOld user.key
    (H.toPubkey (identityAddress H walletOld))
    (H.toPubkey (identityAddress H user.key))]

/- The events of `process_anchor_update`. -/
def processAnchorUpdateLogs
    {H : Host}
    (tx : Transaction H)
    (w : World)
    (now : Int64)
    (authority : Signer)
    (verificationResult : Address)
    (receipt : UpdateReceiptArgs)
    (bound : Bool) : Result (List Log) := do
  let opened ← openIdentity H w authority
  let config ← readUpdateConfig (protocolConfig H opened.1)
    opened.2.projectionVersion
  let consumed ← consumeProof H opened.1 now authority
    opened.2 verificationResult bound
  let commitmentNew := consumed.2.commitmentNew
  let session ← verifyUpdateReceiptDigest tx
    config.validatorKeys authority.key commitmentNew
    opened.2.projectionVersion receipt now
  let identity ← updatedIdentity opened.2 now commitmentNew
    config
  return .anchorUpdated identity.owner
      identity.verificationCount identity.trustScore
      commitmentNew ::
    receiptSessionLogs identity.owner .update
      identity.projectionVersion session

/-
  The events of `reset_identity_state`.  The counter that a
  reset advances first is no part of the identity.
-/
def resetIdentityStateLogs
    {H : Host}
    (tx : Transaction H)
    (w : World)
    (now : Int64)
    (authority : Signer)
    (newCommitment : Bytes 32) : Result (List Log) := do
  let opened ← openIdentity H w authority
  let config ← readLifecycleConfig (protocolConfig H opened.1)
  let version := config.projectionPolicy.current
  let session ← verifyValidatorReceipt tx
    config.validatorKeys authority.key newCommitment .reset
    version now
  let identity := resetIdentity opened.2 now newCommitment
    version
  return .anchorReset identity.owner identity.mint
      newCommitment ::
    receiptSessionLogs identity.owner .reset version session

/- The events of `rebaseline_anchor`. -/
def rebaselineAnchorLogs
    {H : Host}
    (tx : Transaction H)
    (w : World)
    (now : Int64)
    (authority : Signer)
    (newCommitment : Bytes 32) : Result (List Log) := do
  let opened ← openIdentity H w authority
  let config ← readLifecycleConfig (protocolConfig H opened.1)
  let version := config.projectionPolicy.current
  let session ← verifyValidatorReceipt tx
    config.validatorKeys authority.key newCommitment
    .rebaseline version now
  let identity := rebaselinedIdentity opened.2 now
    newCommitment version
  return .anchorRebaselined identity.owner newCommitment
      version ::
    receiptSessionLogs identity.owner .rebaseline version
      session

end Anchor

end Entros

------------------------------------------------------------
-- Events of the Registry
------------------------------------------------------------

namespace Entros

open Foundations

namespace Registry

/- The event of `rotate_validator_pubkey`. -/
def rotateValidatorPubkeyLogs
    (H : Host)
    (w : World)
    (now : Int64)
    (admin : Signer)
    (newValidatorPubkey : Pubkey)
    (gracePeriodSecs : Int64) : Result (List Log) := do
  let old ← oldValidator (w.accounts (configAddress H)).data
  let secondary ← graceWindow old newValidatorPubkey
    gracePeriodSecs now
  return [.validatorPubkeyRotated admin.key
    newValidatorPubkey secondary.1 secondary.2]

/- The event of `accept_authority`. -/
def acceptAuthorityLogs
    (H : Host)
    (w : World) : Result (List Log) := do
  let data := (w.accounts (configAddress H)).data
  let oldAdmin ← readField Pubkey data
    ProtocolConfig.offsetAdmin
  let pending ← readField Pubkey data
    ProtocolConfig.offsetPendingAuthority
  return [.authorityTransferAccepted oldAdmin pending]

/- The event of `migrate_admin`. -/
def migrateAdminLogs
    (H : Host)
    (w : World)
    (newAdmin : Signer) : Result (List Log) := do
  let oldAdmin ← readField Pubkey
    (w.accounts (configAddress H)).data
    ProtocolConfig.offsetAdmin
  return [.adminMigrated oldAdmin newAdmin.key]

/- The event of `unstake_validator`. -/
def unstakeValidatorLogs
    (H : Host)
    (w : World)
    (validator : Signer) : Result (List Log) := do
  let state ← w.loadAccount ValidatorState H
    ValidatorState.accountName .registry
    (H.findProgramAddress (.validator validator.key))
  return [.validatorUnstaked state.authority state.stake]

end Registry

end Entros

------------------------------------------------------------
-- Emission
------------------------------------------------------------

namespace Entros

open Foundations

def RegistryInstruction.logs
    (H : Host)
    (now : Int64)
    (w : World) :
    RegistryInstruction → Result (List Log)
| .initializeProtocol _ _ _ _ _ _ _ => .ok []
| .updateProtocolConfig admin verificationFee =>
    .ok [.protocolConfigUpdated admin.key verificationFee]
| .setValidatorPubkey admin validatorPubkey =>
    .ok [.validatorPubkeySet admin.key validatorPubkey]
| .rotateValidatorPubkey admin newValidatorPubkey
    gracePeriodSecs =>
    Registry.rotateValidatorPubkeyLogs H w now admin
      newValidatorPubkey gracePeriodSecs
| .setProjectionVersions admin currentProjectionVersion
    minimumSupportedProjectionVersion =>
    .ok [.projectionVersionsSet admin.key
      currentProjectionVersion
      minimumSupportedProjectionVersion]
| .proposeAuthority admin newAuthority =>
    .ok [.authorityTransferProposed admin.key newAuthority]
| .acceptAuthority _ => Registry.acceptAuthorityLogs H w
| .migrateAdmin newAdmin =>
    Registry.migrateAdminLogs H w newAdmin
| .withdrawTreasury admin amount =>
    .ok [.treasuryWithdrawn admin.key amount]
| .registerValidator validator stakeAmount =>
    .ok [.validatorRegistered validator.key stakeAmount]
| .computeTrustScore verificationCount creationTimestamp
    recentTimestamps => do
    let computed ← Registry.computeTrustScore H w now
      verificationCount creationTimestamp recentTimestamps
    return [.trustScoreComputed computed]
| .unstakeValidator validator =>
    Registry.unstakeValidatorLogs H w validator

/- The request-bound verification and the closings are silent. -/
def VerifierInstruction.logs
    (now : Int64) :
    VerifierInstruction → Result (List Log)
| .createChallenge challenger nonce => do
    let expiresAt ← okOr
      (checkedAdd now Verifier.defaultChallengeExpiry)
      (.verifier .arithmeticOverflow)
    return [.challengeCreated challenger.key nonce expiresAt]
| .verifyProof verifier _ _ nonce =>
    .ok [.verificationComplete verifier.key true nonce]
| .verifyProofCompact verifier nonce _ _ _ _ _ =>
    .ok [.verificationComplete verifier.key true nonce]
| .verifyProofBound _ _ _ _ _ _ _ _ => .ok []
| .closeChallenge _ _ => .ok []
| .closeVerificationResult _ _ => .ok []
| .closeBoundVerificationResult _ _ _ => .ok []

def AnchorInstruction.logs
    {H : Host}
    (now : Int64)
    (tx : Transaction H)
    (w : World) :
    AnchorInstruction → Result (List Log)
| .prepareProofRequest _ => .ok []
| .upgradeIdentityLayout _ => .ok []
| .mintAnchor user _ initialCommitment =>
    Anchor.mintAnchorLogs tx w now user initialCommitment
| .authorizeNewWallet _ _ => .ok []
| .migrateIdentity user walletOld _ =>
    .ok (Anchor.migrateIdentityLogs H user walletOld)
| .updateAnchor authority verificationResult _ receipt =>
    Anchor.processAnchorUpdateLogs tx w now authority
      verificationResult receipt false
| .updateAnchorCompact authority verificationResult
    receipt =>
    Anchor.processAnchorUpdateLogs tx w now authority
      verificationResult receipt false
| .updateAnchorBound authority verificationResult receipt =>
    Anchor.processAnchorUpdateLogs tx w now authority
      verificationResult receipt true
| .resetIdentityState authority _ newCommitment _ =>
    Anchor.resetIdentityStateLogs tx w now authority
      newCommitment
| .rebaselineAnchor authority _ newCommitment _ =>
    Anchor.rebaselineAnchorLogs tx w now authority
      newCommitment
| .setEncryptedBaseline authority _ =>
    .ok [.encryptedBaselineSet authority.key]

/- What a call emits when it succeeds. -/
def emitted
    {H : Host}
    (w : World)
    (call : Call H) : Result (List Log) :=
  match call.instruction with
  | .registry instruction => instruction.logs H call.now w
  | .verifier instruction => instruction.logs call.now
  | .anchor instruction =>
      instruction.logs call.now call.tx w
  | .outside _ => .ok []

/- The log lines of one event of a run. -/
def Event.logs
    {H : Host}
    (event : Event H) : List Log :=
  (emitted event.source event.label).toOption.getD []

end Entros
