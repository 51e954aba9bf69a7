import Entros.Anchor.Update
import Entros.Chain.Token

/-
  The instructions of entros-anchor that create, move, reset
  and rebaseline identities.

  Key definitions include:
    * `mintAnchor`
    * `authorizeNewWallet`
    * `migrateIdentity`
    * `resetIdentityState`
    * `rebaselineAnchor`
    * `setEncryptedBaseline`
-/

------------------------------------------------------------
-- Shared Parts
------------------------------------------------------------

namespace Entros

open Foundations

namespace Anchor

def resetCooldownSecs : Int64 := 604800
def rebaselineCooldownSecs : Int64 := 604800

/- What mint, reset and rebaseline read from the registry. -/
structure LifecycleConfig where
  projectionPolicy : ProjectionPolicy
  verificationFee : UInt64
  validatorKeys : ValidatorKeyPolicy
deriving DecidableEq

/- A fee stored at an offset; short layouts charge nothing. -/
def readFee
    (data : List UInt8)
    (offset : ℕ) : Result UInt64 :=
  if offset + 8 ≤ data.length then
    readField UInt64 data offset
  else
    .ok 0

/- The configuration reads shared by the three instructions. -/
def readLifecycleConfig
    (config : Account) : Result LifecycleConfig := do
  require (config.owner = .registry)
    (.anchor .invalidProtocolConfig)
  let data := config.data
  let projectionPolicy ← readProjectionPolicy data
  let verificationFee ← readFee data 61
  let validatorKeys ← readValidatorKeyPolicy data
  return { projectionPolicy := projectionPolicy
           verificationFee := verificationFee
           validatorKeys := validatorKeys }

/-
  Create the mint and the token account of a wallet and mint
  its token.
-/
def issueToken
    (H : Host)
    (w : World)
    (user : Signer) : Result World := do
  let minted ← w.createMint H user
  let opened ← minted.createTokenAccount H user user.key
    H.requestBound
  opened.mintOne user.key

/- The `init` constraint of a new identity. -/
def initIdentity
    (H : Host)
    (w : World)
    (user : Signer) : Result World :=
  w.createAccount H (walletAddress user)
    (identityAddress H user.key) IdentityState.len .anchor

/- The one remaining account that mint and rebaseline take. -/
def advanceOnly
    (H : Host)
    (w : World)
    (remainingAccounts : List AccountMeta)
    (user : Signer) : Result World :=
  if H.requestBound then
    match remainingAccounts with
    | [state] => advance H w state user.key user
    | _ => .error (.anchor .invalidRequestContext)
  else
    .ok w

end Anchor

end Entros

------------------------------------------------------------
-- Minting
------------------------------------------------------------

namespace Entros

open Foundations

namespace Anchor

/- The fields `mint_anchor` writes into a fresh account. -/
def mintedIdentity
    (H : Host)
    (wallet : Pubkey)
    (now : Int64)
    (initialCommitment : Bytes 32)
    (projectionVersion : UInt16) : IdentityState :=
  { IdentityState.zero with
    owner := wallet
    creationTimestamp := now
    lastVerificationTimestamp := now
    verificationCount := 0
    trustScore := 0
    currentCommitment := initialCommitment
    mint := mintKey H wallet
    bump := H.canonicalBump (.identity wallet)
    recentTimestamps := IdentityState.emptyRing
    lastRebaselineTimestamp := 0
    projectionVersion := projectionVersion }

/- `mint_anchor`. -/
def mintAnchor
    {H : Host}
    (tx : Transaction H)
    (w : World)
    (now : Int64)
    (user : Signer)
    (remainingAccounts : List AccountMeta)
    (initialCommitment : Bytes 32) : Result World := do
  let created ← initIdentity H w user
  let advanced ← advanceOnly H created remainingAccounts user
  require (initialCommitment ≠ Bytes.zero 32)
    (.anchor .invalidCommitment)
  let issued ← issueToken H advanced user
  let config ← readLifecycleConfig (protocolConfig H issued)
  let _ ← verifyValidatorReceipt tx config.validatorKeys
    user.key initialCommitment .mint
    config.projectionPolicy.current now
  let paid ← payFee H issued user config.verificationFee
  paid.saveAccount H IdentityState.accountName
    (identityAddress H user.key)
    (mintedIdentity H user.key now initialCommitment
      config.projectionPolicy.current)

end Anchor

end Entros

------------------------------------------------------------
-- Migration
------------------------------------------------------------

namespace Entros

open Foundations

namespace Anchor

/- The typed identity account of a wallet. -/
def loadIdentity
    (H : Host)
    (w : World)
    (wallet : Pubkey) : Result IdentityState :=
  w.loadAccount IdentityState H IdentityState.accountName
    .anchor (identityAddress H wallet)

/- The mint and token account of a wallet exist. -/
def requireToken
    (w : World)
    (wallet : Pubkey) : Result Unit := do
  require (w.mints wallet ≠ none)
    (.framework .accountNotInitialized)
  require (w.tokenAccounts wallet ≠ none)
    (.framework .accountNotInitialized)

/- `authorize_new_wallet`. -/
def authorizeNewWallet
    (H : Host)
    (w : World)
    (signer signerNew : Signer) : Result World := do
  let identity ← loadIdentity H w signer.key
  requireToken w signer.key
  let approved ← w.approve signer signerNew.key 1
  approved.saveAccount H IdentityState.accountName
    (identityAddress H signer.key)
    { identity with newWallet := signerNew.key }

/-
  The opening of a migration in the request-bound build: both
  wallets' counters advance.
-/
def advanceForMigration
    (H : Host)
    (w : World)
    (user : Signer)
    (walletOld : Pubkey)
    (identityOld : IdentityState)
    (remainingAccounts : List AccountMeta) : Result World :=
  if H.requestBound then
    match remainingAccounts with
    | [stateOld, stateNew] => do
        require
          (identityOld.owner = walletOld ∧
            identityOld.newWallet = user.key)
          (.anchor .unauthorizedNewWallet)
        require (walletOld ≠ user.key)
          (.anchor .invalidRequestContext)
        let advanced ← advance H w stateOld
          identityOld.owner user
        advance H advanced stateNew user.key user
    | _ => .error (.anchor .invalidRequestContext)
  else
    .ok w

/-
  The identity a migration creates.  `new_wallet` is not
  copied: it keeps the zero of the fresh account.
-/
def migratedIdentity
    (H : Host)
    (wallet : Pubkey)
    (identityOld : IdentityState) : IdentityState :=
  { IdentityState.zero with
    owner := wallet
    mint := mintKey H wallet
    bump := H.canonicalBump (.identity wallet)
    creationTimestamp := identityOld.creationTimestamp
    lastVerificationTimestamp :=
      identityOld.lastVerificationTimestamp
    verificationCount := identityOld.verificationCount
    trustScore := identityOld.trustScore
    currentCommitment := identityOld.currentCommitment
    recentTimestamps := identityOld.recentTimestamps
    lastResetTimestamp := identityOld.lastResetTimestamp
    projectionVersion := identityOld.projectionVersion
    lastRebaselineTimestamp :=
      identityOld.lastRebaselineTimestamp }

/- The configuration read of a migration. -/
def readMigrationFee (config : Account) : Result UInt64 := do
  require (config.owner = .registry)
    (.anchor .invalidProtocolConfig)
  readFee config.data 69

/- `migrate_identity`. -/
def migrateIdentity
    (H : Host)
    (w : World)
    (user : Signer)
    (walletOld : Pubkey)
    (remainingAccounts : List AccountMeta) :
    Result World := do
  let identityOld ← loadIdentity H w walletOld
  requireToken w walletOld
  let created ← initIdentity H w user
  let advanced ← advanceForMigration H created user walletOld
    identityOld remainingAccounts
  let issued ← issueToken H advanced user
  require (identityOld.newWallet = user.key)
    (.anchor .unauthorizedNewWallet)
  let migrationFee ← readMigrationFee
    (protocolConfig H issued)
  let paid ← payFee H issued user migrationFee
  let burned ← paid.burn walletOld user 1
  let closed ← burned.closeMint H walletOld user
  let saved ← closed.saveAccount H IdentityState.accountName
    (identityAddress H user.key)
    (migratedIdentity H user.key identityOld)
  return saved.closeAccount (identityAddress H walletOld)
    (.key walletOld)

end Anchor

end Entros

------------------------------------------------------------
-- Reset and Rebaseline
------------------------------------------------------------

namespace Entros

open Foundations

namespace Anchor

/-
  The receipt accounts of a reset.  In the request-bound
  build the last account is the request counter.
-/
def splitResetAccounts
    (H : Host)
    (w : World)
    (remainingAccounts : List AccountMeta)
    (authority : Signer) :
    Result (World × List AccountMeta) :=
  if H.requestBound then
    match remainingAccounts.getLast? with
    | none => .error (.anchor .invalidRequestContext)
    | some state => do
        let advanced ← advance H w state authority.key
          authority
        return (advanced, remainingAccounts.dropLast)
  else
    .ok (w, remainingAccounts)

/- The only receipt account is the instructions sysvar. -/
def checkReceiptAccounts
    (receiptAccounts : List AccountMeta) : Result Unit := do
  require (receiptAccounts.length = 1)
    (.anchor .invalidResetReceiptAccounts)
  require
    (∀ account ∈ receiptAccounts,
      account.address = .instructionsSysvar)
    (.anchor .invalidResetReceiptAccounts)

/- The identity after a reset. -/
def resetIdentity
    (identity : IdentityState)
    (now : Int64)
    (newCommitment : Bytes 32)
    (projectionVersion : UInt16) : IdentityState :=
  { identity with
    currentCommitment := newCommitment
    verificationCount := 0
    trustScore := 0
    recentTimestamps := IdentityState.emptyRing
    lastVerificationTimestamp := now
    lastResetTimestamp := now
    projectionVersion := projectionVersion }

/- `reset_identity_state`. -/
def resetIdentityState
    {H : Host}
    (tx : Transaction H)
    (w : World)
    (now : Int64)
    (authority : Signer)
    (remainingAccounts : List AccountMeta)
    (newCommitment : Bytes 32)
    (projectionVersion : UInt16) : Result World := do
  let split ← splitResetAccounts H w remainingAccounts
    authority
  require (newCommitment ≠ Bytes.zero 32)
    (.anchor .invalidCommitment)
  let opened ← openIdentity H split.1 authority
  let identity := opened.2
  require
    (resetCooldownSecs ≤
      saturatingSub now identity.lastResetTimestamp)
    (.anchor .resetCooldownActive)
  let config ← readLifecycleConfig (protocolConfig H opened.1)
  validateRequestedProjection projectionVersion
    config.projectionPolicy
  checkReceiptAccounts split.2
  let _ ← verifyValidatorReceipt tx config.validatorKeys
    authority.key newCommitment .reset
    config.projectionPolicy.current now
  let written ← writeIdentity H opened.1 authority.key
    (resetIdentity identity now newCommitment
      config.projectionPolicy.current)
  payFee H written authority config.verificationFee

/- The identity after a rebaseline. -/
def rebaselinedIdentity
    (identity : IdentityState)
    (now : Int64)
    (newCommitment : Bytes 32)
    (projectionVersion : UInt16) : IdentityState :=
  { identity with
    currentCommitment := newCommitment
    projectionVersion := projectionVersion
    lastRebaselineTimestamp := now
    lastVerificationTimestamp := now }

/- `rebaseline_anchor`. -/
def rebaselineAnchor
    {H : Host}
    (tx : Transaction H)
    (w : World)
    (now : Int64)
    (authority : Signer)
    (remainingAccounts : List AccountMeta)
    (newCommitment : Bytes 32)
    (projectionVersion : UInt16) : Result World := do
  let advanced ← advanceOnly H w remainingAccounts authority
  require (newCommitment ≠ Bytes.zero 32)
    (.anchor .invalidCommitment)
  let opened ← openIdentity H advanced authority
  let identity := opened.2
  let config ← readLifecycleConfig (protocolConfig H opened.1)
  validateRequestedProjection projectionVersion
    config.projectionPolicy
  require
    (identity.projectionVersion <
      config.projectionPolicy.current)
    (.anchor .projectionVersionNotAdvanced)
  require
    (rebaselineCooldownSecs ≤
      saturatingSub now identity.lastRebaselineTimestamp)
    (.anchor .rebaselineCooldownActive)
  let _ ← verifyValidatorReceipt tx config.validatorKeys
    authority.key newCommitment .rebaseline
    config.projectionPolicy.current now
  let written ← writeIdentity H opened.1 authority.key
    (rebaselinedIdentity identity now newCommitment
      config.projectionPolicy.current)
  payFee H written authority config.verificationFee

end Anchor

end Entros

------------------------------------------------------------
-- Encrypted Baselines
------------------------------------------------------------

namespace Entros

open Foundations

namespace Anchor

/- The address of a wallet's encrypted baseline. -/
def baselineAddress (H : Host) (wallet : Pubkey) : Address :=
  H.findProgramAddress (.encryptedBaseline wallet)

/- The `init_if_needed` constraint of a baseline. -/
def openEncryptedBaseline
    (H : Host)
    (w : World)
    (authority : Signer) : Result World :=
  let address := baselineAddress H authority.key
  if (w.accounts address).owner = .system then
    w.createAccount H (walletAddress authority) address
      EncryptedBaseline.len .anchor
  else do
    let _ ← w.loadAccount EncryptedBaseline H
      EncryptedBaseline.accountName .anchor address
    require
      ((w.accounts address).data.length =
        EncryptedBaseline.len)
      (.framework .constraintSpace)
    return w

/- `set_encrypted_baseline`. -/
def setEncryptedBaseline
    (H : Host)
    (w : World)
    (authority : Signer)
    (blob : Bytes 96) : Result World := do
  let opened ← openEncryptedBaseline H w authority
  require
    (0 < (opened.accounts
      (identityAddress H authority.key)).data.length)
    (.anchor .identityStateNotFound)
  opened.saveAccount H EncryptedBaseline.accountName
    (baselineAddress H authority.key)
    ({ blob := blob
       bump := H.canonicalBump
        (.encryptedBaseline authority.key) } :
      EncryptedBaseline)

end Anchor

end Entros
