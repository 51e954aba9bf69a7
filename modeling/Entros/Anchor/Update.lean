import Entros.Anchor.Receipt
import Entros.Anchor.Requests
import Entros.Anchor.Score
import Entros.Verifier.Instructions

/-
  The update of an identity from a verified proof, in both
  builds.

  Key definitions include:
    * `openIdentity`
    * `readVerificationResult`
    * `consumeBoundResult`
    * `processAnchorUpdate`
    * `updateAnchor`
    * `updateAnchorCompact`
    * `updateAnchorBound`
-/

------------------------------------------------------------
-- Identity Accounts
------------------------------------------------------------

namespace Entros

open Foundations

namespace Anchor

/- Extend a legacy identity to the current layout. -/
def growIdentity
    (H : Host)
    (w : World)
    (authority : Signer) : Result World :=
  let address := identityAddress H authority.key
  if (w.accounts address).data.length <
      IdentityState.len then
    w.growAccount H (walletAddress authority) address
      IdentityState.len
  else
    .ok w

/- Deserialise an identity whose address is fixed by seeds. -/
def readIdentity
    (H : Host)
    (w : World)
    (wallet : Pubkey) : Result IdentityState :=
  remapError
    (tryDeserialize IdentityState H IdentityState.accountName
      (w.accounts (identityAddress H wallet)).data)
    (.anchor .invalidIdentityState)

/-
  The opening of the three instructions that rewrite an
  identity: check the account's owner, extend its layout,
  deserialise it and check whose it is.
-/
def openIdentity
    (H : Host)
    (w : World)
    (authority : Signer) :
    Result (World × IdentityState) := do
  require
    ((w.accounts (identityAddress H authority.key)).owner =
      .anchor)
    (.anchor .invalidIdentityState)
  let grown ← growIdentity H w authority
  let identity ← readIdentity H grown authority.key
  require (identity.owner = authority.key)
    (.anchor .unauthorized)
  return (grown, identity)

/- Serialise an identity over its account. -/
def writeIdentity
    (H : Host)
    (w : World)
    (wallet : Pubkey)
    (identity : IdentityState) : Result World :=
  remapError
    (w.saveAccount H IdentityState.accountName
      (identityAddress H wallet) identity)
    (.anchor .identitySerializationFailed)

/- A fee for the treasury, unless it is zero. -/
def payFee
    (H : Host)
    (w : World)
    (payer : Signer)
    (fee : UInt64) : Result World :=
  if 0 < fee then
    w.transfer (walletAddress payer)
      (H.findProgramAddress .protocolTreasury) fee.toNat
  else
    .ok w

/- The registry's configuration account. -/
def protocolConfig (H : Host) (w : World) : Account :=
  w.accounts (H.findProgramAddress .protocolConfig)

end Anchor

end Entros

------------------------------------------------------------
-- Proof Results
------------------------------------------------------------

namespace Entros

open Foundations

namespace Anchor

def maxProofAgeSecs : Int64 := 600
def verificationResultLenV2 : ℕ := 182

def verificationResultDiscriminator : List UInt8 :=
  [104, 111, 80, 172, 219, 191, 162, 38]

def vrOffsetVerifier : ℕ := 8
def vrOffsetVerifiedAt : ℕ := 72
def vrOffsetNonce : ℕ := 81
def vrOffsetBump : ℕ := 113
def vrOffsetCommitmentNew : ℕ := 114
def vrOffsetCommitmentPrev : ℕ := 146

/- The transition a stored proof result stands for. -/
structure ProofTransition where
  commitmentNew : Bytes 32
  commitmentPrev : Bytes 32
  boundNonce : Option (Bytes 32)
deriving DecidableEq

/- The default build's reading of a result account. -/
def readVerificationResult
    (H : Host)
    (w : World)
    (now : Int64)
    (authority : Signer)
    (address : Address) : Result ProofTransition := do
  require (H.requestBound = false)
    (.anchor .unsupportedProofGeneration)
  let account := w.accounts address
  require (account.owner = .verifier)
    (.anchor .verificationResultWrongOwner)
  let data := account.data
  require (verificationResultLenV2 ≤ data.length)
    (.anchor .staleVerificationResult)
  let tag ← readSlice data 0 8
  require (tag = verificationResultDiscriminator)
    (.anchor .staleVerificationResult)
  let verifier ← readField Pubkey data vrOffsetVerifier
  require (verifier = authority.key)
    (.anchor .verifierMismatch)
  let nonce ← readField (Bytes 32) data vrOffsetNonce
  require (nonce ≠ Bytes.zero 32)
    (.anchor .invalidVerificationResultPda)
  let bump ← readField UInt8 data vrOffsetBump
  require
    (H.createProgramAddress
      (.verification authority.key nonce) bump = some address)
    (.anchor .invalidVerificationResultPda)
  let verifiedAt ← readField Int64 data vrOffsetVerifiedAt
  require (verifiedAt ≤ now) (.anchor .proofFromFuture)
  require (saturatingSub now verifiedAt ≤ maxProofAgeSecs)
    (.anchor .proofExpired)
  let commitmentNew ← readField (Bytes 32) data
    vrOffsetCommitmentNew
  let commitmentPrev ← readField (Bytes 32) data
    vrOffsetCommitmentPrev
  return { commitmentNew := commitmentNew
           commitmentPrev := commitmentPrev
           boundNonce := none }

/- The typed reading of a bound result account. -/
def loadBoundResult
    (H : Host)
    (w : World)
    (address : Address) : Result BoundVerificationResult := do
  let account := w.accounts address
  require (account.data ≠ [])
    (.anchor .invalidRequestContext)
  require (account.owner = .verifier)
    (.anchor .verificationResultWrongOwner)
  require (account.data.length = BoundVerificationResult.len)
    (.anchor .invalidRequestContext)
  remapError
    (tryDeserialize BoundVerificationResult H
      BoundVerificationResult.accountName account.data)
    (.anchor .invalidRequestContext)

/- The action `process_anchor_update` recomputes. -/
def boundAction
    (H : Host)
    (wallet : Pubkey)
    (identity : IdentityState)
    (counter : UInt64)
    (result : BoundVerificationResult) : Action where
  identity := H.toPubkey (identityAddress H wallet)
  mint := identity.mint
  counter := counter
  projection := identity.projectionVersion
  commitmentNew := result.commitmentNew
  commitmentPrev := result.commitmentPrev
  threshold := result.threshold
  minDistance := result.minDistance
  validUntil := result.validUntil

/- The digest recomputed from the identity and the result. -/
def recomputedDigest
    (H : Host)
    (wallet : Pubkey)
    (identity : IdentityState)
    (counter : UInt64)
    (result : BoundVerificationResult) : Option (Bytes 32) :=
  requestDigest H H.deploymentDomain H.verifierId H.anchorId
    wallet result.nonce
    (boundAction H wallet identity counter result)

/- The expiry of a bound result. -/
def checkBoundExpiry
    (now : Int64)
    (result : BoundVerificationResult) : Result Unit :=
  require
    (result.verifiedAt ≤ now ∧ 0 ≤ now.toInt ∧
      UInt64.ofNat now.toInt.toNat ≤ result.validUntil ∧
        0 < result.validUntil)
    (.anchor .proofExpired)

/-
  The request-bound build's reading of a result account,
  which advances the wallet's counter.
-/
def consumeBoundResult
    (H : Host)
    (w : World)
    (now : Int64)
    (authority : Signer)
    (identity : IdentityState)
    (address : Address) :
    Result (World × ProofTransition) := do
  require (H.requestBound = true)
    (.anchor .unsupportedProofGeneration)
  let result ← loadBoundResult H w address
  let wallet := authority.key
  let state := w.accounts (requestAddress H wallet)
  require (state.owner = .anchor)
    (.anchor .invalidRequestContext)
  let counter ← okOr
    (readCounter H state.data wallet (requestBump H wallet))
    (.anchor .invalidRequestContext)
  require
    (result.version = generation ∧ result.wallet = wallet ∧
      result.counter = counter ∧
        result.nonce ≠ Bytes.zero 32)
    (.anchor .invalidRequestContext)
  require
    (H.createProgramAddress
      (.verificationBound wallet result.nonce) result.bump =
        some address)
    (.anchor .invalidVerificationResultPda)
  checkBoundExpiry now result
  let digest ← okOr
    (recomputedDigest H wallet identity counter result)
    (.anchor .invalidRequestContext)
  require (result.requestDigest = digest)
    (.anchor .invalidRequestContext)
  let next ← okOr (checkedAdd64 counter 1)
    (.anchor .arithmeticOverflow)
  let data ← writeField state.data
    ProofRequestState.offsetCounter next
  return (w.setData (requestAddress H wallet) data,
    { commitmentNew := result.commitmentNew
      commitmentPrev := result.commitmentPrev
      boundNonce := some result.nonce })

/- The two ways of reading a proof result. -/
def consumeProof
    (H : Host)
    (w : World)
    (now : Int64)
    (authority : Signer)
    (identity : IdentityState)
    (address : Address)
    (bound : Bool) : Result (World × ProofTransition) :=
  if bound then
    consumeBoundResult H w now authority identity address
  else do
    let transition ← readVerificationResult H w now authority
      address
    return (w, transition)

/- `close_verification_result_cpi`. -/
def closeVerificationResultCpi
    (H : Host)
    (w : World)
    (authority : Signer)
    (address : Address)
    (boundNonce : Option (Bytes 32)) : Result World :=
  match boundNonce with
  | none =>
      Verifier.closeVerificationResult H w authority address
  | some nonce =>
      Verifier.closeBoundVerificationResult H w authority
        nonce address

end Anchor

end Entros

------------------------------------------------------------
-- Updates
------------------------------------------------------------

namespace Entros

open Foundations

namespace Anchor

/- What an update reads from the configuration. -/
structure UpdateConfig where
  maxTrustScore : UInt16
  baseTrustIncrement : UInt16
  verificationFee : UInt64
  validatorKeys : ValidatorKeyPolicy
deriving DecidableEq

/- The configuration reads of `process_anchor_update`. -/
def readUpdateConfig
    (config : Account)
    (projectionVersion : UInt16) : Result UpdateConfig := do
  require (config.owner = .registry)
    (.anchor .invalidProtocolConfig)
  let data := config.data
  require (69 ≤ data.length)
    (.anchor .invalidProtocolConfig)
  let projectionPolicy ← readProjectionPolicy data
  validateIdentityProjection projectionVersion
    projectionPolicy
  let maxTrustScore ← readField UInt16 data 56
  let baseTrustIncrement ← readField UInt16 data 58
  let verificationFee ← readField UInt64 data 61
  let validatorKeys ← readValidatorKeyPolicy data
  return { maxTrustScore := maxTrustScore
           baseTrustIncrement := baseTrustIncrement
           verificationFee := verificationFee
           validatorKeys := validatorKeys }

/- `update_anchor` names the commitment it expects. -/
def checkExpectedCommitment
    (expectedNewCommitment : Option (Bytes 32)) :
    Result Unit :=
  require (expectedNewCommitment ≠ some (Bytes.zero 32))
    (.anchor .invalidCommitment)

/- The checks on the commitments of a transition. -/
def checkTransition
    (transition : ProofTransition)
    (expectedNewCommitment : Option (Bytes 32))
    (currentCommitment : Bytes 32) : Result Unit := do
  require (transition.commitmentNew ≠ Bytes.zero 32)
    (.anchor .invalidCommitment)
  require
    (expectedNewCommitment = none ∨
      expectedNewCommitment = some transition.commitmentNew)
    (.anchor .commitmentMismatch)
  require (transition.commitmentPrev = currentCommitment)
    (.anchor .prevCommitmentMismatch)
  require
    (transition.commitmentNew ≠ transition.commitmentPrev)
    (.anchor .commitmentUnchanged)

/- The identity after an accepted update. -/
def updatedIdentity
    (identity : IdentityState)
    (now : Int64)
    (commitmentNew : Bytes 32)
    (config : UpdateConfig) : Result IdentityState := do
  let verificationCount ← okOr
    (checkedAdd32 identity.verificationCount 1)
    (.anchor .arithmeticOverflow)
  let recentTimestamps := recordVerification
    identity.recentTimestamps now
  let score ← trustScore now identity.creationTimestamp
    recentTimestamps.toList config.baseTrustIncrement
    config.maxTrustScore
  return { identity with
    currentCommitment := commitmentNew
    verificationCount := verificationCount
    lastVerificationTimestamp := now
    recentTimestamps := recentTimestamps
    trustScore := score }

/- Which fields an update changes. -/
theorem updatedIdentity_eq_ok
    {identity updated : IdentityState}
    {now : Int64}
    {commitmentNew : Bytes 32}
    {config : UpdateConfig}
    (hUpdated :
      updatedIdentity identity now commitmentNew config =
        .ok updated) :
    ∃ verificationCount score,
      checkedAdd32 identity.verificationCount 1 =
          some verificationCount ∧
        updated =
          { identity with
            currentCommitment := commitmentNew
            verificationCount := verificationCount
            lastVerificationTimestamp := now
            recentTimestamps := recordVerification
              identity.recentTimestamps now
            trustScore := score } := by
  simp only [updatedIdentity, bind_eq_ok, okOr_eq_ok,
    pure_eq_ok] at hUpdated
  rcases hUpdated with ⟨count, hCount, score, _, rfl⟩
  exact ⟨count, score, hCount, rfl⟩

/- The score an update stores. -/
theorem updatedIdentity_score
    {identity updated : IdentityState}
    {now : Int64}
    {commitmentNew : Bytes 32}
    {config : UpdateConfig}
    (hUpdated :
      updatedIdentity identity now commitmentNew config =
        .ok updated) :
    trustScore now identity.creationTimestamp
        updated.recentTimestamps.toList
        config.baseTrustIncrement config.maxTrustScore =
      .ok updated.trustScore := by
  simp only [updatedIdentity, bind_eq_ok, okOr_eq_ok,
    pure_eq_ok] at hUpdated
  rcases hUpdated with ⟨_, _, _, hScore, rfl⟩
  exact hScore

/- `process_anchor_update`. -/
def processAnchorUpdate
    {H : Host}
    (tx : Transaction H)
    (w : World)
    (now : Int64)
    (authority : Signer)
    (verificationResult : Address)
    (receipt : UpdateReceiptArgs)
    (expectedNewCommitment : Option (Bytes 32))
    (bound : Bool) : Result World := do
  require (bound = H.requestBound)
    (.anchor .unsupportedProofGeneration)
  let opened ← openIdentity H w authority
  let identity := opened.2
  checkExpectedCommitment expectedNewCommitment
  let config ← readUpdateConfig (protocolConfig H opened.1)
    identity.projectionVersion
  let consumed ← consumeProof H opened.1 now authority
    identity verificationResult bound
  let transition := consumed.2
  checkTransition transition expectedNewCommitment
    identity.currentCommitment
  let _ ← verifyUpdateReceiptDigest tx config.validatorKeys
    authority.key transition.commitmentNew
    identity.projectionVersion receipt now
  require
    (identity.lastVerificationTimestamp ≤ receipt.validatedAt)
    (.anchor .receiptAlreadyUsed)
  let closed ← closeVerificationResultCpi H consumed.1
    authority verificationResult transition.boundNonce
  let updated ← updatedIdentity identity now
    transition.commitmentNew config
  let written ← writeIdentity H closed authority.key updated
  payFee H written authority config.verificationFee

/- `update_anchor`. -/
def updateAnchor
    {H : Host}
    (tx : Transaction H)
    (w : World)
    (now : Int64)
    (authority : Signer)
    (verificationResult : Address)
    (newCommitment : Bytes 32)
    (receipt : UpdateReceiptArgs) : Result World := do
  require (newCommitment ≠ Bytes.zero 32)
    (.anchor .invalidCommitment)
  processAnchorUpdate tx w now authority verificationResult
    receipt (some newCommitment) false

/- `update_anchor_compact`. -/
def updateAnchorCompact
    {H : Host}
    (tx : Transaction H)
    (w : World)
    (now : Int64)
    (authority : Signer)
    (verificationResult : Address)
    (receipt : UpdateReceiptArgs) : Result World :=
  processAnchorUpdate tx w now authority verificationResult
    receipt none false

/- `update_anchor_bound`. -/
def updateAnchorBound
    {H : Host}
    (tx : Transaction H)
    (w : World)
    (now : Int64)
    (authority : Signer)
    (verificationResult : Address)
    (receipt : UpdateReceiptArgs) : Result World := do
  require
    ((w.accounts (requestAddress H authority.key)).owner =
      .anchor)
    (.framework .constraintOwner)
  processAnchorUpdate tx w now authority verificationResult
    receipt none true

end Anchor

end Entros
