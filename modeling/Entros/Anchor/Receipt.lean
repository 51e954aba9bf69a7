import Entros.Anchor.State
import Entros.Chain.Transaction
import Entros.ProofRequest.Request

/-
  Validator receipts: the policies read from the registry's
  configuration, the parser of the preceding Ed25519
  instruction, and the messages a validator signs.

  Key definitions include:
    * `ValidatorKeyPolicy.accepts`
    * `readValidatorKeyPolicy`
    * `readProjectionPolicy`
    * `loadPrecedingEd25519Receipt`
    * `verifyReceiptPayload`
    * `verifyValidatorReceipt`
    * `verifyUpdateReceiptDigest`
-/

------------------------------------------------------------
-- Configuration Policies
------------------------------------------------------------

namespace Entros

open Foundations

namespace Anchor

def pcOffsetValidatorPubkey : ℕ := 77
def pcLenWithValidatorPubkey : ℕ := 109
def pcOffsetCurrentProjectionVersion : ℕ := 109
def pcOffsetMinimumSupportedProjectionVersion : ℕ := 111
def pcLenWithProjectionPolicy : ℕ := 113
def pcOffsetSecondaryValidatorPubkey : ℕ := 145
def pcOffsetSecondaryValidatorValidUntil : ℕ := 177
def pcLenWithRollover : ℕ := 185

/- The keys whose receipts are accepted, and until when. -/
structure ValidatorKeyPolicy where
  primary : Bytes 32
  secondary : Bytes 32
  secondaryValidUntil : Int64
deriving DecidableEq

namespace ValidatorKeyPolicy

/- `is_configured`. -/
def isConfigured (policy : ValidatorKeyPolicy) : Prop :=
  policy.primary ≠ Bytes.zero 32

instance (policy : ValidatorKeyPolicy) :
    Decidable policy.isConfigured := by
  unfold isConfigured
  infer_instance

/- `accepts`. -/
def accepts
    (policy : ValidatorKeyPolicy)
    (signedPubkey : List UInt8)
    (now : Int64) : Prop :=
  signedPubkey = policy.primary.toList ∨
    (policy.secondary ≠ Bytes.zero 32 ∧
      now ≤ policy.secondaryValidUntil ∧
        signedPubkey = policy.secondary.toList)

instance
    (policy : ValidatorKeyPolicy)
    (signedPubkey : List UInt8)
    (now : Int64) :
    Decidable (policy.accepts signedPubkey now) := by
  unfold accepts
  infer_instance

end ValidatorKeyPolicy

/- The primary key; short layouts have none. -/
def readPrimary (data : List UInt8) : Result (Bytes 32) :=
  if pcLenWithValidatorPubkey ≤ data.length then
    readField (Bytes 32) data pcOffsetValidatorPubkey
  else
    .ok (Bytes.zero 32)

/- The secondary key and its expiry; short layouts have none. -/
def readSecondary
    (data : List UInt8) : Result (Bytes 32 × Int64) :=
  if pcLenWithRollover ≤ data.length then do
    let secondary ← readField (Bytes 32) data
      pcOffsetSecondaryValidatorPubkey
    let validUntil ← readField Int64 data
      pcOffsetSecondaryValidatorValidUntil
    return (secondary, validUntil)
  else
    .ok (Bytes.zero 32, 0)

/- `read_validator_key_policy`. -/
def readValidatorKeyPolicy
    (data : List UInt8) : Result ValidatorKeyPolicy := do
  let primary ← readPrimary data
  let secondary ← readSecondary data
  return { primary := primary
           secondary := secondary.1
           secondaryValidUntil := secondary.2 }

structure ProjectionPolicy where
  current : UInt16
  minimum : UInt16
deriving DecidableEq

/- The stored versions, before their order is checked. -/
def readProjectionVersions
    (data : List UInt8) : Result ProjectionPolicy :=
  if data.length ≤ pcLenWithValidatorPubkey then
    .ok { current := 0
          minimum := 0 }
  else do
    require (pcLenWithProjectionPolicy ≤ data.length)
      (.anchor .invalidProtocolConfig)
    let current ← readField UInt16 data
      pcOffsetCurrentProjectionVersion
    let minimum ← readField UInt16 data
      pcOffsetMinimumSupportedProjectionVersion
    return { current := current
             minimum := minimum }

/- `read_projection_policy`. -/
def readProjectionPolicy
    (data : List UInt8) : Result ProjectionPolicy := do
  let policy ← readProjectionVersions data
  require (policy.minimum ≤ policy.current)
    (.anchor .invalidProtocolConfig)
  return policy

/- `validate_identity_projection`. -/
def validateIdentityProjection
    (version : UInt16)
    (policy : ProjectionPolicy) : Result Unit := do
  require (policy.minimum ≤ version)
    (.anchor .projectionVersionTooOld)
  require (version ≤ policy.current)
    (.anchor .projectionVersionTooNew)

/- `validate_requested_projection`. -/
def validateRequestedProjection
    (version : UInt16)
    (policy : ProjectionPolicy) : Result Unit :=
  require (version = policy.current)
    (.anchor .projectionVersionMismatch)

end Anchor

end Entros

------------------------------------------------------------
-- Preceding Ed25519 Instruction
------------------------------------------------------------

namespace Entros

open Foundations

namespace Anchor

def ed25519HeaderLen : ℕ := 16
def ed25519NumSigOffset : ℕ := 0
def ed25519SigIxIndexOffset : ℕ := 4
def ed25519PubkeyOffsetOffset : ℕ := 6
def ed25519PubkeyIxIndexOffset : ℕ := 8
def ed25519MsgOffsetOffset : ℕ := 10
def ed25519MsgSizeOffset : ℕ := 12
def ed25519MsgIxIndexOffset : ℕ := 14
def ed25519IxIndexCurrent : UInt16 := 0xFFFF

/- A 16-bit header field as a size or an offset. -/
def readOffset
    (data : List UInt8)
    (offset : ℕ) : Result ℕ := do
  let value ← readField UInt16 data offset
  return value.toNat

/- Cross-instruction references are rejected. -/
def checkInstructionIndices
    (data : List UInt8) : Result Unit := do
  let sigIxIndex ← readField UInt16 data
    ed25519SigIxIndexOffset
  let pkIxIndex ← readField UInt16 data
    ed25519PubkeyIxIndexOffset
  let msgIxIndex ← readField UInt16 data
    ed25519MsgIxIndexOffset
  require
    (sigIxIndex = ed25519IxIndexCurrent ∧
      pkIxIndex = ed25519IxIndexCurrent ∧
        msgIxIndex = ed25519IxIndexCurrent)
    (.anchor .malformedReceiptMessage)

/- The part of the parser that looks at the data only. -/
def readEd25519Message
    (data : List UInt8)
    (validatorKeys : ValidatorKeyPolicy)
    (allowedSizes : List ℕ)
    (now : Int64) : Result (List UInt8) := do
  require (ed25519HeaderLen ≤ data.length)
    (.anchor .malformedReceiptMessage)
  let numSignatures ← readField UInt8 data
    ed25519NumSigOffset
  require (numSignatures = 1)
    (.anchor .malformedReceiptMessage)
  checkInstructionIndices data
  let pubkeyOffset ← readOffset data
    ed25519PubkeyOffsetOffset
  let messageOffset ← readOffset data
    ed25519MsgOffsetOffset
  let messageSize ← readOffset data ed25519MsgSizeOffset
  require
    (pubkeyOffset + 32 ≤ data.length ∧
      messageOffset + messageSize ≤ data.length)
    (.anchor .malformedReceiptMessage)
  require (messageSize ∈ allowedSizes)
    (.anchor .malformedReceiptMessage)
  let signedPubkey ← readSlice data pubkeyOffset 32
  require (validatorKeys.accepts signedPubkey now)
    (.anchor .receiptValidatorMismatch)
  readSlice data messageOffset messageSize

/- `load_preceding_ed25519_receipt`. -/
def loadPrecedingEd25519Receipt
    {H : Host}
    (tx : Transaction H)
    (validatorKeys : ValidatorKeyPolicy)
    (allowedSizes : List ℕ)
    (now : Int64) : Result (List UInt8) := do
  require validatorKeys.isConfigured
    (.anchor .validatorNotConfigured)
  require (tx.currentIndex ≠ 0)
    (.anchor .missingValidatorReceipt)
  let previous ← tx.precedingInstruction
  require (previous.program = .ed25519)
    (.anchor .missingValidatorReceipt)
  readEd25519Message previous.data validatorKeys
    allowedSizes now

end Anchor

end Entros

------------------------------------------------------------
-- Receipt Messages
------------------------------------------------------------

namespace Entros

open Foundations

namespace Anchor

def maxReceiptAgeSecs : Int64 := 300
def receiptV1MessageLen : ℕ := 72
def receiptV2MessageLen : ℕ := 103
def receiptV3MessageLen : ℕ := 136
def receiptV4DigestLen : ℕ := 32
def maxAssuranceTier : UInt8 := 2

def receiptV2Domain : List UInt8 :=
  paddedAscii "entros-validator-receipt-v2" 28

def receiptV3Domain : List UInt8 :=
  paddedAscii "entros-validator-receipt-v3" 28

def receiptV4Domain : List UInt8 :=
  paddedAscii "entros-validator-receipt-v4" 28

/- What a paired-session receipt binds beyond version 2. -/
structure ReceiptSession where
  finalDigest : Bytes 32
  assuranceTier : UInt8
deriving DecidableEq

inductive ReceiptPurpose where
| mint
| rebaseline
| reset
| update
deriving DecidableEq

/- `purpose as u8`. -/
def ReceiptPurpose.code : ReceiptPurpose → UInt8
| .mint => 1
| .rebaseline => 2
| .reset => 3
| .update => 4

/- The fields of a message, before they are compared. -/
structure ReceiptFields where
  wallet : List UInt8
  commitment : List UInt8
  validatedAt : Int64
  session : Option ReceiptSession
deriving DecidableEq

/- Version 1, which only mints at projection zero may use. -/
def readReceiptV1
    (message : List UInt8)
    (expectedPurpose : ReceiptPurpose)
    (expectedProjectionVersion : UInt16) :
    Result ReceiptFields := do
  require
    (expectedPurpose = .mint ∧ expectedProjectionVersion = 0)
    (.anchor .receiptVersionMismatch)
  let validatedAt ← readField Int64 message 64
  let wallet ← readSlice message 0 32
  let commitment ← readSlice message 32 32
  return { wallet := wallet
           commitment := commitment
           validatedAt := validatedAt
           session := none }

/- The session tail of version 3. -/
def readReceiptSession
    (message : List UInt8) :
    Result (Option ReceiptSession) :=
  if message.length = receiptV3MessageLen then do
    let assuranceTier ← readField UInt8 message 135
    require (assuranceTier ≤ maxAssuranceTier)
      (.anchor .invalidAssuranceTier)
    let finalDigest ← readField (Bytes 32) message 103
    return some { finalDigest := finalDigest
                  assuranceTier := assuranceTier }
  else
    .ok none

/- The domain a version 2 or version 3 message starts with. -/
def receiptDomain (message : List UInt8) : List UInt8 :=
  if message.length = receiptV3MessageLen then
    receiptV3Domain
  else
    receiptV2Domain

/- Versions 2 and 3. -/
def readReceiptV2
    (message : List UInt8)
    (expectedPurpose : ReceiptPurpose)
    (expectedProjectionVersion : UInt16) :
    Result ReceiptFields := do
  let domain ← readSlice message 0 28
  require (domain = receiptDomain message)
    (.anchor .malformedReceiptMessage)
  let purpose ← readField UInt8 message 28
  require (purpose = expectedPurpose.code)
    (.anchor .receiptPurposeMismatch)
  let projectionVersion ← readField UInt16 message 29
  require (projectionVersion = expectedProjectionVersion)
    (.anchor .receiptProjectionVersionMismatch)
  let validatedAt ← readField Int64 message 95
  let session ← readReceiptSession message
  let wallet ← readSlice message 31 32
  let commitment ← readSlice message 63 32
  return { wallet := wallet
           commitment := commitment
           validatedAt := validatedAt
           session := session }

/- The layout is chosen by the length of the message. -/
def readReceiptFields
    (message : List UInt8)
    (expectedPurpose : ReceiptPurpose)
    (expectedProjectionVersion : UInt16) :
    Result ReceiptFields :=
  if message.length = receiptV1MessageLen then
    readReceiptV1 message expectedPurpose
      expectedProjectionVersion
  else if message.length = receiptV2MessageLen ∨
      message.length = receiptV3MessageLen then
    readReceiptV2 message expectedPurpose
      expectedProjectionVersion
  else
    .error (.anchor .malformedReceiptMessage)

/- The age window shared by all receipts. -/
def checkReceiptAge
    (validatedAt now : Int64) : Result Unit := do
  require (validatedAt ≤ now) (.anchor .receiptFromFuture)
  require
    (saturatingSub now validatedAt ≤ maxReceiptAgeSecs)
    (.anchor .receiptExpired)

/- `verify_receipt_payload`. -/
def verifyReceiptPayload
    (message : List UInt8)
    (expectedWallet : Pubkey)
    (expectedCommitment : Bytes 32)
    (expectedPurpose : ReceiptPurpose)
    (expectedProjectionVersion : UInt16)
    (now : Int64) : Result (Option ReceiptSession) := do
  let fields ← readReceiptFields message expectedPurpose
    expectedProjectionVersion
  require (fields.wallet = expectedWallet.toList)
    (.anchor .receiptWalletMismatch)
  require (fields.commitment = expectedCommitment.toList)
    (.anchor .receiptCommitmentMismatch)
  checkReceiptAge fields.validatedAt now
  return fields.session

/- `verify_validator_receipt`. -/
def verifyValidatorReceipt
    {H : Host}
    (tx : Transaction H)
    (validatorKeys : ValidatorKeyPolicy)
    (expectedWallet : Pubkey)
    (expectedCommitment : Bytes 32)
    (expectedPurpose : ReceiptPurpose)
    (expectedProjectionVersion : UInt16)
    (now : Int64) : Result (Option ReceiptSession) := do
  let message ← loadPrecedingEd25519Receipt tx validatorKeys
    [receiptV1MessageLen, receiptV2MessageLen,
      receiptV3MessageLen] now
  verifyReceiptPayload message expectedWallet
    expectedCommitment expectedPurpose
    expectedProjectionVersion now

end Anchor

end Entros

------------------------------------------------------------
-- Update Receipts
------------------------------------------------------------

namespace Entros

open Foundations

namespace Anchor

/- The arguments an update is signed over. -/
structure UpdateReceiptArgs where
  validatedAt : Int64
  assuranceTier : UInt8
  sessionFinalDigest : Option (Bytes 32)
deriving DecidableEq

namespace UpdateReceiptArgs

/- What `build_update_receipt_v4_preimage` demands. -/
def check (receipt : UpdateReceiptArgs) : Result Unit := do
  require (receipt.assuranceTier ≤ maxAssuranceTier)
    (.anchor .invalidAssuranceTier)
  require
    (receipt.sessionFinalDigest ≠ some (Bytes.zero 32))
    (.anchor .malformedReceiptMessage)

/- The session an accepted receipt reports. -/
def session
    (receipt : UpdateReceiptArgs) : Option ReceiptSession :=
  receipt.sessionFinalDigest.map fun finalDigest =>
    { finalDigest := finalDigest
      assuranceTier := receipt.assuranceTier }

end UpdateReceiptArgs

/- The 136 bytes of a version 4 preimage. -/
def updateReceiptV4Bytes
    (wallet : Pubkey)
    (commitmentNew : Bytes 32)
    (projectionVersion : UInt16)
    (receipt : UpdateReceiptArgs) : List UInt8 :=
  receiptV4Domain ++ [ReceiptPurpose.update.code] ++
    Packed.encode projectionVersion ++ wallet.toList ++
    commitmentNew.toList ++
    Packed.encode receipt.validatedAt ++
    (receipt.sessionFinalDigest.getD (Bytes.zero 32)).toList ++
    [receipt.assuranceTier]

/- `build_update_receipt_v4_preimage`. -/
def buildUpdateReceiptV4Preimage
    (wallet : Pubkey)
    (commitmentNew : Bytes 32)
    (projectionVersion : UInt16)
    (receipt : UpdateReceiptArgs) : Result (List UInt8) := do
  receipt.check
  return updateReceiptV4Bytes wallet commitmentNew
    projectionVersion receipt

/- `compute_update_receipt_v4_digest`. -/
def computeUpdateReceiptV4Digest
    (H : Host)
    (wallet : Pubkey)
    (commitmentNew : Bytes 32)
    (projectionVersion : UInt16)
    (receipt : UpdateReceiptArgs) : Result (Bytes 32) := do
  let preimage ← buildUpdateReceiptV4Preimage wallet
    commitmentNew projectionVersion receipt
  return H.sha256 preimage

/- `verify_update_receipt_digest`. -/
def verifyUpdateReceiptDigest
    {H : Host}
    (tx : Transaction H)
    (validatorKeys : ValidatorKeyPolicy)
    (expectedWallet : Pubkey)
    (expectedCommitmentNew : Bytes 32)
    (expectedProjectionVersion : UInt16)
    (receipt : UpdateReceiptArgs)
    (now : Int64) : Result (Option ReceiptSession) := do
  let signedDigest ← loadPrecedingEd25519Receipt tx
    validatorKeys [receiptV4DigestLen] now
  let expectedDigest ← computeUpdateReceiptV4Digest H
    expectedWallet expectedCommitmentNew
    expectedProjectionVersion receipt
  require (signedDigest = expectedDigest.toList)
    (.anchor .receiptCommitmentMismatch)
  checkReceiptAge receipt.validatedAt now
  return receipt.session

end Anchor

end Entros
