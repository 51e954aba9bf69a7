import Entros.ProofRequest.Request
import Entros.Verifier.State

/-
  The instructions of entros-verifier.

  Key definitions include:
    * `decodeU16FromFieldElement`
    * `validateHammingBounds`
    * `verifyAndStore`
    * `verifyProof`
    * `verifyProofCompact`
    * `verifyProofBound`
    * `closeVerificationResult`
    * `closeBoundVerificationResult`
-/

------------------------------------------------------------
-- Public Inputs
------------------------------------------------------------

namespace Entros

open Foundations

namespace Verifier

def defaultChallengeExpiry : Int64 := 300
def maxThreshold : UInt16 := 96
def minDistanceFloor : UInt16 := 3

/- `decode_u16_from_field_element`. -/
def decodeU16FromFieldElement
    (element : Bytes 32) : Result UInt16 := do
  require
    (slice element.toList 0 30 = List.replicate 30 0)
    (.verifier .invalidPublicInputs)
  return UInt16.ofNat (beNat (slice element.toList 30 2))

/- `validate_hamming_bounds`. -/
def validateHammingBounds
    (threshold minDistance : UInt16) : Result Unit := do
  require (threshold ≤ maxThreshold)
    (.verifier .invalidPublicInputs)
  require (minDistanceFloor ≤ minDistance)
    (.verifier .invalidPublicInputs)
  require (minDistance < threshold)
    (.verifier .invalidPublicInputs)

/- `encode_u16_field_element`. -/
def encodeU16FieldElement (value : UInt16) : Bytes 32 :=
  Bytes.ofList 32
    (List.replicate 30 0 ++ beBytes 2 value.toNat)

/- Only canonical encodings are decoded. -/
theorem eq_encodeU16FieldElement
    {element : Bytes 32}
    {value : UInt16}
    (hDecode :
      decodeU16FromFieldElement element = .ok value) :
    element = encodeU16FieldElement value := by
  simp only [decodeU16FromFieldElement, bind_eq_ok,
    require_eq_ok, pure_eq_ok] at hDecode
  rcases hDecode with ⟨_, hZeros, rfl⟩
  have hLow : (slice element.toList 30 2).length = 2 :=
    length_slice (by rw [element.toList_length])
  have hLt : beNat (slice element.toList 30 2) < 2 ^ 16 := by
    have hBound := beNat_lt (slice element.toList 30 2)
    rw [hLow] at hBound
    exact hBound
  have hBytes := beBytes_beNat (slice element.toList 30 2)
  rw [hLow] at hBytes
  have hSplit :
      element.toList =
        slice element.toList 0 30 ++
          slice element.toList 30 2 := by
    have hDrop : (element.toList.drop 30).length ≤ 2 := by
      rw [List.length_drop, element.toList_length]
    rw [slice, slice, List.drop_zero,
      List.take_of_length_le hDrop, List.take_append_drop]
  apply Bytes.toList_injective
  rw [encodeU16FieldElement, UInt16.toNat_ofNat',
    Nat.mod_eq_of_lt hLt, hBytes, ← hZeros, ← hSplit,
    Bytes.toList_ofList element.toList_length]

/- The encoding is the number on the low two bytes. -/
theorem toList_encodeU16FieldElement (value : UInt16) :
    (encodeU16FieldElement value).toList =
      List.replicate 30 0 ++ beBytes 2 value.toNat :=
  Bytes.toList_ofList (by simp)

theorem beNat_encodeU16FieldElement (value : UInt16) :
    beNat (encodeU16FieldElement value).toList =
      value.toNat := by
  have hValue : value.toNat < 256 ^ 2 := value.toNat_lt
  rw [toList_encodeU16FieldElement, beNat_zeros,
    beNat_beBytes hValue]

theorem encodeU16FieldElement_injective :
    Function.Injective encodeU16FieldElement := by
  intro value value' hEq
  have hNat := congrArg (fun element : Bytes 32 =>
    beNat element.toList) hEq
  simp only [beNat_encodeU16FieldElement] at hNat
  exact UInt16.toNat_inj.mp hNat

/- Every encoding is decoded to the number it encodes. -/
theorem decodeU16FromFieldElement_encode (value : UInt16) :
    decodeU16FromFieldElement (encodeU16FieldElement value) =
      .ok value := by
  have hValue : value.toNat < 256 ^ 2 := value.toNat_lt
  have hHigh :
      slice (encodeU16FieldElement value).toList 0 30 =
        List.replicate 30 0 := by
    rw [toList_encodeU16FieldElement]
    exact slice_append_left (List.length_replicate ..)
  have hLow :
      slice (encodeU16FieldElement value).toList 30 2 =
        beBytes 2 value.toNat := by
    rw [toList_encodeU16FieldElement,
      slice_append_right (by simp)]
    exact slice_all (by simp)
  unfold decodeU16FromFieldElement
  rw [require_of hHigh, hLow, beNat_beBytes hValue,
    UInt16.ofNat_toNat]
  rfl

/- The four public inputs of the default circuit. -/
abbrev PublicInputs := List.Vector (Bytes 32) 4

/- The first two are the commitments that a proof links. -/
def PublicInputs.commitmentNew
    (publicInputs : PublicInputs) : Bytes 32 :=
  publicInputs.get 0

def PublicInputs.commitmentPrev
    (publicInputs : PublicInputs) : Bytes 32 :=
  publicInputs.get 1

/- The three parts of a 256-byte proof, checked together. -/
def groth16Verify
    (H : Host)
    (key : VerifyingKey)
    (proof : List UInt8)
    (inputs : List (Bytes 32)) : Bool :=
  H.groth16 key
    (Bytes.ofList 64 (slice proof 0 64))
    (Bytes.ofList 128 (slice proof 64 128))
    (Bytes.ofList 64 (slice proof 192 64))
    inputs

/- `groth16_verifier::verify_proof`. -/
def groth16VerifyProof
    (H : Host)
    (proofBytes : List UInt8)
    (publicInputs : PublicInputs) : Result Unit := do
  require (proofBytes.length = 256)
    (.verifier .invalidProofFormat)
  require
    (groth16Verify H .default proofBytes
      publicInputs.toList = true)
    (.verifier .proofVerificationFailed)

/- `u8::rotate_left(3)`. -/
def rotateLeft3 (byte : UInt8) : UInt8 :=
  (byte <<< 3) ||| (byte >>> 5)

/- The audit hash of the proof bytes. -/
def proofHash (proofBytes : List UInt8) : Bytes 32 :=
  Bytes.ofList 32
    (proofBytes.zipIdx.foldl
      (fun hash entry =>
        hash.modify (entry.2 % 32)
          (fun old => rotateLeft3 old ^^^ entry.1))
      (List.replicate 32 0))

end Verifier

end Entros

------------------------------------------------------------
-- Challenges
------------------------------------------------------------

namespace Entros

open Foundations

namespace Verifier

/- `create_challenge`. -/
def createChallenge
    (H : Host)
    (w : World)
    (now : Int64)
    (challenger : Signer)
    (nonce : Bytes 32) : Result World := do
  let address :=
    H.findProgramAddress (.challenge challenger.key nonce)
  let created ← w.createAccount H (walletAddress challenger) address
    Challenge.len .verifier
  require (nonce ≠ Bytes.zero 32) (.verifier .invalidNonce)
  let expiresAt ← okOr (checkedAdd now defaultChallengeExpiry)
    (.verifier .arithmeticOverflow)
  created.saveAccount H Challenge.accountName address
    ({ challenger := challenger.key
       nonce := nonce
       createdAt := now
       expiresAt := expiresAt
       used := false
       bump :=
        H.canonicalBump (.challenge challenger.key nonce) } :
      Challenge)

/- `close_challenge`. -/
def closeChallenge
    (H : Host)
    (w : World)
    (challenger : Signer)
    (address : Address) : Result World := do
  let challenge ← w.loadAccount Challenge H
    Challenge.accountName .verifier address
  require (challenge.challenger = challenger.key)
    (.framework .constraintRaw)
  return w.closeAccount address (walletAddress challenger)

end Verifier

end Entros

------------------------------------------------------------
-- Default Build
------------------------------------------------------------

namespace Entros

open Foundations

namespace Verifier

/- The address of a result, keyed by verifier and nonce. -/
def resultAddress
    (H : Host)
    (verifier : Pubkey)
    (nonce : Bytes 32) : Address :=
  H.findProgramAddress (.verification verifier nonce)

/-
  `verify_and_store`, on a world in which `init` has already
  created the result account.
-/
def verifyAndStore
    (H : Host)
    (w : World)
    (now : Int64)
    (verifier : Signer)
    (proofBytes : List UInt8)
    (publicInputs : PublicInputs)
    (nonce : Bytes 32) : Result World := do
  require (H.requestBound = false)
    (.verifier .unsupportedProofGeneration)
  require (nonce ≠ Bytes.zero 32) (.verifier .invalidNonce)
  require (publicInputs.commitmentNew ≠ Bytes.zero 32)
    (.verifier .invalidPublicInputs)
  require (publicInputs.commitmentPrev ≠ Bytes.zero 32)
    (.verifier .invalidPublicInputs)
  let threshold ← decodeU16FromFieldElement
    (publicInputs.get 2)
  let minDistance ← decodeU16FromFieldElement
    (publicInputs.get 3)
  validateHammingBounds threshold minDistance
  groth16VerifyProof H proofBytes publicInputs
  w.saveAccount H VerificationResult.accountName
    (resultAddress H verifier.key nonce)
    ({ verifier := verifier.key
       proofHash := proofHash proofBytes
       verifiedAt := now
       isValid := true
       challengeNonce := nonce
       bump :=
        H.canonicalBump (.verification verifier.key nonce)
       commitmentNew := publicInputs.commitmentNew
       commitmentPrev := publicInputs.commitmentPrev
       threshold := threshold
       minDistance := minDistance } : VerificationResult)

/- `Vec<[u8; 32]>` as `[[u8; 32]; 4]`. -/
def fourInputs
    (publicInputs : List (Bytes 32)) : Result PublicInputs :=
  if hLength : publicInputs.length = 4 then
    .ok ⟨publicInputs, hLength⟩
  else
    .error (.verifier .invalidPublicInputs)

/- `verify_proof`. -/
def verifyProof
    (H : Host)
    (w : World)
    (now : Int64)
    (verifier : Signer)
    (proofBytes : List UInt8)
    (publicInputs : List (Bytes 32))
    (nonce : Bytes 32) : Result World := do
  let created ← w.createAccount H (walletAddress verifier)
    (resultAddress H verifier.key nonce)
    VerificationResult.len .verifier
  let inputs ← fourInputs publicInputs
  verifyAndStore H created now verifier proofBytes inputs
    nonce

/- The public inputs `verify_proof_compact` assembles. -/
def compactInputs
    (commitmentNew commitmentPrev : Bytes 32)
    (threshold minDistance : UInt16) : PublicInputs :=
  ⟨[commitmentNew, commitmentPrev,
    encodeU16FieldElement threshold,
    encodeU16FieldElement minDistance], rfl⟩

/- `verify_proof_compact`. -/
def verifyProofCompact
    (H : Host)
    (w : World)
    (now : Int64)
    (verifier : Signer)
    (nonce : Bytes 32)
    (proofBytes : Bytes 256)
    (commitmentNew commitmentPrev : Bytes 32)
    (threshold minDistance : UInt16) : Result World := do
  let created ← w.createAccount H (walletAddress verifier)
    (resultAddress H verifier.key nonce)
    VerificationResult.len .verifier
  verifyAndStore H created now verifier proofBytes.toList
    (compactInputs commitmentNew commitmentPrev threshold
      minDistance)
    nonce

/- `close_verification_result`, on any account given to it. -/
def closeVerificationResult
    (H : Host)
    (w : World)
    (verifier : Signer)
    (address : Address) : Result World := do
  let result ← w.loadAccount VerificationResult H
    VerificationResult.accountName .verifier address
  require (result.verifier = verifier.key)
    (.framework .constraintRaw)
  return w.closeAccount address (walletAddress verifier)

end Verifier

end Entros

------------------------------------------------------------
-- Request-Bound Build
------------------------------------------------------------

namespace Entros

open Foundations

namespace Verifier

/- The address of a bound result. -/
def boundResultAddress
    (H : Host)
    (verifier : Pubkey)
    (nonce : Bytes 32) : Address :=
  H.findProgramAddress (.verificationBound verifier nonce)

/- The expiry window of a bound request. -/
def checkRequestLifetime
    (now : Int64)
    (validUntil : UInt64) : Result Unit := do
  require (0 ≤ now.toInt) (.verifier .challengeExpired)
  let nowU64 := UInt64.ofNat now.toInt.toNat
  let limit ← okOr (checkedAdd64 nowU64 maxRequestLifetime)
    (.verifier .arithmeticOverflow)
  require
    (nowU64 ≤ validUntil ∧ 0 < validUntil ∧
      validUntil ≤ limit)
    (.verifier .challengeExpired)

/- What the verifier reads from the identity account. -/
structure IdentityFields where
  mint : Pubkey
  projection : UInt16
deriving DecidableEq

/-
  The raw reads of the identity account: discriminator,
  owner, stored commitment and bump are compared, mint and
  projection version are returned.
-/
def readIdentityFields
    (H : Host)
    (identity : List UInt8)
    (wallet : Pubkey)
    (prev : Bytes 32) : Result IdentityFields := do
  require
    (identity.length = 593 ∧
      slice identity 0 8 =
        (discriminator H "IdentityState").toList ∧
      fieldAt Pubkey identity 8 = some wallet ∧
      fieldAt (Bytes 32) identity 62 = some prev ∧
      fieldAt UInt8 identity 126 =
        some (H.canonicalBump (.identity wallet)))
    (.verifier .invalidRequestContext)
  let mint ← readField Pubkey identity 94
  require
    (mint =
      H.toPubkey (H.findProgramAddress (.mint wallet)))
    (.verifier .invalidRequestContext)
  let projection ← readField UInt16 identity 583
  return { mint := mint
           projection := projection }

/- The action a bound proof is verified for. -/
def boundAction
    (H : Host)
    (wallet : Pubkey)
    (fields : IdentityFields)
    (counter : UInt64)
    (new prev : Bytes 32)
    (threshold minDistance : UInt16)
    (validUntil : UInt64) : Action where
  identity :=
    H.toPubkey (H.findProgramAddress (.identity wallet))
  mint := fields.mint
  counter := counter
  projection := fields.projection
  commitmentNew := new
  commitmentPrev := prev
  threshold := threshold
  minDistance := minDistance
  validUntil := validUntil

/- The six public inputs of the bound circuit. -/
def boundInputs
    (new prev : Bytes 32)
    (threshold minDistance : UInt16)
    (digest : Bytes 32) : List (Bytes 32) :=
  [new, prev, encodeU16FieldElement threshold,
    encodeU16FieldElement minDistance] ++ digestLimbs digest

/- `bound::verify`. -/
def verifyProofBound
    (H : Host)
    (w : World)
    (now : Int64)
    (verifier : Signer)
    (nonce : Bytes 32)
    (proof : Bytes 256)
    (new prev : Bytes 32)
    (threshold minDistance : UInt16)
    (validUntil : UInt64) : Result World := do
  let wallet := verifier.key
  let address := boundResultAddress H wallet nonce
  let created ← w.createAccount H (walletAddress verifier) address
    BoundVerificationResult.len .verifier
  let identity :=
    created.accounts (H.findProgramAddress (.identity wallet))
  let requestState := created.accounts
    (H.findProgramAddress (.proofRequestState wallet))
  require (identity.owner = .anchor)
    (.framework .constraintOwner)
  require (requestState.owner = .anchor)
    (.framework .constraintOwner)
  require (H.requestBound = true)
    (.verifier .unsupportedProofGeneration)
  require (nonce ≠ Bytes.zero 32) (.verifier .invalidNonce)
  checkRequestLifetime now validUntil
  validateHammingBounds threshold minDistance
  require (new ≠ Bytes.zero 32 ∧ prev ≠ Bytes.zero 32)
    (.verifier .invalidPublicInputs)
  let fields ← readIdentityFields H identity.data wallet prev
  let counter ← okOr
    (readCounter H requestState.data wallet
      (H.canonicalBump (.proofRequestState wallet)))
    (.verifier .invalidRequestContext)
  let digest ← okOr
    (requestDigest H H.deploymentDomain H.verifierId
      H.anchorId wallet nonce
      (boundAction H wallet fields counter new prev
        threshold minDistance validUntil))
    (.verifier .invalidPublicInputs)
  require
    (groth16Verify H .bound proof.toList
      (boundInputs new prev threshold minDistance digest) =
        true)
    (.verifier .proofVerificationFailed)
  created.saveAccount H BoundVerificationResult.accountName
    address
    ({ version := generation
       wallet := wallet
       nonce := nonce
       commitmentNew := new
       commitmentPrev := prev
       threshold := threshold
       minDistance := minDistance
       counter := counter
       validUntil := validUntil
       verifiedAt := now
       requestDigest := digest
       bump :=
        H.canonicalBump (.verificationBound wallet nonce) } :
      BoundVerificationResult)

/-
  `close_bound_verification_result`, on any account given to
  it: its address must derive from the nonce and the bump
  that the account itself stores.
-/
def closeBoundVerificationResult
    (H : Host)
    (w : World)
    (verifier : Signer)
    (nonce : Bytes 32)
    (address : Address) : Result World := do
  let result ← w.loadAccount BoundVerificationResult H
    BoundVerificationResult.accountName .verifier address
  require
    (H.createProgramAddress
      (.verificationBound verifier.key nonce) result.bump =
        some address)
    (.framework .constraintSeeds)
  require (result.wallet = verifier.key)
    (.framework .constraintRaw)
  return w.closeAccount address (walletAddress verifier)

end Verifier

end Entros
