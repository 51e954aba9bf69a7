import Entros.Chain.World

/-
  The shared request crate: the canonical encoding of an
  identity update and its digest, and the accounts that the
  verifier and entros-anchor exchange.

  Key definitions include:
    * `canonicalScalar`
    * `Action.encode`
    * `requestDigest`
    * `digestLimbs`
    * `BoundVerificationResult`
    * `ProofRequestState`
    * `readCounter`
-/

------------------------------------------------------------
-- Canonical Requests
------------------------------------------------------------

namespace Entros

open Foundations

/- Extend an ASCII literal with zero bytes. -/
def paddedAscii (text : String) (size : ℕ) : List UInt8 :=
  (ascii text).takeD size 0

def generation : UInt8 := 1
def maxRequestLifetime : UInt64 := 300

def requestDomain : List UInt8 :=
  paddedAscii "ENTROS_PROOF_REQUEST_V1" 32

def actionDomain : List UInt8 :=
  paddedAscii "ENTROS_ANCHOR_UPDATE_V1" 32

/- The BN254 scalar modulus, big-endian. -/
def scalarModulus : List UInt8 :=
  [48, 100, 78, 114, 225, 49, 160, 41, 184, 80, 69, 182,
    129, 129, 88, 93, 40, 51, 232, 72, 121, 185, 112, 145,
    67, 225, 245, 147, 240, 0, 0, 1]

/- `canonical_scalar`: arrays are compared byte by byte. -/
def canonicalScalar (value : Bytes 32) : Prop :=
  value.toList < scalarModulus

instance (value : Bytes 32) :
    Decidable (canonicalScalar value) := by
  unfold canonicalScalar
  infer_instance

/- `Action`. -/
structure Action where
  identity : Pubkey
  mint : Pubkey
  counter : UInt64
  projection : UInt16
  commitmentNew : Bytes 32
  commitmentPrev : Bytes 32
  threshold : UInt16
  minDistance : UInt16
  validUntil : UInt64
deriving DecidableEq

namespace Action

/- What `Action::encode` demands of its fields. -/
def Encodable (action : Action) : Prop :=
  canonicalScalar action.commitmentNew ∧
    canonicalScalar action.commitmentPrev ∧
      action.commitmentNew ≠ Bytes.zero 32 ∧
        action.commitmentPrev ≠ Bytes.zero 32 ∧
          action.validUntil ≠ 0 ∧
            action.threshold ≤ 256 ∧
              action.minDistance ≤ action.threshold

instance (action : Action) :
    Decidable action.Encodable := by
  unfold Encodable
  infer_instance

/- The 182 bytes of an action. -/
def bytes (action : Action) : List UInt8 :=
  actionDomain ++ action.identity.toList ++
    action.mint.toList ++
    beBytes 8 action.counter.toNat ++
    beBytes 2 action.projection.toNat ++
    action.commitmentNew.toList ++
    action.commitmentPrev.toList ++
    beBytes 2 action.threshold.toNat ++
    beBytes 2 action.minDistance.toNat ++
    beBytes 8 action.validUntil.toNat

/- `Action::encode`. -/
def encode (action : Action) : Option (List UInt8) :=
  if action.Encodable then some action.bytes else none

end Action

/- The 225 bytes that are hashed around an action digest. -/
def requestBytes
    (deployment : Bytes 32)
    (verifier consumer wallet : Pubkey)
    (nonce actionDigest : Bytes 32) : List UInt8 :=
  requestDomain ++ deployment.toList ++ verifier.toList ++
    consumer.toList ++ wallet.toList ++ nonce.toList ++
    [1] ++ actionDigest.toList

/- `request_digest`. -/
def requestDigest
    (H : Host)
    (deployment : Bytes 32)
    (verifier consumer wallet : Pubkey)
    (nonce : Bytes 32)
    (action : Action) : Option (Bytes 32) := do
  let actionBytes ← action.encode
  return H.sha256
    (requestBytes deployment verifier consumer wallet nonce
      (H.sha256 actionBytes))

/- A 16-byte half of a digest as a field element. -/
def limb (half : List UInt8) : Bytes 32 :=
  Bytes.ofList 32 (List.replicate 16 0 ++ half)

/- `digest_limbs`. -/
def digestLimbs (digest : Bytes 32) : List (Bytes 32) :=
  [limb (slice digest.toList 0 16),
    limb (slice digest.toList 16 16)]

end Entros

------------------------------------------------------------
-- Shared Accounts
------------------------------------------------------------

namespace Entros

open Foundations

/- `BoundVerificationResult`. -/
structure BoundVerificationResult where
  version : UInt8
  wallet : Pubkey
  nonce : Bytes 32
  commitmentNew : Bytes 32
  commitmentPrev : Bytes 32
  threshold : UInt16
  minDistance : UInt16
  counter : UInt64
  validUntil : UInt64
  verifiedAt : Int64
  requestDigest : Bytes 32
  bump : UInt8
deriving DecidableEq

namespace BoundVerificationResult

/- The fields in declaration order. -/
def fields :
    BoundVerificationResult ≃
      UInt8 × Pubkey × Bytes 32 × Bytes 32 × Bytes 32 ×
        UInt16 × UInt16 × UInt64 × UInt64 × Int64 ×
          Bytes 32 × UInt8 where
  toFun r :=
    (r.version, r.wallet, r.nonce, r.commitmentNew,
      r.commitmentPrev, r.threshold, r.minDistance,
      r.counter, r.validUntil, r.verifiedAt,
      r.requestDigest, r.bump)
  invFun := fun
    ⟨version, wallet, nonce, commitmentNew, commitmentPrev,
      threshold, minDistance, counter, validUntil,
      verifiedAt, requestDigest, bump⟩ =>
    { version := version
      wallet := wallet
      nonce := nonce
      commitmentNew := commitmentNew
      commitmentPrev := commitmentPrev
      threshold := threshold
      minDistance := minDistance
      counter := counter
      validUntil := validUntil
      verifiedAt := verifiedAt
      requestDigest := requestDigest
      bump := bump }
  left_inv _ := rfl
  right_inv _ := rfl

instance packed : Packed BoundVerificationResult :=
  Packed.ofEquiv fields

/- The name Anchor derives the discriminator from. -/
def accountName : String := "BoundVerificationResult"

def len : ℕ := 198

/- The typed record fills the allocated space exactly. -/
theorem width_eq :
    8 + Packed.width BoundVerificationResult = len := rfl

end BoundVerificationResult

/- `ProofRequestState`, the counter kept for each wallet. -/
structure ProofRequestState where
  version : UInt8
  wallet : Pubkey
  counter : UInt64
  bump : UInt8
deriving DecidableEq

namespace ProofRequestState

/- The fields in declaration order. -/
def fields :
    ProofRequestState ≃ UInt8 × Pubkey × UInt64 × UInt8 where
  toFun s := (s.version, s.wallet, s.counter, s.bump)
  invFun := fun ⟨version, wallet, counter, bump⟩ =>
    { version := version
      wallet := wallet
      counter := counter
      bump := bump }
  left_inv _ := rfl
  right_inv _ := rfl

instance packed : Packed ProofRequestState :=
  Packed.ofEquiv fields

/- The name Anchor derives the discriminator from. -/
def accountName : String := "ProofRequestState"

def offsetCounter : ℕ := 41

/- `STATE_LEN`. -/
def len : ℕ := 50

/- The typed record fills the allocated space exactly. -/
theorem width_eq :
    8 + Packed.width ProofRequestState = len := rfl

end ProofRequestState

/- `read_counter`. -/
def readCounter
    (H : Host)
    (data : List UInt8)
    (wallet : Pubkey)
    (bump : UInt8) : Option UInt64 :=
  if data.length = ProofRequestState.len ∧
      slice data 0 8 =
        (discriminator H ProofRequestState.accountName).toList ∧
      fieldAt UInt8 data 8 = some generation ∧
      fieldAt Pubkey data 9 = some wallet ∧
      fieldAt UInt8 data 49 = some bump then
    fieldAt UInt64 data ProofRequestState.offsetCounter
  else
    none

end Entros

------------------------------------------------------------
-- Counter Layout
------------------------------------------------------------

namespace Entros

open Foundations

section

variable {H : Host} (state : ProofRequestState)

theorem ProofRequestState.serialized_eq :
    serialized H ProofRequestState.accountName state =
      Packed.encode
        (discriminator H ProofRequestState.accountName,
          state.fields) := rfl

/-
  `read_counter` accepts a serialised state exactly when its
  version, wallet and bump are the expected ones.
-/
theorem readCounter_serialized
    (wallet : Pubkey)
    (bump : UInt8) :
    readCounter H
        (serialized H ProofRequestState.accountName state)
        wallet bump =
      if state.version = generation ∧ state.wallet = wallet ∧
          state.bump = bump then
        some state.counter
      else
        none := by
  simp [readCounter, ProofRequestState.serialized_eq,
    ProofRequestState.fields, ProofRequestState.len,
    ProofRequestState.offsetCounter]

/- Bytes 41..49 of a serialised state are its counter. -/
theorem splice_counter_serialized (counter : UInt64) :
    splice
        (serialized H ProofRequestState.accountName state)
        ProofRequestState.offsetCounter
        (Packed.encode counter) =
      serialized H ProofRequestState.accountName
        { state with counter := counter } := by
  have hFront :
      ∀ s : ProofRequestState,
        serialized H ProofRequestState.accountName s =
          ((discriminator H
              ProofRequestState.accountName).toList ++
            Packed.encode s.version ++ s.wallet.toList) ++
          (Packed.encode s.counter ++
            Packed.encode s.bump) := by
    intro s
    change _ ++ (_ ++ (_ ++ (_ ++ _))) = _
    simp only [List.append_assoc]
    rfl
  have hLength :
      ((discriminator H
          ProofRequestState.accountName).toList ++
        Packed.encode state.version ++
          state.wallet.toList).length =
        ProofRequestState.offsetCounter := by
    simp [ProofRequestState.offsetCounter]
  rw [hFront state, hFront, splice,
    List.take_left' hLength]
  congr 2
  rw [Packed.length_encode, ← List.drop_drop,
    List.drop_left' hLength]
  exact List.drop_left' (Packed.length_encode state.counter)

end

end Entros
