import Entros.ProofRequest.Encoding
import Entros.Verifier.Instructions
import Entros.Guarantees.VersionStamps

/-
  The digest of a proof request is canonical: which requests
  have one, that it determines the request, and that the six
  public inputs of a bound proof are field elements that
  determine what is proved.

  Key definitions include:
    * `ProofRequest`

  Key theorems include:
    * `ProofRequest.eq_of_digest`
    * `boundInputs_canonical`
    * `boundInputs_injective`
    * `request_digest_canonical`
-/

------------------------------------------------------------
-- Requests
------------------------------------------------------------

namespace Entros

open Foundations

/- The arguments of `request_digest`. -/
structure ProofRequest where
  deployment : Bytes 32
  verifier : Pubkey
  consumer : Pubkey
  wallet : Pubkey
  nonce : Bytes 32
  action : Action
deriving DecidableEq

namespace ProofRequest

def digest
    (H : Host)
    (request : ProofRequest) : Option (Bytes 32) :=
  requestDigest H request.deployment request.verifier
    request.consumer request.wallet request.nonce
    request.action

/- The outer of the two strings that are hashed. -/
def bytes
    (H : Host)
    (request : ProofRequest) : List UInt8 :=
  requestBytes request.deployment request.verifier
    request.consumer request.wallet request.nonce
    (H.sha256 request.action.bytes)

/- Both strings belong to given sets. -/
def HashedIn
    (H : Host)
    (actions requests : Set (List UInt8))
    (request : ProofRequest) : Prop :=
  request.action.bytes ∈ actions ∧ request.bytes H ∈ requests

variable {H : Host} {request request' : ProofRequest}

theorem digest_eq_some
    {digest : Bytes 32} :
    request.digest H = some digest ↔
      request.action.Encodable ∧
        H.sha256 (request.bytes H) = digest :=
  requestDigest_eq_some

/- Without collisions, a digest belongs to one request. -/
theorem eq_of_digest
    {actions requests : Set (List UInt8)}
    {digest : Bytes 32}
    (hActions : Set.InjOn H.sha256 actions)
    (hRequests : Set.InjOn H.sha256 requests)
    (hHashed : request.HashedIn H actions requests)
    (hHashed' : request'.HashedIn H actions requests)
    (hDigest : request.digest H = some digest)
    (hDigest' : request'.digest H = some digest) :
    request = request' := by
  have hHash := (digest_eq_some.mp hDigest).2
  have hHash' := (digest_eq_some.mp hDigest').2
  have hBytes : request.bytes H = request'.bytes H :=
    hRequests hHashed.2 hHashed'.2 (hHash.trans hHash'.symm)
  rcases requestBytes_injective hBytes with
    ⟨hDeployment, hVerifier, hConsumer, hWallet, hNonce,
      hActionHash⟩
  have hAction : request.action = request'.action :=
    Action.bytes_injective
      (hActions hHashed.1 hHashed'.1 hActionHash)
  cases request
  cases request'
  simp only [mk.injEq]
  exact ⟨hDeployment, hVerifier, hConsumer, hWallet, hNonce,
    hAction⟩

end ProofRequest

end Entros

------------------------------------------------------------
-- Public Inputs
------------------------------------------------------------

namespace Entros

open Foundations
open Verifier

variable {new new' prev prev' : Bytes 32}
variable {threshold threshold' : UInt16}
variable {minDistance minDistance' : UInt16}
variable {digest digest' : Bytes 32}

/- Every input is below the order of the field. -/
theorem boundInputs_canonical
    {element : Bytes 32}
    (hNew : beNat new.toList < scalarOrder)
    (hPrev : beNat prev.toList < scalarOrder)
    (hElement :
      element ∈
        boundInputs new prev threshold minDistance digest) :
    beNat element.toList < scalarOrder := by
  have hSmall (value : UInt16) :
      beNat (encodeU16FieldElement value).toList <
        scalarOrder := by
    have hValue : value.toNat < 2 ^ 16 := value.toNat_lt
    rw [beNat_encodeU16FieldElement]
    exact hValue.trans (by decide +kernel)
  unfold boundInputs at hElement
  rcases List.mem_append.mp hElement with hFront | hLimb
  · simp only [List.mem_cons, List.not_mem_nil, or_false]
      at hFront
    rcases hFront with rfl | rfl | rfl | rfl
    · exact hNew
    · exact hPrev
    · exact hSmall threshold
    · exact hSmall minDistance
  · exact digestLimbs_canonical hLimb

/- The inputs determine what they are built from. -/
theorem boundInputs_injective
    (hInputs :
      boundInputs new prev threshold minDistance digest =
        boundInputs new' prev' threshold' minDistance'
          digest') :
    new = new' ∧ prev = prev' ∧ threshold = threshold' ∧
      minDistance = minDistance' ∧ digest = digest' := by
  unfold boundInputs at hInputs
  rcases List.append_inj hInputs rfl with ⟨hFront, hLimbs⟩
  simp only [List.cons.injEq, and_true] at hFront
  rcases hFront with ⟨hNew, hPrev, hThreshold, hDistance⟩
  exact ⟨hNew, hPrev,
    encodeU16FieldElement_injective hThreshold,
    encodeU16FieldElement_injective hDistance,
    digestLimbs_injective hLimbs⟩

end Entros

------------------------------------------------------------
-- Canonical Digests
------------------------------------------------------------

namespace Entros

open Foundations
open Verifier

/-
  A request has a digest exactly when its commitments are
  non-zero field elements and its bounds are in range; equal
  digests belong to equal requests, provided that SHA-256 has
  no collision among the hashed actions and among the hashed
  requests; and the six public inputs of a bound proof are
  field elements from which everything can be recovered.
-/
theorem request_digest_canonical
    {H : Host}
    {actions requests : Set (List UInt8)}
    (hActions : Set.InjOn H.sha256 actions)
    (hRequests : Set.InjOn H.sha256 requests) :
    (∀ request : ProofRequest,
      (request.digest H).isSome ↔
        (0 < beNat request.action.commitmentNew.toList ∧
          beNat request.action.commitmentNew.toList <
            scalarOrder) ∧
        (0 < beNat request.action.commitmentPrev.toList ∧
          beNat request.action.commitmentPrev.toList <
            scalarOrder) ∧
        0 < request.action.validUntil.toNat ∧
        request.action.threshold.toNat ≤ 256 ∧
        request.action.minDistance.toNat ≤
          request.action.threshold.toNat) ∧
      (∀ (request request' : ProofRequest)
          (digest : Bytes 32),
        request.HashedIn H actions requests →
          request'.HashedIn H actions requests →
            request.digest H = some digest →
              request'.digest H = some digest →
                request = request') ∧
        (∀ (request : ProofRequest) (digest : Bytes 32),
          request.digest H = some digest →
            (boundInputs request.action.commitmentNew
                request.action.commitmentPrev
                request.action.threshold
                request.action.minDistance
                digest).length = 6 ∧
              ∀ element ∈
                  boundInputs request.action.commitmentNew
                    request.action.commitmentPrev
                    request.action.threshold
                    request.action.minDistance digest,
                beNat element.toList < scalarOrder) ∧
          ∀ (new new' prev prev' : Bytes 32)
            (threshold threshold' : UInt16)
            (minDistance minDistance' : UInt16)
            (digest digest' : Bytes 32),
            boundInputs new prev threshold minDistance
                  digest =
                boundInputs new' prev' threshold'
                  minDistance' digest' →
              new = new' ∧ prev = prev' ∧
                threshold = threshold' ∧
                  minDistance = minDistance' ∧
                    digest = digest' := by
  refine ⟨?_, ?_, ?_, ?_⟩
  · intro request
    rw [Option.isSome_iff_exists,
      ← Action.encodable_iff]
    constructor
    · rintro ⟨digest, hDigest⟩
      exact (ProofRequest.digest_eq_some.mp hDigest).1
    · intro hEncodable
      exact ⟨_,
        ProofRequest.digest_eq_some.mpr ⟨hEncodable, rfl⟩⟩
  · intro request request' digest hHashed hHashed' hDigest
      hDigest'
    exact ProofRequest.eq_of_digest hActions hRequests
      hHashed hHashed' hDigest hDigest'
  · intro request digest hDigest
    have hEncodable :=
      (ProofRequest.digest_eq_some.mp hDigest).1
    rcases Action.encodable_iff.mp hEncodable with
      ⟨⟨_, hNew⟩, ⟨_, hPrev⟩, _⟩
    refine ⟨rfl, ?_⟩
    intro element hElement
    exact boundInputs_canonical hNew hPrev hElement
  · intro _ _ _ _ _ _ _ _ _ _ hInputs
    exact boundInputs_injective hInputs

namespace RequestDigests

open VersionStamps
open Sample (alice nonce commitmentNew commitmentPrev)

/- A request of the first wallet under a nonce. -/
def request (i : UInt8) : ProofRequest where
  deployment := build.host.deploymentDomain
  verifier := build.host.verifierId
  consumer := build.host.anchorId
  wallet := alice.key
  nonce := nonce i
  action := action 1 commitmentNew commitmentPrev

/- The strings that are hashed for two of her requests. -/
def hashedActions : List (List UInt8) :=
  [(action 1 commitmentNew commitmentPrev).bytes]

def hashedRequests : List (List UInt8) :=
  [(request 1).bytes tables.host,
    (request 2).bytes tables.host]

end RequestDigests

open RequestDigests in
theorem request_digest_canonical_nonce :
    (request 1).digest VersionStamps.tables.host =
        some VersionStamps.firstDigest ∧
      ∀ request' : ProofRequest,
        request'.HashedIn VersionStamps.tables.host
            {text | text ∈ hashedActions}
            {text | text ∈ hashedRequests} →
          request'.digest VersionStamps.tables.host =
              some VersionStamps.firstDigest →
            request' = request 1 := by
  have hDistinct :
      (hashedRequests.map
        VersionStamps.tables.host.sha256).Nodup := by
    decide +kernel
  have hActions :
      Set.InjOn VersionStamps.tables.host.sha256
        {text | text ∈ hashedActions} :=
    fun _ hText _ hText' _ =>
      (List.mem_singleton.mp hText).trans
        (List.mem_singleton.mp hText').symm
  have hRequests :
      Set.InjOn VersionStamps.tables.host.sha256
        {text | text ∈ hashedRequests} :=
    fun _ hText _ hText' hDigest =>
      List.inj_on_of_nodup_map hDistinct hText hText' hDigest
  have hDigest :
      (request 1).digest VersionStamps.tables.host =
        some VersionStamps.firstDigest := by
    decide +kernel
  refine ⟨hDigest, ?_⟩
  intro request' hHashed hSame
  exact (request_digest_canonical hActions hRequests).2.1
    request' (request 1) _ hHashed
    ⟨.head _, .head _⟩ hSame hDigest

end Entros
