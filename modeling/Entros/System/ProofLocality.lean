import Entros.System.ConfigLocality

/-
  The instructions of entros-verifier stay inside their
  contexts.

  Key theorems include:
    * `verifyProofBound_tracks`
    * `closeVerificationResult_tracks`
    * `verifier_tracks`
-/

------------------------------------------------------------
-- Verifier
------------------------------------------------------------

namespace Entros

open Foundations

namespace Verifier

variable {H : Host} {Z : Zone Resource} {base w : World}
variable {signer : Signer} {nonce : Bytes 32}
variable {address : Address}
variable (hFaithful : Z.Faithful base w)

include hFaithful

theorem verifyAndStore_tracks
    (hResult :
      Zone.Opens Z (resultAddress H signer.key nonce))
    (now : Int64)
    (proofBytes : List UInt8)
    (publicInputs : PublicInputs) :
    Tracks Z base
      (verifyAndStore H w now signer proofBytes publicInputs
        nonce)
      (verifyAndStore H (Z.copy base w) now signer proofBytes
        publicInputs nonce) := by
  unfold verifyAndStore
  iterate 8
    apply Mirrors.value rfl
    intro _ _
  exact saveAccount_tracks hFaithful _ hResult

variable (hSigner : Zone.Opens Z (walletAddress signer))

include hSigner

theorem createChallenge_tracks
    (hChallenge :
      Zone.Opens Z
        (H.findProgramAddress
          (.challenge signer.key nonce)))
    (now : Int64) :
    Tracks Z base (createChallenge H w now signer nonce)
      (createChallenge H (Z.copy base w) now signer
        nonce) := by
  unfold createChallenge
  apply Mirrors.bind
    (createAccount_tracks hFaithful hSigner hChallenge)
  intro created _ hCreated
  apply Mirrors.value rfl
  intro _ _
  apply Mirrors.value rfl
  intro expiresAt _
  exact saveAccount_tracks hCreated _ hChallenge

theorem closeChallenge_tracks
    (hAddress : Zone.Opens Z address) :
    Tracks Z base (closeChallenge H w signer address)
      (closeChallenge H (Z.copy base w) signer
        address) := by
  unfold closeChallenge
  apply Mirrors.value
    (loadAccount_copy hFaithful (Z.writes_subset hAddress))
  intro challenge _
  apply Mirrors.value rfl
  intro _ _
  exact closeAccount_tracks hFaithful hAddress
    hSigner.accepts

theorem verifyProof_tracks
    (hResult :
      Zone.Opens Z (resultAddress H signer.key nonce))
    (now : Int64)
    (proofBytes : List UInt8)
    (publicInputs : List (Bytes 32)) :
    Tracks Z base
      (verifyProof H w now signer proofBytes publicInputs
        nonce)
      (verifyProof H (Z.copy base w) now signer proofBytes
        publicInputs nonce) := by
  unfold verifyProof
  apply Mirrors.bind
    (createAccount_tracks hFaithful hSigner hResult)
  intro created _ hCreated
  apply Mirrors.value rfl
  intro inputs _
  exact verifyAndStore_tracks hCreated hResult now
    proofBytes inputs

theorem verifyProofCompact_tracks
    (hResult :
      Zone.Opens Z (resultAddress H signer.key nonce))
    (now : Int64)
    (proofBytes : Bytes 256)
    (commitmentNew commitmentPrev : Bytes 32)
    (threshold minDistance : UInt16) :
    Tracks Z base
      (verifyProofCompact H w now signer nonce proofBytes
        commitmentNew commitmentPrev threshold minDistance)
      (verifyProofCompact H (Z.copy base w) now signer nonce
        proofBytes commitmentNew commitmentPrev threshold
        minDistance) := by
  unfold verifyProofCompact
  apply Mirrors.bind
    (createAccount_tracks hFaithful hSigner hResult)
  intro created _ hCreated
  exact verifyAndStore_tracks hCreated hResult now
    proofBytes.toList _

theorem verifyProofBound_tracks
    (hResult :
      Zone.Opens Z (boundResultAddress H signer.key nonce))
    (hIdentity :
      .account
          (H.findProgramAddress (.identity signer.key)) ∈
        Z.reads)
    (hState :
      .account
          (H.findProgramAddress
            (.proofRequestState signer.key)) ∈
        Z.reads)
    (now : Int64)
    (proof : Bytes 256)
    (new prev : Bytes 32)
    (threshold minDistance : UInt16)
    (validUntil : UInt64) :
    Tracks Z base
      (verifyProofBound H w now signer nonce proof new prev
        threshold minDistance validUntil)
      (verifyProofBound H (Z.copy base w) now signer nonce
        proof new prev threshold minDistance validUntil) := by
  unfold verifyProofBound
  apply Mirrors.bind
    (createAccount_tracks hFaithful hSigner hResult)
  intro created _ hCreated
  dsimp only
  rw [Faithful.account hCreated hIdentity,
    Faithful.account hCreated hState]
  iterate 11
    apply Mirrors.value rfl
    intro _ _
  exact saveAccount_tracks hCreated _ hResult

theorem closeVerificationResult_tracks
    (hAddress : Zone.Opens Z address) :
    Tracks Z base
      (closeVerificationResult H w signer address)
      (closeVerificationResult H (Z.copy base w) signer
        address) := by
  unfold closeVerificationResult
  apply Mirrors.value
    (loadAccount_copy hFaithful (Z.writes_subset hAddress))
  intro result _
  apply Mirrors.value rfl
  intro _ _
  exact closeAccount_tracks hFaithful hAddress
    hSigner.accepts

theorem closeBoundVerificationResult_tracks
    (hAddress : Zone.Opens Z address) :
    Tracks Z base
      (closeBoundVerificationResult H w signer nonce address)
      (closeBoundVerificationResult H (Z.copy base w) signer
        nonce address) := by
  unfold closeBoundVerificationResult
  apply Mirrors.value
    (loadAccount_copy hFaithful (Z.writes_subset hAddress))
  intro result _
  apply Mirrors.value rfl
  intro _ _
  apply Mirrors.value rfl
  intro _ _
  exact closeAccount_tracks hFaithful hAddress
    hSigner.accepts

end Verifier

open Verifier

/- Every instruction of the verifier tracks its context. -/
theorem verifier_tracks
    {H : Host}
    {base w : World}
    (now : Int64)
    (instruction : VerifierInstruction)
    (hFaithful :
      (lockZone H (instruction.locks H)).Faithful base w) :
    Tracks (lockZone H (instruction.locks H)) base
      (instruction.execute H now w)
      (instruction.execute H now
        ((lockZone H (instruction.locks H)).copy base
          w)) := by
  have hSigner {signer : Signer} {address : Address} :
      Zone.Opens (lockZone H (ownContext signer address))
        (walletAddress signer) := opens_of_mem (.head _)
  have hOwn {signer : Signer} {address : Address} :
      Zone.Opens (lockZone H (ownContext signer address))
        address := opens_of_mem (.tail _ (.head _))
  cases instruction with
  | createChallenge =>
      exact createChallenge_tracks hFaithful hSigner hOwn _
  | closeChallenge =>
      exact closeChallenge_tracks hFaithful hSigner hOwn
  | verifyProof =>
      exact verifyProof_tracks hFaithful hSigner hOwn ..
  | verifyProofCompact =>
      exact verifyProofCompact_tracks hFaithful hSigner
        hOwn ..
  | verifyProofBound =>
      exact verifyProofBound_tracks hFaithful
        (opens_of_mem (.head _))
        (opens_of_mem (.tail _ (.head _)))
        (reads_of_mem (.tail _ (.tail _ (.head _))))
        (reads_of_mem
          (.tail _ (.tail _ (.tail _ (.head _))))) ..
  | closeVerificationResult =>
      exact closeVerificationResult_tracks hFaithful hSigner
        hOwn
  | closeBoundVerificationResult =>
      exact closeBoundVerificationResult_tracks hFaithful
        hSigner hOwn

end Entros
