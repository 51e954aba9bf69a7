import Entros.System.VerifierSteps

/-
  The two entry points of the default build.  The general one
  decodes field elements and the compact one encodes numbers;
  they accept the same proofs and leave the same world.

  Key theorems include:
    * `fourInputs_eq_ok`
    * `verifyProof_eq_compact`
    * `verifyProofCompact_spec`
    * `proof_entry_points_agree`
-/

------------------------------------------------------------
-- Inputs
------------------------------------------------------------

namespace Entros

open Foundations

namespace Verifier

theorem fourInputs_eq_ok
    {publicInputs : List (Bytes 32)}
    {inputs : PublicInputs} :
    fourInputs publicInputs = .ok inputs ↔
      publicInputs = inputs.toList := by
  unfold fourInputs
  split_ifs with hLength
  · constructor
    · intro hInputs
      rw [← Except.ok.inj hInputs]
      rfl
    · rintro rfl
      rfl
  · constructor
    · intro hInputs
      cases hInputs
    · rintro rfl
      exact absurd inputs.toList_length hLength

variable {H : Host} {w w' : World} {now : Int64}
variable {verifier : Signer} {nonce : Bytes 32}

/- Only proofs of 256 bytes reach the store. -/
theorem verifyAndStore_inputs
    {proofBytes : List UInt8}
    {inputs : PublicInputs}
    (hVerify :
      verifyAndStore H w now verifier proofBytes inputs
        nonce = .ok w') :
    proofBytes.length = 256 ∧
      ∃ threshold minDistance,
        inputs =
          compactInputs inputs.commitmentNew
            inputs.commitmentPrev threshold minDistance := by
  simp only [verifyAndStore, groth16VerifyProof, bind_eq_ok,
    require_eq_ok] at hVerify
  rcases hVerify with
    ⟨_, _, _, _, _, _, _, _, threshold, hThreshold,
      minDistance, hMinDistance, _, _, _, ⟨_, hLength, _⟩, _⟩
  exact ⟨hLength, threshold, minDistance,
    eq_compactInputs hThreshold hMinDistance⟩

/-
  Whatever the general entry point accepts is the encoding of
  arguments that the compact one accepts.
-/
theorem exists_compact_of_verifyProof
    {proofBytes : List UInt8}
    {publicInputs : List (Bytes 32)}
    (hVerify :
      verifyProof H w now verifier proofBytes publicInputs
        nonce = .ok w') :
    ∃ (proof : Bytes 256) (new prev : Bytes 32)
      (threshold minDistance : UInt16),
      proofBytes = proof.toList ∧
        publicInputs =
            (compactInputs new prev threshold
              minDistance).toList ∧
          verifyProofCompact H w now verifier nonce proof new
            prev threshold minDistance = .ok w' := by
  simp only [verifyProof, bind_eq_ok, fourInputs_eq_ok]
    at hVerify
  rcases hVerify with
    ⟨created, hCreate, inputs, rfl, hStore⟩
  rcases verifyAndStore_inputs hStore with
    ⟨hLength, threshold, minDistance, hInputs⟩
  refine ⟨⟨proofBytes, hLength⟩, inputs.commitmentNew,
    inputs.commitmentPrev, threshold, minDistance, rfl,
    congrArg List.Vector.toList hInputs, ?_⟩
  simp only [verifyProofCompact, bind_eq_ok]
  refine ⟨created, hCreate, ?_⟩
  rw [← hInputs]
  exact hStore

/- On encoded arguments both run the same verification. -/
theorem verifyProof_eq_compact
    (proof : Bytes 256)
    (new prev : Bytes 32)
    (threshold minDistance : UInt16) :
    verifyProof H w now verifier proof.toList
        (compactInputs new prev threshold
          minDistance).toList nonce =
      verifyProofCompact H w now verifier nonce proof new
        prev threshold minDistance := by
  have hInputs :
      fourInputs
          (compactInputs new prev threshold
            minDistance).toList =
        .ok (compactInputs new prev threshold
          minDistance) :=
    fourInputs_eq_ok.mpr rfl
  unfold verifyProof verifyProofCompact
  rw [hInputs]
  rfl

/- What the compact entry point has checked and stored. -/
theorem verifyProofCompact_spec
    {proof : Bytes 256}
    {new prev : Bytes 32}
    {threshold minDistance : UInt16}
    (hVerify :
      verifyProofCompact H w now verifier nonce proof new
        prev threshold minDistance = .ok w') :
    groth16VerifyProof H proof.toList
          (compactInputs new prev threshold minDistance) =
        .ok () ∧
      tryDeserialize VerificationResult H
          VerificationResult.accountName
          (w'.accounts
            (resultAddress H verifier.key nonce)).data =
        .ok { verifier := verifier.key
              proofHash := proofHash proof.toList
              verifiedAt := now
              isValid := true
              challengeNonce := nonce
              bump :=
                H.canonicalBump
                  (.verification verifier.key nonce)
              commitmentNew := new
              commitmentPrev := prev
              threshold := threshold
              minDistance := minDistance } := by
  simp only [verifyProofCompact, verifyAndStore, bind_eq_ok,
    require_eq_ok] at hVerify
  rcases hVerify with
    ⟨created, _, _, _, _, _, _, _, _, _, threshold',
      hThreshold, minDistance', hMinDistance, _, _, ⟨⟩,
      hProof, hSave⟩
  have hSameThreshold : threshold' = threshold :=
    Except.ok.inj
      (hThreshold.symm.trans
        (decodeU16FromFieldElement_encode threshold))
  have hSameDistance : minDistance' = minDistance :=
    Except.ok.inj
      (hMinDistance.symm.trans
        (decodeU16FromFieldElement_encode minDistance))
  subst hSameThreshold hSameDistance
  exact ⟨hProof, World.tryDeserialize_of_save hSave⟩

end Verifier

end Entros

------------------------------------------------------------
-- Agreement
------------------------------------------------------------

namespace Entros

open Foundations
open Verifier

/-
  The general entry point succeeds exactly on 256 bytes and
  four inputs whose last two are encodings of numbers that
  the compact one accepts, with the same world as a result;
  and whenever the compact one accepts, both have verified
  the same inputs, and the record that is stored is the one
  written here.
-/
theorem proof_entry_points_agree
    (H : Host)
    (w : World)
    (now : Int64)
    (verifier : Signer)
    (nonce : Bytes 32) :
    (∀ (proofBytes : List UInt8)
        (publicInputs : List (Bytes 32)) (w' : World),
      verifyProof H w now verifier proofBytes publicInputs
          nonce = .ok w' ↔
        ∃ (proof : Bytes 256) (new prev : Bytes 32)
          (threshold minDistance : UInt16),
          proofBytes = proof.toList ∧
            publicInputs =
                [new, prev, encodeU16FieldElement threshold,
                  encodeU16FieldElement minDistance] ∧
              verifyProofCompact H w now verifier nonce proof
                new prev threshold minDistance = .ok w') ∧
      ∀ (proof : Bytes 256) (new prev : Bytes 32)
        (threshold minDistance : UInt16) (w' : World),
        verifyProofCompact H w now verifier nonce proof new
            prev threshold minDistance = .ok w' →
          fourInputs
                [new, prev, encodeU16FieldElement threshold,
                  encodeU16FieldElement minDistance] =
              .ok (compactInputs new prev threshold
                minDistance) ∧
            groth16VerifyProof H proof.toList
                  (compactInputs new prev threshold
                    minDistance) = .ok () ∧
              tryDeserialize VerificationResult H
                  VerificationResult.accountName
                  (w'.accounts
                    (resultAddress H verifier.key
                      nonce)).data =
                .ok { verifier := verifier.key
                      proofHash := proofHash proof.toList
                      verifiedAt := now
                      isValid := true
                      challengeNonce := nonce
                      bump :=
                        H.canonicalBump
                          (.verification verifier.key nonce)
                      commitmentNew := new
                      commitmentPrev := prev
                      threshold := threshold
                      minDistance := minDistance } := by
  constructor
  · intro proofBytes publicInputs w'
    constructor
    · intro hVerify
      exact exists_compact_of_verifyProof hVerify
    · rintro ⟨proof, new, prev, threshold, minDistance, rfl,
        rfl, hCompact⟩
      exact (verifyProof_eq_compact proof new prev threshold
        minDistance).trans hCompact
  · intro proof new prev threshold minDistance w' hCompact
    exact ⟨fourInputs_eq_ok.mpr rfl,
      verifyProofCompact_spec hCompact⟩

end Entros
