import Entros.Anchor.Bins
import Entros.Anchor.Update

/-
  When an update of the request-bound build reports that the
  previous commitment does not match: only if the result it
  has already consumed names another commitment.

  Key definitions include:
    * `prevMismatch`

  Key theorems include:
    * `readUpdateConfig_avoids`
    * `verifyUpdateReceiptDigest_avoids`
    * `consumeBoundResult_avoids`
    * `updateAnchorBound_avoids`
-/

------------------------------------------------------------
-- Parts
------------------------------------------------------------

namespace Entros

open Foundations

namespace Anchor

/- The error in question. -/
abbrev prevMismatch : Fault :=
  .anchor .prevCommitmentMismatch

theorem readField_avoids
    {A : Type}
    [Packed A]
    (data : List UInt8)
    (offset : ℕ) :
    Avoids prevMismatch (readField A data offset) :=
  .okOr (by decide)

theorem readSlice_avoids
    (data : List UInt8)
    (offset width : ℕ) :
    Avoids prevMismatch (readSlice data offset width) := by
  unfold readSlice
  exact .bind (.require (by decide)) fun _ _ => .ok _

theorem tryDeserialize_avoids
    {A : Type}
    [Packed A]
    (H : Host)
    (name : String)
    (data : List UInt8) :
    Avoids prevMismatch (tryDeserialize A H name data) := by
  unfold tryDeserialize
  refine .bind (.require (by decide)) fun _ _ => ?_
  refine .bind (.require (by decide)) fun _ _ => ?_
  exact .okOr (by decide)

theorem transfer_avoids
    (w : World)
    (source destination : Address)
    (amount : ℕ) :
    Avoids prevMismatch
      (w.transfer source destination amount) := by
  unfold World.transfer
  exact .bind (.require (by decide)) fun _ _ => .ok _

theorem openIdentity_avoids
    (H : Host)
    (w : World)
    (authority : Signer) :
    Avoids prevMismatch (openIdentity H w authority) := by
  have hGrow :
      Avoids prevMismatch (growIdentity H w authority) := by
    unfold growIdentity World.growAccount World.topUp
    exact .ite (.ite (transfer_avoids _ _ _ _) (.ok _))
      (.ok _)
  unfold openIdentity
  refine .bind (.require (by decide)) fun _ _ => ?_
  refine .bind hGrow fun grown _ => ?_
  refine .bind (.remapError (by decide)) fun _ _ => ?_
  exact .bind (.require (by decide)) fun _ _ => .ok _

theorem readUpdateConfig_avoids
    (config : Account)
    (projectionVersion : UInt16) :
    Avoids prevMismatch
      (readUpdateConfig config projectionVersion) := by
  have hVersions (data : List UInt8) :
      Avoids prevMismatch (readProjectionVersions data) := by
    unfold readProjectionVersions
    refine .ite (.ok _) ?_
    refine .bind (.require (by decide)) fun _ _ => ?_
    refine .bind (readField_avoids _ _) fun _ _ => ?_
    exact .bind (readField_avoids _ _) fun _ _ => .ok _
  have hProjection (data : List UInt8) :
      Avoids prevMismatch (readProjectionPolicy data) := by
    unfold readProjectionPolicy
    refine .bind (hVersions data) fun _ _ => ?_
    exact .bind (.require (by decide)) fun _ _ => .ok _
  have hValidate (policy : ProjectionPolicy) :
      Avoids prevMismatch
        (validateIdentityProjection projectionVersion
          policy) := by
    unfold validateIdentityProjection
    refine .bind (.require (by decide)) fun _ _ => ?_
    exact .require (by decide)
  have hKeys (data : List UInt8) :
      Avoids prevMismatch (readValidatorKeyPolicy data) := by
    unfold readValidatorKeyPolicy readPrimary readSecondary
    refine .bind (.ite (readField_avoids _ _) (.ok _))
      fun _ _ => ?_
    refine .bind (.ite ?_ (.ok _)) fun _ _ => .ok _
    refine .bind (readField_avoids _ _) fun _ _ => ?_
    exact .bind (readField_avoids _ _) fun _ _ => .ok _
  unfold readUpdateConfig
  refine .bind (.require (by decide)) fun _ _ => ?_
  refine .bind (.require (by decide)) fun _ _ => ?_
  refine .bind (hProjection _) fun _ _ => ?_
  refine .bind (hValidate _) fun _ _ => ?_
  refine .bind (readField_avoids _ _) fun _ _ => ?_
  refine .bind (readField_avoids _ _) fun _ _ => ?_
  refine .bind (readField_avoids _ _) fun _ _ => ?_
  exact .bind (hKeys _) fun _ _ => .ok _

/- Neither do the checks on the receipt of an update. -/
theorem verifyUpdateReceiptDigest_avoids
    {H : Host}
    (tx : Transaction H)
    (keys : ValidatorKeyPolicy)
    (wallet : Pubkey)
    (commitmentNew : Bytes 32)
    (projectionVersion : UInt16)
    (receipt : UpdateReceiptArgs)
    (now : Int64) :
    Avoids prevMismatch
      (verifyUpdateReceiptDigest tx keys wallet commitmentNew
        projectionVersion receipt now) := by
  have hOffset (data : List UInt8) (offset : ℕ) :
      Avoids prevMismatch (readOffset data offset) := by
    unfold readOffset
    exact .bind (readField_avoids _ _) fun _ _ => .ok _
  have hIndices (data : List UInt8) :
      Avoids prevMismatch (checkInstructionIndices data) := by
    unfold checkInstructionIndices
    refine .bind (readField_avoids _ _) fun _ _ => ?_
    refine .bind (readField_avoids _ _) fun _ _ => ?_
    refine .bind (readField_avoids _ _) fun _ _ => ?_
    exact .require (by decide)
  have hMessage (data : List UInt8) :
      Avoids prevMismatch
        (readEd25519Message data keys [receiptV4DigestLen]
          now) := by
    unfold readEd25519Message
    refine .bind (.require (by decide)) fun _ _ => ?_
    refine .bind (readField_avoids _ _) fun _ _ => ?_
    refine .bind (.require (by decide)) fun _ _ => ?_
    refine .bind (hIndices _) fun _ _ => ?_
    refine .bind (hOffset _ _) fun _ _ => ?_
    refine .bind (hOffset _ _) fun _ _ => ?_
    refine .bind (hOffset _ _) fun _ _ => ?_
    refine .bind (.require (by decide)) fun _ _ => ?_
    refine .bind (.require (by decide)) fun _ _ => ?_
    refine .bind (readSlice_avoids _ _ _) fun _ _ => ?_
    refine .bind (.require (by decide)) fun _ _ => ?_
    exact readSlice_avoids _ _ _
  have hLoad :
      Avoids prevMismatch
        (loadPrecedingEd25519Receipt tx keys
          [receiptV4DigestLen] now) := by
    unfold loadPrecedingEd25519Receipt
    refine .bind (.require (by decide)) fun _ _ => ?_
    refine .bind (.require (by decide)) fun _ _ => ?_
    refine .bind (.okOr (by decide)) fun _ _ => ?_
    refine .bind (.require (by decide)) fun _ _ => ?_
    exact hMessage _
  have hPreimage :
      Avoids prevMismatch
        (buildUpdateReceiptV4Preimage wallet commitmentNew
          projectionVersion receipt) := by
    unfold buildUpdateReceiptV4Preimage
      UpdateReceiptArgs.check
    refine .bind ?_ fun _ _ => .ok _
    refine .bind (.require (by decide)) fun _ _ => ?_
    exact .require (by decide)
  unfold verifyUpdateReceiptDigest
    computeUpdateReceiptV4Digest checkReceiptAge
  refine .bind hLoad fun _ _ => ?_
  refine .bind (.bind hPreimage fun _ _ => .ok _)
    fun _ _ => ?_
  refine .bind (.require (by decide)) fun _ _ => ?_
  refine .bind ?_ fun _ _ => .ok _
  refine .bind (.require (by decide)) fun _ _ => ?_
  exact .require (by decide)

theorem consumeBoundResult_avoids
    (H : Host)
    (w : World)
    (now : Int64)
    (authority : Signer)
    (identity : IdentityState)
    (address : Address) :
    Avoids prevMismatch
      (consumeBoundResult H w now authority identity
        address) := by
  have hLoad :
      Avoids prevMismatch (loadBoundResult H w address) := by
    unfold loadBoundResult
    refine .bind (.require (by decide)) fun _ _ => ?_
    refine .bind (.require (by decide)) fun _ _ => ?_
    refine .bind (.require (by decide)) fun _ _ => ?_
    exact .remapError (by decide)
  unfold consumeBoundResult checkBoundExpiry writeField
  refine .bind (.require (by decide)) fun _ _ => ?_
  refine .bind hLoad fun _ _ => ?_
  refine .bind (.require (by decide)) fun _ _ => ?_
  refine .bind (.okOr (by decide)) fun _ _ => ?_
  refine .bind (.require (by decide)) fun _ _ => ?_
  refine .bind (.require (by decide)) fun _ _ => ?_
  refine .bind (.require (by decide)) fun _ _ => ?_
  refine .bind (.okOr (by decide)) fun _ _ => ?_
  refine .bind (.require (by decide)) fun _ _ => ?_
  refine .bind (.okOr (by decide)) fun _ _ => ?_
  refine .bind ?_ fun _ _ => .ok _
  exact .bind (.require (by decide)) fun _ _ => .ok _

/- A bound result is closed under the nonce it carries. -/
theorem boundNonce_of_consumeBoundResult
    {H : Host}
    {w : World}
    {now : Int64}
    {authority : Signer}
    {identity : IdentityState}
    {address : Address}
    {consumed : World × ProofTransition}
    (hConsume :
      consumeBoundResult H w now authority identity
        address = .ok consumed) :
    consumed.2.boundNonce ≠ none := by
  simp only [consumeBoundResult, bind_eq_ok, pure_eq_ok]
    at hConsume
  rcases hConsume with
    ⟨_, _, result, _, _, _, _, _, _, _, _, _, _, _, _, _, _, _,
      _, _, _, _, rfl⟩
  exact Option.some_ne_none result.nonce

/- The one check that raises the error. -/
theorem checkTransition_avoids
    {transition : ProofTransition}
    {currentCommitment : Bytes 32}
    (expected : Option (Bytes 32))
    (hPrev : transition.commitmentPrev = currentCommitment) :
    Avoids prevMismatch
      (checkTransition transition expected
        currentCommitment) := by
  unfold checkTransition
  refine .bind (.require (by decide)) fun _ _ => ?_
  refine .bind (.require (by decide)) fun _ _ => ?_
  refine .bind (.require_of hPrev) fun _ _ => ?_
  exact .require (by decide)

theorem closeBoundVerificationResult_avoids
    (H : Host)
    (w : World)
    (verifier : Signer)
    (nonce : Bytes 32)
    (address : Address) :
    Avoids prevMismatch
      (Verifier.closeBoundVerificationResult H w verifier
        nonce address) := by
  unfold Verifier.closeBoundVerificationResult
    World.loadAccount
  refine .bind ?_ fun _ _ => ?_
  · refine .bind (.require (by decide)) fun _ _ => ?_
    refine .bind (.require (by decide)) fun _ _ => ?_
    exact tryDeserialize_avoids H _ _
  refine .bind (.require (by decide)) fun _ _ => ?_
  exact .bind (.require (by decide)) fun _ _ => .ok _

theorem updatedIdentity_avoids
    (identity : IdentityState)
    (now : Int64)
    (commitmentNew : Bytes 32)
    (config : UpdateConfig) :
    Avoids prevMismatch
      (updatedIdentity identity now commitmentNew
        config) := by
  unfold updatedIdentity trustScore ageBonus
  refine .bind (.okOr (by decide)) fun _ _ => ?_
  refine .bind (.bind ?_ fun _ _ => .ok _) fun _ _ => .ok _
  refine .bind (.okOr (by decide)) fun _ _ => ?_
  exact .bind (.of_eq_ok (isqrt_eq _)) fun _ _ => .ok _

end Anchor

end Entros

------------------------------------------------------------
-- The Instruction
------------------------------------------------------------

namespace Entros

open Foundations

namespace Anchor

variable {H : Host} {w : World} {now : Int64}
variable {authority : Signer} {address : Address}

/-
  If every result that passes the checks before links to the
  commitment of the identity, the error does not occur.
-/
theorem updateAnchorBound_avoids
    (tx : Transaction H)
    (receipt : UpdateReceiptArgs)
    (hLinked :
      ∀ opened consumed,
        openIdentity H w authority = .ok opened →
          consumeBoundResult H opened.1 now authority
              opened.2 address = .ok consumed →
            consumed.2.commitmentPrev =
              opened.2.currentCommitment) :
    Avoids prevMismatch
      (updateAnchorBound tx w now authority address
        receipt) := by
  have hConsumes
      (state : World)
      (identity : IdentityState) :
      Avoids prevMismatch
        (consumeProof H state now authority identity address
          true) :=
    consumeBoundResult_avoids H state now authority identity
      address
  have hClose
      (state : World)
      (boundNonce : Option (Bytes 32))
      (hBound : boundNonce ≠ none) :
      Avoids prevMismatch
        (closeVerificationResultCpi H state authority address
          boundNonce) := by
    cases boundNonce with
    | none => exact absurd rfl hBound
    | some nonce =>
        exact closeBoundVerificationResult_avoids H state
          authority nonce address
  unfold updateAnchorBound processAnchorUpdate
    checkExpectedCommitment
  refine .bind (.require (by decide)) fun _ _ => ?_
  refine .bind (.require (by decide)) fun _ _ => ?_
  refine .bind (openIdentity_avoids H w authority)
    fun opened hOpen => ?_
  refine .bind (.require (by decide)) fun _ _ => ?_
  refine .bind (readUpdateConfig_avoids _ _) fun _ _ => ?_
  refine .bind (hConsumes opened.1 opened.2)
    fun consumed hConsume => ?_
  refine .bind
    (checkTransition_avoids none
      (hLinked opened consumed hOpen hConsume))
    fun _ _ => ?_
  refine .bind
    (verifyUpdateReceiptDigest_avoids tx _ _ _ _ receipt _)
    fun _ _ => ?_
  refine .bind (.require (by decide)) fun _ _ => ?_
  refine .bind
    (hClose _ _ (boundNonce_of_consumeBoundResult hConsume))
    fun _ _ => ?_
  refine .bind (updatedIdentity_avoids _ _ _ _) fun _ _ => ?_
  refine .bind (.remapError (by decide)) fun _ _ => ?_
  unfold payFee
  exact .ite (transfer_avoids _ _ _ _) (.ok _)

end Anchor

end Entros
