import Entros.System.Ledger

/-
  What one successful call can do to the ledger.  There is
  one constructor for each kind of effect, and it records
  every check the handler has made.

  Key definitions include:
    * `UpdateCall`
    * `DefaultProof`
    * `Ledger.advanceIf`
    * `LedgerStep`
-/

------------------------------------------------------------
-- Kinds of Calls
------------------------------------------------------------

namespace Entros

open Foundations
open Anchor

/- The arguments shared by the three update instructions. -/
structure UpdateCall where
  authority : Signer
  verificationResult : Address
  receipt : UpdateReceiptArgs

/- The updates of the default build. -/
def Instruction.defaultUpdate :
    Instruction → Option UpdateCall
| .anchor (.updateAnchor authority verificationResult _
    receipt) =>
    some { authority := authority
           verificationResult := verificationResult
           receipt := receipt }
| .anchor (.updateAnchorCompact authority verificationResult
    receipt) =>
    some { authority := authority
           verificationResult := verificationResult
           receipt := receipt }
| _ => none

theorem Instruction.defaultUpdate_eq_some
    {instruction : Instruction}
    {request : UpdateCall}
    (hUpdate : instruction.defaultUpdate = some request) :
    (∃ commitment,
      instruction =
        .anchor (.updateAnchor request.authority
          request.verificationResult commitment
          request.receipt)) ∨
      instruction =
        .anchor (.updateAnchorCompact request.authority
          request.verificationResult request.receipt) := by
  unfold Instruction.defaultUpdate at hUpdate
  split at hUpdate
  · rw [← Option.some.inj hUpdate]
    exact .inl ⟨_, rfl⟩
  · rw [← Option.some.inj hUpdate]
    exact .inr rfl
  · cases hUpdate

/- A proof offered to the default build's verifier. -/
structure DefaultProof where
  verifier : Signer
  nonce : Bytes 32
  proofBytes : List UInt8
  publicInputs : Verifier.PublicInputs

/- The proof checked by the default build's instructions. -/
def Instruction.defaultProof :
    Instruction → Option DefaultProof
| .verifier (.verifyProof signer proofBytes publicInputs
    nonce) =>
    match Verifier.fourInputs publicInputs with
    | .error _ => none
    | .ok inputs =>
        some { verifier := signer
               nonce := nonce
               proofBytes := proofBytes
               publicInputs := inputs }
| .verifier (.verifyProofCompact signer nonce proofBytes
    commitmentNew commitmentPrev threshold minDistance) =>
    some { verifier := signer
           nonce := nonce
           proofBytes := proofBytes.toList
           publicInputs :=
            Verifier.compactInputs commitmentNew
              commitmentPrev threshold minDistance }
| _ => none

/- The instructions that close an account of the verifier. -/
inductive Instruction.Closes :
    Instruction → Address → Prop
| challenge (signer : Signer) (address : Address) :
    Closes (.verifier (.closeChallenge signer address))
      address
| result (signer : Signer) (address : Address) :
    Closes
      (.verifier (.closeVerificationResult signer address))
      address
| bound
    (signer : Signer)
    (nonce : Bytes 32)
    (address : Address) :
    Closes
      (.verifier
        (.closeBoundVerificationResult signer nonce address))
      address

/- The instructions that leave the ledger as it is. -/
inductive Instruction.Idle : Instruction → Prop
| registry (instruction : RegistryInstruction) :
    Idle (.registry instruction)
| outside (instruction : OutsideInstruction) :
    Idle (.outside instruction)
| challenge (signer : Signer) (nonce : Bytes 32) :
    Idle (.verifier (.createChallenge signer nonce))
| layout (authority : Signer) :
    Idle (.anchor (.upgradeIdentityLayout authority))
| baseline (authority : Signer) (blob : Bytes 96) :
    Idle (.anchor (.setEncryptedBaseline authority blob))

end Entros

------------------------------------------------------------
-- Counters
------------------------------------------------------------

namespace Entros

open Foundations
open Anchor

/- The counter after a lifecycle step. -/
def nextCounter (counter : Option UInt64) : UInt64 :=
  counter.getD 0 + 1

namespace Ledger

/- The counter of the wallet can still be incremented. -/
def CanAdvance (l : Ledger) (wallet : Pubkey) : Prop :=
  ((l.counter wallet).getD 0).toNat + 1 < 2 ^ 64

def advance (l : Ledger) (wallet : Pubkey) : Ledger :=
  l.setCounter wallet (nextCounter (l.counter wallet))

/- Only the request-bound build keeps counters. -/
def advanceIf
    (H : Host)
    (l : Ledger)
    (wallet : Pubkey) : Ledger :=
  if H.requestBound then l.advance wallet else l

section

variable (H : Host) (l : Ledger) (wallet : Pubkey)

@[simp] theorem advance_identity :
    (l.advance wallet).identity = l.identity := rfl

@[simp] theorem advance_result :
    (l.advance wallet).result = l.result := rfl

@[simp] theorem advance_bound :
    (l.advance wallet).bound = l.bound := rfl

@[simp] theorem advanceIf_identity :
    (l.advanceIf H wallet).identity = l.identity := by
  unfold advanceIf
  split_ifs <;> rfl

@[simp] theorem advanceIf_result :
    (l.advanceIf H wallet).result = l.result := by
  unfold advanceIf
  split_ifs <;> rfl

@[simp] theorem advanceIf_bound :
    (l.advanceIf H wallet).bound = l.bound := by
  unfold advanceIf
  split_ifs <;> rfl

end

theorem advanceIf_counter_of_ne
    {H : Host}
    {l : Ledger}
    {wallet wallet' : Pubkey}
    (hWallet : wallet' ≠ wallet) :
    (l.advanceIf H wallet).counter wallet' =
      l.counter wallet' := by
  unfold advanceIf
  split_ifs
  · rw [advance, setCounter_counter, if_neg hWallet]
  · rfl

end Ledger

end Entros

------------------------------------------------------------
-- Steps
------------------------------------------------------------

namespace Entros

open Foundations
open Anchor

/- Where the default build stores the result of a proof. -/
def DefaultProof.key
    (H : Host)
    (proof : DefaultProof) : ResultKey where
  verifier := proof.verifier.key
  nonce := proof.nonce
  bump := H.canonicalBump
    (.verification proof.verifier.key proof.nonce)

/- The record of a proof checked at a given time. -/
def DefaultProof.record
    (H : Host)
    (proof : DefaultProof)
    (now : Int64)
    (threshold minDistance : UInt16) :
    VerificationResult where
  verifier := proof.verifier.key
  proofHash := Verifier.proofHash proof.proofBytes
  verifiedAt := now
  isValid := true
  challengeNonce := proof.nonce
  bump := H.canonicalBump
    (.verification proof.verifier.key proof.nonce)
  commitmentNew := proof.publicInputs.commitmentNew
  commitmentPrev := proof.publicInputs.commitmentPrev
  threshold := threshold
  minDistance := minDistance

/- A request offered to the request-bound verifier. -/
structure BoundProof where
  verifier : Signer
  nonce : Bytes 32
  proof : Bytes 256
  commitmentNew : Bytes 32
  commitmentPrev : Bytes 32
  threshold : UInt16
  minDistance : UInt16
  validUntil : UInt64

def BoundProof.instruction
    (proof : BoundProof) : Instruction :=
  .verifier (.verifyProofBound proof.verifier proof.nonce
    proof.proof proof.commitmentNew proof.commitmentPrev
    proof.threshold proof.minDistance proof.validUntil)

def BoundProof.key
    (H : Host)
    (proof : BoundProof) : ResultKey where
  verifier := proof.verifier.key
  nonce := proof.nonce
  bump := H.canonicalBump
    (.verificationBound proof.verifier.key proof.nonce)

def BoundProof.record
    (H : Host)
    (proof : BoundProof)
    (now : Int64)
    (counter : UInt64)
    (digest : Bytes 32) : BoundVerificationResult where
  version := generation
  wallet := proof.verifier.key
  nonce := proof.nonce
  commitmentNew := proof.commitmentNew
  commitmentPrev := proof.commitmentPrev
  threshold := proof.threshold
  minDistance := proof.minDistance
  counter := counter
  validUntil := proof.validUntil
  verifiedAt := now
  requestDigest := digest
  bump := H.canonicalBump
    (.verificationBound proof.verifier.key proof.nonce)

/-
  A step from `l`, for a call made while the registry's
  configuration account is `config`.
-/
inductive LedgerStep
    (H : Host)
    (config : Account)
    (call : Call H)
    (l : Ledger) :
    Ledger → Prop
| mint
    (user : Signer)
    (remainingAccounts : List AccountMeta)
    (commitment : Bytes 32)
    (lifecycle : LifecycleConfig)
    (session : Option ReceiptSession)
    (hInstruction :
      call.instruction =
        .anchor (.mintAnchor user remainingAccounts
          commitment))
    (hConfig : readLifecycleConfig config = .ok lifecycle)
    (hReceipt :
      verifyValidatorReceipt call.tx lifecycle.validatorKeys
        user.key commitment .mint
        lifecycle.projectionPolicy.current call.now =
          .ok session)
    (hCommitment : commitment ≠ Bytes.zero 32)
    (hVacant : l.identity user.key = none)
    (hAdvance :
      H.requestBound = true → l.CanAdvance user.key) :
    LedgerStep H config call l
      ((l.advanceIf H user.key).setIdentity user.key
        (some (mintedIdentity H user.key call.now commitment
          lifecycle.projectionPolicy.current)))
| authorize
    (signer signerNew : Signer)
    (identity : IdentityState)
    (hInstruction :
      call.instruction =
        .anchor (.authorizeNewWallet signer signerNew))
    (hIdentity : l.identity signer.key = some identity) :
    LedgerStep H config call l
      (l.setIdentity signer.key
        (some { identity with newWallet := signerNew.key }))
| migrate
    (user : Signer)
    (walletOld : Pubkey)
    (remainingAccounts : List AccountMeta)
    (identityOld : IdentityState)
    (hInstruction :
      call.instruction =
        .anchor (.migrateIdentity user walletOld
          remainingAccounts))
    (hIdentity : l.identity walletOld = some identityOld)
    (hAuthorized : identityOld.newWallet = user.key)
    (hVacant : l.identity user.key = none)
    (hOwner :
      H.requestBound = true → identityOld.owner = walletOld)
    (hAdvanceOld :
      H.requestBound = true → l.CanAdvance walletOld)
    (hAdvance :
      H.requestBound = true → l.CanAdvance user.key) :
    LedgerStep H config call l
      ((((l.advanceIf H walletOld).advanceIf H
          user.key).setIdentity user.key
            (some (migratedIdentity H user.key
              identityOld))).setIdentity walletOld none)
| update
    (request : UpdateCall)
    (key : ResultKey)
    (result : VerificationResult)
    (identity updated : IdentityState)
    (updateConfig : UpdateConfig)
    (session : Option ReceiptSession)
    (hInstruction :
      call.instruction.defaultUpdate = some request)
    (hBuild : H.requestBound = false)
    (hIdentity :
      l.identity request.authority.key = some identity)
    (hOwner : identity.owner = request.authority.key)
    (hConfig :
      readUpdateConfig config identity.projectionVersion =
        .ok updateConfig)
    (hAddress : key.address = request.verificationResult)
    (hResult : l.result key = some result)
    (hVerifier : result.verifier = request.authority.key)
    (hPast : result.verifiedAt ≤ call.now)
    (hFresh :
      saturatingSub call.now result.verifiedAt ≤
        maxProofAgeSecs)
    (hNew : result.commitmentNew ≠ Bytes.zero 32)
    (hPrev :
      result.commitmentPrev = identity.currentCommitment)
    (hChanged :
      result.commitmentNew ≠ result.commitmentPrev)
    (hReceipt :
      verifyUpdateReceiptDigest call.tx
        updateConfig.validatorKeys request.authority.key
        result.commitmentNew identity.projectionVersion
        request.receipt call.now = .ok session)
    (hUnused :
      identity.lastVerificationTimestamp ≤
        request.receipt.validatedAt)
    (hUpdated :
      updatedIdentity identity call.now result.commitmentNew
        updateConfig = .ok updated) :
    LedgerStep H config call l
      ((l.closeAt key.address).setIdentity
        request.authority.key (some updated))
| updateBound
    (request : UpdateCall)
    (key : ResultKey)
    (result : BoundVerificationResult)
    (counter : UInt64)
    (identity updated : IdentityState)
    (updateConfig : UpdateConfig)
    (session : Option ReceiptSession)
    (hInstruction :
      call.instruction =
        .anchor (.updateAnchorBound request.authority
          request.verificationResult request.receipt))
    (hBuild : H.requestBound = true)
    (hIdentity :
      l.identity request.authority.key = some identity)
    (hOwner : identity.owner = request.authority.key)
    (hConfig :
      readUpdateConfig config identity.projectionVersion =
        .ok updateConfig)
    (hAddress :
      key.boundAddress = request.verificationResult)
    (hResult : l.bound key = some result)
    (hCounter :
      l.counter request.authority.key = some counter)
    (hWallet : result.wallet = request.authority.key)
    (hStamp : result.counter = counter)
    (hExpiry : checkBoundExpiry call.now result = .ok ())
    (hDigest :
      recomputedDigest H request.authority.key identity
        counter result = some result.requestDigest)
    (hAdvance : l.CanAdvance request.authority.key)
    (hNew : result.commitmentNew ≠ Bytes.zero 32)
    (hPrev :
      result.commitmentPrev = identity.currentCommitment)
    (hChanged :
      result.commitmentNew ≠ result.commitmentPrev)
    (hReceipt :
      verifyUpdateReceiptDigest call.tx
        updateConfig.validatorKeys request.authority.key
        result.commitmentNew identity.projectionVersion
        request.receipt call.now = .ok session)
    (hUnused :
      identity.lastVerificationTimestamp ≤
        request.receipt.validatedAt)
    (hUpdated :
      updatedIdentity identity call.now result.commitmentNew
        updateConfig = .ok updated) :
    LedgerStep H config call l
      (((l.advance request.authority.key).closeAt
        key.boundAddress).setIdentity request.authority.key
          (some updated))
| reset
    (authority : Signer)
    (remainingAccounts : List AccountMeta)
    (commitment : Bytes 32)
    (projectionVersion : UInt16)
    (identity : IdentityState)
    (lifecycle : LifecycleConfig)
    (session : Option ReceiptSession)
    (hInstruction :
      call.instruction =
        .anchor (.resetIdentityState authority
          remainingAccounts commitment projectionVersion))
    (hIdentity : l.identity authority.key = some identity)
    (hOwner : identity.owner = authority.key)
    (hCommitment : commitment ≠ Bytes.zero 32)
    (hCooldown :
      resetCooldownSecs ≤
        saturatingSub call.now identity.lastResetTimestamp)
    (hConfig : readLifecycleConfig config = .ok lifecycle)
    (hProjection :
      projectionVersion = lifecycle.projectionPolicy.current)
    (hReceipt :
      verifyValidatorReceipt call.tx lifecycle.validatorKeys
        authority.key commitment .reset
        lifecycle.projectionPolicy.current call.now =
          .ok session)
    (hAdvance :
      H.requestBound = true → l.CanAdvance authority.key) :
    LedgerStep H config call l
      ((l.advanceIf H authority.key).setIdentity
        authority.key
        (some (resetIdentity identity call.now commitment
          lifecycle.projectionPolicy.current)))
| rebaseline
    (authority : Signer)
    (remainingAccounts : List AccountMeta)
    (commitment : Bytes 32)
    (projectionVersion : UInt16)
    (identity : IdentityState)
    (lifecycle : LifecycleConfig)
    (session : Option ReceiptSession)
    (hInstruction :
      call.instruction =
        .anchor (.rebaselineAnchor authority
          remainingAccounts commitment projectionVersion))
    (hIdentity : l.identity authority.key = some identity)
    (hOwner : identity.owner = authority.key)
    (hCommitment : commitment ≠ Bytes.zero 32)
    (hConfig : readLifecycleConfig config = .ok lifecycle)
    (hProjection :
      projectionVersion = lifecycle.projectionPolicy.current)
    (hAdvanced :
      identity.projectionVersion <
        lifecycle.projectionPolicy.current)
    (hCooldown :
      rebaselineCooldownSecs ≤
        saturatingSub call.now
          identity.lastRebaselineTimestamp)
    (hReceipt :
      verifyValidatorReceipt call.tx lifecycle.validatorKeys
        authority.key commitment .rebaseline
        lifecycle.projectionPolicy.current call.now =
          .ok session)
    (hAdvance :
      H.requestBound = true → l.CanAdvance authority.key) :
    LedgerStep H config call l
      ((l.advanceIf H authority.key).setIdentity
        authority.key
        (some (rebaselinedIdentity identity call.now
          commitment lifecycle.projectionPolicy.current)))
| prepare
    (authority : Signer)
    (hInstruction :
      call.instruction =
        .anchor (.prepareProofRequest authority))
    (hBuild : H.requestBound = true) :
    LedgerStep H config call l
      (l.setCounter authority.key
        ((l.counter authority.key).getD 0))
| verify
    (proof : DefaultProof)
    (threshold minDistance : UInt16)
    (hInstruction :
      call.instruction.defaultProof = some proof)
    (hBuild : H.requestBound = false)
    (hNonce : proof.nonce ≠ Bytes.zero 32)
    (hInputs :
      proof.publicInputs =
        Verifier.compactInputs
          proof.publicInputs.commitmentNew
          proof.publicInputs.commitmentPrev threshold
          minDistance)
    (hBounds :
      Verifier.validateHammingBounds threshold minDistance =
        .ok ())
    (hProof :
      Verifier.groth16VerifyProof H proof.proofBytes
        proof.publicInputs = .ok ())
    (hVacant : l.result (proof.key H) = none) :
    LedgerStep H config call l
      (l.setResult (proof.key H)
        (proof.record H call.now threshold minDistance))
| verifyBound
    (proof : BoundProof)
    (identity : IdentityState)
    (counter : UInt64)
    (digest : Bytes 32)
    (hInstruction : call.instruction = proof.instruction)
    (hBuild : H.requestBound = true)
    (hNonce : proof.nonce ≠ Bytes.zero 32)
    (hLifetime :
      Verifier.checkRequestLifetime call.now
        proof.validUntil = .ok ())
    (hBounds :
      Verifier.validateHammingBounds proof.threshold
        proof.minDistance = .ok ())
    (hIdentity :
      l.identity proof.verifier.key = some identity)
    (hPrev :
      identity.currentCommitment = proof.commitmentPrev)
    (hCounter : l.counter proof.verifier.key = some counter)
    (hDigest :
      recomputedDigest H proof.verifier.key identity counter
        (proof.record H call.now counter digest) =
          some digest)
    (hProof :
      Verifier.groth16Verify H .bound proof.proof.toList
        (Verifier.boundInputs proof.commitmentNew
          proof.commitmentPrev proof.threshold
          proof.minDistance digest) = true)
    (hVacant : l.bound (proof.key H) = none) :
    LedgerStep H config call l
      (l.setBound (proof.key H)
        (proof.record H call.now counter digest))
| close
    (address : Address)
    (hInstruction : call.instruction.Closes address) :
    LedgerStep H config call l (l.closeAt address)
| idle (hInstruction : call.instruction.Idle) :
    LedgerStep H config call l l

end Entros
