import Entros.System.Refinement

/-
  How calls put proof results into the ledger, what an
  accepted update takes out of it, and what each instruction
  has checked when it succeeds.

  Key definitions include:
    * `ProofChecked`
    * `RequestChecked`
    * `ResultsChange`
    * `UpdateAccepted`
    * `BoundUpdateAccepted`
    * `StepFacts`

  Key theorems include:
    * `LedgerStep.resultsChange`
    * `LedgerStep.fills_result`
    * `LedgerStep.fills_bound`
    * `LedgerStep.facts`
    * `LedgerStep.updateAccepted`
    * `LedgerStep.boundUpdateAccepted`
-/

------------------------------------------------------------
-- Checked Proofs
------------------------------------------------------------

namespace Entros

open Foundations
open Anchor

/- The default build's verifier has accepted the proof. -/
structure ProofChecked
    (H : Host)
    (call : Call H)
    (proof : DefaultProof)
    (threshold minDistance : UInt16) : Prop where
  instruction : call.instruction.defaultProof = some proof
  inputs :
    proof.publicInputs =
      Verifier.compactInputs
        proof.publicInputs.commitmentNew
        proof.publicInputs.commitmentPrev threshold
        minDistance
  bounds :
    Verifier.validateHammingBounds threshold minDistance =
      .ok ()
  accepted :
    Verifier.groth16VerifyProof H proof.proofBytes
      proof.publicInputs = .ok ()

/- The request-bound verifier has accepted the proof. -/
structure RequestChecked
    (H : Host)
    (call : Call H)
    (l : Ledger)
    (proof : BoundProof)
    (identity : IdentityState)
    (counter : UInt64)
    (digest : Bytes 32) : Prop where
  instruction : call.instruction = proof.instruction
  lifetime :
    Verifier.checkRequestLifetime call.now proof.validUntil =
      .ok ()
  bounds :
    Verifier.validateHammingBounds proof.threshold
      proof.minDistance = .ok ()
  live : l.identity proof.verifier.key = some identity
  chained : identity.currentCommitment = proof.commitmentPrev
  stamped : l.counter proof.verifier.key = some counter
  hashed :
    recomputedDigest H proof.verifier.key identity counter
      (proof.record H call.now counter digest) = some digest
  accepted :
    Verifier.groth16Verify H .bound proof.proof.toList
      (Verifier.boundInputs proof.commitmentNew
        proof.commitmentPrev proof.threshold
        proof.minDistance digest) = true

/-
  What a call does to the stored results of both builds: it
  leaves them alone, closes some account, or stores a result
  for a proof that it has checked.
-/
inductive ResultsChange
    (H : Host)
    (call : Call H)
    (l l' : Ledger) : Prop
| kept
    (hResult : l'.result = l.result)
    (hBound : l'.bound = l.bound)
| closed
    (address : Address)
    (hResult : l'.result = (l.closeAt address).result)
    (hBound : l'.bound = (l.closeAt address).bound)
| checked
    (proof : DefaultProof)
    (threshold minDistance : UInt16)
    (hChecked :
      ProofChecked H call proof threshold minDistance)
    (hTarget :
      l' =
        l.setResult (proof.key H)
          (proof.record H call.now threshold minDistance))
| requested
    (proof : BoundProof)
    (identity : IdentityState)
    (counter : UInt64)
    (digest : Bytes 32)
    (hChecked :
      RequestChecked H call l proof identity counter digest)
    (hTarget :
      l' =
        l.setBound (proof.key H)
          (proof.record H call.now counter digest))

variable {H : Host} {config : Account} {call : Call H}
variable {l l' : Ledger} {key : ResultKey}

/- Every step of the ledger is such a change. -/
theorem LedgerStep.resultsChange
    (hStep : LedgerStep H config call l l') :
    ResultsChange H call l l' := by
  cases hStep with
  | mint =>
      refine .kept ?_ ?_
      · rw [Ledger.setIdentity_result,
          Ledger.advanceIf_result]
      · rw [Ledger.setIdentity_bound, Ledger.advanceIf_bound]
  | authorize =>
      exact .kept (Ledger.setIdentity_result _ _ _)
        (Ledger.setIdentity_bound _ _ _)
  | migrate =>
      refine .kept ?_ ?_
      · rw [Ledger.setIdentity_result,
          Ledger.setIdentity_result,
          Ledger.advanceIf_result, Ledger.advanceIf_result]
      · rw [Ledger.setIdentity_bound,
          Ledger.setIdentity_bound, Ledger.advanceIf_bound,
          Ledger.advanceIf_bound]
  | update request key' =>
      exact .closed key'.address
        (Ledger.setIdentity_result _ _ _)
        (Ledger.setIdentity_bound _ _ _)
  | updateBound request key' =>
      exact .closed key'.boundAddress
        (Ledger.setIdentity_result _ _ _)
        (Ledger.setIdentity_bound _ _ _)
  | reset =>
      refine .kept ?_ ?_
      · rw [Ledger.setIdentity_result,
          Ledger.advanceIf_result]
      · rw [Ledger.setIdentity_bound, Ledger.advanceIf_bound]
  | rebaseline =>
      refine .kept ?_ ?_
      · rw [Ledger.setIdentity_result,
          Ledger.advanceIf_result]
      · rw [Ledger.setIdentity_bound, Ledger.advanceIf_bound]
  | prepare => exact .kept rfl rfl
  | verify proof threshold minDistance hInstruction _ _
      hInputs hBounds hProof =>
      exact .checked proof threshold minDistance
        ⟨hInstruction, hInputs, hBounds, hProof⟩ rfl
  | verifyBound proof identity counter digest hInstruction _
      _ hLifetime hBounds hIdentity hPrev hCounter hDigest
      hProof =>
      exact .requested proof identity counter digest
        ⟨hInstruction, hLifetime, hBounds, hIdentity, hPrev,
          hCounter, hDigest, hProof⟩
        rfl
  | close address => exact .closed address rfl rfl
  | idle => exact .kept rfl rfl

/- A result is stored by a call that checked its proof. -/
theorem LedgerStep.fills_result
    {result : VerificationResult}
    (hStep : LedgerStep H config call l l')
    (hBefore : l.result key ≠ some result)
    (hAfter : l'.result key = some result) :
    ∃ proof threshold minDistance,
      ProofChecked H call proof threshold minDistance ∧
        key = proof.key H ∧
          result =
            proof.record H call.now threshold
              minDistance := by
  cases hStep.resultsChange with
  | kept hResult =>
      rw [hResult] at hAfter
      exact absurd hAfter hBefore
  | closed address hResult =>
      rw [hResult, Ledger.closeAt_result] at hAfter
      split_ifs at hAfter
      exact absurd hAfter hBefore
  | checked proof threshold minDistance hChecked hTarget =>
      rw [hTarget, Ledger.setResult_result] at hAfter
      by_cases hKey : key = proof.key H
      · rw [if_pos hKey] at hAfter
        exact ⟨proof, threshold, minDistance, hChecked, hKey,
          (Option.some.inj hAfter).symm⟩
      · rw [if_neg hKey] at hAfter
        exact absurd hAfter hBefore
  | requested proof _ _ _ _ hTarget =>
      rw [hTarget, Ledger.setBound_result] at hAfter
      exact absurd hAfter hBefore

/- A bound result is stored by a call that checked it. -/
theorem LedgerStep.fills_bound
    {result : BoundVerificationResult}
    (hStep : LedgerStep H config call l l')
    (hBefore : l.bound key ≠ some result)
    (hAfter : l'.bound key = some result) :
    ∃ proof identity counter digest,
      RequestChecked H call l proof identity counter
          digest ∧
        key = proof.key H ∧
          result =
            proof.record H call.now counter digest := by
  cases hStep.resultsChange with
  | kept _ hBound =>
      rw [hBound] at hAfter
      exact absurd hAfter hBefore
  | closed address _ hBound =>
      rw [hBound, Ledger.closeAt_bound] at hAfter
      split_ifs at hAfter
      exact absurd hAfter hBefore
  | checked proof _ _ _ hTarget =>
      rw [hTarget, Ledger.setResult_bound] at hAfter
      exact absurd hAfter hBefore
  | requested proof identity counter digest hChecked
      hTarget =>
      rw [hTarget, Ledger.setBound_bound] at hAfter
      by_cases hKey : key = proof.key H
      · rw [if_pos hKey] at hAfter
        exact ⟨proof, identity, counter, digest, hChecked,
          hKey, (Option.some.inj hAfter).symm⟩
      · rw [if_neg hKey] at hAfter
        exact absurd hAfter hBefore

end Entros

------------------------------------------------------------
-- Accepted Updates
------------------------------------------------------------

namespace Entros

open Foundations
open Anchor

/- What an update of the default build has passed. -/
structure UpdateAccepted
    (H : Host)
    (config : Account)
    (call : Call H)
    (l : Ledger)
    (request : UpdateCall)
    (key : ResultKey)
    (result : VerificationResult)
    (identity updated : IdentityState)
    (updateConfig : UpdateConfig) : Prop where
  build : H.requestBound = false
  live : l.identity request.authority.key = some identity
  config :
    readUpdateConfig config identity.projectionVersion =
      .ok updateConfig
  address : key.address = request.verificationResult
  stored : l.result key = some result
  verifier : result.verifier = request.authority.key
  past : result.verifiedAt ≤ call.now
  fresh :
    saturatingSub call.now result.verifiedAt ≤
      maxProofAgeSecs
  prev : result.commitmentPrev = identity.currentCommitment
  changed : result.commitmentNew ≠ result.commitmentPrev
  receipt :
    ∃ session,
      verifyUpdateReceiptDigest call.tx
        updateConfig.validatorKeys request.authority.key
        result.commitmentNew identity.projectionVersion
        request.receipt call.now = .ok session
  unused :
    identity.lastVerificationTimestamp ≤
      request.receipt.validatedAt
  updated :
    updatedIdentity identity call.now result.commitmentNew
      updateConfig = .ok updated

/- What an update of the request-bound build has passed. -/
structure BoundUpdateAccepted
    (H : Host)
    (call : Call H)
    (l : Ledger)
    (request : UpdateCall)
    (key : ResultKey)
    (result : BoundVerificationResult)
    (counter : UInt64)
    (identity : IdentityState) : Prop where
  build : H.requestBound = true
  live : l.identity request.authority.key = some identity
  stored : l.bound key = some result
  counted : l.counter request.authority.key = some counter
  wallet : result.wallet = request.authority.key
  stamp : result.counter = counter
  expiry : checkBoundExpiry call.now result = .ok ()
  hashed :
    recomputedDigest H request.authority.key identity counter
      result = some result.requestDigest
  advance : l.CanAdvance request.authority.key

/- The arguments of an update of the request-bound build. -/
def Instruction.boundUpdate :
    Instruction → Option UpdateCall
| .anchor (.updateAnchorBound authority verificationResult
    receipt) =>
    some { authority := authority
           verificationResult := verificationResult
           receipt := receipt }
| _ => none

theorem Instruction.boundUpdate_eq_some
    {instruction : Instruction}
    {request : UpdateCall}
    (hUpdate : instruction.boundUpdate = some request) :
    instruction =
      .anchor (.updateAnchorBound request.authority
        request.verificationResult request.receipt) := by
  unfold Instruction.boundUpdate at hUpdate
  split at hUpdate
  · rw [← Option.some.inj hUpdate]
  · cases hUpdate

end Entros

------------------------------------------------------------
-- Facts by Instruction
------------------------------------------------------------

namespace Entros

open Foundations
open Anchor

/- The wallet has an identity with this commitment. -/
def Ledger.Stores
    (l : Ledger)
    (wallet : Pubkey)
    (commitment : Bytes 32) : Prop :=
  ∃ identity,
    l.identity wallet = some identity ∧
      identity.currentCommitment = commitment

theorem Ledger.Stores.live
    {l : Ledger}
    {wallet : Pubkey}
    {commitment : Bytes 32}
    (hStores : l.Stores wallet commitment) :
    l.identity wallet ≠ none := by
  rcases hStores with ⟨identity, hIdentity, _⟩
  rw [hIdentity]
  exact Option.some_ne_none identity

/- What a mint has checked, and the identity it leaves. -/
structure MintAccepted
    (H : Host)
    (config : Account)
    (call : Call H)
    (l l' : Ledger)
    (user : Signer)
    (commitment : Bytes 32) : Prop where
  vacant : l.identity user.key = none
  stored : l'.Stores user.key commitment
  receipt :
    ∃ lifecycle session,
      readLifecycleConfig config = .ok lifecycle ∧
        verifyValidatorReceipt call.tx
          lifecycle.validatorKeys user.key commitment .mint
          lifecycle.projectionPolicy.current call.now =
            .ok session

/- An accepted update takes its result out of the ledger. -/
def Consumption
    (H : Host)
    (config : Account)
    (call : Call H)
    (l l' : Ledger)
    (request : UpdateCall) : Prop :=
  ∃ key result identity updated updateConfig,
    UpdateAccepted H config call l request key result
        identity updated updateConfig ∧
      l' =
        (l.closeAt key.address).setIdentity
          request.authority.key (some updated)

def BoundConsumption
    (H : Host)
    (call : Call H)
    (l l' : Ledger)
    (request : UpdateCall) : Prop :=
  ∃ key result counter identity updated,
    BoundUpdateAccepted H call l request key result counter
        identity ∧
      l' =
        ((l.advance request.authority.key).closeAt
          key.boundAddress).setIdentity
            request.authority.key (some updated)

/- What a step says about its instruction. -/
def StepFacts
    (H : Host)
    (config : Account)
    (call : Call H)
    (l l' : Ledger) : Instruction → Prop
| .anchor (.mintAnchor user _ commitment) =>
    MintAccepted H config call l l' user commitment
| .anchor (.resetIdentityState authority _ commitment _) =>
    l'.Stores authority.key commitment
| .anchor (.rebaselineAnchor authority _ commitment _) =>
    l'.Stores authority.key commitment
| .anchor (.updateAnchor authority verificationResult _
    receipt) =>
    Consumption H config call l l'
      { authority := authority
        verificationResult := verificationResult
        receipt := receipt }
| .anchor (.updateAnchorCompact authority
    verificationResult receipt) =>
    Consumption H config call l l'
      { authority := authority
        verificationResult := verificationResult
        receipt := receipt }
| .anchor (.updateAnchorBound authority verificationResult
    receipt) =>
    BoundConsumption H call l l'
      { authority := authority
        verificationResult := verificationResult
        receipt := receipt }
| .verifier (.verifyProofBound verifier nonce proof
    commitmentNew commitmentPrev threshold minDistance
    validUntil) =>
    ∃ identity counter digest,
      RequestChecked H call l
        { verifier := verifier
          nonce := nonce
          proof := proof
          commitmentNew := commitmentNew
          commitmentPrev := commitmentPrev
          threshold := threshold
          minDistance := minDistance
          validUntil := validUntil }
        identity counter digest
| _ => True

variable {H : Host} {config : Account} {call : Call H}
variable {l l' : Ledger} {request : UpdateCall}

/- Every step is one of its instruction. -/
theorem LedgerStep.facts
    (hStep : LedgerStep H config call l l') :
    StepFacts H config call l l' call.instruction := by
  cases hStep with
  | mint user _ commitment lifecycle session hInstruction
      hConfig hReceipt _ hVacant =>
      rw [hInstruction]
      exact ⟨hVacant,
        ⟨_, Ledger.setIdentity_identity_same .., rfl⟩,
        lifecycle, session, hConfig, hReceipt⟩
  | authorize _ _ _ hInstruction =>
      rw [hInstruction]
      trivial
  | migrate _ _ _ _ hInstruction =>
      rw [hInstruction]
      trivial
  | update request key result identity updated updateConfig
      session hInstruction hBuild hIdentity _ hConfig
      hAddress hResult hVerifier hPast hFresh _ hPrev
      hChanged hReceipt hUnused hUpdated =>
      have hConsumes :
          Consumption H config call l
            ((l.closeAt key.address).setIdentity
              request.authority.key (some updated))
            request :=
        ⟨key, result, identity, updated, updateConfig,
          ⟨hBuild, hIdentity, hConfig, hAddress, hResult,
            hVerifier, hPast, hFresh, hPrev, hChanged,
            ⟨session, hReceipt⟩, hUnused, hUpdated⟩,
          rfl⟩
      rcases Instruction.defaultUpdate_eq_some
        hInstruction with ⟨commitment, hUpdate⟩ | hUpdate
      · rw [hUpdate]
        exact hConsumes
      · rw [hUpdate]
        exact hConsumes
  | updateBound request key result counter identity updated
      updateConfig session hInstruction hBuild hIdentity _ _
      _ hResult hCounter hWallet hStamp hExpiry hDigest
      hAdvance =>
      rw [hInstruction]
      exact ⟨key, result, counter, identity, updated,
        ⟨hBuild, hIdentity, hResult, hCounter, hWallet,
          hStamp, hExpiry, hDigest, hAdvance⟩,
        rfl⟩
  | reset _ _ _ _ _ _ _ hInstruction =>
      rw [hInstruction]
      exact ⟨_, Ledger.setIdentity_identity_same .., rfl⟩
  | rebaseline _ _ _ _ _ _ _ hInstruction =>
      rw [hInstruction]
      exact ⟨_, Ledger.setIdentity_identity_same .., rfl⟩
  | prepare _ hInstruction =>
      rw [hInstruction]
      trivial
  | verify _ _ _ hInstruction =>
      generalize call.instruction = instruction
        at hInstruction ⊢
      unfold Instruction.defaultProof at hInstruction
      split at hInstruction
      · trivial
      · trivial
      · cases hInstruction
  | verifyBound proof identity counter digest hInstruction _
      _ hLifetime hBounds hIdentity hPrev hCounter hDigest
      hProof =>
      rw [hInstruction]
      exact ⟨identity, counter, digest, hInstruction,
        hLifetime, hBounds, hIdentity, hPrev, hCounter,
        hDigest, hProof⟩
  | close address hInstruction =>
      generalize call.instruction = instruction
        at hInstruction ⊢
      cases hInstruction <;> trivial
  | idle hInstruction =>
      generalize call.instruction = instruction
        at hInstruction ⊢
      cases hInstruction <;> trivial

/- An accepted update consumes its result. -/
theorem LedgerStep.updateAccepted
    (hStep : LedgerStep H config call l l')
    (hUpdate :
      call.instruction.defaultUpdate = some request) :
    ∃ key result identity updated updateConfig,
      UpdateAccepted H config call l request key result
          identity updated updateConfig ∧
        l' =
          (l.closeAt key.address).setIdentity
            request.authority.key (some updated) := by
  have hFacts := hStep.facts
  rcases Instruction.defaultUpdate_eq_some hUpdate with
    ⟨commitment, hInstruction⟩ | hInstruction
  · rw [hInstruction] at hFacts
    exact hFacts
  · rw [hInstruction] at hFacts
    exact hFacts

/- So does one of the request-bound build. -/
theorem LedgerStep.boundUpdateAccepted
    (hStep : LedgerStep H config call l l')
    (hUpdate : call.instruction.boundUpdate = some request) :
    ∃ key result counter identity updated,
      BoundUpdateAccepted H call l request key result counter
          identity ∧
        l' =
          ((l.advance request.authority.key).closeAt
            key.boundAddress).setIdentity
              request.authority.key (some updated) := by
  have hFacts := hStep.facts
  rw [Instruction.boundUpdate_eq_some hUpdate] at hFacts
  exact hFacts

end Entros
