import Entros.System.LedgerStep

/-
  The instructions of entros-verifier as steps of the ledger.

  Key theorems include:
    * `verifyAndStore_spec`
    * `verifyProofBound_step`
    * `verifier_step`
-/

------------------------------------------------------------
-- Challenges and Closing
------------------------------------------------------------

namespace Entros

open Foundations
open Anchor

namespace Verifier

variable {H : Host} {w w' : World}

theorem createChallenge_accounts
    {now : Int64}
    {challenger : Signer}
    {nonce : Bytes 32}
    (hCreate :
      createChallenge H w now challenger nonce = .ok w') :
    ∃ account,
      w'.accounts =
        Function.update w.accounts
          (H.findProgramAddress
            (.challenge challenger.key nonce))
          account := by
  simp only [createChallenge, bind_eq_ok, require_eq_ok,
    okOr_eq_ok] at hCreate
  rcases hCreate with
    ⟨created, hCreated, _, _, expiresAt, _, hSave⟩
  rcases World.createAccount_eq_ok hCreated with
    ⟨_, hAccounts, _⟩
  have hAccount := congrFun hAccounts
    (H.findProgramAddress (.challenge challenger.key nonce))
  rw [World.setAccount_accounts, Function.update_self]
    at hAccount
  have hWritten := World.saveAccount_accounts hSave hAccount
    (List.length_replicate.trans Challenge.width_eq.symm)
  rw [hAccounts, World.setAccount_accounts,
    Function.update_idem] at hWritten
  exact ⟨_, hWritten⟩

/- All three closing instructions close a verifier account. -/
theorem closeChallenge_spec
    {challenger : Signer}
    {address : Address}
    (hClose :
      closeChallenge H w challenger address = .ok w') :
    (w.accounts address).owner = .verifier ∧
      w'.accounts =
        Function.update w.accounts address .vacant := by
  simp only [closeChallenge, bind_eq_ok, require_eq_ok,
    pure_eq_ok] at hClose
  rcases hClose with ⟨challenge, hLoad, _, _, rfl⟩
  exact ⟨(World.loadAccount_eq_ok hLoad).1, rfl⟩

theorem closeVerificationResult_spec
    {verifier : Signer}
    {address : Address}
    (hClose :
      closeVerificationResult H w verifier address =
        .ok w') :
    (w.accounts address).owner = .verifier ∧
      w'.accounts =
        Function.update w.accounts address .vacant := by
  simp only [closeVerificationResult, bind_eq_ok,
    require_eq_ok, pure_eq_ok] at hClose
  rcases hClose with ⟨result, hLoad, _, _, rfl⟩
  exact ⟨(World.loadAccount_eq_ok hLoad).1, rfl⟩

theorem closeBoundVerificationResult_spec
    {verifier : Signer}
    {nonce : Bytes 32}
    {address : Address}
    (hClose :
      closeBoundVerificationResult H w verifier nonce
        address = .ok w') :
    (w.accounts address).owner = .verifier ∧
      w'.accounts =
        Function.update w.accounts address .vacant := by
  simp only [closeBoundVerificationResult, bind_eq_ok,
    require_eq_ok, pure_eq_ok] at hClose
  rcases hClose with ⟨result, hLoad, _, _, _, _, rfl⟩
  exact ⟨(World.loadAccount_eq_ok hLoad).1, rfl⟩

end Verifier

end Entros

------------------------------------------------------------
-- Default Build
------------------------------------------------------------

namespace Entros

open Foundations
open Anchor

namespace Verifier

variable {H : Host} {w w' : World}

/- Inputs whose bounds decode are the compact ones. -/
theorem eq_compactInputs
    {inputs : PublicInputs}
    {threshold minDistance : UInt16}
    (hThreshold :
      decodeU16FromFieldElement (inputs.get 2) =
        .ok threshold)
    (hMinDistance :
      decodeU16FromFieldElement (inputs.get 3) =
        .ok minDistance) :
    inputs =
      compactInputs inputs.commitmentNew
        inputs.commitmentPrev threshold minDistance := by
  have hTwo := eq_encodeU16FieldElement hThreshold
  have hThree := eq_encodeU16FieldElement hMinDistance
  apply List.Vector.ext
  intro i
  match i with
  | 0 => rfl
  | 1 => rfl
  | 2 => exact hTwo
  | 3 => exact hThree

/- What `verify_and_store` checks, and what it stores. -/
theorem verifyAndStore_spec
    {now : Int64}
    {proof : DefaultProof}
    (hVerify :
      verifyAndStore H w now proof.verifier proof.proofBytes
        proof.publicInputs proof.nonce = .ok w')
    (hCreated :
      w.accounts (proof.key H).address =
        { owner := .verifier
          data :=
            List.replicate VerificationResult.len 0 }) :
    ∃ threshold minDistance,
      H.requestBound = false ∧
        proof.nonce ≠ Bytes.zero 32 ∧
          proof.publicInputs =
            compactInputs proof.publicInputs.commitmentNew
              proof.publicInputs.commitmentPrev threshold
              minDistance ∧
            validateHammingBounds threshold minDistance =
              .ok () ∧
              groth16VerifyProof H proof.proofBytes
                proof.publicInputs = .ok () ∧
                w'.accounts =
                  Function.update w.accounts
                    (proof.key H).address
                    (resultAccount H
                      (some (proof.record H now threshold
                        minDistance))) := by
  simp only [verifyAndStore, bind_eq_ok, require_eq_ok]
    at hVerify
  rcases hVerify with
    ⟨_, hBuild, _, hNonce, _, _, _, _, threshold,
      hThreshold, minDistance, hMinDistance, ⟨⟩, hBounds,
      ⟨⟩, hProof, hSave⟩
  have hWritten := World.saveAccount_accounts hSave hCreated
    (List.length_replicate.trans
      VerificationResult.width_eq.symm)
  exact ⟨threshold, minDistance, hBuild, hNonce,
    eq_compactInputs hThreshold hMinDistance, hBounds,
    hProof, hWritten⟩

/-
  A proof that is accepted: `init` creates the result
  account, which `verify_and_store` fills.
-/
theorem defaultProof_step
    {config : Account}
    {call : Call H}
    {l : Ledger}
    {created : World}
    {proof : DefaultProof}
    (hRep : Represents H w.accounts l)
    (hInstruction :
      call.instruction.defaultProof = some proof)
    (hCreate :
      w.createAccount H (walletAddress proof.verifier)
        (proof.key H).address VerificationResult.len
        .verifier = .ok created)
    (hVerify :
      verifyAndStore H created call.now proof.verifier
        proof.proofBytes proof.publicInputs proof.nonce =
          .ok w') :
    ∃ l', LedgerStep H config call l l' ∧
      Represents H w'.accounts l' := by
  rcases World.createAccount_eq_ok hCreate with
    ⟨hVacant, hAccounts, _⟩
  rw [World.setAccount_accounts] at hAccounts
  have hCreated := congrFun hAccounts (proof.key H).address
  rw [Function.update_self] at hCreated
  rcases verifyAndStore_spec hVerify hCreated with
    ⟨threshold, minDistance, hBuild, hNonce, hInputs,
      hBounds, hProof, hWritten⟩
  have hNone : l.result (proof.key H) = none := by
    rw [hRep.result] at hVacant
    exact (storedAccount_eq_vacant_iff (by decide)).mp
      hVacant
  refine ⟨_, .verify proof threshold minDistance
    hInstruction hBuild hNonce hInputs hBounds hProof hNone,
    ?_⟩
  rw [hWritten, hAccounts, Function.update_idem]
  exact hRep.setResult (proof.key H) _

end Verifier

end Entros

------------------------------------------------------------
-- Request-Bound Build
------------------------------------------------------------

namespace Entros

open Foundations
open Anchor

namespace Verifier

variable {H : Host} {w w' : World}

/- The raw reads of a stored identity return its fields. -/
theorem readIdentityFields_serialized
    {identity : IdentityState}
    {wallet : Pubkey}
    {prev : Bytes 32}
    {fields : IdentityFields}
    (hRead :
      readIdentityFields H
        (serialized H IdentityState.accountName identity)
        wallet prev = .ok fields) :
    identity.owner = wallet ∧
      identity.currentCommitment = prev ∧
        fields =
          { mint := identity.mint
            projection := identity.projectionVersion } := by
  simp only [readIdentityFields, bind_eq_ok, require_eq_ok,
    readField_eq_ok, pure_eq_ok] at hRead
  rcases hRead with
    ⟨_, ⟨_, _, hOwner, hPrev, _⟩, mint, hMint, _, _,
      projection, hProjection, rfl⟩
  simp [IdentityState.serialized_eq, IdentityState.fields]
    at hOwner hPrev hMint hProjection
  rw [hOwner, hPrev, hMint, hProjection]
  exact ⟨rfl, rfl, rfl⟩

/- An identity account of the anchor program is stored. -/
theorem exists_identity
    {l : Ledger}
    {wallet : Pubkey}
    (hRep : Represents H w.accounts l)
    (hOwner :
      (w.accounts (identityAddress H wallet)).owner =
        .anchor) :
    ∃ identity,
      l.identity wallet = some identity ∧
        (w.accounts (identityAddress H wallet)).data =
          serialized H IdentityState.accountName
            identity := by
  rw [hRep.identity] at hOwner ⊢
  rcases exists_of_owner (by decide) hOwner with
    ⟨identity, hIdentity⟩
  refine ⟨identity, hIdentity, ?_⟩
  rw [hIdentity]
  rfl

/- The counter read from an account is the stored one. -/
theorem counter_of_readCounter
    {l : Ledger}
    {wallet : Pubkey}
    {counter : UInt64}
    (hRep : Represents H w.accounts l)
    (hOwner :
      (w.accounts (requestAddress H wallet)).owner = .anchor)
    (hRead :
      readCounter H
        (w.accounts (requestAddress H wallet)).data wallet
        (requestBump H wallet) = some counter) :
    l.counter wallet = some counter := by
  rw [hRep.counter] at hOwner hRead
  cases hCounter : l.counter wallet with
  | none =>
      rw [hCounter] at hOwner
      cases hOwner
  | some stored =>
      rw [hCounter] at hRead
      have hStored := readCounter_serialized
        (H := H) (requestState H wallet stored) wallet
        (requestBump H wallet)
      rw [if_pos ⟨rfl, rfl, rfl⟩] at hStored
      exact hStored.symm.trans hRead

/- A bound proof that is accepted. -/
theorem verifyProofBound_step
    {config : Account}
    {call : Call H}
    {l : Ledger}
    {proof : BoundProof}
    (hRep : Represents H w.accounts l)
    (hInstruction : call.instruction = proof.instruction)
    (hVerify :
      verifyProofBound H w call.now proof.verifier
        proof.nonce proof.proof proof.commitmentNew
        proof.commitmentPrev proof.threshold
        proof.minDistance proof.validUntil = .ok w') :
    ∃ l', LedgerStep H config call l l' ∧
      Represents H w'.accounts l' := by
  simp only [verifyProofBound, bind_eq_ok, require_eq_ok,
    okOr_eq_ok] at hVerify
  rcases hVerify with
    ⟨created, hCreate, _, hIdentityOwner, _, hRequestOwner,
      _, hBuild, _, hNonce, ⟨⟩, hLifetime, ⟨⟩, hBounds, _,
      _, fields, hFields, counter, hCounter, digest,
      hDigest, _, hProof, hSave⟩
  rcases World.createAccount_eq_ok hCreate with
    ⟨hVacant, hAccounts, _⟩
  rw [World.setAccount_accounts] at hAccounts
  have hCreated := congrFun hAccounts
    (boundResultAddress H proof.verifier.key proof.nonce)
  rw [Function.update_self] at hCreated
  have hIdentityAccount :
      created.accounts
          (identityAddress H proof.verifier.key) =
        w.accounts
          (identityAddress H proof.verifier.key) := by
    rw [hAccounts, Function.update_of_ne]
    simp [identityAddress, boundResultAddress,
      Host.findProgramAddress]
  have hRequestAccount :
      created.accounts
          (requestAddress H proof.verifier.key) =
        w.accounts
          (requestAddress H proof.verifier.key) := by
    rw [hAccounts, Function.update_of_ne]
    simp [requestAddress, boundResultAddress,
      Host.findProgramAddress]
  have hIdentityOwner' := hIdentityAccount ▸ hIdentityOwner
  rcases exists_identity hRep hIdentityOwner' with
    ⟨identity, hIdentity, hData⟩
  have hFields' := hFields
  rw [← identityAddress, hIdentityAccount, hData] at hFields'
  rcases readIdentityFields_serialized hFields' with
    ⟨_, hPrev, rfl⟩
  have hStored := counter_of_readCounter hRep
    (hRequestAccount ▸ hRequestOwner)
    (hRequestAccount ▸ hCounter)
  have hNone : l.bound (proof.key H) = none := by
    have hBound := hRep.bound (proof.key H)
    rw [show w.accounts (proof.key H).boundAddress =
      .vacant from hVacant] at hBound
    exact (storedAccount_eq_vacant_iff (by decide)).mp
      hBound.symm
  have hWritten := World.saveAccount_accounts hSave hCreated
    (List.length_replicate.trans
      BoundVerificationResult.width_eq.symm)
  refine ⟨_, .verifyBound proof identity counter digest
    hInstruction hBuild hNonce hLifetime hBounds hIdentity
    hPrev hStored hDigest hProof hNone, ?_⟩
  rw [hWritten, hAccounts, Function.update_idem]
  exact hRep.setBound (proof.key H) _

end Verifier

end Entros

------------------------------------------------------------
-- All Instructions
------------------------------------------------------------

namespace Entros

open Foundations
open Anchor

/- Every call of the verifier is a step of the ledger. -/
theorem verifier_step
    {H : Host}
    {w w' : World}
    {config : Account}
    {call : Call H}
    {l : Ledger}
    {instruction : VerifierInstruction}
    (hRep : Represents H w.accounts l)
    (hInstruction :
      call.instruction = .verifier instruction)
    (hExecute :
      instruction.execute H call.now w = .ok w') :
    ∃ l', LedgerStep H config call l l' ∧
      Represents H w'.accounts l' := by
  cases instruction with
  | createChallenge challenger nonce =>
      rcases Verifier.createChallenge_accounts hExecute with
        ⟨account, hAccounts⟩
      refine ⟨l, .idle (hInstruction ▸ .challenge _ _), ?_⟩
      rw [hAccounts]
      apply hRep.update_other
      intro seeds bump hDescribed
      cases hDescribed <;> simp [Host.findProgramAddress]
  | closeChallenge challenger address =>
      rcases Verifier.closeChallenge_spec hExecute with
        ⟨hOwner, hAccounts⟩
      refine ⟨_, .close address
        (hInstruction ▸ .challenge _ _), ?_⟩
      rw [hAccounts]
      exact hRep.closeAt hOwner
  | verifyProof verifier proofBytes publicInputs nonce =>
      simp only [VerifierInstruction.execute,
        Verifier.verifyProof, bind_eq_ok] at hExecute
      rcases hExecute with
        ⟨created, hCreate, inputs, hInputs, hVerify⟩
      have hProof :
          call.instruction.defaultProof =
            some { verifier := verifier
                   nonce := nonce
                   proofBytes := proofBytes
                   publicInputs := inputs } := by
        simp only [hInstruction, Instruction.defaultProof,
          hInputs]
      exact Verifier.defaultProof_step hRep hProof hCreate
        hVerify
  | verifyProofCompact verifier nonce proofBytes new prev
      threshold minDistance =>
      simp only [VerifierInstruction.execute,
        Verifier.verifyProofCompact, bind_eq_ok] at hExecute
      rcases hExecute with ⟨created, hCreate, hVerify⟩
      have hProof :
          call.instruction.defaultProof =
            some { verifier := verifier
                   nonce := nonce
                   proofBytes := proofBytes.toList
                   publicInputs :=
                    Verifier.compactInputs new prev
                      threshold minDistance } := by
        simp only [hInstruction, Instruction.defaultProof]
      exact Verifier.defaultProof_step hRep hProof hCreate
        hVerify
  | verifyProofBound verifier nonce proof new prev threshold
      minDistance validUntil =>
      let request : BoundProof :=
        { verifier := verifier
          nonce := nonce
          proof := proof
          commitmentNew := new
          commitmentPrev := prev
          threshold := threshold
          minDistance := minDistance
          validUntil := validUntil }
      have hRequest :
          call.instruction = request.instruction :=
        hInstruction
      exact Verifier.verifyProofBound_step hRep hRequest
        hExecute
  | closeVerificationResult verifier address =>
      rcases Verifier.closeVerificationResult_spec hExecute
        with ⟨hOwner, hAccounts⟩
      refine ⟨_, .close address
        (hInstruction ▸ .result _ _), ?_⟩
      rw [hAccounts]
      exact hRep.closeAt hOwner
  | closeBoundVerificationResult verifier nonce address =>
      rcases Verifier.closeBoundVerificationResult_spec
        hExecute with ⟨hOwner, hAccounts⟩
      refine ⟨_, .close address
        (hInstruction ▸ .bound _ _ _), ?_⟩
      rw [hAccounts]
      exact hRep.closeAt hOwner

end Entros
