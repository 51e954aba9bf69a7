import Entros.System.AnchorEffects

/-
  Updates of identities as steps of the ledger, in both
  builds.

  Key theorems include:
    * `readVerificationResult_spec`
    * `consumeBoundResult_spec`
    * `processAnchorUpdate_step`
    * `processAnchorUpdate_bound_step`
-/

------------------------------------------------------------
-- Updates
------------------------------------------------------------

namespace Entros

open Foundations

namespace Anchor

variable {H : Host} {w w' : World}
variable {config : Account} {call : Call H} {l : Ledger}

/-
  The raw reads of a stored result return its fields.  The
  address is recomputed from the nonce and the bump that the
  account itself stores.
-/
theorem readVerificationResult_spec
    {now : Int64}
    {authority : Signer}
    {address : Address}
    {transition : ProofTransition}
    (hRep : Represents H w.accounts l)
    (hRead :
      readVerificationResult H w now authority address =
        .ok transition) :
    ∃ key result,
      key.address = address ∧ l.result key = some result ∧
        result.verifier = authority.key ∧
          result.verifiedAt ≤ now ∧
            saturatingSub now result.verifiedAt ≤
              maxProofAgeSecs ∧
              transition =
                { commitmentNew := result.commitmentNew
                  commitmentPrev := result.commitmentPrev
                  boundNonce := none } := by
  simp only [readVerificationResult, bind_eq_ok,
    require_eq_ok, readField_eq_ok, readSlice_eq_ok,
    pure_eq_ok] at hRead
  rcases hRead with
    ⟨_, _, _, hOwner, _, _, _, _, _, _, verifier, hVerifier,
      _, hSigner, nonce, _, _, _, bump, _, _, hAddress,
      verifiedAt, hVerifiedAt, _, hPast, _, hFresh, new,
      hNew, prev, hPrev, rfl⟩
  have hKey :
      address =
        ResultKey.address
          { verifier := authority.key
            nonce := nonce
            bump := bump } :=
    Host.createProgramAddress_eq_some H hAddress
  subst hKey
  rw [hRep.result] at hOwner hVerifier hVerifiedAt hNew hPrev
  rcases exists_of_owner (by decide) hOwner with
    ⟨result, hResult⟩
  rw [hResult] at hVerifier hVerifiedAt hNew hPrev
  simp [resultAccount, storedAccount,
    VerificationResult.serialized_eq,
    VerificationResult.fields, vrOffsetVerifier,
    vrOffsetVerifiedAt, vrOffsetCommitmentNew,
    vrOffsetCommitmentPrev]
    at hVerifier hVerifiedAt hNew hPrev
  subst hVerifier hVerifiedAt hNew hPrev
  exact ⟨_, result, rfl, hResult, hSigner, hPast, hFresh,
    rfl⟩

/- The typed read of a stored bound result returns it. -/
theorem loadBoundResult_spec
    {key : ResultKey}
    {result : BoundVerificationResult}
    (hRep : Represents H w.accounts l)
    (hLoad :
      loadBoundResult H w key.boundAddress = .ok result) :
    l.bound key = some result := by
  simp only [loadBoundResult, bind_eq_ok, require_eq_ok,
    remapError_eq_ok] at hLoad
  rcases hLoad with ⟨_, _, _, hOwner, _, _, hRead⟩
  rw [hRep.bound] at hOwner hRead
  rcases exists_of_owner (by decide) hOwner with
    ⟨stored, hStored⟩
  rw [hStored] at hRead
  rw [hStored, eq_of_tryDeserialize_stored hRead]

/-
  What the request-bound build checks before it consumes a
  result, and the counter it leaves behind.
-/
theorem consumeBoundResult_spec
    {now : Int64}
    {authority : Signer}
    {identity : IdentityState}
    {address : Address}
    {consumed : World × ProofTransition}
    (hRep : Represents H w.accounts l)
    (hConsume :
      consumeBoundResult H w now authority identity
        address = .ok consumed) :
    ∃ key result counter,
      key.boundAddress = address ∧
        l.bound key = some result ∧
          l.counter authority.key = some counter ∧
            result.wallet = authority.key ∧
              result.counter = counter ∧
                checkBoundExpiry now result = .ok () ∧
                  recomputedDigest H authority.key identity
                      counter result =
                    some result.requestDigest ∧
                    l.CanAdvance authority.key ∧
                      consumed.1.accounts =
                        Function.update w.accounts
                          (requestAddress H authority.key)
                          (requestAccount H authority.key
                            (some (nextCounter
                              (l.counter
                                authority.key)))) ∧
                        consumed.2 =
                          { commitmentNew :=
                              result.commitmentNew
                            commitmentPrev :=
                              result.commitmentPrev
                            boundNonce :=
                              some result.nonce } := by
  simp only [consumeBoundResult, bind_eq_ok, require_eq_ok,
    okOr_eq_ok, writeField_eq_ok, pure_eq_ok] at hConsume
  rcases hConsume with
    ⟨_, _, result, hLoad, _, hRequestOwner, counter,
      hCounter, _, ⟨_, hWallet, hStamp, _⟩, _, hAddress,
      ⟨⟩, hExpiry, digest, hDigest, _, hMatch, next, hNext,
      data, ⟨_, hData⟩, rfl⟩
  have hKey :
      address =
        ResultKey.boundAddress
          { verifier := authority.key
            nonce := result.nonce
            bump := result.bump } :=
    Host.createProgramAddress_eq_some H hAddress
  subst hKey
  have hStored := Verifier.counter_of_readCounter hRep
    hRequestOwner hCounter
  have hAccount := hRep.counter authority.key
  rw [hStored] at hAccount
  unfold checkedAdd64 at hNext
  split_ifs at hNext with hFit
  have hAdvance : l.CanAdvance authority.key := by
    rw [Ledger.CanAdvance, hStored]
    exact hFit
  rw [← hMatch] at hDigest
  refine ⟨_, result, counter, rfl,
    loadBoundResult_spec hRep hLoad, hStored, hWallet,
    hStamp, hExpiry, hDigest, hAdvance, ?_, rfl⟩
  rw [hAccount] at hData
  rw [World.setData_accounts, hAccount, ← hData, hStored,
    nextCounter, Option.getD_some, Option.some.inj hNext]
  exact congrArg (Function.update w.accounts _)
    (congrArg (Account.mk .anchor)
      (splice_counter_serialized
        (requestState H authority.key counter) next))

/- The commitments an accepted transition links. -/
theorem checkTransition_spec
    {transition : ProofTransition}
    {expected : Option (Bytes 32)}
    {currentCommitment : Bytes 32}
    (hCheck :
      checkTransition transition expected
        currentCommitment = .ok ()) :
    transition.commitmentNew ≠ Bytes.zero 32 ∧
      transition.commitmentPrev = currentCommitment ∧
        transition.commitmentNew ≠
          transition.commitmentPrev := by
  simp only [checkTransition, bind_eq_ok, require_eq_ok]
    at hCheck
  rcases hCheck with ⟨_, hNew, _, _, _, hPrev, hChanged⟩
  exact ⟨hNew, hPrev, hChanged⟩

/- An update of the default build. -/
theorem processAnchorUpdate_step
    {request : UpdateCall}
    {expected : Option (Bytes 32)}
    (hRep : Represents H w.accounts l)
    (hInstruction :
      call.instruction.defaultUpdate = some request)
    (hUpdate :
      processAnchorUpdate call.tx w call.now
        request.authority request.verificationResult
        request.receipt expected false = .ok w') :
    ∃ l', LedgerStep H (protocolConfig H w) call l l' ∧
      Represents H w'.accounts l' := by
  simp only [processAnchorUpdate, bind_eq_ok, require_eq_ok]
    at hUpdate
  rcases hUpdate with
    ⟨_, hBuild, opened, hOpen, ⟨⟩, _, updateConfig, hConfig,
      consumed, hConsume, ⟨⟩, hTransition, session, hReceipt,
      _, hUnused, closed, hClose, updated, hUpdated, written,
      hWrite, hPay⟩
  rcases openIdentity_spec hOpen
      (hRep.identity request.authority.key) with
    ⟨hSame, hIdentity, hOwner⟩
  rw [hSame] at hConfig hConsume
  simp only [consumeProof, Bool.false_eq_true, if_false,
    bind_eq_ok, pure_eq_ok] at hConsume
  rcases hConsume with ⟨transition, hRead, rfl⟩
  rcases readVerificationResult_spec hRep hRead with
    ⟨key, result, hAddress, hResult, hVerifier, hPast,
      hFresh, rfl⟩
  rcases checkTransition_spec hTransition with
    ⟨hNew, hPrev, hChanged⟩
  rcases Verifier.closeVerificationResult_spec hClose with
    ⟨hClosedOwner, hClosed⟩
  rw [← hAddress] at hClosedOwner hClosed
  have hRepClosed := hRep.closeAt hClosedOwner
  rw [← hClosed] at hRepClosed
  have hStored := hRepClosed.identity request.authority.key
  rw [Ledger.closeAt_identity, hIdentity] at hStored
  have hWritten := writeIdentity_accounts hWrite hStored
  refine ⟨_, .update request key result opened.2 updated
    updateConfig session hInstruction hBuild.symm hIdentity
    hOwner hConfig hAddress hResult hVerifier hPast hFresh
    hNew hPrev hChanged hReceipt hUnused hUpdated, ?_⟩
  rw [payFee_accounts hPay, hWritten]
  exact hRepClosed.setIdentity request.authority.key
    (some updated)

/- An update of the request-bound build. -/
theorem processAnchorUpdate_bound_step
    {request : UpdateCall}
    (hRep : Represents H w.accounts l)
    (hInstruction :
      call.instruction =
        .anchor (.updateAnchorBound request.authority
          request.verificationResult request.receipt))
    (hUpdate :
      processAnchorUpdate call.tx w call.now
        request.authority request.verificationResult
        request.receipt none true = .ok w') :
    ∃ l', LedgerStep H (protocolConfig H w) call l l' ∧
      Represents H w'.accounts l' := by
  simp only [processAnchorUpdate, bind_eq_ok, require_eq_ok]
    at hUpdate
  rcases hUpdate with
    ⟨_, hBuild, opened, hOpen, ⟨⟩, _, updateConfig, hConfig,
      consumed, hConsume, ⟨⟩, hTransition, session, hReceipt,
      _, hUnused, closed, hClose, updated, hUpdated, written,
      hWrite, hPay⟩
  rcases openIdentity_spec hOpen
      (hRep.identity request.authority.key) with
    ⟨hSame, hIdentity, hOwner⟩
  rw [hSame] at hConfig hConsume
  simp only [consumeProof, if_true] at hConsume
  rcases consumeBoundResult_spec hRep hConsume with
    ⟨key, result, counter, hAddress, hResult, hCounter,
      hWallet, hStamp, hExpiry, hDigest, hAdvance, hAccounts,
      hTransitionEq⟩
  rw [hTransitionEq] at hTransition hReceipt hClose hUpdated
  rcases checkTransition_spec hTransition with
    ⟨hNew, hPrev, hChanged⟩
  rcases Verifier.closeBoundVerificationResult_spec hClose
    with ⟨hClosedOwner, hClosed⟩
  rw [← hAddress, hAccounts] at hClosedOwner
  rw [← hAddress, hAccounts] at hClosed
  have hRepClosed :=
    (hRep.setCounter request.authority.key _).closeAt
      hClosedOwner
  rw [← hClosed] at hRepClosed
  have hStored := hRepClosed.identity request.authority.key
  rw [Ledger.closeAt_identity, Ledger.setCounter_identity,
    hIdentity] at hStored
  have hWritten := writeIdentity_accounts hWrite hStored
  refine ⟨_, .updateBound request key result counter
    opened.2 updated updateConfig session hInstruction
    hBuild.symm hIdentity hOwner hConfig hAddress hResult
    hCounter hWallet hStamp hExpiry hDigest hAdvance hNew
    hPrev hChanged hReceipt hUnused hUpdated, ?_⟩
  rw [payFee_accounts hPay, hWritten]
  exact hRepClosed.setIdentity request.authority.key
    (some updated)

end Anchor

end Entros
