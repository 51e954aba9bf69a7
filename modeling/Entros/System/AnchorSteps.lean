import Entros.System.LifecycleSteps
import Entros.System.UpdateSteps

/-
  All instructions of entros-anchor as steps of the ledger.

  Key theorems include:
    * `prepareProofRequest_step`
    * `upgradeIdentityLayout_accounts`
    * `anchor_step`
-/

------------------------------------------------------------
-- Remaining Instructions
------------------------------------------------------------

namespace Entros

open Foundations

namespace Anchor

variable {H : Host} {w w' : World}
variable {config : Account} {call : Call H} {l : Ledger}

/- Preparing a counter keeps the value it already has. -/
theorem prepareProofRequest_step
    {authority : Signer}
    (hRep : Represents H w.accounts l)
    (hInstruction :
      call.instruction =
        .anchor (.prepareProofRequest authority))
    (hPrepare :
      prepareProofRequest H w authority = .ok w') :
    ∃ l', LedgerStep H config call l l' ∧
      Represents H w'.accounts l' := by
  simp only [prepareProofRequest, bind_eq_ok, require_eq_ok]
    at hPrepare
  rcases hPrepare with
    ⟨opened, hOpen, _, hBuild, state, hState, _, _, hSave⟩
  refine ⟨_, .prepare authority hInstruction hBuild, ?_⟩
  have hStored := hRep.counter authority.key
  unfold openProofRequestState at hOpen
  cases hCounter : l.counter authority.key with
  | none =>
      rw [hCounter] at hStored
      have hSystem :
          (w.accounts (requestAddress H
            authority.key)).owner = .system := by
        rw [hStored]
        rfl
      rw [if_pos hSystem] at hOpen
      simp only [bind_eq_ok, pure_eq_ok] at hOpen
      rcases hOpen with ⟨created, hCreate, rfl⟩
      have hCreated :=
        (World.createAccount_eq_ok hCreate).2.1
      rw [World.setAccount_accounts] at hCreated
      have hZeros :=
        congrFun hCreated (requestAddress H authority.key)
      rw [Function.update_self] at hZeros
      have hFresh :
          state = requestState H authority.key 0 :=
        (Except.ok.inj hState).symm
      rw [World.saveAccount_accounts hSave hZeros
          (List.length_replicate.trans
            ProofRequestState.width_eq.symm),
        hCreated, Function.update_idem, hFresh]
      exact hRep.setCounter authority.key 0
  | some counter =>
      rw [hCounter] at hStored
      have hAnchor :
          (w.accounts (requestAddress H
            authority.key)).owner ≠ .system := by
        rw [hStored]
        simp [requestAccount, storedAccount]
      rw [if_neg hAnchor] at hOpen
      simp only [bind_eq_ok, require_eq_ok, pure_eq_ok]
        at hOpen
      rcases hOpen with ⟨read, hLoad, _, _, rfl⟩
      have hRead := (World.loadAccount_eq_ok hLoad).2
      rw [hStored] at hRead
      have hSame :
          requestState H authority.key counter = read :=
        eq_of_tryDeserialize_stored hRead
      subst hSame
      have hKept :
          state = requestState H authority.key counter :=
        (Except.ok.inj hState).symm
      rw [World.saveAccount_accounts hSave hStored
          (length_serialized _), hKept]
      exact hRep.setCounter authority.key counter

/- A stored identity already has the current layout. -/
theorem upgradeIdentityLayout_accounts
    {authority : Signer}
    (hRep : Represents H w.accounts l)
    (hUpgrade :
      upgradeIdentityLayout H w authority = .ok w') :
    w'.accounts = w.accounts := by
  simp only [upgradeIdentityLayout, bind_eq_ok,
    require_eq_ok] at hUpgrade
  rcases hUpgrade with
    ⟨_, hOwner, _, _, ⟨⟩, _, hExtend⟩
  rcases Verifier.exists_identity hRep hOwner with
    ⟨identity, _, hData⟩
  have hLength :
      (w.accounts (identityAddress H
        authority.key)).data.length = IdentityState.len := by
    rw [hData]
    exact length_serialized identity
  rw [extendIdentity, if_pos hLength] at hExtend
  rw [Except.ok.inj hExtend]

/- A baseline is stored apart from the ledger. -/
theorem setEncryptedBaseline_accounts
    {authority : Signer}
    {blob : Bytes 96}
    (hSet :
      setEncryptedBaseline H w authority blob = .ok w') :
    ∃ account,
      w'.accounts =
        Function.update w.accounts
          (baselineAddress H authority.key) account := by
  simp only [setEncryptedBaseline, bind_eq_ok,
    require_eq_ok] at hSet
  rcases hSet with ⟨opened, hOpen, _, _, hSave⟩
  have hOpened :
      ∃ account,
        opened.accounts =
          Function.update w.accounts
            (baselineAddress H authority.key) account := by
    unfold openEncryptedBaseline at hOpen
    dsimp only at hOpen
    split_ifs at hOpen
    · exact ⟨_, (World.createAccount_eq_ok hOpen).2.1⟩
    · simp only [bind_eq_ok, require_eq_ok, pure_eq_ok]
        at hOpen
      rcases hOpen with ⟨_, _, _, _, rfl⟩
      exact ⟨_, (Function.update_eq_self _ _).symm⟩
  rcases hOpened with ⟨account, hAccount⟩
  simp only [World.saveAccount, bind_eq_ok, pure_eq_ok]
    at hSave
  rcases hSave with ⟨data, _, rfl⟩
  rw [World.setData_accounts, hAccount, Function.update_idem]
  exact ⟨_, rfl⟩

end Anchor

end Entros

------------------------------------------------------------
-- All Instructions
------------------------------------------------------------

namespace Entros

open Foundations
open Anchor

/- Every call of entros-anchor is a step of the ledger. -/
theorem anchor_step
    {H : Host}
    {w w' : World}
    {call : Call H}
    {l : Ledger}
    {instruction : AnchorInstruction}
    (hRep : Represents H w.accounts l)
    (hInstruction :
      call.instruction = .anchor instruction)
    (hExecute :
      instruction.execute call.now call.tx w = .ok w') :
    ∃ l', LedgerStep H (protocolConfig H w) call l l' ∧
      Represents H w'.accounts l' := by
  cases instruction with
  | prepareProofRequest authority =>
      exact prepareProofRequest_step hRep hInstruction
        hExecute
  | upgradeIdentityLayout authority =>
      refine ⟨l, .idle (hInstruction ▸ .layout _), ?_⟩
      rw [upgradeIdentityLayout_accounts hRep hExecute]
      exact hRep
  | mintAnchor user remainingAccounts commitment =>
      exact mintAnchor_step hRep hInstruction hExecute
  | authorizeNewWallet signer signerNew =>
      exact authorizeNewWallet_step hRep hInstruction
        hExecute
  | migrateIdentity user walletOld remainingAccounts =>
      exact migrateIdentity_step hRep hInstruction hExecute
  | updateAnchor authority verificationResult newCommitment
      receipt =>
      simp only [AnchorInstruction.execute, updateAnchor,
        bind_eq_ok, require_eq_ok] at hExecute
      rcases hExecute with ⟨_, _, hUpdate⟩
      let request : UpdateCall :=
        { authority := authority
          verificationResult := verificationResult
          receipt := receipt }
      have hRequest :
          call.instruction.defaultUpdate = some request := by
        rw [hInstruction]
        rfl
      exact processAnchorUpdate_step hRep hRequest hUpdate
  | updateAnchorCompact authority verificationResult
      receipt =>
      let request : UpdateCall :=
        { authority := authority
          verificationResult := verificationResult
          receipt := receipt }
      have hRequest :
          call.instruction.defaultUpdate = some request := by
        rw [hInstruction]
        rfl
      exact processAnchorUpdate_step hRep hRequest hExecute
  | updateAnchorBound authority verificationResult receipt =>
      simp only [AnchorInstruction.execute,
        updateAnchorBound, bind_eq_ok, require_eq_ok]
        at hExecute
      rcases hExecute with ⟨_, _, hUpdate⟩
      let request : UpdateCall :=
        { authority := authority
          verificationResult := verificationResult
          receipt := receipt }
      have hRequest :
          call.instruction =
            .anchor (.updateAnchorBound request.authority
              request.verificationResult
              request.receipt) :=
        hInstruction
      exact processAnchorUpdate_bound_step hRep hRequest
        hUpdate
  | resetIdentityState authority remainingAccounts commitment
      projectionVersion =>
      exact resetIdentityState_step hRep hInstruction
        hExecute
  | rebaselineAnchor authority remainingAccounts commitment
      projectionVersion =>
      exact rebaselineAnchor_step hRep hInstruction hExecute
  | setEncryptedBaseline authority blob =>
      rcases setEncryptedBaseline_accounts hExecute with
        ⟨account, hAccounts⟩
      refine ⟨l, .idle (hInstruction ▸ .baseline _ _), ?_⟩
      rw [hAccounts]
      apply hRep.update_other
      intro seeds bump hDescribed
      cases hDescribed <;>
        simp [baselineAddress, Host.findProgramAddress]

end Entros
