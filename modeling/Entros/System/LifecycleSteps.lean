import Entros.System.AnchorEffects

/-
  Minting, authorising, migrating, resetting and rebaselining
  identities as steps of the ledger.

  Key theorems include:
    * `mintAnchor_step`
    * `authorizeNewWallet_step`
    * `migrateIdentity_step`
    * `resetIdentityState_step`
    * `rebaselineAnchor_step`
-/

------------------------------------------------------------
-- Minting and Migration
------------------------------------------------------------

namespace Entros

open Foundations

namespace Anchor

variable {H : Host} {w w' : World}
variable {config : Account} {call : Call H} {l : Ledger}

/-
  A new identity: `init`, the counter, the token and the
  fee come first, and the record is written on exit.
-/
theorem mintAnchor_step
    {user : Signer}
    {remainingAccounts : List AccountMeta}
    {commitment : Bytes 32}
    (hRep : Represents H w.accounts l)
    (hInstruction :
      call.instruction =
        .anchor (.mintAnchor user remainingAccounts
          commitment))
    (hMint :
      mintAnchor call.tx w call.now user remainingAccounts
        commitment = .ok w') :
    ∃ l', LedgerStep H (protocolConfig H w) call l l' ∧
      Represents H w'.accounts l' := by
  simp only [mintAnchor, bind_eq_ok, require_eq_ok] at hMint
  rcases hMint with
    ⟨created, hInit, advanced, hAdvanced, _, hCommitment,
      issued, hIssued, lifecycle, hConfig, session, hReceipt,
      paid, hPaid, hSave⟩
  rcases initIdentity_accounts hInit with
    ⟨hVacant, hCreated⟩
  have hCounter :
      created.accounts (requestAddress H user.key) =
        requestAccount H user.key (l.counter user.key) := by
    rw [hCreated, Function.update_of_ne
      (identityAddress_ne_requestAddress _ _).symm]
    exact hRep.counter user.key
  rcases advanceOnly_accounts hAdvanced hCounter with
    ⟨hAdvance, hAccounts⟩
  rw [hCreated, advancedAccounts_update
    (identityAddress_ne_requestAddress _ _)] at hAccounts
  have hIssue := (issueToken_accounts hIssued).trans hAccounts
  have hPay := (payFee_accounts hPaid).trans hIssue
  have hConfigSame :
      protocolConfig H issued = protocolConfig H w := by
    rw [protocolConfig, hIssue, Function.update_of_ne
        (config_ne_identityAddress _),
      advancedAccounts_of_ne (config_ne_requestAddress _)]
    rfl
  have hZeros := congrFun hPay (identityAddress H user.key)
  rw [Function.update_self] at hZeros
  have hWritten := World.saveAccount_accounts hSave hZeros
    (List.length_replicate.trans
      IdentityState.width_eq.symm)
  rw [hPay, Function.update_idem] at hWritten
  have hNone : l.identity user.key = none := by
    rw [hRep.identity] at hVacant
    exact (storedAccount_eq_vacant_iff (by decide)).mp
      hVacant
  rw [hConfigSame] at hConfig
  refine ⟨_, .mint user remainingAccounts commitment lifecycle
    session hInstruction hConfig hReceipt hCommitment hNone
    hAdvance, ?_⟩
  rw [hWritten]
  exact (hRep.advanceIf user.key).setIdentity user.key
    (some _)

theorem authorizeNewWallet_step
    {signer signerNew : Signer}
    (hRep : Represents H w.accounts l)
    (hInstruction :
      call.instruction =
        .anchor (.authorizeNewWallet signer signerNew))
    (hAuthorize :
      authorizeNewWallet H w signer signerNew = .ok w') :
    ∃ l', LedgerStep H config call l l' ∧
      Represents H w'.accounts l' := by
  simp only [authorizeNewWallet, bind_eq_ok] at hAuthorize
  rcases hAuthorize with
    ⟨identity, hLoad, _, _, approved, hApproved, hSave⟩
  have hIdentity := loadIdentity_spec hLoad
    (hRep.identity signer.key)
  have hApprove := World.approve_accounts hApproved
  have hStored :
      approved.accounts (identityAddress H signer.key) =
        identityAccount H (some identity) := by
    rw [hApprove, hRep.identity, hIdentity]
  have hWritten := World.saveAccount_accounts hSave hStored
    (length_serialized identity)
  refine ⟨_, .authorize signer signerNew identity
    hInstruction hIdentity, ?_⟩
  rw [hWritten, hApprove]
  exact hRep.setIdentity signer.key (some _)

/- The accounts after both counters of a migration advance. -/
theorem advanceForMigration_accounts
    {user : Signer}
    {walletOld : Pubkey}
    {identityOld : IdentityState}
    {remainingAccounts : List AccountMeta}
    {counterOld counter : Option UInt64}
    (hAdvance :
      advanceForMigration H w user walletOld identityOld
        remainingAccounts = .ok w')
    (hDistinct : walletOld ≠ user.key)
    (hStoredOld :
      w.accounts (requestAddress H walletOld) =
        requestAccount H walletOld counterOld)
    (hStored :
      w.accounts (requestAddress H user.key) =
        requestAccount H user.key counter) :
    (H.requestBound = true →
        identityOld.owner = walletOld ∧
          (counterOld.getD 0).toNat + 1 < 2 ^ 64 ∧
            (counter.getD 0).toNat + 1 < 2 ^ 64) ∧
      w'.accounts =
        advancedAccounts H
          (advancedAccounts H w.accounts walletOld
            counterOld)
          user.key counter := by
  unfold advanceForMigration at hAdvance
  unfold advancedAccounts
  by_cases hBuild : H.requestBound = true
  · rw [if_pos hBuild] at hAdvance
    rw [if_pos hBuild, if_pos hBuild]
    match remainingAccounts, hAdvance with
    | [stateOld, stateNew], hBoth =>
        simp only [bind_eq_ok, require_eq_ok] at hBoth
        rcases hBoth with
          ⟨_, ⟨hOwner, _⟩, _, _, advanced, hOld, hNew⟩
        rw [hOwner] at hOld
        rcases advance_accounts hOld hStoredOld with
          ⟨hFitOld, hAccountsOld⟩
        have hOther :
            requestAddress H user.key ≠
              requestAddress H walletOld := fun hEq =>
          hDistinct.symm (Seeds.proofRequestState.inj
            (H.findProgramAddress_inj.mp hEq))
        have hStored' :
            advanced.accounts (requestAddress H user.key) =
              requestAccount H user.key counter := by
          rw [hAccountsOld, Function.update_of_ne hOther]
          exact hStored
        rcases advance_accounts hNew hStored' with
          ⟨hFit, hAccounts⟩
        rw [hAccountsOld] at hAccounts
        exact ⟨fun _ => ⟨hOwner, hFitOld, hFit⟩, hAccounts⟩
  · rw [if_neg hBuild] at hAdvance
    rw [if_neg hBuild, if_neg hBuild,
      Except.ok.inj hAdvance]
    exact ⟨fun hTrue => absurd hTrue hBuild, rfl⟩

/-
  A migration.  The source was read before the destination
  was created, so the two wallets are different.
-/
theorem migrateIdentity_step
    {user : Signer}
    {walletOld : Pubkey}
    {remainingAccounts : List AccountMeta}
    (hRep : Represents H w.accounts l)
    (hInstruction :
      call.instruction =
        .anchor (.migrateIdentity user walletOld
          remainingAccounts))
    (hMigrate :
      migrateIdentity H w user walletOld
        remainingAccounts = .ok w') :
    ∃ l', LedgerStep H config call l l' ∧
      Represents H w'.accounts l' := by
  simp only [migrateIdentity, bind_eq_ok, require_eq_ok,
    pure_eq_ok] at hMigrate
  rcases hMigrate with
    ⟨identityOld, hLoad, _, _, created, hInit, advanced,
      hAdvanced, issued, hIssued, _, hAuthorized, fee, _,
      paid, hPaid, burned, hBurned, closed, hClosed, saved,
      hSave, rfl⟩
  have hIdentity := loadIdentity_spec hLoad
    (hRep.identity walletOld)
  rcases initIdentity_accounts hInit with
    ⟨hVacant, hCreated⟩
  have hNone : l.identity user.key = none := by
    rw [hRep.identity] at hVacant
    exact (storedAccount_eq_vacant_iff (by decide)).mp
      hVacant
  have hDistinct : walletOld ≠ user.key := by
    rintro rfl
    rw [hNone] at hIdentity
    cases hIdentity
  have hCounter :
      ∀ wallet,
        created.accounts (requestAddress H wallet) =
          requestAccount H wallet (l.counter wallet) := by
    intro wallet
    rw [hCreated, Function.update_of_ne
      (identityAddress_ne_requestAddress _ _).symm]
    exact hRep.counter wallet
  rcases advanceForMigration_accounts hAdvanced hDistinct
      (hCounter walletOld) (hCounter user.key) with
    ⟨hAdvance, hAccounts⟩
  rw [hCreated, advancedAccounts_update
      (identityAddress_ne_requestAddress _ _),
    advancedAccounts_update
      (identityAddress_ne_requestAddress _ _)] at hAccounts
  have hBurn := ((World.burn_accounts hBurned).trans
    (payFee_accounts hPaid)).trans
      ((issueToken_accounts hIssued).trans hAccounts)
  have hClose := World.closeMint_accounts hClosed
  rw [hBurn] at hClose
  have hMintNe :
      identityAddress H user.key ≠
        H.findProgramAddress (.mint walletOld) := by
    simp [identityAddress, Host.findProgramAddress]
  have hZeros := congrFun hClose (identityAddress H user.key)
  rw [Function.update_of_ne hMintNe, Function.update_self]
    at hZeros
  have hWritten := World.saveAccount_accounts hSave hZeros
    (List.length_replicate.trans
      IdentityState.width_eq.symm)
  rw [hClose, Function.update_comm hMintNe,
    Function.update_idem] at hWritten
  refine ⟨_, .migrate user walletOld remainingAccounts
    identityOld hInstruction hIdentity hAuthorized hNone
    (fun hBuild => (hAdvance hBuild).1)
    (fun hBuild => (hAdvance hBuild).2.1)
    (fun hBuild => (hAdvance hBuild).2.2), ?_⟩
  have hRepAdvanced :=
    (hRep.advanceIf walletOld).advanceIf user.key
  rw [Ledger.advanceIf_counter_of_ne hDistinct.symm]
    at hRepAdvanced
  have hRepMint :
      Represents H
        (Function.update
          (advancedAccounts H
            (advancedAccounts H w.accounts walletOld
              (l.counter walletOld))
            user.key (l.counter user.key))
          (H.findProgramAddress (.mint walletOld)) .vacant)
        ((l.advanceIf H walletOld).advanceIf H user.key) := by
    apply hRepAdvanced.update_other
    intro seeds bump hDescribed
    cases hDescribed <;> simp [Host.findProgramAddress]
  rw [World.closeAccount_accounts, hWritten]
  exact (hRepMint.setIdentity user.key
    (some (migratedIdentity H user.key
      identityOld))).setIdentity walletOld none

end Anchor

end Entros

------------------------------------------------------------
-- Reset and Rebaseline
------------------------------------------------------------

namespace Entros

open Foundations

namespace Anchor

variable {H : Host} {w w' : World}
variable {config : Account} {call : Call H} {l : Ledger}

theorem splitResetAccounts_accounts
    {remainingAccounts : List AccountMeta}
    {authority : Signer}
    {counter : Option UInt64}
    {split : World × List AccountMeta}
    (hSplit :
      splitResetAccounts H w remainingAccounts authority =
        .ok split)
    (hStored :
      w.accounts (requestAddress H authority.key) =
        requestAccount H authority.key counter) :
    (H.requestBound = true →
        (counter.getD 0).toNat + 1 < 2 ^ 64) ∧
      split.1.accounts =
        advancedAccounts H w.accounts authority.key
          counter := by
  unfold splitResetAccounts at hSplit
  unfold advancedAccounts
  by_cases hBuild : H.requestBound = true
  · rw [if_pos hBuild] at hSplit ⊢
    cases hLast : remainingAccounts.getLast? with
    | none =>
        rw [hLast] at hSplit
        cases hSplit
    | some state =>
        rw [hLast] at hSplit
        simp only [bind_eq_ok, pure_eq_ok] at hSplit
        rcases hSplit with ⟨advanced, hAdvance, rfl⟩
        rcases advance_accounts hAdvance hStored with
          ⟨hFit, hAccounts⟩
        exact ⟨fun _ => hFit, hAccounts⟩
  · rw [if_neg hBuild] at hSplit ⊢
    rw [← Except.ok.inj hSplit]
    exact ⟨fun hTrue => absurd hTrue hBuild, rfl⟩

/- The counter of a wallet is apart from all identities. -/
theorem identity_of_advanced
    {wallet : Pubkey}
    {counter : Option UInt64}
    (hRep : Represents H w.accounts l)
    (hAccounts :
      w'.accounts =
        advancedAccounts H w.accounts wallet counter)
    (wallet' : Pubkey) :
    w'.accounts (identityAddress H wallet') =
      identityAccount H (l.identity wallet') := by
  rw [hAccounts, advancedAccounts_of_ne
    (identityAddress_ne_requestAddress _ _)]
  exact hRep.identity wallet'

theorem config_of_advanced
    {wallet : Pubkey}
    {counter : Option UInt64}
    (hAccounts :
      w'.accounts =
        advancedAccounts H w.accounts wallet counter) :
    protocolConfig H w' = protocolConfig H w := by
  rw [protocolConfig, hAccounts,
    advancedAccounts_of_ne (config_ne_requestAddress _)]
  rfl

theorem resetIdentityState_step
    {authority : Signer}
    {remainingAccounts : List AccountMeta}
    {commitment : Bytes 32}
    {projectionVersion : UInt16}
    (hRep : Represents H w.accounts l)
    (hInstruction :
      call.instruction =
        .anchor (.resetIdentityState authority
          remainingAccounts commitment projectionVersion))
    (hReset :
      resetIdentityState call.tx w call.now authority
        remainingAccounts commitment projectionVersion =
          .ok w') :
    ∃ l', LedgerStep H (protocolConfig H w) call l l' ∧
      Represents H w'.accounts l' := by
  simp only [resetIdentityState, bind_eq_ok, require_eq_ok,
    validateRequestedProjection] at hReset
  rcases hReset with
    ⟨split, hSplit, _, hCommitment, opened, hOpen, _,
      hCooldown, lifecycle, hConfig, _, hProjection, ⟨⟩, _,
      session, hReceipt, written, hWrite, hPay⟩
  rcases splitResetAccounts_accounts hSplit
      (hRep.counter authority.key) with
    ⟨hAdvance, hAccounts⟩
  have hStored :=
    identity_of_advanced hRep hAccounts authority.key
  rcases openIdentity_spec hOpen hStored with
    ⟨hSame, hIdentity, hOwner⟩
  rw [hSame] at hConfig hWrite
  rw [config_of_advanced hAccounts] at hConfig
  rw [hIdentity] at hStored
  have hWritten := writeIdentity_accounts hWrite hStored
  refine ⟨_, .reset authority remainingAccounts commitment
    projectionVersion opened.2 lifecycle session hInstruction
    hIdentity hOwner hCommitment hCooldown hConfig
    hProjection hReceipt hAdvance, ?_⟩
  rw [payFee_accounts hPay, hWritten, hAccounts]
  exact (hRep.advanceIf authority.key).setIdentity
    authority.key (some _)

theorem rebaselineAnchor_step
    {authority : Signer}
    {remainingAccounts : List AccountMeta}
    {commitment : Bytes 32}
    {projectionVersion : UInt16}
    (hRep : Represents H w.accounts l)
    (hInstruction :
      call.instruction =
        .anchor (.rebaselineAnchor authority
          remainingAccounts commitment projectionVersion))
    (hRebaseline :
      rebaselineAnchor call.tx w call.now authority
        remainingAccounts commitment projectionVersion =
          .ok w') :
    ∃ l', LedgerStep H (protocolConfig H w) call l l' ∧
      Represents H w'.accounts l' := by
  simp only [rebaselineAnchor, bind_eq_ok, require_eq_ok,
    validateRequestedProjection] at hRebaseline
  rcases hRebaseline with
    ⟨advanced, hAdvanced, _, hCommitment, opened, hOpen,
      lifecycle, hConfig, _, hProjection, _, hGrows, _,
      hCooldown, session, hReceipt, written, hWrite, hPay⟩
  rcases advanceOnly_accounts hAdvanced
      (hRep.counter authority.key) with
    ⟨hAdvance, hAccounts⟩
  have hStored :=
    identity_of_advanced hRep hAccounts authority.key
  rcases openIdentity_spec hOpen hStored with
    ⟨hSame, hIdentity, hOwner⟩
  rw [hSame] at hConfig hWrite
  rw [config_of_advanced hAccounts] at hConfig
  rw [hIdentity] at hStored
  have hWritten := writeIdentity_accounts hWrite hStored
  refine ⟨_, .rebaseline authority remainingAccounts
    commitment projectionVersion opened.2 lifecycle session
    hInstruction hIdentity hOwner hCommitment hConfig
    hProjection hGrows hCooldown hReceipt hAdvance, ?_⟩
  rw [payFee_accounts hPay, hWritten, hAccounts]
  exact (hRep.advanceIf authority.key).setIdentity
    authority.key (some _)

end Anchor

end Entros
