import Entros.System.VerifierSteps

/-
  What the shared parts of the entros-anchor handlers do to
  the accounts: fees, tokens, counters and identities.

  Key definitions include:
    * `advancedAccounts`

  Key theorems include:
    * `advance_accounts`
    * `advanceOnly_accounts`
    * `openIdentity_spec`
    * `writeIdentity_accounts`
-/

------------------------------------------------------------
-- Fees and Tokens
------------------------------------------------------------

namespace Entros

open Foundations

namespace Anchor

variable {H : Host} {w w' : World}

/- Paying a fee moves lamports only. -/
theorem payFee_accounts
    {payer : Signer}
    {fee : UInt64}
    (hPay : payFee H w payer fee = .ok w') :
    w'.accounts = w.accounts := by
  unfold payFee at hPay
  split_ifs at hPay
  · exact (World.transfer_sameState hPay).1
  · rw [Except.ok.inj hPay]

theorem issueToken_accounts
    {user : Signer}
    (hIssue : issueToken H w user = .ok w') :
    w'.accounts = w.accounts := by
  simp only [issueToken, bind_eq_ok] at hIssue
  rcases hIssue with
    ⟨minted, hMinted, opened, hOpened, hIssued⟩
  rw [World.mintOne_accounts hIssued,
    World.createTokenAccount_accounts hOpened,
    World.createMint_accounts hMinted]

end Anchor

end Entros

------------------------------------------------------------
-- Counters
------------------------------------------------------------

namespace Entros

open Foundations

namespace Anchor

variable {H : Host} {w w' : World}

/- Creating the counter does not change what is stored. -/
theorem ensureProofRequestState_accounts
    {wallet : Pubkey}
    {payer : Signer}
    {counter : Option UInt64}
    (hEnsure :
      ensureProofRequestState H w wallet payer = .ok w')
    (hStored :
      w.accounts (requestAddress H wallet) =
        requestAccount H wallet counter) :
    w'.accounts =
      Function.update w.accounts (requestAddress H wallet)
        (requestAccount H wallet (some (counter.getD 0))) := by
  unfold ensureProofRequestState at hEnsure
  cases counter with
  | none =>
      have hVacant :
          w.accounts (requestAddress H wallet) = .vacant :=
        hStored
      rw [if_pos hVacant] at hEnsure
      rcases bind_eq_ok.mp hEnsure with
        ⟨created, hCreate, hSave⟩
      have hCreated :=
        (World.createAccount_eq_ok hCreate).2.1
      rw [World.setAccount_accounts] at hCreated
      have hAccount :=
        congrFun hCreated (requestAddress H wallet)
      rw [Function.update_self] at hAccount
      rw [World.saveAccount_accounts hSave hAccount
          (List.length_replicate.trans
            ProofRequestState.width_eq.symm),
        hCreated, Function.update_idem]
      rfl
  | some stored =>
      have hOccupied :
          w.accounts (requestAddress H wallet) ≠ .vacant := by
        rw [hStored]
        simp [requestAccount, storedAccount, Account.vacant]
      rw [if_neg hOccupied] at hEnsure
      rw [← Except.ok.inj hEnsure, Option.getD_some,
        ← hStored, Function.update_eq_self]

/- `advance` increments the stored counter, or fails. -/
theorem advance_accounts
    {account : AccountMeta}
    {wallet : Pubkey}
    {payer : Signer}
    {counter : Option UInt64}
    (hAdvance : advance H w account wallet payer = .ok w')
    (hStored :
      w.accounts (requestAddress H wallet) =
        requestAccount H wallet counter) :
    (counter.getD 0).toNat + 1 < 2 ^ 64 ∧
      w'.accounts =
        Function.update w.accounts (requestAddress H wallet)
          (requestAccount H wallet
            (some (nextCounter counter))) := by
  simp only [advance, bind_eq_ok, require_eq_ok, okOr_eq_ok,
    writeField_eq_ok, pure_eq_ok] at hAdvance
  rcases hAdvance with
    ⟨_, _, _, _, created, hEnsure, _, _, current, hCurrent,
      next, hNext, data, ⟨_, hData⟩, rfl⟩
  have hCreated :=
    ensureProofRequestState_accounts hEnsure hStored
  have hAccount := congrFun hCreated (requestAddress H wallet)
  rw [Function.update_self] at hAccount
  have hRead := readCounter_serialized (H := H)
    (requestState H wallet (counter.getD 0)) wallet
    (requestBump H wallet)
  rw [if_pos ⟨rfl, rfl, rfl⟩] at hRead
  rw [hAccount] at hCurrent hData
  have hSame : counter.getD 0 = current :=
    Option.some.inj (hRead.symm.trans hCurrent)
  subst hSame
  unfold checkedAdd64 at hNext
  split_ifs at hNext with hFit
  refine ⟨hFit, ?_⟩
  rw [World.setData_accounts, hAccount, hCreated,
    Function.update_idem, ← hData, nextCounter,
    Option.some.inj hNext]
  exact congrArg (Function.update w.accounts _)
    (congrArg (Account.mk .anchor)
      (splice_counter_serialized
        (requestState H wallet (counter.getD 0)) next))

/- The accounts after the counter of a wallet advances. -/
def advancedAccounts
    (H : Host)
    (accounts : Address → Account)
    (wallet : Pubkey)
    (counter : Option UInt64) : Address → Account :=
  if H.requestBound then
    Function.update accounts (requestAddress H wallet)
      (requestAccount H wallet (some (nextCounter counter)))
  else
    accounts

section

variable {accounts : Address → Account}
variable {wallet : Pubkey} {counter : Option UInt64}

theorem advancedAccounts_of_ne
    {address : Address}
    (hAddress : address ≠ requestAddress H wallet) :
    advancedAccounts H accounts wallet counter address =
      accounts address := by
  unfold advancedAccounts
  split_ifs
  · exact Function.update_of_ne hAddress _ _
  · rfl

theorem advancedAccounts_update
    {address : Address}
    {account : Account}
    (hAddress : address ≠ requestAddress H wallet) :
    advancedAccounts H
        (Function.update accounts address account) wallet
        counter =
      Function.update
        (advancedAccounts H accounts wallet counter) address
        account := by
  unfold advancedAccounts
  split_ifs
  · exact Function.update_comm hAddress _ _ _
  · rfl

end

/- The counter advances exactly in the request-bound build. -/
theorem advanceOnly_accounts
    {remainingAccounts : List AccountMeta}
    {user : Signer}
    {counter : Option UInt64}
    (hAdvance :
      advanceOnly H w remainingAccounts user = .ok w')
    (hStored :
      w.accounts (requestAddress H user.key) =
        requestAccount H user.key counter) :
    (H.requestBound = true →
        (counter.getD 0).toNat + 1 < 2 ^ 64) ∧
      w'.accounts =
        advancedAccounts H w.accounts user.key counter := by
  unfold advanceOnly at hAdvance
  unfold advancedAccounts
  by_cases hBuild : H.requestBound = true
  · rw [if_pos hBuild] at hAdvance ⊢
    match remainingAccounts, hAdvance with
    | [state], hOnly =>
        rcases advance_accounts hOnly hStored with
          ⟨hFit, hAccounts⟩
        exact ⟨fun _ => hFit, hAccounts⟩
  · rw [if_neg hBuild] at hAdvance ⊢
    rw [Except.ok.inj hAdvance]
    exact ⟨fun hTrue => absurd hTrue hBuild, rfl⟩

end Anchor

theorem Represents.advanceIf
    {H : Host}
    {accounts : Address → Account}
    {l : Ledger}
    (hRep : Represents H accounts l)
    (wallet : Pubkey) :
    Represents H
      (Anchor.advancedAccounts H accounts wallet
        (l.counter wallet))
      (l.advanceIf H wallet) := by
  unfold Anchor.advancedAccounts Ledger.advanceIf
  split_ifs
  · exact hRep.setCounter wallet _
  · exact hRep

end Entros

------------------------------------------------------------
-- Identities
------------------------------------------------------------

namespace Entros

open Foundations

namespace Anchor

variable {H : Host} {w w' : World}

/- `init` succeeds on a vacant address only, and fills it. -/
theorem initIdentity_accounts
    {user : Signer}
    (hInit : initIdentity H w user = .ok w') :
    w.accounts (identityAddress H user.key) = .vacant ∧
      w'.accounts =
        Function.update w.accounts
          (identityAddress H user.key)
          { owner := .anchor
            data := List.replicate IdentityState.len 0 } :=
  have hCreated := World.createAccount_eq_ok hInit
  ⟨hCreated.1, hCreated.2.1⟩

/- What the typed load of a stored identity returns. -/
theorem loadIdentity_spec
    {wallet : Pubkey}
    {stored : Option IdentityState}
    {identity : IdentityState}
    (hLoad : loadIdentity H w wallet = .ok identity)
    (hStored :
      w.accounts (identityAddress H wallet) =
        identityAccount H stored) :
    stored = some identity := by
  rcases World.loadAccount_eq_ok hLoad with ⟨hOwner, hRead⟩
  rw [hStored] at hOwner hRead
  rcases exists_of_owner (by decide) hOwner with
    ⟨value, rfl⟩
  exact congrArg some (eq_of_tryDeserialize_stored hRead)

/- Opening a stored identity changes nothing. -/
theorem openIdentity_spec
    {authority : Signer}
    {opened : World × IdentityState}
    {stored : Option IdentityState}
    (hOpen : openIdentity H w authority = .ok opened)
    (hStored :
      w.accounts (identityAddress H authority.key) =
        identityAccount H stored) :
    opened.1 = w ∧ stored = some opened.2 ∧
      opened.2.owner = authority.key := by
  simp only [openIdentity, bind_eq_ok, require_eq_ok,
    pure_eq_ok] at hOpen
  rcases hOpen with
    ⟨_, hOwner, grown, hGrow, identity, hRead, _, hKey,
      rfl⟩
  rw [hStored] at hOwner
  rcases exists_of_owner (by decide) hOwner with
    ⟨value, rfl⟩
  have hLength :
      (w.accounts (identityAddress H
        authority.key)).data.length = IdentityState.len := by
    rw [hStored]
    exact length_serialized value
  unfold growIdentity at hGrow
  rw [if_neg (Nat.not_lt.mpr hLength.ge)] at hGrow
  have hSame := Except.ok.inj hGrow
  subst hSame
  have hValue := remapError_eq_ok.mp hRead
  rw [hStored] at hValue
  exact ⟨rfl,
    congrArg some (eq_of_tryDeserialize_stored hValue),
    hKey⟩

/- Serialising over a stored identity replaces it. -/
theorem writeIdentity_accounts
    {wallet : Pubkey}
    {before after : IdentityState}
    (hWrite : writeIdentity H w wallet after = .ok w')
    (hStored :
      w.accounts (identityAddress H wallet) =
        identityAccount H (some before)) :
    w'.accounts =
      Function.update w.accounts (identityAddress H wallet)
        (identityAccount H (some after)) :=
  World.saveAccount_accounts (remapError_eq_ok.mp hWrite)
    hStored (length_serialized before)

/- The configuration is not an identity or a counter. -/
theorem config_ne_identityAddress (wallet : Pubkey) :
    H.findProgramAddress .protocolConfig ≠
      identityAddress H wallet := by
  simp [identityAddress, Host.findProgramAddress]

theorem config_ne_requestAddress (wallet : Pubkey) :
    H.findProgramAddress .protocolConfig ≠
      requestAddress H wallet := by
  simp [requestAddress, Host.findProgramAddress]

theorem identityAddress_ne_requestAddress
    (wallet wallet' : Pubkey) :
    identityAddress H wallet ≠ requestAddress H wallet' := by
  simp [identityAddress, requestAddress,
    Host.findProgramAddress]

end Anchor

end Entros
