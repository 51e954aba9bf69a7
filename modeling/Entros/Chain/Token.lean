import Entros.Chain.World

/-
  Token-2022 and the associated-token program, as far as the
  identity tokens use them: one mint for each wallet, and the
  wallet's associated account for it.

  Key definitions include:
    * `World.createMint`
    * `World.createTokenAccount`
    * `World.mintOne`
    * `World.approve`
    * `World.burn`
    * `World.closeMint`
    * `World.closeTokenAccount`

  Key theorems include:
    * `World.createMint_accounts`
    * `World.burn_accounts`
    * `World.closeMint_accounts`
-/

------------------------------------------------------------
-- Mints and Token Accounts
------------------------------------------------------------

namespace Entros

open Foundations

namespace World

/-
  `create_account` and the initialisation of the mint at the
  wallet's mint address.  An address that already holds
  lamports is in use.
-/
def createMint
    (H : Host)
    (w : World)
    (wallet : Signer) : Result World := do
  let address := H.findProgramAddress (.mint wallet.key)
  require
    (w.mints wallet.key = none ∧ w.lamports address = 0)
    (.runtime .accountAlreadyInUse)
  let funded ← w.transfer (.key wallet.key) address
    (H.minimumBalance H.mintSpace)
  return { funded with
    mints := Function.update funded.mints wallet.key
      (some { supply := 0 }) }

/-
  `create` of the associated-token program, which fails on an
  existing account, or `create_idempotent`, which keeps it.
  Whoever pays, the account is the wallet's.
-/
def createTokenAccount
    (H : Host)
    (w : World)
    (payer : Signer)
    (wallet : Pubkey)
    (idempotent : Bool) : Result World :=
  match w.tokenAccounts wallet with
  | some _ =>
      if idempotent then
        .ok w
      else
        .error (.runtime .accountAlreadyInUse)
  | none => do
      let funded ← w.topUp H (.key payer.key)
        (H.findProgramAddress (.associatedToken wallet))
        H.tokenSpace
      return { funded with
        tokenAccounts := Function.update
          funded.tokenAccounts wallet
          (some { amount := 0
                  delegate := none
                  delegatedAmount := 0 }) }

/- `mint_to` of one token to the wallet's own account. -/
def mintOne
    (w : World)
    (wallet : Pubkey) : Result World := do
  let mint ← okOr (w.mints wallet)
    (.runtime .tokenAccountMissing)
  let token ← okOr (w.tokenAccounts wallet)
    (.runtime .tokenAccountMissing)
  return { w with
    mints := Function.update w.mints wallet
      (some { supply := mint.supply + 1 })
    tokenAccounts := Function.update w.tokenAccounts wallet
      (some { token with amount := token.amount + 1 }) }

/- `approve` of a delegate by the owner. -/
def approve
    (w : World)
    (owner : Signer)
    (delegate : Pubkey)
    (amount : ℕ) : Result World := do
  let token ← okOr (w.tokenAccounts owner.key)
    (.runtime .tokenAccountMissing)
  return { w with
    tokenAccounts := Function.update w.tokenAccounts owner.key
      (some { token with
        delegate := some delegate
        delegatedAmount := amount }) }

/- `revoke` of the delegate, by the owner or by itself. -/
def revoke
    (w : World)
    (wallet : Pubkey)
    (authority : Signer) : Result World := do
  let token ← okOr (w.tokenAccounts wallet)
    (.runtime .tokenAccountMissing)
  require
    (authority.key = wallet ∨
      token.delegate = some authority.key)
    (.runtime .tokenOwnerMismatch)
  return { w with
    tokenAccounts := Function.update w.tokenAccounts wallet
      (some { token with
        delegate := none
        delegatedAmount := 0 }) }

/-
  The token account after its delegate spends from it; a
  spent allowance removes the delegate.
-/
def spendAllowance
    (token : TokenAccount)
    (amount : ℕ) : TokenAccount :=
  { token with
    delegate :=
      if token.delegatedAmount - amount = 0 then
        none
      else
        token.delegate
    delegatedAmount := token.delegatedAmount - amount }

/- Who may burn: the delegate within its allowance, or the owner. -/
def burnAuthority
    (token : TokenAccount)
    (wallet authority : Pubkey)
    (amount : ℕ) : Result TokenAccount :=
  if token.delegate = some authority then do
    require (amount ≤ token.delegatedAmount)
      (.runtime .tokenBalanceTooLow)
    return spendAllowance token amount
  else do
    require (authority = wallet)
      (.runtime .tokenOwnerMismatch)
    return token

/- `burn` from the wallet's account. -/
def burn
    (w : World)
    (wallet : Pubkey)
    (authority : Signer)
    (amount : ℕ) : Result World := do
  let mint ← okOr (w.mints wallet)
    (.runtime .tokenAccountMissing)
  let token ← okOr (w.tokenAccounts wallet)
    (.runtime .tokenAccountMissing)
  require (amount ≤ token.amount)
    (.runtime .tokenBalanceTooLow)
  let token ← burnAuthority token wallet authority.key amount
  return { w with
    mints := Function.update w.mints wallet
      (some { supply := mint.supply - amount })
    tokenAccounts := Function.update w.tokenAccounts wallet
      (some { token with amount := token.amount - amount }) }

/-
  `close_account` on a mint by its close authority; a mint
  with supply left cannot be closed.
-/
def closeMint
    (H : Host)
    (w : World)
    (wallet : Pubkey)
    (destination : Signer) : Result World := do
  let mint ← okOr (w.mints wallet)
    (.runtime .tokenAccountMissing)
  require (mint.supply = 0) (.runtime .mintHasSupply)
  let closed := w.closeAccount
    (H.findProgramAddress (.mint wallet))
    (.key destination.key)
  return { closed with
    mints := Function.update closed.mints wallet none }

/- `close_account` on an emptied token account by its owner. -/
def closeTokenAccount
    (H : Host)
    (w : World)
    (owner : Signer) : Result World := do
  let token ← okOr (w.tokenAccounts owner.key)
    (.runtime .tokenAccountMissing)
  require (token.amount = 0) (.runtime .tokenBalanceTooLow)
  let closed := w.closeAccount
    (H.findProgramAddress (.associatedToken owner.key))
    (.key owner.key)
  return { closed with
    tokenAccounts := Function.update closed.tokenAccounts
      owner.key none }

end World

end Entros

------------------------------------------------------------
-- Effects on Accounts
------------------------------------------------------------

namespace Entros

open Foundations

namespace World

variable {H : Host} {w w' : World}

/-
  Token instructions leave all accounts of the three programs
  as they are; closing frees the closed address only.
-/
theorem createMint_accounts
    {wallet : Signer}
    (hMint : w.createMint H wallet = .ok w') :
    w'.accounts = w.accounts := by
  simp only [createMint, bind_eq_ok, require_eq_ok,
    pure_eq_ok] at hMint
  rcases hMint with ⟨_, _, funded, hFunded, rfl⟩
  exact (transfer_sameState hFunded).1

theorem createTokenAccount_accounts
    {payer : Signer}
    {wallet : Pubkey}
    {idempotent : Bool}
    (hOpen :
      w.createTokenAccount H payer wallet idempotent =
        .ok w') :
    w'.accounts = w.accounts := by
  unfold createTokenAccount at hOpen
  cases hToken : w.tokenAccounts wallet with
  | none =>
      simp only [hToken, bind_eq_ok, pure_eq_ok] at hOpen
      rcases hOpen with ⟨funded, hFunded, rfl⟩
      exact (topUp_sameState hFunded).1
  | some token =>
      simp only [hToken] at hOpen
      split_ifs at hOpen
      rw [Except.ok.inj hOpen]

theorem mintOne_accounts
    {wallet : Pubkey}
    (hMint : w.mintOne wallet = .ok w') :
    w'.accounts = w.accounts := by
  simp only [mintOne, bind_eq_ok, pure_eq_ok] at hMint
  rcases hMint with ⟨_, _, _, _, rfl⟩
  rfl

theorem approve_accounts
    {owner : Signer}
    {delegate : Pubkey}
    {amount : ℕ}
    (hApprove : w.approve owner delegate amount = .ok w') :
    w'.accounts = w.accounts := by
  simp only [approve, bind_eq_ok, pure_eq_ok] at hApprove
  rcases hApprove with ⟨_, _, rfl⟩
  rfl

theorem revoke_accounts
    {wallet : Pubkey}
    {authority : Signer}
    (hRevoke : w.revoke wallet authority = .ok w') :
    w'.accounts = w.accounts := by
  simp only [revoke, bind_eq_ok, pure_eq_ok] at hRevoke
  rcases hRevoke with ⟨_, _, _, _, rfl⟩
  rfl

theorem burn_accounts
    {wallet : Pubkey}
    {authority : Signer}
    {amount : ℕ}
    (hBurn : w.burn wallet authority amount = .ok w') :
    w'.accounts = w.accounts := by
  simp only [burn, bind_eq_ok, pure_eq_ok] at hBurn
  rcases hBurn with ⟨_, _, _, _, _, _, _, _, rfl⟩
  rfl

theorem closeMint_accounts
    {wallet : Pubkey}
    {destination : Signer}
    (hClose : w.closeMint H wallet destination = .ok w') :
    w'.accounts =
      Function.update w.accounts
        (H.findProgramAddress (.mint wallet)) .vacant := by
  simp only [closeMint, bind_eq_ok, pure_eq_ok] at hClose
  rcases hClose with ⟨_, _, _, _, rfl⟩
  rfl

theorem closeTokenAccount_accounts
    {owner : Signer}
    (hClose : w.closeTokenAccount H owner = .ok w') :
    w'.accounts =
      Function.update w.accounts
        (H.findProgramAddress (.associatedToken owner.key))
        .vacant := by
  simp only [closeTokenAccount, bind_eq_ok, pure_eq_ok]
    at hClose
  rcases hClose with ⟨_, _, _, _, rfl⟩
  rfl

end World

end Entros
