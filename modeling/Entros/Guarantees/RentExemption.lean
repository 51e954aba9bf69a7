import Entros.Guarantees.MoneyFlow
import Entros.System.Operations

/-
  Rent exemption: whatever is called, every account that a
  program keeps at a derived address, every mint and every
  token account holds the balance that its size requires.

  Key definitions include:
    * `World.RentSound`

  Key theorems include:
    * `Operation.rentSound`
    * `accounts_stay_exempt`
-/

------------------------------------------------------------
-- Balances
------------------------------------------------------------

namespace Entros

open Foundations

/-
  Data is kept at allocated seeds only, and its account is
  rent-exempt; so are the mints and the token accounts.
-/
structure World.RentSound (H : Host) (w : World) : Prop where
  account :
    ∀ seeds bump,
      (w.accounts (.pda seeds bump)).owner ≠ .system →
        seeds.Allocated ∧
          H.minimumBalance
              (w.accounts (.pda seeds bump)).data.length ≤
            w.lamports (.pda seeds bump)
  mint :
    ∀ wallet,
      w.mints wallet ≠ none →
        H.minimumBalance H.mintSpace ≤
          w.lamports (H.findProgramAddress (.mint wallet))
  token :
    ∀ wallet,
      w.tokenAccounts wallet ≠ none →
        H.minimumBalance H.tokenSpace ≤
          w.lamports
            (H.findProgramAddress (.associatedToken wallet))

variable {H : Host} {w w' : World}
variable {source destination address : Address}
variable {amount size : ℕ}

/- Only the source of a transfer pays. -/
theorem transfer_le
    (hTransfer :
      w.transfer source destination amount = .ok w')
    (hSource : address ≠ source) :
    w.lamports address ≤ w'.lamports address := by
  simp only [World.transfer, bind_eq_ok, require_eq_ok,
    pure_eq_ok] at hTransfer
  rcases hTransfer with ⟨_, _, rfl⟩
  dsimp only
  by_cases hDestination : address = destination
  · subst hDestination
    rw [Function.update_self, Function.update_of_ne hSource]
    exact Nat.le_add_right _ _
  · rw [Function.update_of_ne hDestination,
      Function.update_of_ne hSource]

theorem topUp_le
    (hTopUp : w.topUp H source destination size = .ok w')
    (hSource : address ≠ source) :
    w.lamports address ≤ w'.lamports address := by
  unfold World.topUp at hTopUp
  split_ifs at hTopUp
  · exact transfer_le hTopUp hSource
  · rw [Except.ok.inj hTopUp]

theorem closeAccount_le
    (hAddress : address ≠ source) :
    w.lamports address ≤
      (w.closeAccount source destination).lamports
        address := by
  unfold World.closeAccount
  dsimp only
  rw [Function.update_of_ne hAddress]
  by_cases hDestination : address = destination
  · subst hDestination
    rw [Function.update_self]
    exact Nat.le_add_right _ _
  · rw [Function.update_of_ne hDestination]

/- A step after which nothing that counts is poorer. -/
theorem World.RentSound.of_le
    (hSound : w.RentSound H)
    (hSame : w.SameState w')
    (hLamports :
      ∀ seeds bump,
        seeds ≠ .protocolTreasury → seeds ≠ .vault →
          w.lamports (.pda seeds bump) ≤
            w'.lamports (.pda seeds bump)) :
    w'.RentSound H := by
  rcases hSame with ⟨hAccounts, hMints, hTokens, _⟩
  refine ⟨?_, ?_, ?_⟩
  · intro seeds bump hOwner
    rw [hAccounts] at hOwner ⊢
    rcases hSound.account seeds bump hOwner with
      ⟨hAllocated, hExempt⟩
    refine ⟨hAllocated, hExempt.trans ?_⟩
    apply hLamports
    · rintro rfl
      exact hAllocated
    · rintro rfl
      exact hAllocated
  · intro wallet hMint
    rw [hMints] at hMint
    exact (hSound.mint wallet hMint).trans
      (hLamports _ _ Seeds.noConfusion Seeds.noConfusion)
  · intro wallet hToken
    rw [hTokens] at hToken
    exact (hSound.token wallet hToken).trans
      (hLamports _ _ Seeds.noConfusion Seeds.noConfusion)

/- Wallets pay for everything. -/
theorem World.RentSound.transfer
    {key : Pubkey}
    (hSound : w.RentSound H)
    (hTransfer :
      w.transfer (.key key) destination amount = .ok w') :
    w'.RentSound H := by
  apply hSound.of_le (World.transfer_sameState hTransfer)
  intro seeds bump _ _
  exact transfer_le hTransfer Address.noConfusion

theorem World.RentSound.topUp
    {key : Pubkey}
    (hSound : w.RentSound H)
    (hTopUp :
      w.topUp H (.key key) address size = .ok w') :
    w'.RentSound H := by
  apply hSound.of_le (World.topUp_sameState hTopUp)
  intro seeds bump _ _
  exact topUp_le hTopUp Address.noConfusion

/- Writing an account that is covered afterwards. -/
theorem World.RentSound.write
    {account : Account}
    (hSound : w.RentSound H)
    (hAccounts :
      w'.accounts =
        Function.update w.accounts address account)
    (hMints : w'.mints = w.mints)
    (hTokens : w'.tokenAccounts = w.tokenAccounts)
    (hAddress : address.Allocable)
    (hLamports :
      ∀ seeds bump,
        w.lamports (.pda seeds bump) ≤
          w'.lamports (.pda seeds bump))
    (hCovered :
      ∀ seeds bump,
        address = .pda seeds bump →
          account.owner ≠ .system →
            H.minimumBalance account.data.length ≤
              w'.lamports address) :
    w'.RentSound H := by
  refine ⟨?_, ?_, ?_⟩
  · intro seeds bump hOwner
    rw [hAccounts] at hOwner ⊢
    by_cases hSame : Address.pda seeds bump = address
    · subst hSame
      rw [Function.update_self] at hOwner ⊢
      refine ⟨?_, hCovered seeds bump rfl hOwner⟩
      cases hAddress with
      | pda _ hSeeds => exact hSeeds
    · rw [Function.update_of_ne hSame] at hOwner ⊢
      rcases hSound.account seeds bump hOwner with
        ⟨hAllocated, hExempt⟩
      exact ⟨hAllocated, hExempt.trans (hLamports _ _)⟩
  · intro wallet hMint
    rw [hMints] at hMint
    exact (hSound.mint wallet hMint).trans (hLamports _ _)
  · intro wallet hToken
    rw [hTokens] at hToken
    exact (hSound.token wallet hToken).trans (hLamports _ _)

end Entros

------------------------------------------------------------
-- Operations
------------------------------------------------------------

namespace Entros

open Foundations
open Anchor

namespace World.RentSound

variable {H : Host} {w w' : World}
variable (hSound : w.RentSound H)

include hSound

theorem create
    {key : Pubkey}
    {address : Address}
    {size : ℕ}
    {owner : ProgramId}
    (hAddress : address.Allocable)
    (hCreate :
      w.createAccount H (.key key) address size owner =
        .ok w') :
    w'.RentSound H := by
  simp only [World.createAccount, World.allocate, bind_eq_ok,
    require_eq_ok, pure_eq_ok] at hCreate
  rcases hCreate with ⟨funded, hFunded, _, _, rfl⟩
  refine (hSound.topUp hFunded).write rfl rfl rfl hAddress
    (fun _ _ => Nat.le_refl _) ?_
  rintro seeds bump rfl _
  have hLength :
      (List.replicate size (0 : UInt8)).length = size :=
    List.length_replicate
  rw [hLength]
  have hCovered :
      H.minimumBalance size ≤
        funded.lamports (.pda seeds bump) :=
    topUp_covers hFunded (by simp)
  exact hCovered

/- Data of the same size, or paid for in advance. -/
theorem setData
    {address : Address}
    {data : List UInt8}
    (hAddress : address.Allocable)
    (hSize :
      data.length = (w.accounts address).data.length ∨
        H.minimumBalance data.length ≤ w.lamports address) :
    (w.setData address data).RentSound H := by
  refine hSound.write rfl rfl rfl hAddress
    (fun _ _ => Nat.le_refl _) ?_
  rintro seeds bump rfl hOwner
  rcases hSize with hSame | hPaid
  · change H.minimumBalance data.length ≤ _
    rw [hSame]
    exact (hSound.account seeds bump hOwner).2
  · exact hPaid

/- Data that is paid for afterwards. -/
theorem grow
    {key : Pubkey}
    {address : Address}
    {data : List UInt8}
    (hAddress : address.Allocable)
    (hFund :
      (w.setData address data).topUp H (.key key) address
        data.length = .ok w') :
    w'.RentSound H := by
  rcases World.topUp_sameState hFund with
    ⟨hAccounts, hMints, hTokens, _⟩
  refine hSound.write hAccounts hMints hTokens hAddress ?_ ?_
  · intro seeds bump
    have hLe :
        (w.setData address data).lamports
            (.pda seeds bump) ≤
          w'.lamports (.pda seeds bump) :=
      topUp_le hFund (by simp)
    exact hLe
  · rintro seeds bump rfl _
    exact topUp_covers hFund (by simp)

/- Closing an account leaves the data of the others funded. -/
theorem after_close
    {address destination : Address}
    (seeds : Seeds)
    (bump : UInt8)
    (hOwner :
      ((w.closeAccount address destination).accounts
        (.pda seeds bump)).owner ≠ .system) :
    seeds.Allocated ∧
      H.minimumBalance
          ((w.closeAccount address destination).accounts
            (.pda seeds bump)).data.length ≤
        (w.closeAccount address destination).lamports
          (.pda seeds bump) := by
  rw [World.closeAccount_accounts] at hOwner ⊢
  by_cases hSame : Address.pda seeds bump = address
  · rw [hSame, Function.update_self] at hOwner
    exact absurd rfl hOwner
  · rw [Function.update_of_ne hSame] at hOwner ⊢
    rcases hSound.account seeds bump hOwner with
      ⟨hAllocated, hExempt⟩
    exact ⟨hAllocated,
      hExempt.trans (closeAccount_le hSame)⟩

/- A closed account is not owed anything. -/
theorem close
    {address destination : Address}
    (hAddress :
      address.Allocable ∨
        (w.accounts address).owner ≠ .system) :
    (w.closeAccount address destination).RentSound H := by
  have hOther :
      ∀ seeds : Seeds, ¬ seeds.Allocated →
        ∀ bump, Address.pda seeds bump ≠ address := by
    rintro seeds hSeeds bump rfl
    rcases hAddress with hAllocable | hOwner
    · cases hAllocable with
      | pda _ hAllocated => exact hSeeds hAllocated
    · exact hSeeds (hSound.account seeds bump hOwner).1
  refine ⟨hSound.after_close, ?_, ?_⟩
  · intro wallet hMint
    exact (hSound.mint wallet hMint).trans
      (closeAccount_le (hOther (.mint wallet) not_false _))
  · intro wallet hToken
    exact (hSound.token wallet hToken).trans
      (closeAccount_le
        (hOther (.associatedToken wallet) not_false _))

/- Token balances have nothing to do with rent. -/
theorem of_tokens
    (hAccounts : w'.accounts = w.accounts)
    (hLamports : w'.lamports = w.lamports)
    (hMints :
      ∀ wallet, w'.mints wallet ≠ none →
        w.mints wallet ≠ none)
    (hTokens :
      ∀ wallet, w'.tokenAccounts wallet ≠ none →
        w.tokenAccounts wallet ≠ none) :
    w'.RentSound H := by
  refine ⟨?_, ?_, ?_⟩
  · rw [hAccounts, hLamports]
    exact hSound.account
  · intro wallet hMint
    rw [hLamports]
    exact hSound.mint wallet (hMints wallet hMint)
  · intro wallet hToken
    rw [hLamports]
    exact hSound.token wallet (hTokens wallet hToken)

theorem createMint
    {user : Signer}
    (hCreate : w.createMint H user = .ok w') :
    w'.RentSound H := by
  simp only [World.createMint, bind_eq_ok, require_eq_ok,
    pure_eq_ok] at hCreate
  rcases hCreate with ⟨_, _, funded, hFunded, rfl⟩
  have hAfter := hSound.transfer hFunded
  refine ⟨hAfter.account, ?_, hAfter.token⟩
  intro wallet hMint
  by_cases hWallet : wallet = user.key
  · subst hWallet
    change H.minimumBalance H.mintSpace ≤
      funded.lamports (H.findProgramAddress (.mint user.key))
    rw [(transfer_lamports hFunded Address.noConfusion).2,
      Function.update_self]
    exact Nat.le_add_left _ _
  · dsimp only at hMint
    rw [Function.update_of_ne hWallet] at hMint
    exact hAfter.mint wallet hMint

theorem createTokenAccount
    {payer : Signer}
    {holder : Pubkey}
    {idempotent : Bool}
    (hOpen :
      w.createTokenAccount H payer holder idempotent =
        .ok w') :
    w'.RentSound H := by
  unfold World.createTokenAccount at hOpen
  cases hToken : w.tokenAccounts holder with
  | some token =>
      simp only [hToken] at hOpen
      split_ifs at hOpen
      rw [← Except.ok.inj hOpen]
      exact hSound
  | none =>
      simp only [hToken, bind_eq_ok, pure_eq_ok] at hOpen
      rcases hOpen with ⟨funded, hFunded, rfl⟩
      have hAfter := hSound.topUp hFunded
      refine ⟨hAfter.account, hAfter.mint, ?_⟩
      intro wallet hSome
      by_cases hWallet : wallet = holder
      · subst hWallet
        have hCovered :
            H.minimumBalance H.tokenSpace ≤
              funded.lamports
                (H.findProgramAddress
                  (.associatedToken wallet)) :=
          topUp_covers hFunded
            (by simp [Host.findProgramAddress])
        exact hCovered
      · dsimp only at hSome
        rw [Function.update_of_ne hWallet] at hSome
        exact hAfter.token wallet hSome

/- Updating a live mint or token account. -/
theorem updateTokens
    {wallet : Pubkey}
    {mint mint' : TokenMint}
    {token token' : TokenAccount}
    (hMint : w.mints wallet = some mint)
    (hToken : w.tokenAccounts wallet = some token) :
    World.RentSound H
      { w with
        mints := Function.update w.mints wallet (some mint')
        tokenAccounts := Function.update w.tokenAccounts
          wallet (some token') } := by
  refine hSound.of_tokens rfl rfl ?_ ?_
  · intro other hOther
    by_cases hWallet : other = wallet
    · rw [hWallet, hMint]
      exact Option.some_ne_none mint
    · dsimp only at hOther
      rw [Function.update_of_ne hWallet] at hOther
      exact hOther
  · intro other hOther
    by_cases hWallet : other = wallet
    · rw [hWallet, hToken]
      exact Option.some_ne_none token
    · dsimp only at hOther
      rw [Function.update_of_ne hWallet] at hOther
      exact hOther

theorem updateToken
    {wallet : Pubkey}
    {token token' : TokenAccount}
    (hToken : w.tokenAccounts wallet = some token) :
    World.RentSound H
      { w with
        tokenAccounts := Function.update w.tokenAccounts
          wallet (some token') } := by
  refine hSound.of_tokens rfl rfl (fun _ hMint => hMint) ?_
  intro other hOther
  by_cases hWallet : other = wallet
  · rw [hWallet, hToken]
    exact Option.some_ne_none token
  · dsimp only at hOther
    rw [Function.update_of_ne hWallet] at hOther
    exact hOther

end World.RentSound

end Entros

------------------------------------------------------------
-- Runs
------------------------------------------------------------

namespace Entros

open Foundations
open Anchor

variable {H : Host} {w w' : World}

theorem World.RentSound.issue
    {user : Signer}
    (hSound : w.RentSound H)
    (hIssue : issueToken H w user = .ok w') :
    w'.RentSound H := by
  simp only [issueToken, World.mintOne, bind_eq_ok,
    okOr_eq_ok, pure_eq_ok] at hIssue
  rcases hIssue with
    ⟨minted, hMinted, opened, hOpened, mint, hMint, token,
      hToken, rfl⟩
  exact ((hSound.createMint hMinted).createTokenAccount
    hOpened).updateTokens hMint hToken

theorem World.RentSound.closeMint
    {wallet : Pubkey}
    {destination : Signer}
    (hSound : w.RentSound H)
    (hClose : w.closeMint H wallet destination = .ok w') :
    w'.RentSound H := by
  have hKept :
      ∀ seeds : Seeds,
        seeds ≠ .mint wallet →
          w.lamports (H.findProgramAddress seeds) ≤
            (w.closeAccount
              (H.findProgramAddress (.mint wallet))
              (.key destination.key)).lamports
                (H.findProgramAddress seeds) := by
    intro seeds hSeeds
    apply closeAccount_le
    intro hSame
    exact hSeeds (H.findProgramAddress_inj.mp hSame)
  simp only [World.closeMint, bind_eq_ok, okOr_eq_ok,
    require_eq_ok, pure_eq_ok] at hClose
  rcases hClose with ⟨mint, hMint, _, _, rfl⟩
  refine ⟨hSound.after_close, ?_, ?_⟩
  · intro other hOther
    dsimp only at hOther
    by_cases hWallet : other = wallet
    · rw [hWallet, Function.update_self] at hOther
      exact absurd rfl hOther
    · rw [Function.update_of_ne hWallet] at hOther
      refine (hSound.mint other hOther).trans (hKept _ ?_)
      intro hSame
      exact hWallet (Seeds.mint.inj hSame)
  · intro other hToken
    exact (hSound.token other hToken).trans
      (hKept _ Seeds.noConfusion)

theorem World.RentSound.closeTokenAccount
    {owner : Signer}
    (hSound : w.RentSound H)
    (hClose : w.closeTokenAccount H owner = .ok w') :
    w'.RentSound H := by
  have hKept :
      ∀ seeds : Seeds,
        seeds ≠ .associatedToken owner.key →
          w.lamports (H.findProgramAddress seeds) ≤
            (w.closeAccount
              (H.findProgramAddress
                (.associatedToken owner.key))
              (.key owner.key)).lamports
                (H.findProgramAddress seeds) := by
    intro seeds hSeeds
    apply closeAccount_le
    intro hSame
    exact hSeeds (H.findProgramAddress_inj.mp hSame)
  simp only [World.closeTokenAccount, bind_eq_ok, okOr_eq_ok,
    require_eq_ok, pure_eq_ok] at hClose
  rcases hClose with ⟨token, hToken, _, _, rfl⟩
  refine ⟨hSound.after_close, ?_, ?_⟩
  · intro other hMint
    exact (hSound.mint other hMint).trans
      (hKept _ Seeds.noConfusion)
  · intro other hOther
    dsimp only at hOther
    by_cases hWallet : other = owner.key
    · rw [hWallet, Function.update_self] at hOther
      exact absurd rfl hOther
    · rw [Function.update_of_ne hWallet] at hOther
      refine (hSound.token other hOther).trans (hKept _ ?_)
      intro hSame
      exact hWallet (Seeds.associatedToken.inj hSame)

/- The reserves hold no data, so they may be spent from. -/
theorem World.RentSound.release
    {reserve destination : Address}
    {amount : ℕ}
    (hSound : w.RentSound H)
    (hReserved : Reserved H reserve)
    (hTransfer :
      w.transfer reserve destination amount = .ok w') :
    w'.RentSound H := by
  apply hSound.of_le (World.transfer_sameState hTransfer)
  intro seeds bump hTreasury hVault
  apply transfer_le hTransfer
  rintro rfl
  rcases hReserved with hSame | hSame
  · exact hTreasury (Address.pda.inj hSame).1
  · exact hVault (Address.pda.inj hSame).1

theorem DataOperation.rentSound
    (hOperation : DataOperation H w w')
    (hSound : w.RentSound H) :
    w'.RentSound H := by
  cases hOperation with
  | pay hTransfer => exact hSound.transfer hTransfer
  | release hReserved hTransfer =>
      exact hSound.release hReserved hTransfer
  | allocate hAddress hCreate =>
      exact hSound.create hAddress hCreate
  | write hAddress hSize => exact hSound.setData hAddress hSize
  | grow hAddress hFund => exact hSound.grow hAddress hFund
  | close hAddress => exact hSound.close hAddress
  | load data =>
      exact ⟨hSound.account, hSound.mint, hSound.token⟩

theorem Operation.rentSound
    (hOperation : Operation H w w')
    (hSound : w.RentSound H) :
    w'.RentSound H := by
  cases hOperation with
  | data hData => exact hData.rentSound hSound
  | issue hIssue => exact hSound.issue hIssue
  | closeMint hClose => exact hSound.closeMint hClose
  | burn hBurn =>
      simp only [World.burn, bind_eq_ok, okOr_eq_ok,
        require_eq_ok, pure_eq_ok] at hBurn
      rcases hBurn with
        ⟨mint, hMint, token, hToken, _, _, _, _, rfl⟩
      exact hSound.updateTokens hMint hToken
  | approve hApprove =>
      simp only [World.approve, bind_eq_ok, okOr_eq_ok,
        pure_eq_ok] at hApprove
      rcases hApprove with ⟨token, hToken, rfl⟩
      exact hSound.updateToken hToken
  | revoke hRevoke =>
      simp only [World.revoke, bind_eq_ok, okOr_eq_ok,
        pure_eq_ok] at hRevoke
      rcases hRevoke with ⟨token, hToken, _, _, rfl⟩
      exact hSound.updateToken hToken
  | openToken hOpen => exact hSound.createTokenAccount hOpen
  | closeToken hClose => exact hSound.closeTokenAccount hClose

/-
  Whatever is called in whatever order, no account that a
  program has allocated, no mint and no token account ever
  falls below its rent-exempt balance, and no program data
  comes to lie at the address of a mint, of a token account,
  of the treasury or of the vault.
-/
theorem accounts_stay_exempt
    {history : List (Event H)}
    (hSound : w.RentSound H)
    (hRun : Run (Step H) w history w') :
    w'.RentSound H := by
  refine hRun.preserves
    (fun _ state => state.RentSound H) hSound ?_
  intro _ last _ hBefore
  refine Operations.keeps (fun state => state.RentSound H)
    ?_ (step_operations last.valid) hBefore
  intro state state' hOperation hState
  exact hOperation.rentSound hState

open MoneyFlow

theorem funded_rentSound :
    World.funded.RentSound tables.host where
  account _ _ hOwner := absurd rfl hOwner
  mint _ hMint := absurd rfl hMint
  token _ hToken := absurd rfl hToken

theorem accounts_stay_exempt_payments :
    ∃ (history : List (Event tables.host)) (w' : World),
      Run (Step tables.host) .funded history w' ∧
        history.map Transition.label = payments ∧
          (w'.lamports (Registry.configAddress tables.host),
              w'.lamports
                (identityAddress tables.host
                  Sample.alice.key)) =
            (2178480, 5018160) ∧
            w'.RentSound tables.host := by
  have hReplay :
      (replay .funded payments).map (fun replayed =>
          (replayed.2.lamports
              (Registry.configAddress tables.host),
            replayed.2.lamports
              (identityAddress tables.host
                Sample.alice.key))) =
        some (2178480, 5018160) := by
    decide +kernel
  rcases exists_run hReplay with
    ⟨history, w', hRun, hLabels, hValues⟩
  exact ⟨history, w', hRun, hLabels, hValues,
    accounts_stay_exempt funded_rentSound hRun⟩

end Entros
