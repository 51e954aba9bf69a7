import Entros.System.Operations

/-
  The identity tokens: what the operations and the calls do to
  the mints and to the balances of the wallets.

  Key definitions include:
    * `World.HasMint`
    * `supplyOf`
    * `balanceOf`
    * `World.Backed`
    * `TokenEffect`

  Key theorems include:
    * `Operation.backed`
    * `TokenStep.hasMint`
    * `step_backed`
-/

------------------------------------------------------------
-- Supplies and Balances
------------------------------------------------------------

namespace Entros

open Foundations

/- The mint of a wallet exists. -/
def World.HasMint (w : World) (wallet : Pubkey) : Prop :=
  w.mints wallet ≠ none

/- How many tokens of a wallet's mint there are. -/
def supplyOf (w : World) (wallet : Pubkey) : ℕ :=
  match w.mints wallet with
  | none => 0
  | some mint => mint.supply

/- How many of them the wallet's own account holds. -/
def balanceOf (w : World) (wallet : Pubkey) : ℕ :=
  match w.tokenAccounts wallet with
  | none => 0
  | some token => token.amount

/- The one token of a mint is with its wallet, or burnt. -/
structure World.Backed (w : World) : Prop where
  supply :
    ∀ wallet, supplyOf w wallet = balanceOf w wallet
  single : ∀ wallet, supplyOf w wallet ≤ 1

variable {w w' : World} {wallet other : Pubkey}
variable {mint : TokenMint} {token : TokenAccount}

theorem supplyOf_none (hMint : w.mints wallet = none) :
    supplyOf w wallet = 0 := by
  unfold supplyOf
  rw [hMint]

theorem supplyOf_some (hMint : w.mints wallet = some mint) :
    supplyOf w wallet = mint.supply := by
  unfold supplyOf
  rw [hMint]

theorem balanceOf_none
    (hToken : w.tokenAccounts wallet = none) :
    balanceOf w wallet = 0 := by
  unfold balanceOf
  rw [hToken]

theorem balanceOf_some
    (hToken : w.tokenAccounts wallet = some token) :
    balanceOf w wallet = token.amount := by
  unfold balanceOf
  rw [hToken]

theorem supplyOf_update
    {mints : Pubkey → Option TokenMint}
    (hMints :
      w.mints = Function.update mints wallet (some mint)) :
    supplyOf w wallet = mint.supply := by
  apply supplyOf_some
  rw [hMints]
  exact Function.update_self ..

theorem balanceOf_update
    {accounts : Pubkey → Option TokenAccount}
    (hTokens :
      w.tokenAccounts =
        Function.update accounts wallet (some token)) :
    balanceOf w wallet = token.amount := by
  apply balanceOf_some
  rw [hTokens]
  exact Function.update_self ..

theorem supplyOf_congr
    (hMint : w'.mints wallet = w.mints wallet) :
    supplyOf w' wallet = supplyOf w wallet := by
  unfold supplyOf
  rw [hMint]

theorem balanceOf_congr
    (hToken :
      w'.tokenAccounts wallet = w.tokenAccounts wallet) :
    balanceOf w' wallet = balanceOf w wallet := by
  unfold balanceOf
  rw [hToken]

theorem hasMint_congr
    (hMint : w'.mints wallet = w.mints wallet) :
    w'.HasMint wallet ↔ w.HasMint wallet := by
  unfold World.HasMint
  rw [hMint]

/- Only the books of one wallet have to be looked at. -/
theorem World.Backed.of_wallet
    (hBacked : w.Backed)
    (hMints :
      ∀ other ≠ wallet, w'.mints other = w.mints other)
    (hTokens :
      ∀ other ≠ wallet,
        w'.tokenAccounts other = w.tokenAccounts other)
    (hSupply : supplyOf w' wallet = balanceOf w' wallet)
    (hSingle : supplyOf w' wallet ≤ 1) :
    w'.Backed := by
  constructor
  · intro other
    by_cases hOther : other = wallet
    · rw [hOther]
      exact hSupply
    · rw [supplyOf_congr (hMints other hOther),
        balanceOf_congr (hTokens other hOther)]
      exact hBacked.supply other
  · intro other
    by_cases hOther : other = wallet
    · rw [hOther]
      exact hSingle
    · rw [supplyOf_congr (hMints other hOther)]
      exact hBacked.single other

/- The counts are the same for every wallet. -/
theorem World.Backed.of_counts
    (hBacked : w.Backed)
    (hSupply : ∀ wallet, supplyOf w' wallet = supplyOf w wallet)
    (hBalance :
      ∀ wallet, balanceOf w' wallet = balanceOf w wallet) :
    w'.Backed where
  supply wallet := by
    rw [hSupply wallet, hBalance wallet]
    exact hBacked.supply wallet
  single wallet := by
    rw [hSupply wallet]
    exact hBacked.single wallet

/- No mint and no token account has changed. -/
structure SameTokens (w w' : World) : Prop where
  mints : w'.mints = w.mints
  tokens : w'.tokenAccounts = w.tokenAccounts

namespace SameTokens

variable (hSame : SameTokens w w')

include hSame

theorem supplyOf (wallet : Pubkey) :
    supplyOf w' wallet = supplyOf w wallet :=
  supplyOf_congr (congrFun hSame.mints wallet)

theorem balanceOf (wallet : Pubkey) :
    balanceOf w' wallet = balanceOf w wallet :=
  balanceOf_congr (congrFun hSame.tokens wallet)

theorem hasMint (wallet : Pubkey) :
    w'.HasMint wallet ↔ w.HasMint wallet :=
  hasMint_congr (congrFun hSame.mints wallet)

theorem backed (hBacked : w.Backed) : w'.Backed :=
  hBacked.of_counts hSame.supplyOf hSame.balanceOf

end SameTokens

end Entros

------------------------------------------------------------
-- Token Instructions
------------------------------------------------------------

namespace Entros

open Foundations
open Anchor

/- What the instructions of Token-2022 do to one wallet. -/
structure TokenEffect
    (wallet : Pubkey)
    (w w' : World) : Prop where
  mints : ∀ other ≠ wallet, w'.mints other = w.mints other
  tokens :
    ∀ other ≠ wallet,
      w'.tokenAccounts other = w.tokenAccounts other

variable {H : Host} {w w' : World}

theorem TokenEffect.trans
    {w'' : World}
    {wallet : Pubkey}
    (hFirst : TokenEffect wallet w w')
    (hSecond : TokenEffect wallet w' w'') :
    TokenEffect wallet w w'' where
  mints other hOther :=
    (hSecond.mints other hOther).trans
      (hFirst.mints other hOther)
  tokens other hOther :=
    (hSecond.tokens other hOther).trans
      (hFirst.tokens other hOther)

theorem World.Backed.of_effect
    {wallet : Pubkey}
    (hBacked : w.Backed)
    (hEffect :
      TokenEffect wallet w w' ∧ w'.mints = w.mints ∧
        balanceOf w' wallet = balanceOf w wallet) :
    w'.Backed := by
  rcases hEffect with ⟨hEffect, hMints, hBalance⟩
  apply hBacked.of_counts
  · intro other
    exact supplyOf_congr (congrFun hMints other)
  · intro other
    by_cases hOther : other = wallet
    · rw [hOther]
      exact hBalance
    · exact balanceOf_congr (hEffect.tokens other hOther)

theorem createMint_effect
    {user : Signer}
    (hCreate : w.createMint H user = .ok w') :
    TokenEffect user.key w w' ∧
      w.mints user.key = none ∧
        w'.mints user.key = some { supply := 0 } ∧
          w'.tokenAccounts = w.tokenAccounts := by
  simp only [World.createMint, bind_eq_ok, require_eq_ok,
    pure_eq_ok] at hCreate
  rcases hCreate with ⟨_, ⟨hNone, _⟩, funded, hFunded, rfl⟩
  rcases World.transfer_sameState hFunded with
    ⟨_, hMints, hTokens, _⟩
  refine ⟨⟨?_, ?_⟩, hNone, ?_, hTokens⟩
  · intro other hOther
    dsimp only
    rw [Function.update_of_ne hOther, hMints]
  · intro other _
    exact congrFun hTokens other
  · exact Function.update_self ..

theorem createTokenAccount_effect
    {payer : Signer}
    {wallet : Pubkey}
    {idempotent : Bool}
    (hOpen :
      w.createTokenAccount H payer wallet idempotent =
        .ok w') :
    TokenEffect wallet w w' ∧ w'.mints = w.mints ∧
      balanceOf w' wallet = balanceOf w wallet := by
  unfold World.createTokenAccount at hOpen
  cases hToken : w.tokenAccounts wallet with
  | some token =>
      simp only [hToken] at hOpen
      split_ifs at hOpen
      rw [← Except.ok.inj hOpen]
      exact ⟨⟨fun _ _ => rfl, fun _ _ => rfl⟩, rfl, rfl⟩
  | none =>
      simp only [hToken, bind_eq_ok, pure_eq_ok] at hOpen
      rcases hOpen with ⟨funded, hFunded, rfl⟩
      rcases World.topUp_sameState hFunded with
        ⟨_, hMints, hTokens, _⟩
      refine ⟨⟨?_, ?_⟩, hMints, ?_⟩
      · intro other _
        exact congrFun hMints other
      · intro other hOther
        dsimp only
        rw [Function.update_of_ne hOther, hTokens]
      · rw [balanceOf_none hToken]
        exact Eq.trans (balanceOf_update rfl) rfl

theorem mintOne_effect
    {wallet : Pubkey}
    (hMint : w.mintOne wallet = .ok w') :
    TokenEffect wallet w w' ∧ w'.HasMint wallet ∧
      supplyOf w' wallet = supplyOf w wallet + 1 ∧
        balanceOf w' wallet = balanceOf w wallet + 1 := by
  simp only [World.mintOne, bind_eq_ok, okOr_eq_ok,
    pure_eq_ok] at hMint
  rcases hMint with ⟨mint, hStored, token, hToken, rfl⟩
  refine ⟨⟨?_, ?_⟩, ?_, ?_, ?_⟩
  · intro other hOther
    exact Function.update_of_ne hOther _ _
  · intro other hOther
    exact Function.update_of_ne hOther _ _
  · intro hNone
    dsimp only at hNone
    rw [Function.update_self] at hNone
    cases hNone
  · rw [supplyOf_some hStored]
    exact supplyOf_update rfl
  · rw [balanceOf_some hToken]
    exact Eq.trans (balanceOf_update rfl) rfl

/- A new mint issues one token to its wallet. -/
theorem issueToken_effect
    {user : Signer}
    (hIssue : issueToken H w user = .ok w') :
    TokenEffect user.key w w' ∧
      w.mints user.key = none ∧ w'.HasMint user.key ∧
        supplyOf w' user.key = 1 ∧
          balanceOf w' user.key = balanceOf w user.key + 1 := by
  simp only [issueToken, bind_eq_ok] at hIssue
  rcases hIssue with
    ⟨minted, hMinted, opened, hOpened, hIssued⟩
  rcases createMint_effect hMinted with
    ⟨hMintEffect, hNone, hMint, hTokens⟩
  rcases createTokenAccount_effect hOpened with
    ⟨hOpenEffect, hMints, hBalance⟩
  rcases mintOne_effect hIssued with
    ⟨hOneEffect, hHas, hSupply, hOne⟩
  have hZero : supplyOf opened user.key = 0 := by
    rw [supplyOf_congr (congrFun hMints user.key)]
    exact supplyOf_some hMint
  refine ⟨(hMintEffect.trans hOpenEffect).trans hOneEffect,
    hNone, hHas, ?_, ?_⟩
  · rw [hSupply, hZero]
  · rw [hOne, hBalance,
      balanceOf_congr (congrFun hTokens user.key)]

theorem burn_effect
    {wallet : Pubkey}
    {authority : Signer}
    {amount : ℕ}
    (hBurn : w.burn wallet authority amount = .ok w') :
    TokenEffect wallet w w' ∧
      w.HasMint wallet ∧ w'.HasMint wallet ∧
        amount ≤ balanceOf w wallet ∧
          supplyOf w' wallet = supplyOf w wallet - amount ∧
            balanceOf w' wallet =
              balanceOf w wallet - amount := by
  simp only [World.burn, bind_eq_ok, okOr_eq_ok,
    require_eq_ok, pure_eq_ok] at hBurn
  rcases hBurn with
    ⟨mint, hMint, token, hToken, _, hAmount, spent, hSpent,
      rfl⟩
  have hSame : spent.amount = token.amount := by
    unfold World.burnAuthority at hSpent
    split_ifs at hSpent
    · simp only [bind_eq_ok, require_eq_ok, pure_eq_ok]
        at hSpent
      rcases hSpent with ⟨_, _, rfl⟩
      rfl
    · simp only [bind_eq_ok, require_eq_ok, pure_eq_ok]
        at hSpent
      rcases hSpent with ⟨_, _, rfl⟩
      rfl
  refine ⟨⟨?_, ?_⟩, ?_, ?_, ?_, ?_, ?_⟩
  · intro other hOther
    exact Function.update_of_ne hOther _ _
  · intro other hOther
    exact Function.update_of_ne hOther _ _
  · intro hNone
    rw [hMint] at hNone
    cases hNone
  · intro hNone
    dsimp only at hNone
    rw [Function.update_self] at hNone
    cases hNone
  · rw [balanceOf_some hToken]
    exact hAmount
  · rw [supplyOf_some hMint]
    exact supplyOf_update rfl
  · rw [balanceOf_some hToken, ← hSame]
    exact Eq.trans (balanceOf_update rfl) rfl

theorem closeMint_effect
    {wallet : Pubkey}
    {destination : Signer}
    (hClose : w.closeMint H wallet destination = .ok w') :
    TokenEffect wallet w w' ∧ supplyOf w wallet = 0 ∧
      w'.mints wallet = none ∧
        w'.tokenAccounts = w.tokenAccounts := by
  simp only [World.closeMint, bind_eq_ok, okOr_eq_ok,
    require_eq_ok, pure_eq_ok] at hClose
  rcases hClose with ⟨mint, hMint, _, hZero, rfl⟩
  refine ⟨⟨?_, ?_⟩, ?_, ?_, rfl⟩
  · intro other hOther
    exact Function.update_of_ne hOther _ _
  · intro other _
    rfl
  · rw [supplyOf_some hMint]
    exact hZero
  · exact Function.update_self ..

/- Allowances leave the amount alone. -/
theorem updateToken_effect
    {wallet : Pubkey}
    {token token' : TokenAccount}
    (hToken : w.tokenAccounts wallet = some token)
    (hAmount : token'.amount = token.amount)
    (hMints : w'.mints = w.mints)
    (hTokens :
      w'.tokenAccounts =
        Function.update w.tokenAccounts wallet
          (some token')) :
    TokenEffect wallet w w' ∧ w'.mints = w.mints ∧
      balanceOf w' wallet = balanceOf w wallet := by
  refine ⟨⟨?_, ?_⟩, hMints, ?_⟩
  · intro other _
    exact congrFun hMints other
  · intro other hOther
    rw [hTokens]
    exact Function.update_of_ne hOther _ _
  · rw [balanceOf_some hToken, ← hAmount]
    exact balanceOf_update hTokens

theorem approve_effect
    {owner : Signer}
    {delegate : Pubkey}
    {amount : ℕ}
    (hApprove : w.approve owner delegate amount = .ok w') :
    TokenEffect owner.key w w' ∧ w'.mints = w.mints ∧
      balanceOf w' owner.key = balanceOf w owner.key := by
  simp only [World.approve, bind_eq_ok, okOr_eq_ok,
    pure_eq_ok] at hApprove
  rcases hApprove with ⟨token, hToken, rfl⟩
  refine updateToken_effect hToken ?_ rfl rfl
  rfl

theorem revoke_effect
    {wallet : Pubkey}
    {authority : Signer}
    (hRevoke : w.revoke wallet authority = .ok w') :
    TokenEffect wallet w w' ∧ w'.mints = w.mints ∧
      balanceOf w' wallet = balanceOf w wallet := by
  simp only [World.revoke, bind_eq_ok, okOr_eq_ok,
    pure_eq_ok] at hRevoke
  rcases hRevoke with ⟨token, hToken, _, _, rfl⟩
  refine updateToken_effect hToken ?_ rfl rfl
  rfl

theorem closeTokenAccount_effect
    {owner : Signer}
    (hClose : w.closeTokenAccount H owner = .ok w') :
    TokenEffect owner.key w w' ∧ w'.mints = w.mints ∧
      balanceOf w' owner.key = balanceOf w owner.key := by
  simp only [World.closeTokenAccount, bind_eq_ok, okOr_eq_ok,
    require_eq_ok, pure_eq_ok] at hClose
  rcases hClose with ⟨token, hToken, _, hEmpty, rfl⟩
  refine ⟨⟨?_, ?_⟩, rfl, ?_⟩
  · intro other _
    rfl
  · intro other hOther
    exact Function.update_of_ne hOther _ _
  · rw [balanceOf_some hToken, hEmpty]
    exact balanceOf_none (Function.update_self ..)

end Entros

------------------------------------------------------------
-- Operations
------------------------------------------------------------

namespace Entros

open Foundations
open Anchor

variable {H : Host} {w w' : World}

theorem DataOperation.sameTokens
    (hOperation : DataOperation H w w') :
    SameTokens w w' := by
  cases hOperation with
  | pay hTransfer =>
      rcases World.transfer_sameState hTransfer with
        ⟨_, hMints, hTokens, _⟩
      exact ⟨hMints, hTokens⟩
  | release _ hTransfer =>
      rcases World.transfer_sameState hTransfer with
        ⟨_, hMints, hTokens, _⟩
      exact ⟨hMints, hTokens⟩
  | allocate _ hCreate =>
      simp only [World.createAccount, World.allocate,
        bind_eq_ok, require_eq_ok, pure_eq_ok] at hCreate
      rcases hCreate with ⟨funded, hFunded, _, _, rfl⟩
      rcases World.topUp_sameState hFunded with
        ⟨_, hMints, hTokens, _⟩
      exact ⟨hMints, hTokens⟩
  | write => exact ⟨rfl, rfl⟩
  | grow _ hFund =>
      rcases World.topUp_sameState hFund with
        ⟨_, hMints, hTokens, _⟩
      exact ⟨hMints, hTokens⟩
  | close => exact ⟨rfl, rfl⟩
  | load => exact ⟨rfl, rfl⟩

/- The accounts of the programs hold no tokens. -/
theorem DataOperations.sameTokens
    (hOperations : DataOperations H w w') :
    SameTokens w w' := by
  refine hOperations.keeps (SameTokens w) ?_ ⟨rfl, rfl⟩
  intro state state' hOperation hSame
  have hLast := hOperation.sameTokens
  exact ⟨hLast.mints.trans hSame.mints,
    hLast.tokens.trans hSame.tokens⟩

/- Every operation on tokens keeps the books balanced. -/
theorem Operation.backed
    (hOperation : Operation H w w')
    (hBacked : w.Backed) :
    w'.Backed := by
  cases hOperation with
  | data hData => exact hData.sameTokens.backed hBacked
  | issue hIssue =>
      rcases issueToken_effect hIssue with
        ⟨hEffect, hNone, _, hSupply, hBalance⟩
      refine hBacked.of_wallet hEffect.mints hEffect.tokens
        ?_ ?_
      · rw [hSupply, hBalance, ← hBacked.supply,
          supplyOf_none hNone]
      · rw [hSupply]
  | closeMint hClose =>
      rcases closeMint_effect hClose with
        ⟨hEffect, hZero, hNone, hTokens⟩
      refine hBacked.of_wallet hEffect.mints hEffect.tokens
        ?_ ?_
      · rw [supplyOf_none hNone,
          balanceOf_congr (congrFun hTokens _),
          ← hBacked.supply, hZero]
      · rw [supplyOf_none hNone]
        exact Nat.zero_le 1
  | burn hBurn =>
      rcases burn_effect hBurn with
        ⟨hEffect, _, _, _, hSupply, hBalance⟩
      refine hBacked.of_wallet hEffect.mints hEffect.tokens
        ?_ ?_
      · rw [hSupply, hBalance, hBacked.supply]
      · rw [hSupply]
        exact (Nat.sub_le _ _).trans (hBacked.single _)
  | approve hApprove =>
      exact hBacked.of_effect (approve_effect hApprove)
  | revoke hRevoke =>
      exact hBacked.of_effect (revoke_effect hRevoke)
  | openToken hOpen =>
      exact hBacked.of_effect (createTokenAccount_effect hOpen)
  | closeToken hClose =>
      exact hBacked.of_effect (closeTokenAccount_effect hClose)

end Entros

------------------------------------------------------------
-- Calls
------------------------------------------------------------

namespace Entros

open Foundations
open Anchor

variable {H : Host} {w w' : World}
variable {instruction : Instruction}

/- What is issued to a wallet stays with it. -/
theorem issueToken_hasMint
    {user : Signer}
    (hIssue : issueToken H w user = .ok w')
    (wallet : Pubkey) :
    w'.HasMint wallet ↔
      wallet = user.key ∨ w.HasMint wallet := by
  rcases issueToken_effect hIssue with
    ⟨hEffect, _, hHas, _, _⟩
  by_cases hWallet : wallet = user.key
  · subst hWallet
    exact iff_of_true hHas (.inl rfl)
  · rw [hasMint_congr (hEffect.mints wallet hWallet)]
    exact (or_iff_right hWallet).symm

theorem closeMint_hasMint
    {walletOld : Pubkey}
    {destination : Signer}
    (hClose : w.closeMint H walletOld destination = .ok w')
    (wallet : Pubkey) :
    w'.HasMint wallet ↔
      wallet ≠ walletOld ∧ w.HasMint wallet := by
  rcases closeMint_effect hClose with ⟨hEffect, _, hNone, _⟩
  by_cases hWallet : wallet = walletOld
  · subst hWallet
    exact iff_of_false (fun hHas => hHas hNone)
      (fun hBoth => hBoth.1 rfl)
  · rw [hasMint_congr (hEffect.mints wallet hWallet)]
    exact (and_iff_right hWallet).symm

theorem burn_hasMint
    {walletOld : Pubkey}
    {authority : Signer}
    {amount : ℕ}
    (hBurn : w.burn walletOld authority amount = .ok w')
    (wallet : Pubkey) :
    w'.HasMint wallet ↔ w.HasMint wallet := by
  rcases burn_effect hBurn with
    ⟨hEffect, hBefore, hAfter, _⟩
  by_cases hWallet : wallet = walletOld
  · subst hWallet
    exact iff_of_true hAfter hBefore
  · exact hasMint_congr (hEffect.mints wallet hWallet)

/- The mints follow the motion of the identities. -/
theorem TokenStep.hasMint
    (hStep : TokenStep H instruction w w')
    (wallet : Pubkey) :
    w'.HasMint wallet ↔
      instruction.motion.Occupies w.HasMint wallet := by
  cases hStep with
  | data hStay hData =>
      rw [hStay, hData.sameTokens.hasMint]
      rfl
  | mint hMotion _ hBefore hIssue hAfter =>
      rw [hMotion, hAfter.sameTokens.hasMint,
        issueToken_hasMint hIssue,
        hBefore.sameTokens.hasMint]
      rfl
  | migrate hMotion _ hBefore hIssue hPaid hBurn hClose
      hAfter =>
      rw [hMotion, hAfter.sameTokens.hasMint,
        closeMint_hasMint hClose, burn_hasMint hBurn,
        hPaid.sameTokens.hasMint, issueToken_hasMint hIssue,
        hBefore.sameTokens.hasMint]
      rfl
  | approve hStay _ hApprove hAfter =>
      rcases approve_effect hApprove with ⟨_, hMints, _⟩
      rw [hStay, hAfter.sameTokens.hasMint]
      exact hasMint_congr (congrFun hMints wallet)
  | revoke hStay _ hRevoke =>
      rcases revoke_effect hRevoke with ⟨_, hMints, _⟩
      rw [hStay]
      exact hasMint_congr (congrFun hMints wallet)
  | burn hStay _ hBurn =>
      rw [hStay]
      exact burn_hasMint hBurn wallet
  | openToken hStay _ hOpen =>
      rcases createTokenAccount_effect hOpen with
        ⟨_, hMints, _⟩
      rw [hStay]
      exact hasMint_congr (congrFun hMints wallet)
  | closeToken hStay _ hClose =>
      rcases closeTokenAccount_effect hClose with
        ⟨_, hMints, _⟩
      rw [hStay]
      exact hasMint_congr (congrFun hMints wallet)

/- Every call keeps the books of the tokens balanced. -/
theorem step_backed
    {call : Call H}
    (hStep : Step H w call w')
    (hBacked : w.Backed) :
    w'.Backed := by
  refine (step_operations hStep).keeps World.Backed ?_ hBacked
  intro state state' hOperation hState
  exact hOperation.backed hState

end Entros
