import Entros.Guarantees.MoneyFlow
import Entros.System.Evolution
import Entros.System.Tokens

/-
  The identity tokens over whole runs: the mints follow the
  identities, no wallet has more than one token, nobody but
  its wallet and the delegate disposes of it, and an identity
  whose token has been burnt never moves again.

  Key definitions include:
    * `World.Tokenless`
    * `TokensFollow`
    * `Event.Exchanges`
    * `World.Burnt`
    * `World.Holds`
    * `Instruction.Foreign`

  Key theorems include:
    * `run_tokensFollow`
    * `tokens_follow_identities`
    * `burnt_identity_stays`
    * `unsigned_tokens_keep`
-/

------------------------------------------------------------
-- Identities and Mints
------------------------------------------------------------

namespace Entros

open Foundations
open Anchor

/- No mint has been created yet. -/
structure World.Tokenless (w : World) : Prop where
  mints : ∀ wallet, w.mints wallet = none
  tokens : ∀ wallet, w.tokenAccounts wallet = none

/- The wallet has a live identity. -/
def Ledger.Live (l : Ledger) (wallet : Pubkey) : Prop :=
  l.identity wallet ≠ none

/-
  The live identities have the mints, and each mint has at
  most one token, which its own wallet holds.
-/
structure TokensFollow (H : Host) (w : World) : Prop where
  live : ∀ wallet, w.HasMint wallet ↔ (w.ledger H).Live wallet
  backed : w.Backed

variable {H : Host} {w w' : World}
variable {history : List (Event H)}

theorem World.Tokenless.backed (hNone : w.Tokenless) :
    w.Backed where
  supply wallet := by
    rw [supplyOf_none (hNone.mints wallet),
      balanceOf_none (hNone.tokens wallet)]
  single wallet := by
    rw [supplyOf_none (hNone.mints wallet)]
    exact Nat.zero_le 1

/- The live identities after a step. -/
theorem IdentityChange.occupies
    {config : Account}
    {call : Call H}
    {l l' : Ledger}
    (hChange :
      IdentityChange H config call l.identity l'.identity)
    (wallet : Pubkey) :
    l'.Live wallet ↔
      call.instruction.motion.Occupies l.Live wallet := by
  unfold Ledger.Live
  generalize hIdentity : l'.identity = identity' at hChange
  cases hChange with
  | born slot _ _ hMotion =>
      rw [hMotion]
      by_cases hWallet : wallet = slot
      · subst hWallet
        rw [Function.update_self]
        exact iff_of_true nofun (.inl rfl)
      · rw [Function.update_of_ne hWallet]
        exact (or_iff_right hWallet).symm
  | moved walletOld walletNew _ hMotion =>
      rw [hMotion]
      by_cases hOld : wallet = walletOld
      · subst hOld
        rw [Function.update_self]
        exact iff_of_false (fun hLive => hLive rfl)
          (fun hBoth => hBoth.1 rfl)
      · rw [Function.update_of_ne hOld]
        refine Iff.trans ?_ (and_iff_right hOld).symm
        by_cases hNew : wallet = walletNew
        · subst hNew
          rw [Function.update_self]
          exact iff_of_true nofun (.inl rfl)
        · rw [Function.update_of_ne hNew]
          exact (or_iff_right hNew).symm
  | rewritten slot stored _ hRewrites hStored =>
      have hStay :
          call.instruction.motion = .stay :=
        Instruction.motion_of_rewrites hRewrites
      rw [hStay]
      by_cases hWallet : wallet = slot
      · subst hWallet
        rw [Function.update_self]
        refine iff_of_true nofun ?_
        change l.identity wallet ≠ none
        rw [hStored]
        exact nofun
      · rw [Function.update_of_ne hWallet]
        exact Iff.rfl
  | same hStay =>
      rw [hStay]
      exact Iff.rfl

/- In every reachable state the tokens follow. -/
theorem run_tokensFollow
    (hFresh : w.Fresh)
    (hNone : w.Tokenless)
    (hRun : Run (Step H) w history w') :
    TokensFollow H w' := by
  refine hRun.preserves
    (fun _ state => TokensFollow H state) ?_ ?_
  · refine ⟨?_, hNone.backed⟩
    intro wallet
    rw [hFresh.ledger_eq]
    exact iff_of_false
      (fun hHas => hHas (hNone.mints wallet))
      (fun hLive => hLive rfl)
  · intro _ last hFront hFollow
    refine ⟨?_, step_backed last.valid hFollow.backed⟩
    intro wallet
    have hChange := (run_step hFresh hFront).identityChange
    rw [(step_tokens last.valid).hasMint,
      hChange.occupies]
    exact Motion.occupies_congr hFollow.live _ wallet

end Entros

------------------------------------------------------------
-- Exchanges
------------------------------------------------------------

namespace Entros

open Foundations
open Anchor

/-
  A mint issues one token.  A migration takes the one token of
  the old wallet, removes its mint and issues a token of the
  new wallet.
-/
structure Event.Exchanges
    {H : Host}
    (event : Event H) : Prop where
  birth :
    ∀ wallet,
      event.instruction.motion = .birth wallet →
        ¬ event.source.HasMint wallet ∧
          balanceOf event.target wallet = 1
  move :
    ∀ walletOld wallet,
      event.instruction.motion = .move walletOld wallet →
        balanceOf event.source walletOld = 1 ∧
          ¬ event.source.HasMint wallet ∧
            ¬ event.target.HasMint walletOld ∧
              balanceOf event.target wallet = 1

variable {H : Host} {w w' : World}
variable {instruction : Instruction}
variable {history : List (Event H)}

/- After an issue, the new wallet has the token. -/
theorem issueToken_balance
    {user : Signer}
    (hBacked : w.Backed)
    (hIssue : issueToken H w user = .ok w') :
    balanceOf w' user.key = 1 := by
  rcases issueToken_effect hIssue with
    ⟨_, hNone, _, _, hBalance⟩
  rw [hBalance, ← hBacked.supply, supplyOf_none hNone]

/- What a motion of identities does to the tokens. -/
def TokenFacts
    (H : Host)
    (w w' : World) : Motion Pubkey → Prop
| .birth wallet =>
    ∃ before issued user,
      user.key = wallet ∧ SameTokens w before ∧
        issueToken H before user = .ok issued ∧
          SameTokens issued w'
| .move walletOld wallet =>
    ∃ before issued paid burned closed user,
      user.key = wallet ∧ SameTokens w before ∧
        issueToken H before user = .ok issued ∧
          SameTokens issued paid ∧
            paid.burn walletOld user 1 = .ok burned ∧
              burned.closeMint H walletOld user =
                  .ok closed ∧
                SameTokens closed w'
| .stay => True

theorem TokenStep.facts
    (hStep : TokenStep H instruction w w') :
    TokenFacts H w w' instruction.motion := by
  cases hStep with
  | mint hMotion _ hBefore hIssue hAfter =>
      rw [hMotion]
      exact ⟨_, _, _, rfl, hBefore.sameTokens, hIssue,
        hAfter.sameTokens⟩
  | migrate hMotion _ hBefore hIssue hPaid hBurn hClose
      hAfter =>
      rw [hMotion]
      exact ⟨_, _, _, _, _, _, rfl, hBefore.sameTokens,
        hIssue, hPaid.sameTokens, hBurn, hClose,
        hAfter.sameTokens⟩
  | data hStay => rw [hStay]; trivial
  | approve hStay => rw [hStay]; trivial
  | revoke hStay => rw [hStay]; trivial
  | burn hStay => rw [hStay]; trivial
  | openToken hStay => rw [hStay]; trivial
  | closeToken hStay => rw [hStay]; trivial

theorem TokenStep.birth
    {wallet : Pubkey}
    (hStep : TokenStep H instruction w w')
    (hBacked : w.Backed)
    (hBirth : instruction.motion = .birth wallet) :
    ¬ w.HasMint wallet ∧ balanceOf w' wallet = 1 := by
  have hFacts := hStep.facts
  rw [hBirth] at hFacts
  rcases hFacts with
    ⟨before, issued, user, rfl, hBefore, hIssue, hAfter⟩
  rcases issueToken_effect hIssue with ⟨_, hNone, _⟩
  constructor
  · rw [← hBefore.hasMint]
    exact fun hHas => hHas hNone
  · rw [hAfter.balanceOf]
    exact issueToken_balance (hBefore.backed hBacked) hIssue

/- The old wallet pays with the token it came with. -/
theorem exchange_balances
    {before issued paid burned closed : World}
    {user : Signer}
    {walletOld : Pubkey}
    (hBacked : before.Backed)
    (hHas : before.HasMint walletOld)
    (hIssue : issueToken H before user = .ok issued)
    (hPaid : SameTokens issued paid)
    (hBurn : paid.burn walletOld user 1 = .ok burned)
    (hClose : burned.closeMint H walletOld user = .ok closed) :
    balanceOf before walletOld = 1 ∧
      ¬ before.HasMint user.key ∧
        balanceOf closed user.key = 1 := by
  rcases issueToken_effect hIssue with ⟨hIssued, hNone, _⟩
  rcases burn_effect hBurn with ⟨hBurned, _, _, hEnough, _⟩
  rcases closeMint_effect hClose with ⟨_, _, _, hTokens⟩
  have hVacant : ¬ before.HasMint user.key :=
    fun hHas => hHas hNone
  have hApart : walletOld ≠ user.key := by
    rintro rfl
    exact hVacant hHas
  have hOld :
      balanceOf paid walletOld =
        balanceOf before walletOld := by
    rw [hPaid.balanceOf]
    exact balanceOf_congr (hIssued.tokens walletOld hApart)
  have hNew : balanceOf paid user.key = 1 := by
    rw [hPaid.balanceOf]
    exact issueToken_balance hBacked hIssue
  have hAtMost : balanceOf before walletOld ≤ 1 := by
    rw [← hBacked.supply]
    exact hBacked.single walletOld
  refine ⟨?_, hVacant, ?_⟩
  · rw [hOld] at hEnough
    exact Nat.le_antisymm hAtMost hEnough
  · rw [balanceOf_congr (congrFun hTokens user.key),
      balanceOf_congr
        (hBurned.tokens user.key hApart.symm)]
    exact hNew

theorem TokenStep.move
    {walletOld wallet : Pubkey}
    (hStep : TokenStep H instruction w w')
    (hBacked : w.Backed)
    (hHas : w.HasMint walletOld)
    (hMove : instruction.motion = .move walletOld wallet) :
    balanceOf w walletOld = 1 ∧ ¬ w.HasMint wallet ∧
      ¬ w'.HasMint walletOld ∧ balanceOf w' wallet = 1 := by
  have hGone : ¬ w'.HasMint walletOld := by
    rw [hStep.hasMint, hMove]
    exact fun hBoth => hBoth.1 rfl
  have hFacts := hStep.facts
  rw [hMove] at hFacts
  rcases hFacts with
    ⟨before, issued, paid, burned, closed, user, rfl, hSame,
      hIssue, hPaid, hBurn, hClose, hAfter⟩
  rcases exchange_balances (hSame.backed hBacked)
    ((hSame.hasMint walletOld).mpr hHas) hIssue hPaid hBurn
    hClose with ⟨hOld, hVacant, hNew⟩
  refine ⟨?_, ?_, hGone, ?_⟩
  · rw [← hSame.balanceOf]
    exact hOld
  · rw [← hSame.hasMint]
    exact hVacant
  · rw [hAfter.balanceOf]
    exact hNew

/- The identity that a migration takes is live. -/
theorem live_of_move
    {last : Event H}
    {walletOld wallet : Pubkey}
    (hFresh : w.Fresh)
    (hRun : Run (Step H) w history last.source)
    (hMove : last.instruction.motion = .move walletOld wallet) :
    (last.source.ledger H).Live walletOld := by
  rcases (run_identityStep hFresh hRun).migrated hMove with
    ⟨identityOld, hIdentity, _⟩
  rw [Ledger.Live, hIdentity]
  exact Option.some_ne_none _

/-
  From an empty deployment on, in every order of calls: a
  wallet has a mint exactly while it has an identity, the
  supply of the mint is what the wallet holds of it and never
  more than one token, and every mint or migration of an
  identity issues, burns and removes the tokens that belong to
  it.
-/
theorem tokens_follow_identities
    (hFresh : w.Fresh)
    (hNone : w.Tokenless)
    (hRun : Run (Step H) w history w') :
    TokensFollow H w' ∧
      ∀ event : Event H, event ∈ history →
        event.Exchanges := by
  refine ⟨run_tokensFollow hFresh hNone hRun, ?_⟩
  intro event hEvent
  rcases List.mem_iff_getElem?.mp hEvent with ⟨i, hIndex⟩
  have hFront := hRun.source hIndex
  have hFollow := run_tokensFollow hFresh hNone hFront
  have hStep := step_tokens event.valid
  refine ⟨?_, ?_⟩
  · intro wallet hBirth
    exact hStep.birth hFollow.backed hBirth
  · intro walletOld wallet hMove
    have hLive := live_of_move hFresh hFront hMove
    exact hStep.move hFollow.backed
      ((hFollow.live walletOld).mpr hLive) hMove

end Entros

------------------------------------------------------------
-- A Round Trip
------------------------------------------------------------

namespace Entros

open Foundations

theorem funded_tokenless : World.funded.Tokenless :=
  ⟨fun _ => rfl, fun _ => rfl⟩

theorem tokens_follow_identities_roundTrip :
    ∃ (history : List (Event Sample.tables.host))
      (w' : World),
      Run (Step Sample.tables.host) .funded history w' ∧
        history.map Transition.label = Sample.roundTrip ∧
          TokensFollow Sample.tables.host w' ∧
            ∀ event : Event Sample.tables.host,
              event ∈ history → event.Exchanges := by
  rcases Sample.roundTrip_run with
    ⟨history, w', hRun, hLabels⟩
  exact ⟨history, w', hRun, hLabels,
    tokens_follow_identities funded_fresh funded_tokenless
      hRun⟩

end Entros

------------------------------------------------------------
-- Burnt Tokens
------------------------------------------------------------

namespace Entros

open Foundations
open Anchor

/- The mint of the wallet exists, and its token is gone. -/
structure World.Burnt (wallet : Pubkey) (w : World) :
    Prop where
  mint : w.HasMint wallet
  supply : supplyOf w wallet = 0

variable {H : Host} {w w' : World} {wallet : Pubkey}
variable {instruction : Instruction}
variable {history later : List (Event H)}

theorem World.Burnt.of_mints
    (hBurnt : w.Burnt wallet)
    (hMint : w'.mints wallet = w.mints wallet) :
    w'.Burnt wallet where
  mint := (hasMint_congr hMint).mpr hBurnt.mint
  supply := (supplyOf_congr hMint).trans hBurnt.supply

theorem SameTokens.burnt
    (hSame : SameTokens w w')
    (hBurnt : w.Burnt wallet) :
    w'.Burnt wallet :=
  hBurnt.of_mints (congrFun hSame.mints wallet)

/- An issue concerns a wallet without a mint. -/
theorem issueToken_burnt
    {user : Signer}
    (hIssue : issueToken H w user = .ok w')
    (hBurnt : w.Burnt wallet) :
    wallet ≠ user.key ∧ w'.Burnt wallet := by
  rcases issueToken_effect hIssue with ⟨hEffect, hNone, _⟩
  have hApart : wallet ≠ user.key := by
    rintro rfl
    exact hBurnt.mint hNone
  exact ⟨hApart, hBurnt.of_mints (hEffect.mints _ hApart)⟩

theorem burn_burnt
    {holder : Pubkey}
    {authority : Signer}
    {amount : ℕ}
    (hBurn : w.burn holder authority amount = .ok w')
    (hBurnt : w.Burnt wallet) :
    w'.Burnt wallet := by
  rcases burn_effect hBurn with
    ⟨hEffect, _, hHas, _, hSupply, _⟩
  by_cases hWallet : wallet = holder
  · subst hWallet
    refine ⟨hHas, ?_⟩
    rw [hSupply, hBurnt.supply, Nat.zero_sub]
  · exact hBurnt.of_mints (hEffect.mints _ hWallet)

/- A migration burns a token, so it burns another one. -/
theorem burn_apart
    {holder : Pubkey}
    {authority : Signer}
    (hBacked : w.Backed)
    (hBurn : w.burn holder authority 1 = .ok w')
    (hBurnt : w.Burnt wallet) :
    wallet ≠ holder := by
  rcases burn_effect hBurn with ⟨_, _, _, hEnough, _⟩
  rintro rfl
  rw [← hBacked.supply, hBurnt.supply] at hEnough
  exact absurd hEnough (by decide)

/- No call revives a burnt token, or moves its identity. -/
theorem TokenStep.burnt
    (hStep : TokenStep H instruction w w')
    (hBacked : w.Backed)
    (hBurnt : w.Burnt wallet) :
    w'.Burnt wallet ∧
      ¬ instruction.motion.Involves wallet := by
  cases hStep with
  | data hStay hData =>
      rw [hStay]
      exact ⟨hData.sameTokens.burnt hBurnt, id⟩
  | mint hMotion _ hBefore hIssue hAfter =>
      rcases issueToken_burnt hIssue
        (hBefore.sameTokens.burnt hBurnt) with
        ⟨hApart, hIssued⟩
      rw [hMotion]
      exact ⟨hAfter.sameTokens.burnt hIssued, hApart⟩
  | migrate hMotion _ hBefore hIssue hPaid hBurn hClose
      hAfter =>
      have hReady := hBefore.sameTokens.backed hBacked
      rcases issueToken_burnt hIssue
        (hBefore.sameTokens.burnt hBurnt) with
        ⟨hNew, hIssued⟩
      have hPaidBurnt := hPaid.sameTokens.burnt hIssued
      have hPaidBacked :=
        hPaid.sameTokens.backed
          ((Operation.issue hIssue).backed hReady)
      have hOld := burn_apart hPaidBacked hBurn hPaidBurnt
      rcases closeMint_effect hClose with ⟨hClosed, _⟩
      have hDone :=
        (burn_burnt hBurn hPaidBurnt).of_mints
          (hClosed.mints _ hOld)
      rw [hMotion]
      refine ⟨hAfter.sameTokens.burnt hDone, ?_⟩
      exact fun hInvolves => hInvolves.elim hOld hNew
  | approve hStay _ hApprove hAfter =>
      rcases approve_effect hApprove with ⟨_, hMints, _⟩
      rw [hStay]
      exact ⟨hAfter.sameTokens.burnt
        (hBurnt.of_mints (congrFun hMints wallet)), id⟩
  | revoke hStay _ hRevoke =>
      rcases revoke_effect hRevoke with ⟨_, hMints, _⟩
      rw [hStay]
      exact ⟨hBurnt.of_mints (congrFun hMints wallet), id⟩
  | burn hStay _ hBurn =>
      rw [hStay]
      exact ⟨burn_burnt hBurn hBurnt, id⟩
  | openToken hStay _ hOpen =>
      rcases createTokenAccount_effect hOpen with
        ⟨_, hMints, _⟩
      rw [hStay]
      exact ⟨hBurnt.of_mints (congrFun hMints wallet), id⟩
  | closeToken hStay _ hClose =>
      rcases closeTokenAccount_effect hClose with
        ⟨_, hMints, _⟩
      rw [hStay]
      exact ⟨hBurnt.of_mints (congrFun hMints wallet), id⟩

/-
  Once the token of a live identity has been burnt, the
  identity stays with its wallet forever: whatever is called
  afterwards, no identity is minted to that wallet, none is
  moved to it or away from it, and no token of it is issued
  again.
-/
theorem burnt_identity_stays
    {middle : World}
    (hFresh : w.Fresh)
    (hNone : w.Tokenless)
    (hRun : Run (Step H) w history middle)
    (hLive : (middle.ledger H).Live wallet)
    (hSupply : supplyOf middle wallet = 0)
    (hLater : Run (Step H) middle later w') :
    (w'.ledger H).Live wallet ∧ supplyOf w' wallet = 0 ∧
      ∀ event : Event H, event ∈ later →
        ¬ event.instruction.motion.Involves wallet := by
  have hMiddle := run_tokensFollow hFresh hNone hRun
  have hFollow :=
    run_tokensFollow hFresh hNone (hRun.trans hLater)
  have hKept :
      (w'.Backed ∧ w'.Burnt wallet) ∧
        ∀ event : Event H, event ∈ later →
          ¬ event.instruction.motion.Involves wallet := by
    refine hLater.preserves
      (fun (history : List (Event H)) state =>
        (state.Backed ∧ state.Burnt wallet) ∧
          ∀ event ∈ history,
            ¬ event.instruction.motion.Involves wallet)
      ?_ ?_
    · refine ⟨⟨hMiddle.backed, ?_, hSupply⟩, nofun⟩
      exact (hMiddle.live wallet).mpr hLive
    · intro history last _ hBefore
      rcases hBefore with ⟨⟨hBacked, hBurnt⟩, hEvents⟩
      rcases (step_tokens last.valid).burnt hBacked hBurnt
        with ⟨hBurnt', hLast⟩
      refine ⟨⟨step_backed last.valid hBacked, hBurnt'⟩, ?_⟩
      intro event hEvent
      rcases List.mem_append.mp hEvent with hOld | hNew
      · exact hEvents event hOld
      · rw [List.mem_singleton.mp hNew]
        exact hLast
  exact ⟨(hFollow.live wallet).mp hKept.1.2.mint,
    hKept.1.2.supply, hKept.2⟩

end Entros

------------------------------------------------------------
-- A Burnt Token
------------------------------------------------------------

namespace Entros

open Foundations

namespace BurntToken

open Sample

/- Alice burns her token, and approves a new wallet anyway. -/
def burnt : List (Call tables.host) :=
  [call 1700000000 configure,
    call 1700000010
      (.anchor (.mintAnchor alice [] commitmentPrev)),
    call 1700000020 (.outside (.burn alice.key alice 1))]

def authorized : List (Call tables.host) :=
  [call 1700000030
    (.anchor (.authorizeNewWallet alice bob))]

theorem burnt_identity_stays_burnt :
    ∃ (history later : List (Event tables.host))
      (middle w' : World),
      Run (Step tables.host) .funded history middle ∧
        Run (Step tables.host) middle later w' ∧
          history.map Transition.label = burnt ∧
            later.map Transition.label = authorized ∧
              (w'.ledger tables.host).Live alice.key ∧
                supplyOf w' alice.key = 0 ∧
                  ∀ event : Event tables.host,
                    event ∈ later →
                      ¬ event.instruction.motion.Involves
                        alice.key := by
  have hReplay :
      (replay .funded burnt).map (fun replayed =>
          (((replayed.2.ledger tables.host).identity
              alice.key).isSome,
            supplyOf replayed.2 alice.key,
            ((replay replayed.2 authorized).map
              (fun _ => ())).isSome)) =
        some (true, 0, true) := by
    decide +kernel
  rcases exists_run hReplay with
    ⟨history, middle, hRun, hLabels, hValues⟩
  simp only [Prod.mk.injEq] at hValues
  rcases hValues with ⟨hIdentity, hSupply, hNext⟩
  have hLive : (middle.ledger tables.host).Live alice.key :=
    Option.isSome_iff_ne_none.mp hIdentity
  rcases Option.isSome_iff_exists.mp hNext with ⟨_, hSecond⟩
  rcases exists_run hSecond with
    ⟨later, w', hLater, hLabels', _⟩
  exact ⟨history, later, middle, w', hRun, hLater, hLabels,
    hLabels',
    burnt_identity_stays funded_fresh funded_tokenless hRun
      hLive hSupply hLater⟩

end BurntToken

end Entros

------------------------------------------------------------
-- Disposal
------------------------------------------------------------

namespace Entros

open Foundations
open Anchor

/- The key is the delegate of the wallet's token account. -/
def World.Delegate
    (w : World)
    (wallet key : Pubkey) : Prop :=
  ∃ token, w.tokenAccounts wallet = some token ∧
    token.delegate = some key

/- The wallet holds tokens in this account. -/
structure World.Holds
    (w : World)
    (wallet : Pubkey)
    (token : TokenAccount) : Prop where
  account : w.tokenAccounts wallet = some token
  amount : 0 < token.amount

/- The call is signed by nobody who may use the token. -/
structure Instruction.Foreign
    (w : World)
    (wallet : Pubkey)
    (instruction : Instruction) : Prop where
  owner : ¬ instruction.SignedBy wallet
  delegate :
    ∀ key, w.Delegate wallet key → ¬ instruction.SignedBy key

variable {H : Host} {w w' : World} {wallet : Pubkey}
variable {instruction : Instruction}
variable {history : List (Event H)}

/- The mint and the token account of one wallet. -/
structure SameHolding
    (wallet : Pubkey)
    (w w' : World) : Prop where
  mint : w'.mints wallet = w.mints wallet
  token : w'.tokenAccounts wallet = w.tokenAccounts wallet

namespace SameHolding

theorem trans
    {w'' : World}
    (hFirst : SameHolding wallet w w')
    (hSecond : SameHolding wallet w' w'') :
    SameHolding wallet w w'' where
  mint := hSecond.mint.trans hFirst.mint
  token := hSecond.token.trans hFirst.token

theorem of_same (hSame : SameTokens w w') :
    SameHolding wallet w w' where
  mint := congrFun hSame.mints wallet
  token := congrFun hSame.tokens wallet

theorem of_effect
    {holder : Pubkey}
    (hEffect : TokenEffect holder w w')
    (hApart : wallet ≠ holder) :
    SameHolding wallet w w' where
  mint := hEffect.mints wallet hApart
  token := hEffect.tokens wallet hApart

/- The delegate is part of the holding. -/
theorem delegate
    (hSame : SameHolding wallet w w')
    (key : Pubkey) :
    w'.Delegate wallet key ↔ w.Delegate wallet key := by
  unfold World.Delegate
  rw [hSame.token]

end SameHolding

/- Who has signed is not the wallet. -/
theorem Instruction.Foreign.apart
    {signer : Signer}
    (hForeign : instruction.Foreign w wallet)
    (hSigned : signer ∈ instruction.signers) :
    wallet ≠ signer.key := by
  rintro rfl
  exact hForeign.owner (.inl ⟨signer, hSigned, rfl⟩)

/- A burn is the owner's or the delegate's. -/
theorem burn_authority
    {holder : Pubkey}
    {authority : Signer}
    {amount : ℕ}
    (hBurn : w.burn holder authority amount = .ok w') :
    authority.key = holder ∨
      w.Delegate holder authority.key := by
  simp only [World.burn, bind_eq_ok, okOr_eq_ok,
    require_eq_ok, pure_eq_ok] at hBurn
  rcases hBurn with
    ⟨mint, _, token, hToken, _, _, spent, hSpent, _⟩
  unfold World.burnAuthority at hSpent
  split_ifs at hSpent with hDelegate
  · exact .inr ⟨token, hToken, hDelegate⟩
  · simp only [bind_eq_ok, require_eq_ok, pure_eq_ok]
      at hSpent
    exact .inl hSpent.choose_spec.1

/- And so is the removal of a delegate. -/
theorem revoke_authority
    {holder : Pubkey}
    {authority : Signer}
    (hRevoke : w.revoke holder authority = .ok w') :
    authority.key = holder ∨
      w.Delegate holder authority.key := by
  simp only [World.revoke, bind_eq_ok, okOr_eq_ok,
    require_eq_ok, pure_eq_ok] at hRevoke
  rcases hRevoke with ⟨token, hToken, _, hAuthority, _⟩
  exact hAuthority.imp_right fun hDelegate =>
    ⟨token, hToken, hDelegate⟩

/- Who signs a foreign call has no say over the holding. -/
theorem Instruction.Foreign.authority
    {start : World}
    {holder : Pubkey}
    {authority : Signer}
    (hForeign : instruction.Foreign start wallet)
    (hSame : SameHolding wallet start w)
    (hSigned : authority ∈ instruction.signers)
    (hAuthority :
      authority.key = holder ∨
        w.Delegate holder authority.key) :
    wallet ≠ holder := by
  rintro rfl
  rcases hAuthority with hOwner | hDelegate
  · exact hForeign.owner (.inl ⟨authority, hSigned, hOwner⟩)
  · exact hForeign.delegate authority.key
      ((hSame.delegate _).mp hDelegate)
      (.inl ⟨authority, hSigned, rfl⟩)

/-
  Anybody may pay for the account of any wallet; one that
  exists is left as it is.
-/
theorem openToken_sameHolding
    {payer : Signer}
    {holder : Pubkey}
    {token : TokenAccount}
    (hToken : w.tokenAccounts wallet = some token)
    (hOpen :
      w.createTokenAccount H payer holder true = .ok w') :
    SameHolding wallet w w' := by
  by_cases hHolder : wallet = holder
  · subst hHolder
    simp only [World.createTokenAccount, hToken, if_true]
      at hOpen
    rw [← Except.ok.inj hOpen]
    exact ⟨rfl, rfl⟩
  · exact .of_effect (createTokenAccount_effect hOpen).1
      hHolder

/- A foreign call leaves the holding alone. -/
theorem TokenStep.sameHolding
    {token : TokenAccount}
    (hStep : TokenStep H instruction w w')
    (hToken : w.tokenAccounts wallet = some token)
    (hForeign : instruction.Foreign w wallet) :
    SameHolding wallet w w' := by
  cases hStep with
  | data _ hData => exact .of_same hData.sameTokens
  | mint _ hSigned hBefore hIssue hAfter =>
      have hIssued :=
        SameHolding.of_effect (issueToken_effect hIssue).1
          (hForeign.apart hSigned)
      exact ((SameHolding.of_same hBefore.sameTokens).trans
        hIssued).trans (.of_same hAfter.sameTokens)
  | migrate _ hSigned hBefore hIssue hPaid hBurn hClose
      hAfter =>
      have hIssued :=
        SameHolding.of_effect (issueToken_effect hIssue).1
          (hForeign.apart hSigned)
      have hSame :=
        ((SameHolding.of_same hBefore.sameTokens).trans
          hIssued).trans (.of_same hPaid.sameTokens)
      have hApart :=
        hForeign.authority hSame hSigned (burn_authority hBurn)
      have hBurned := hSame.trans
        (.of_effect (burn_effect hBurn).1 hApart)
      have hClosed := hBurned.trans
        (.of_effect (closeMint_effect hClose).1 hApart)
      exact hClosed.trans (.of_same hAfter.sameTokens)
  | approve _ hSigned hApprove hAfter =>
      have hApproved :=
        SameHolding.of_effect (approve_effect hApprove).1
          (hForeign.apart hSigned)
      exact hApproved.trans (.of_same hAfter.sameTokens)
  | revoke _ hSigned hRevoke =>
      have hApart :=
        hForeign.authority ⟨rfl, rfl⟩ hSigned
          (revoke_authority hRevoke)
      exact .of_effect (revoke_effect hRevoke).1 hApart
  | burn _ hSigned hBurn =>
      have hApart :=
        hForeign.authority ⟨rfl, rfl⟩ hSigned
          (burn_authority hBurn)
      exact .of_effect (burn_effect hBurn).1 hApart
  | openToken _ _ hOpen =>
      exact openToken_sameHolding hToken hOpen
  | closeToken _ hSigned hClose =>
      exact .of_effect (closeTokenAccount_effect hClose).1
        (hForeign.apart hSigned)

/-
  Only the wallet and the delegate it has approved dispose of
  an identity token: while neither signs a call, its mint and
  the token account it is held in stay exactly as they are,
  whatever the others do.
-/
theorem unsigned_tokens_keep
    {token : TokenAccount}
    (hRun : Run (Step H) w history w')
    (hHolds : w.Holds wallet token)
    (hForeign :
      ∀ event : Event H, event ∈ history →
        event.instruction.Foreign w wallet) :
    w'.mints wallet = w.mints wallet ∧
      w'.Holds wallet token := by
  have hSame : SameHolding wallet w w' := by
    refine hRun.preserves
      (fun (history : List (Event H)) state =>
        (∀ event ∈ history,
            event.instruction.Foreign w wallet) →
          SameHolding wallet w state) ?_ ?_ hForeign
    · intro _
      exact ⟨rfl, rfl⟩
    · intro history (last : Event H) _ hBefore hEvents
      have hKept := hBefore fun event hEvent =>
        hEvents event (List.mem_append_left _ hEvent)
      have hLast :
          last.instruction.Foreign w wallet :=
        hEvents last (by simp)
      refine hKept.trans
        ((step_tokens last.valid).sameHolding
          (hKept.token.trans hHolds.account) ?_)
      refine ⟨hLast.owner, ?_⟩
      intro key hDelegate
      exact hLast.delegate key
        ((hKept.delegate key).mp hDelegate)
  exact ⟨hSame.mint, hSame.token.trans hHolds.account,
    hHolds.amount⟩

end Entros

------------------------------------------------------------
-- Foreign Calls
------------------------------------------------------------

namespace Entros

open Foundations

namespace ForeignCall

open Sample

/- Bob is the delegate of the token of Alice. -/
def approved : List (Call tables.host) :=
  [call 1700000000 configure,
    call 1700000010
      (.anchor (.mintAnchor alice [] commitmentPrev)),
    call 1700000020
      (.anchor (.authorizeNewWallet alice bob))]

/- What Alice then holds. -/
def approvedToken : TokenAccount where
  amount := 1
  delegate := some bob.key
  delegatedAmount := 1

/- The admin also pays for the account that Alice has. -/
def others : List (Call tables.host) :=
  [call 1700000030
      (.registry (.updateProtocolConfig admin 700)),
    call 1700000040
      (.outside (.openTokenAccount admin alice.key))]

/- The admin signs both calls, and creates no account. -/
theorem others_signedBy
    {foreign : Call tables.host}
    {key : Pubkey}
    (hCall : foreign ∈ others)
    (hSigned : foreign.instruction.SignedBy key) :
    key = admin.key := by
  simp only [others, List.mem_cons, List.not_mem_nil,
    or_false] at hCall
  rcases hSigned with ⟨signer, hSigner, rfl⟩ | hCreates
  · rcases hCall with rfl | rfl
    · exact congrArg Signer.key
        (List.mem_singleton.mp hSigner)
    · exact congrArg Signer.key
        (List.mem_singleton.mp hSigner)
  · rcases hCreates with ⟨payer, size, owner, hCreates⟩
    rcases hCall with rfl | rfl <;> cases hCreates

theorem unsigned_tokens_keep_others :
    ∃ (later : List (Event tables.host))
      (middle w' : World),
      Run (Step tables.host) middle later w' ∧
        later.map Transition.label = others ∧
          middle.Holds alice.key approvedToken ∧
            w'.mints alice.key = middle.mints alice.key ∧
              w'.Holds alice.key approvedToken := by
  have hReplay :
      (replay .funded approved).map (fun replayed =>
          (replayed.2.tokenAccounts alice.key,
            ((replay replayed.2 others).map
              (fun _ => ())).isSome)) =
        some (some approvedToken, true) := by
    decide +kernel
  rcases exists_run hReplay with
    ⟨_, middle, _, _, hValues⟩
  simp only [Prod.mk.injEq] at hValues
  rcases hValues with ⟨hToken, hNext⟩
  rcases Option.isSome_iff_exists.mp hNext with ⟨_, hSecond⟩
  rcases exists_run hSecond with
    ⟨later, w', hLater, hLabels, _⟩
  have hForeign :
      ∀ event : Event tables.host, event ∈ later →
        event.instruction.Foreign middle alice.key := by
    intro event hMem
    have hCall : event.label ∈ others := by
      rw [← hLabels]
      exact List.mem_map_of_mem hMem
    have hOther :
        ∀ key, key ≠ admin.key →
          ¬ event.instruction.SignedBy key := by
      intro key hKey hSigned
      exact hKey (others_signedBy hCall hSigned)
    refine ⟨hOther alice.key (by decide), ?_⟩
    rintro key ⟨token, hStored, hDelegate⟩
    rw [hToken] at hStored
    rw [← Option.some.inj hStored] at hDelegate
    rw [← Option.some.inj hDelegate]
    exact hOther bob.key (by decide)
  have hHolds : middle.Holds alice.key approvedToken :=
    ⟨hToken, by decide⟩
  exact ⟨later, middle, w', hLater, hLabels, hHolds,
    unsigned_tokens_keep hLater hHolds hForeign⟩

end ForeignCall

end Entros
