import Entros.System.Refinement

/-
  Who writes the accounts under the registry's seeds: only
  entros-registry.  Every call of the other programs, and
  everything that wallets do around them, leaves these
  accounts as they are and takes no lamports from them.

  Key definitions include:
    * `Seeds.OfRegistry`
    * `Spares`

  Key theorems include:
    * `anchor_spares`
    * `verifier_spares`
    * `outside_spares`
-/

------------------------------------------------------------
-- Spared Accounts
------------------------------------------------------------

namespace Entros

open Foundations
open Anchor

/- The seeds under which entros-registry keeps accounts. -/
def Seeds.OfRegistry : Seeds → Prop
| .protocolConfig => True
| .protocolTreasury => True
| .vault => True
| .validator _ => True
| _ => False

theorem Seeds.ofRegistry_config :
    Seeds.OfRegistry .protocolConfig := trivial

/- The account of the seeds stays, and loses no lamports. -/
structure Spares
    (H : Host)
    (seeds : Seeds)
    (w w' : World) : Prop where
  account :
    w'.accounts (H.findProgramAddress seeds) =
      w.accounts (H.findProgramAddress seeds)
  lamports :
    w.lamports (H.findProgramAddress seeds) ≤
      w'.lamports (H.findProgramAddress seeds)

namespace Spares

variable {H : Host} {w w' w'' : World}
variable {seeds other : Seeds}

theorem refl (w : World) : Spares H seeds w w :=
  ⟨rfl, Nat.le_refl _⟩

theorem trans
    (hFirst : Spares H seeds w w')
    (hSecond : Spares H seeds w' w'') :
    Spares H seeds w w'' where
  account := hSecond.account.trans hFirst.account
  lamports := hFirst.lamports.trans hSecond.lamports

/- Accounts of other seeds are at other addresses. -/
theorem address_ne
    (hSeeds : seeds.OfRegistry)
    (hOther : ¬ other.OfRegistry) :
    H.findProgramAddress seeds ≠
      H.findProgramAddress other := by
  intro hEq
  rw [H.findProgramAddress_inj.mp hEq] at hSeeds
  exact hOther hSeeds

/- A step that touches neither accounts nor lamports. -/
theorem of_eq
    (hAccounts : w'.accounts = w.accounts)
    (hLamports : w'.lamports = w.lamports) :
    Spares H seeds w w' where
  account := congrFun hAccounts _
  lamports := Nat.le_of_eq (congrFun hLamports _).symm

/- A transfer takes lamports from its source only. -/
theorem of_transferFrom
    {source destination : Address}
    {amount : ℕ}
    (hTransfer :
      w.transfer source destination amount = .ok w')
    (hSource : H.findProgramAddress seeds ≠ source) :
    Spares H seeds w w' := by
  refine ⟨congrFun (World.transfer_sameState hTransfer).1 _,
    ?_⟩
  simp only [World.transfer, bind_eq_ok, require_eq_ok,
    pure_eq_ok] at hTransfer
  rcases hTransfer with ⟨_, _, rfl⟩
  dsimp only
  by_cases hDestination :
      H.findProgramAddress seeds = destination
  · subst hDestination
    rw [Function.update_self, Function.update_of_ne hSource]
    exact Nat.le_add_right _ _
  · rw [Function.update_of_ne hDestination,
      Function.update_of_ne hSource]

theorem of_transfer
    {key : Pubkey}
    {destination : Address}
    {amount : ℕ}
    (hTransfer :
      w.transfer (.key key) destination amount = .ok w') :
    Spares H seeds w w' :=
  of_transferFrom hTransfer (by simp [Host.findProgramAddress])

theorem of_topUp
    {key : Pubkey}
    {account : Address}
    {size : ℕ}
    (hTopUp :
      w.topUp H (.key key) account size = .ok w') :
    Spares H seeds w w' := by
  unfold World.topUp at hTopUp
  split_ifs at hTopUp
  · exact of_transfer hTopUp
  · rw [Except.ok.inj hTopUp]
    exact refl w'

/- Writing an account elsewhere. -/
theorem setAccount
    {address : Address}
    (account : Account)
    (hAddress : H.findProgramAddress seeds ≠ address) :
    Spares H seeds w (w.setAccount address account) :=
  ⟨Function.update_of_ne hAddress _ _, Nat.le_refl _⟩

/- Creating an account elsewhere. -/
theorem of_createAt
    {key : Pubkey}
    {address : Address}
    {size : ℕ}
    {owner : ProgramId}
    (hCreate :
      w.createAccount H (.key key) address size owner =
        .ok w')
    (hAddress : H.findProgramAddress seeds ≠ address) :
    Spares H seeds w w' := by
  simp only [World.createAccount, World.allocate, bind_eq_ok,
    require_eq_ok, pure_eq_ok] at hCreate
  rcases hCreate with ⟨funded, hFunded, _, _, rfl⟩
  exact (of_topUp hFunded).trans (setAccount _ hAddress)

theorem of_create
    {key : Pubkey}
    {size : ℕ}
    {owner : ProgramId}
    (hSeeds : seeds.OfRegistry)
    (hCreate :
      w.createAccount H (.key key)
        (H.findProgramAddress other) size owner = .ok w')
    (hOther : ¬ other.OfRegistry) :
    Spares H seeds w w' :=
  of_createAt hCreate (address_ne hSeeds hOther)

/- Saving a typed account elsewhere. -/
theorem of_save
    {A : Type}
    [Packed A]
    {name : String}
    {value : A}
    (hSeeds : seeds.OfRegistry)
    (hSave :
      w.saveAccount H name (H.findProgramAddress other)
        value = .ok w')
    (hOther : ¬ other.OfRegistry) :
    Spares H seeds w w' := by
  simp only [World.saveAccount, bind_eq_ok, pure_eq_ok]
    at hSave
  rcases hSave with ⟨data, _, rfl⟩
  exact setAccount _ (address_ne hSeeds hOther)

/- Closing an account elsewhere. -/
theorem closeAccount
    {address destination : Address}
    (hAddress : H.findProgramAddress seeds ≠ address) :
    Spares H seeds w (w.closeAccount address destination) := by
  refine ⟨Function.update_of_ne hAddress _ _, ?_⟩
  simp only [World.closeAccount]
  rw [Function.update_of_ne hAddress]
  by_cases hDestination :
      H.findProgramAddress seeds = destination
  · subst hDestination
    rw [Function.update_self]
    exact Nat.le_add_right _ _
  · rw [Function.update_of_ne hDestination]

/- Closing an account of the verifier program. -/
theorem of_closeVerifier
    {address destination : Address}
    (hClosed : (w.accounts address).owner = .verifier)
    (hOwner :
      (w.accounts (H.findProgramAddress seeds)).owner ≠
        .verifier) :
    Spares H seeds w (w.closeAccount address destination) := by
  apply closeAccount
  rintro rfl
  exact hOwner hClosed

end Spares

end Entros

------------------------------------------------------------
-- Tokens and Fees
------------------------------------------------------------

namespace Entros

open Foundations

namespace Anchor

variable {H : Host} {w w' : World} {seeds : Seeds}

theorem createTokenAccount_spares
    {payer : Signer}
    {wallet : Pubkey}
    {idempotent : Bool}
    (hOpen :
      w.createTokenAccount H payer wallet idempotent =
        .ok w') :
    Spares H seeds w w' := by
  unfold World.createTokenAccount at hOpen
  cases hToken : w.tokenAccounts wallet with
  | none =>
      simp only [hToken, bind_eq_ok, pure_eq_ok] at hOpen
      rcases hOpen with ⟨funded, hFunded, rfl⟩
      exact (Spares.of_topUp hFunded).trans (.of_eq rfl rfl)
  | some token =>
      simp only [hToken] at hOpen
      split_ifs at hOpen
      rw [Except.ok.inj hOpen]
      exact .refl w'

theorem createMint_spares
    {wallet : Signer}
    (hMint : w.createMint H wallet = .ok w') :
    Spares H seeds w w' := by
  simp only [World.createMint, bind_eq_ok, require_eq_ok,
    pure_eq_ok] at hMint
  rcases hMint with ⟨_, _, funded, hFunded, rfl⟩
  exact (Spares.of_transfer hFunded).trans (.of_eq rfl rfl)

theorem mintOne_spares
    {wallet : Pubkey}
    (hMint : w.mintOne wallet = .ok w') :
    Spares H seeds w w' := by
  simp only [World.mintOne, bind_eq_ok, pure_eq_ok] at hMint
  rcases hMint with ⟨_, _, _, _, rfl⟩
  exact .of_eq rfl rfl

theorem issueToken_spares
    {user : Signer}
    (hIssue : issueToken H w user = .ok w') :
    Spares H seeds w w' := by
  simp only [issueToken, bind_eq_ok] at hIssue
  rcases hIssue with
    ⟨minted, hMinted, opened, hOpened, hIssued⟩
  exact ((createMint_spares hMinted).trans
    (createTokenAccount_spares hOpened)).trans
      (mintOne_spares hIssued)

theorem payFee_spares
    {payer : Signer}
    {fee : UInt64}
    (hPay : payFee H w payer fee = .ok w') :
    Spares H seeds w w' := by
  unfold payFee at hPay
  split_ifs at hPay
  · exact .of_transfer hPay
  · rw [Except.ok.inj hPay]
    exact .refl w'

theorem approve_spares
    {owner : Signer}
    {delegate : Pubkey}
    {amount : ℕ}
    (hApprove : w.approve owner delegate amount = .ok w') :
    Spares H seeds w w' := by
  simp only [World.approve, bind_eq_ok, pure_eq_ok]
    at hApprove
  rcases hApprove with ⟨_, _, rfl⟩
  exact .of_eq rfl rfl

theorem revoke_spares
    {wallet : Pubkey}
    {authority : Signer}
    (hRevoke : w.revoke wallet authority = .ok w') :
    Spares H seeds w w' := by
  simp only [World.revoke, bind_eq_ok, pure_eq_ok]
    at hRevoke
  rcases hRevoke with ⟨_, _, _, _, rfl⟩
  exact .of_eq rfl rfl

theorem burn_spares
    {wallet : Pubkey}
    {authority : Signer}
    {amount : ℕ}
    (hBurn : w.burn wallet authority amount = .ok w') :
    Spares H seeds w w' := by
  simp only [World.burn, bind_eq_ok, pure_eq_ok] at hBurn
  rcases hBurn with ⟨_, _, _, _, _, _, _, _, rfl⟩
  exact .of_eq rfl rfl

theorem closeMint_spares
    {wallet : Pubkey}
    {destination : Signer}
    (hSeeds : seeds.OfRegistry)
    (hClose : w.closeMint H wallet destination = .ok w') :
    Spares H seeds w w' := by
  simp only [World.closeMint, bind_eq_ok, pure_eq_ok]
    at hClose
  rcases hClose with ⟨_, _, _, _, rfl⟩
  have hClosed :
      Spares H seeds w
        (w.closeAccount
          (H.findProgramAddress (.mint wallet))
          (.key destination.key)) :=
    .closeAccount (Spares.address_ne hSeeds not_false)
  exact hClosed.trans (.of_eq rfl rfl)

theorem closeTokenAccount_spares
    {owner : Signer}
    (hSeeds : seeds.OfRegistry)
    (hClose : w.closeTokenAccount H owner = .ok w') :
    Spares H seeds w w' := by
  simp only [World.closeTokenAccount, bind_eq_ok,
    require_eq_ok, pure_eq_ok] at hClose
  rcases hClose with ⟨_, _, _, _, rfl⟩
  have hClosed :
      Spares H seeds w
        (w.closeAccount
          (H.findProgramAddress (.associatedToken owner.key))
          (.key owner.key)) :=
    .closeAccount (Spares.address_ne hSeeds not_false)
  exact hClosed.trans (.of_eq rfl rfl)

end Anchor

end Entros

------------------------------------------------------------
-- Verifier Instructions
------------------------------------------------------------

namespace Entros

open Foundations

namespace Verifier

variable {H : Host} {w w' : World} {seeds : Seeds}
variable {signer : Signer} {address : Address}

/-
  The instructions that close an account are given its
  address: it is an account of the verifier program.
-/
theorem closeChallenge_spares
    (hClose : closeChallenge H w signer address = .ok w')
    (hOwner :
      (w.accounts (H.findProgramAddress seeds)).owner ≠
        .verifier) :
    Spares H seeds w w' := by
  simp only [closeChallenge, bind_eq_ok, require_eq_ok,
    pure_eq_ok] at hClose
  rcases hClose with ⟨challenge, hLoad, _, _, rfl⟩
  exact .of_closeVerifier (World.loadAccount_eq_ok hLoad).1
    hOwner

theorem closeVerificationResult_spares
    (hClose :
      closeVerificationResult H w signer address = .ok w')
    (hOwner :
      (w.accounts (H.findProgramAddress seeds)).owner ≠
        .verifier) :
    Spares H seeds w w' := by
  simp only [closeVerificationResult, bind_eq_ok,
    require_eq_ok, pure_eq_ok] at hClose
  rcases hClose with ⟨result, hLoad, _, _, rfl⟩
  exact .of_closeVerifier (World.loadAccount_eq_ok hLoad).1
    hOwner

theorem closeBoundVerificationResult_spares
    {nonce : Bytes 32}
    (hClose :
      closeBoundVerificationResult H w signer nonce
        address = .ok w')
    (hOwner :
      (w.accounts (H.findProgramAddress seeds)).owner ≠
        .verifier) :
    Spares H seeds w w' := by
  simp only [closeBoundVerificationResult, bind_eq_ok,
    require_eq_ok, pure_eq_ok] at hClose
  rcases hClose with ⟨result, hLoad, _, _, _, _, rfl⟩
  exact .of_closeVerifier (World.loadAccount_eq_ok hLoad).1
    hOwner

variable (hSeeds : seeds.OfRegistry)

include hSeeds

theorem createChallenge_spares
    {now : Int64}
    {nonce : Bytes 32}
    (hCreate :
      createChallenge H w now signer nonce = .ok w') :
    Spares H seeds w w' := by
  simp only [createChallenge, bind_eq_ok, require_eq_ok]
    at hCreate
  rcases hCreate with
    ⟨created, hCreated, _, _, _, _, hSave⟩
  exact (Spares.of_create hSeeds hCreated not_false).trans
    (.of_save hSeeds hSave not_false)

theorem verifyAndStore_spares
    {now : Int64}
    {proofBytes : List UInt8}
    {publicInputs : PublicInputs}
    {nonce : Bytes 32}
    (hVerify :
      verifyAndStore H w now signer proofBytes
        publicInputs nonce = .ok w') :
    Spares H seeds w w' := by
  simp only [verifyAndStore, bind_eq_ok, require_eq_ok]
    at hVerify
  rcases hVerify with
    ⟨_, _, _, _, _, _, _, _, _, _, _, _, _, _, _, _, hSave⟩
  exact .of_save hSeeds hSave not_false

theorem verifyProofBound_spares
    {now : Int64}
    {nonce new prev : Bytes 32}
    {proof : Bytes 256}
    {threshold minDistance : UInt16}
    {validUntil : UInt64}
    (hVerify :
      verifyProofBound H w now signer nonce proof new prev
        threshold minDistance validUntil = .ok w') :
    Spares H seeds w w' := by
  simp only [verifyProofBound, bind_eq_ok, require_eq_ok]
    at hVerify
  rcases hVerify with
    ⟨created, hCreate, _, _, _, _, _, _, _, _, _, _, _, _, _,
      _, _, _, _, _, _, _, _, _, hSave⟩
  exact (Spares.of_create hSeeds hCreate not_false).trans
    (.of_save hSeeds hSave not_false)

end Verifier

open Verifier

/- The verifier program never writes these accounts. -/
theorem verifier_spares
    {H : Host}
    {w w' : World}
    {seeds : Seeds}
    {now : Int64}
    {instruction : VerifierInstruction}
    (hSeeds : seeds.OfRegistry)
    (hExecute : instruction.execute H now w = .ok w')
    (hOwner :
      (w.accounts (H.findProgramAddress seeds)).owner ≠
        .verifier) :
    Spares H seeds w w' := by
  cases instruction with
  | createChallenge challenger nonce =>
      exact createChallenge_spares hSeeds hExecute
  | closeChallenge challenger address =>
      exact closeChallenge_spares hExecute hOwner
  | verifyProof signer proofBytes publicInputs nonce =>
      simp only [VerifierInstruction.execute, verifyProof,
        bind_eq_ok] at hExecute
      rcases hExecute with ⟨_, hCreate, _, _, hVerify⟩
      exact (Spares.of_create hSeeds hCreate
        not_false).trans
          (verifyAndStore_spares hSeeds hVerify)
  | verifyProofCompact signer nonce proofBytes commitmentNew
      commitmentPrev threshold minDistance =>
      simp only [VerifierInstruction.execute,
        verifyProofCompact, bind_eq_ok] at hExecute
      rcases hExecute with ⟨_, hCreate, hVerify⟩
      exact (Spares.of_create hSeeds hCreate
        not_false).trans
          (verifyAndStore_spares hSeeds hVerify)
  | verifyProofBound signer nonce proof commitmentNew
      commitmentPrev threshold minDistance validUntil =>
      exact verifyProofBound_spares hSeeds hExecute
  | closeVerificationResult signer address =>
      exact closeVerificationResult_spares hExecute hOwner
  | closeBoundVerificationResult signer nonce address =>
      exact closeBoundVerificationResult_spares hExecute
        hOwner

end Entros

------------------------------------------------------------
-- Parts of the Anchor Instructions
------------------------------------------------------------

namespace Entros

open Foundations

namespace Anchor

variable {H : Host} {w w' : World} {seeds : Seeds}
variable (hSeeds : seeds.OfRegistry)

include hSeeds

theorem ensureProofRequestState_spares
    {wallet : Pubkey}
    {payer : Signer}
    (hEnsure :
      ensureProofRequestState H w wallet payer = .ok w') :
    Spares H seeds w w' := by
  unfold ensureProofRequestState at hEnsure
  split_ifs at hEnsure
  · simp only [bind_eq_ok] at hEnsure
    rcases hEnsure with ⟨created, hCreate, hSave⟩
    exact (Spares.of_create hSeeds hCreate not_false).trans
      (.of_save hSeeds hSave not_false)
  · rw [Except.ok.inj hEnsure]
    exact .refl w'

theorem advance_spares
    {account : AccountMeta}
    {wallet : Pubkey}
    {payer : Signer}
    (hAdvance :
      advance H w account wallet payer = .ok w') :
    Spares H seeds w w' := by
  simp only [advance, bind_eq_ok, require_eq_ok,
    pure_eq_ok] at hAdvance
  rcases hAdvance with
    ⟨_, _, _, _, created, hEnsure, _, _, _, _, _, _, data, _,
      rfl⟩
  exact (ensureProofRequestState_spares hSeeds hEnsure).trans
    (.setAccount _ (Spares.address_ne hSeeds not_false))

theorem advanceOnly_spares
    {remainingAccounts : List AccountMeta}
    {user : Signer}
    (hAdvance :
      advanceOnly H w remainingAccounts user = .ok w') :
    Spares H seeds w w' := by
  unfold advanceOnly at hAdvance
  split_ifs at hAdvance
  · match remainingAccounts, hAdvance with
    | [_], hAdvance => exact advance_spares hSeeds hAdvance
  · rw [Except.ok.inj hAdvance]
    exact .refl w'

theorem advanceForMigration_spares
    {user : Signer}
    {walletOld : Pubkey}
    {identityOld : IdentityState}
    {remainingAccounts : List AccountMeta}
    (hAdvance :
      advanceForMigration H w user walletOld identityOld
        remainingAccounts = .ok w') :
    Spares H seeds w w' := by
  unfold advanceForMigration at hAdvance
  split_ifs at hAdvance
  · split at hAdvance
    · simp only [bind_eq_ok, require_eq_ok] at hAdvance
      rcases hAdvance with
        ⟨_, _, _, _, advanced, hOld, hNew⟩
      exact (advance_spares hSeeds hOld).trans
        (advance_spares hSeeds hNew)
    · cases hAdvance
  · rw [Except.ok.inj hAdvance]
    exact .refl w'

theorem splitResetAccounts_spares
    {remainingAccounts : List AccountMeta}
    {authority : Signer}
    {split : World × List AccountMeta}
    (hSplit :
      splitResetAccounts H w remainingAccounts authority =
        .ok split) :
    Spares H seeds w split.1 := by
  unfold splitResetAccounts at hSplit
  split_ifs at hSplit
  · cases hLast : remainingAccounts.getLast? with
    | none => simp [hLast] at hSplit
    | some state =>
        simp only [hLast, bind_eq_ok, pure_eq_ok] at hSplit
        rcases hSplit with ⟨advanced, hAdvance, rfl⟩
        exact advance_spares hSeeds hAdvance
  · rw [← Except.ok.inj hSplit]
    exact .refl w

theorem openIdentity_spares
    {authority : Signer}
    {opened : World × IdentityState}
    (hOpen : openIdentity H w authority = .ok opened) :
    Spares H seeds w opened.1 := by
  simp only [openIdentity, bind_eq_ok, require_eq_ok,
    pure_eq_ok] at hOpen
  rcases hOpen with
    ⟨_, _, grown, hGrow, _, _, _, _, rfl⟩
  unfold growIdentity at hGrow
  dsimp only at hGrow
  split_ifs at hGrow
  · refine Spares.trans (.setAccount _ ?_) (.of_topUp hGrow)
    exact Spares.address_ne hSeeds not_false
  · rw [Except.ok.inj hGrow]
    exact .refl grown

theorem writeIdentity_spares
    {wallet : Pubkey}
    {identity : IdentityState}
    (hWrite :
      writeIdentity H w wallet identity = .ok w') :
    Spares H seeds w w' :=
  .of_save hSeeds (remapError_eq_ok.mp hWrite) not_false

theorem consumeProof_spares
    {now : Int64}
    {authority : Signer}
    {identity : IdentityState}
    {address : Address}
    {bound : Bool}
    {consumed : World × ProofTransition}
    (hConsume :
      consumeProof H w now authority identity address bound =
        .ok consumed) :
    Spares H seeds w consumed.1 := by
  unfold consumeProof at hConsume
  split_ifs at hConsume
  · simp only [consumeBoundResult, bind_eq_ok,
      require_eq_ok, pure_eq_ok] at hConsume
    rcases hConsume with
      ⟨_, _, _, _, _, _, _, _, _, _, _, _, _, _, _, _, _, _,
        _, _, data, _, rfl⟩
    apply Spares.setAccount
    exact Spares.address_ne hSeeds not_false
  · simp only [bind_eq_ok, pure_eq_ok] at hConsume
    rcases hConsume with ⟨_, _, rfl⟩
    exact .refl w

omit hSeeds in
theorem closeVerificationResultCpi_spares
    {authority : Signer}
    {address : Address}
    {boundNonce : Option (Bytes 32)}
    (hClose :
      closeVerificationResultCpi H w authority address
        boundNonce = .ok w')
    (hOwner :
      (w.accounts (H.findProgramAddress seeds)).owner ≠
        .verifier) :
    Spares H seeds w w' := by
  cases boundNonce with
  | none =>
      exact Verifier.closeVerificationResult_spares hClose
        hOwner
  | some nonce =>
      exact Verifier.closeBoundVerificationResult_spares hClose
        hOwner

end Anchor

end Entros

------------------------------------------------------------
-- Anchor Instructions
------------------------------------------------------------

namespace Entros

open Foundations

namespace Anchor

variable {H : Host} {w w' : World} {seeds : Seeds}
variable (hSeeds : seeds.OfRegistry)

include hSeeds

theorem prepareProofRequest_spares
    {authority : Signer}
    (hPrepare :
      prepareProofRequest H w authority = .ok w') :
    Spares H seeds w w' := by
  simp only [prepareProofRequest, bind_eq_ok, require_eq_ok]
    at hPrepare
  rcases hPrepare with
    ⟨opened, hOpen, _, _, _, _, _, _, hSave⟩
  refine Spares.trans ?_ (.of_save hSeeds hSave not_false)
  unfold openProofRequestState at hOpen
  dsimp only at hOpen
  split_ifs at hOpen
  · simp only [bind_eq_ok, pure_eq_ok] at hOpen
    rcases hOpen with ⟨created, hCreate, rfl⟩
    exact .of_create hSeeds hCreate not_false
  · simp only [bind_eq_ok, require_eq_ok, pure_eq_ok]
      at hOpen
    rcases hOpen with ⟨_, _, _, _, rfl⟩
    exact .refl w

theorem upgradeIdentityLayout_spares
    {authority : Signer}
    (hUpgrade :
      upgradeIdentityLayout H w authority = .ok w') :
    Spares H seeds w w' := by
  simp only [upgradeIdentityLayout, bind_eq_ok,
    require_eq_ok] at hUpgrade
  rcases hUpgrade with ⟨_, _, _, _, _, _, hExtend⟩
  unfold extendIdentity at hExtend
  dsimp only at hExtend
  split_ifs at hExtend
  · rw [Except.ok.inj hExtend]
    exact .refl w'
  · simp only [bind_eq_ok, pure_eq_ok] at hExtend
    rcases hExtend with ⟨funded, hFunded, rfl⟩
    exact (Spares.of_topUp hFunded).trans
      (.setAccount _ (Spares.address_ne hSeeds not_false))

theorem mintAnchor_spares
    {tx : Transaction H}
    {now : Int64}
    {user : Signer}
    {remainingAccounts : List AccountMeta}
    {commitment : Bytes 32}
    (hMint :
      mintAnchor tx w now user remainingAccounts
        commitment = .ok w') :
    Spares H seeds w w' := by
  simp only [mintAnchor, bind_eq_ok, require_eq_ok] at hMint
  rcases hMint with
    ⟨created, hInit, advanced, hAdvanced, _, _, issued,
      hIssued, _, _, _, _, paid, hPaid, hSave⟩
  have hCreated : Spares H seeds w created :=
    .of_create hSeeds hInit not_false
  have hPaidSame : Spares H seeds advanced paid :=
    (issueToken_spares hIssued).trans (payFee_spares hPaid)
  exact ((hCreated.trans
    (advanceOnly_spares hSeeds hAdvanced)).trans
      hPaidSame).trans (.of_save hSeeds hSave not_false)

theorem authorizeNewWallet_spares
    {signer signerNew : Signer}
    (hAuthorize :
      authorizeNewWallet H w signer signerNew = .ok w') :
    Spares H seeds w w' := by
  simp only [authorizeNewWallet, bind_eq_ok] at hAuthorize
  rcases hAuthorize with
    ⟨_, _, _, _, approved, hApprove, hSave⟩
  exact (approve_spares hApprove).trans
    (.of_save hSeeds hSave not_false)

theorem migrateIdentity_spares
    {user : Signer}
    {walletOld : Pubkey}
    {remainingAccounts : List AccountMeta}
    (hMigrate :
      migrateIdentity H w user walletOld
        remainingAccounts = .ok w') :
    Spares H seeds w w' := by
  simp only [migrateIdentity, bind_eq_ok, require_eq_ok,
    pure_eq_ok] at hMigrate
  rcases hMigrate with
    ⟨_, _, _, _, created, hInit, advanced, hAdvanced,
      issued, hIssued, _, _, _, _, paid, hPaid, burned,
      hBurned, closed, hClosed, saved, hSave, rfl⟩
  have hCreated : Spares H seeds w created :=
    .of_create hSeeds hInit not_false
  have hBurnedSame : Spares H seeds advanced burned :=
    ((issueToken_spares hIssued).trans
      (payFee_spares hPaid)).trans (burn_spares hBurned)
  have hMintClosed : Spares H seeds burned closed :=
    closeMint_spares hSeeds hClosed
  have hSaved : Spares H seeds closed saved :=
    .of_save hSeeds hSave not_false
  have hOldClosed :
      Spares H seeds saved
        (saved.closeAccount (identityAddress H walletOld)
          (.key walletOld)) :=
    .closeAccount (Spares.address_ne hSeeds not_false)
  exact ((((hCreated.trans
    (advanceForMigration_spares hSeeds hAdvanced)).trans
      hBurnedSame).trans hMintClosed).trans hSaved).trans
        hOldClosed

theorem resetIdentityState_spares
    {tx : Transaction H}
    {now : Int64}
    {authority : Signer}
    {remainingAccounts : List AccountMeta}
    {commitment : Bytes 32}
    {projectionVersion : UInt16}
    (hReset :
      resetIdentityState tx w now authority
        remainingAccounts commitment projectionVersion =
          .ok w') :
    Spares H seeds w w' := by
  simp only [resetIdentityState, bind_eq_ok, require_eq_ok]
    at hReset
  rcases hReset with
    ⟨split, hSplit, _, _, opened, hOpen, _, _, _, _, _, _, _,
      _, _, _, written, hWrite, hPay⟩
  exact (((splitResetAccounts_spares hSeeds hSplit).trans
    (openIdentity_spares hSeeds hOpen)).trans
      (writeIdentity_spares hSeeds hWrite)).trans
        (payFee_spares hPay)

theorem rebaselineAnchor_spares
    {tx : Transaction H}
    {now : Int64}
    {authority : Signer}
    {remainingAccounts : List AccountMeta}
    {commitment : Bytes 32}
    {projectionVersion : UInt16}
    (hRebaseline :
      rebaselineAnchor tx w now authority
        remainingAccounts commitment projectionVersion =
          .ok w') :
    Spares H seeds w w' := by
  simp only [rebaselineAnchor, bind_eq_ok, require_eq_ok]
    at hRebaseline
  rcases hRebaseline with
    ⟨advanced, hAdvanced, _, _, opened, hOpen, _, _, _, _, _,
      _, _, _, _, _, written, hWrite, hPay⟩
  exact (((advanceOnly_spares hSeeds hAdvanced).trans
    (openIdentity_spares hSeeds hOpen)).trans
      (writeIdentity_spares hSeeds hWrite)).trans
        (payFee_spares hPay)

theorem setEncryptedBaseline_spares
    {authority : Signer}
    {blob : Bytes 96}
    (hSet : setEncryptedBaseline H w authority blob = .ok w') :
    Spares H seeds w w' := by
  simp only [setEncryptedBaseline, bind_eq_ok,
    require_eq_ok] at hSet
  rcases hSet with ⟨opened, hOpen, _, _, hSave⟩
  refine Spares.trans ?_ (.of_save hSeeds hSave not_false)
  unfold openEncryptedBaseline at hOpen
  dsimp only at hOpen
  split_ifs at hOpen
  · exact .of_create hSeeds hOpen not_false
  · simp only [bind_eq_ok, require_eq_ok, pure_eq_ok]
      at hOpen
    rcases hOpen with ⟨_, _, _, _, rfl⟩
    exact .refl w

theorem processAnchorUpdate_spares
    {tx : Transaction H}
    {now : Int64}
    {authority : Signer}
    {verificationResult : Address}
    {receipt : UpdateReceiptArgs}
    {expected : Option (Bytes 32)}
    {bound : Bool}
    (hUpdate :
      processAnchorUpdate tx w now authority
        verificationResult receipt expected bound = .ok w')
    (hOwner :
      (w.accounts (H.findProgramAddress seeds)).owner ≠
        .verifier) :
    Spares H seeds w w' := by
  simp only [processAnchorUpdate, bind_eq_ok,
    require_eq_ok] at hUpdate
  rcases hUpdate with
    ⟨_, _, opened, hOpen, _, _, _, _, consumed, hConsume, _,
      _, _, _, _, _, closed, hClose, _, _, written, hWrite,
      hPay⟩
  have hConsumed : Spares H seeds w consumed.1 :=
    (openIdentity_spares hSeeds hOpen).trans
      (consumeProof_spares hSeeds hConsume)
  have hClosed : Spares H seeds consumed.1 closed := by
    apply closeVerificationResultCpi_spares hClose
    rw [hConsumed.account]
    exact hOwner
  exact ((hConsumed.trans hClosed).trans
    (writeIdentity_spares hSeeds hWrite)).trans
      (payFee_spares hPay)

end Anchor

open Anchor

/- The anchor program never writes these accounts. -/
theorem anchor_spares
    {H : Host}
    {w w' : World}
    {seeds : Seeds}
    {now : Int64}
    {tx : Transaction H}
    {instruction : AnchorInstruction}
    (hSeeds : seeds.OfRegistry)
    (hExecute : instruction.execute now tx w = .ok w')
    (hOwner :
      (w.accounts (H.findProgramAddress seeds)).owner ≠
        .verifier) :
    Spares H seeds w w' := by
  cases instruction with
  | prepareProofRequest authority =>
      exact prepareProofRequest_spares hSeeds hExecute
  | upgradeIdentityLayout authority =>
      exact upgradeIdentityLayout_spares hSeeds hExecute
  | mintAnchor user remainingAccounts commitment =>
      exact mintAnchor_spares hSeeds hExecute
  | authorizeNewWallet signer signerNew =>
      exact authorizeNewWallet_spares hSeeds hExecute
  | migrateIdentity user walletOld remainingAccounts =>
      exact migrateIdentity_spares hSeeds hExecute
  | updateAnchor authority verificationResult newCommitment
      receipt =>
      simp only [AnchorInstruction.execute, updateAnchor,
        bind_eq_ok, require_eq_ok] at hExecute
      rcases hExecute with ⟨_, _, hUpdate⟩
      exact processAnchorUpdate_spares hSeeds hUpdate hOwner
  | updateAnchorCompact authority verificationResult
      receipt =>
      exact processAnchorUpdate_spares hSeeds hExecute hOwner
  | updateAnchorBound authority verificationResult receipt =>
      simp only [AnchorInstruction.execute,
        updateAnchorBound, bind_eq_ok, require_eq_ok]
        at hExecute
      rcases hExecute with ⟨_, _, hUpdate⟩
      exact processAnchorUpdate_spares hSeeds hUpdate hOwner
  | resetIdentityState authority remainingAccounts commitment
      projectionVersion =>
      exact resetIdentityState_spares hSeeds hExecute
  | rebaselineAnchor authority remainingAccounts commitment
      projectionVersion =>
      exact rebaselineAnchor_spares hSeeds hExecute
  | setEncryptedBaseline authority blob =>
      exact setEncryptedBaseline_spares hSeeds hExecute

end Entros

------------------------------------------------------------
-- Outside Instructions
------------------------------------------------------------

namespace Entros

open Foundations
open Anchor

/- Nor do wallets and other programs. -/
theorem outside_spares
    {H : Host}
    {w w' : World}
    {seeds : Seeds}
    {instruction : OutsideInstruction}
    (hSeeds : seeds.OfRegistry)
    (hExecute : instruction.execute H w = .ok w') :
    Spares H seeds w w' := by
  cases instruction with
  | approve owner delegate amount =>
      exact approve_spares hExecute
  | revoke wallet authority =>
      exact revoke_spares hExecute
  | burn wallet authority amount =>
      exact burn_spares hExecute
  | openTokenAccount payer wallet =>
      simp only [OutsideInstruction.execute, bind_eq_ok,
        require_eq_ok] at hExecute
      rcases hExecute with ⟨_, _, hCreate⟩
      exact createTokenAccount_spares hCreate
  | closeTokenAccount owner =>
      exact closeTokenAccount_spares hSeeds hExecute
  | transfer source destination amount =>
      exact .of_transfer hExecute
  | createAccount payer key size owner =>
      exact .of_createAt hExecute
        (by simp [Host.findProgramAddress])
  | writeProgramData data =>
      rw [← Except.ok.inj hExecute]
      exact .of_eq rfl rfl

end Entros
