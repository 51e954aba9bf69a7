import Entros.System.Journals

/-
  The journal of every call: its dues, which follow from the
  call and the stored configuration, and entries about rent.

  Key definitions include:
    * `Instruction.signers`
    * `Instruction.payees`
    * `Instruction.dues`

  Key theorems include:
    * `verifier_pays`
    * `anchor_pays`
    * `registry_pays`
    * `step_journal`
-/

------------------------------------------------------------
-- Verifier Instructions
------------------------------------------------------------

namespace Entros

open Foundations

namespace Verifier

variable {H : Host} {w w' : World}
variable {signers : List Signer} {payees : List Pubkey}
variable {signer : Signer} {address : Address}
variable (hSigner : signer ∈ signers)

include hSigner

/-
  The closed account belongs to the verifier program, so it
  is neither a wallet nor one of the reserved accounts.
-/
theorem closeVerifier_pays
    (hReserves :
      ∀ reserve, Reserved H reserve →
        (w.accounts reserve).owner ≠ .verifier)
    (hPayee : signer.key ∈ payees)
    (hOwner : (w.accounts address).owner = .verifier) :
    Pays H signers payees [] w
      (w.closeAccount address (walletAddress signer)) := by
  apply closeAccount_pays hSigner hPayee
  · intro hReserved
    exact hReserves address hReserved hOwner
  · rw [hOwner]
    decide

theorem closeChallenge_pays
    (hReserves :
      ∀ reserve, Reserved H reserve →
        (w.accounts reserve).owner ≠ .verifier)
    (hPayee : signer.key ∈ payees)
    (hClose : closeChallenge H w signer address = .ok w') :
    Pays H signers payees [] w w' := by
  simp only [closeChallenge, bind_eq_ok, require_eq_ok,
    pure_eq_ok] at hClose
  rcases hClose with ⟨challenge, hLoad, _, _, rfl⟩
  exact closeVerifier_pays hSigner hReserves hPayee
    (World.loadAccount_eq_ok hLoad).1

theorem closeVerificationResult_pays
    (hReserves :
      ∀ reserve, Reserved H reserve →
        (w.accounts reserve).owner ≠ .verifier)
    (hPayee : signer.key ∈ payees)
    (hClose :
      closeVerificationResult H w signer address = .ok w') :
    Pays H signers payees [] w w' := by
  simp only [closeVerificationResult, bind_eq_ok,
    require_eq_ok, pure_eq_ok] at hClose
  rcases hClose with ⟨result, hLoad, _, _, rfl⟩
  exact closeVerifier_pays hSigner hReserves hPayee
    (World.loadAccount_eq_ok hLoad).1

theorem closeBoundVerificationResult_pays
    {nonce : Bytes 32}
    (hReserves :
      ∀ reserve, Reserved H reserve →
        (w.accounts reserve).owner ≠ .verifier)
    (hPayee : signer.key ∈ payees)
    (hClose :
      closeBoundVerificationResult H w signer nonce
        address = .ok w') :
    Pays H signers payees [] w w' := by
  simp only [closeBoundVerificationResult, bind_eq_ok,
    require_eq_ok, pure_eq_ok] at hClose
  rcases hClose with ⟨result, hLoad, _, _, _, _, rfl⟩
  exact closeVerifier_pays hSigner hReserves hPayee
    (World.loadAccount_eq_ok hLoad).1

theorem createChallenge_pays
    {now : Int64}
    {nonce : Bytes 32}
    (hCreate :
      createChallenge H w now signer nonce = .ok w') :
    Pays H signers payees [] w w' := by
  simp only [createChallenge, bind_eq_ok, require_eq_ok]
    at hCreate
  rcases hCreate with
    ⟨created, hCreated, _, _, _, _, hSave⟩
  exact (createPda_pays hSigner hCreated trivial).before
    (savePda_pays hSave)

omit hSigner in
theorem verifyAndStore_pays
    {now : Int64}
    {proofBytes : List UInt8}
    {publicInputs : PublicInputs}
    {nonce : Bytes 32}
    (hVerify :
      verifyAndStore H w now signer proofBytes
        publicInputs nonce = .ok w') :
    Pays H signers payees [] w w' := by
  simp only [verifyAndStore, bind_eq_ok, require_eq_ok]
    at hVerify
  rcases hVerify with
    ⟨_, _, _, _, _, _, _, _, _, _, _, _, _, _, _, _, hSave⟩
  exact savePda_pays hSave

theorem verifyProofBound_pays
    {now : Int64}
    {nonce new prev : Bytes 32}
    {proof : Bytes 256}
    {threshold minDistance : UInt16}
    {validUntil : UInt64}
    (hVerify :
      verifyProofBound H w now signer nonce proof new prev
        threshold minDistance validUntil = .ok w') :
    Pays H signers payees [] w w' := by
  simp only [verifyProofBound, bind_eq_ok, require_eq_ok]
    at hVerify
  rcases hVerify with
    ⟨created, hCreate, _, _, _, _, _, _, _, _, _, _, _, _, _,
      _, _, _, _, _, _, _, _, _, hSave⟩
  exact (createPda_pays hSigner hCreate trivial).before
    (savePda_pays hSave)

end Verifier

open Verifier

def VerifierInstruction.signer :
    VerifierInstruction → Signer
| .createChallenge challenger _ => challenger
| .closeChallenge challenger _ => challenger
| .verifyProof verifier _ _ _ => verifier
| .verifyProofCompact verifier _ _ _ _ _ _ => verifier
| .verifyProofBound verifier _ _ _ _ _ _ _ => verifier
| .closeVerificationResult verifier _ => verifier
| .closeBoundVerificationResult verifier _ _ => verifier

/- The verifier program moves rent only. -/
theorem verifier_pays
    {H : Host}
    {w w' : World}
    {now : Int64}
    {instruction : VerifierInstruction}
    (hReserves :
      ∀ reserve, Reserved H reserve →
        (w.accounts reserve).owner ≠ .verifier)
    (hExecute : instruction.execute H now w = .ok w') :
    Pays H [instruction.signer] [instruction.signer.key] []
      w w' := by
  cases instruction with
  | createChallenge challenger nonce =>
      exact createChallenge_pays (.head _) hExecute
  | closeChallenge challenger address =>
      exact closeChallenge_pays (.head _) hReserves (.head _)
        hExecute
  | verifyProof verifier proofBytes publicInputs nonce =>
      simp only [VerifierInstruction.execute, verifyProof,
        bind_eq_ok] at hExecute
      rcases hExecute with ⟨_, hCreate, _, _, hVerify⟩
      exact (createPda_pays (.head _) hCreate
        trivial).before (verifyAndStore_pays hVerify)
  | verifyProofCompact verifier nonce proofBytes
      commitmentNew commitmentPrev threshold minDistance =>
      simp only [VerifierInstruction.execute,
        verifyProofCompact, bind_eq_ok] at hExecute
      rcases hExecute with ⟨_, hCreate, hVerify⟩
      exact (createPda_pays (.head _) hCreate
        trivial).before (verifyAndStore_pays hVerify)
  | verifyProofBound verifier nonce proof commitmentNew
      commitmentPrev threshold minDistance validUntil =>
      exact verifyProofBound_pays (.head _) hExecute
  | closeVerificationResult verifier address =>
      exact closeVerificationResult_pays (.head _) hReserves
        (.head _) hExecute
  | closeBoundVerificationResult verifier nonce address =>
      exact closeBoundVerificationResult_pays (.head _)
        hReserves (.head _) hExecute

end Entros

------------------------------------------------------------
-- Parts of the Anchor Instructions
------------------------------------------------------------

namespace Entros

open Foundations

namespace Anchor

variable {H : Host} {w w' : World}
variable {signers : List Signer} {payees : List Pubkey}
variable {user : Signer} {remainingAccounts : List AccountMeta}
variable (hUser : user ∈ signers)

include hUser

theorem ensureProofRequestState_pays
    {wallet : Pubkey}
    (hEnsure :
      ensureProofRequestState H w wallet user = .ok w') :
    Pays H signers payees [] w w' := by
  unfold ensureProofRequestState at hEnsure
  split_ifs at hEnsure
  · simp only [bind_eq_ok] at hEnsure
    rcases hEnsure with ⟨created, hCreate, hSave⟩
    exact (createPda_pays hUser hCreate trivial).before
      (savePda_pays hSave)
  · rw [Except.ok.inj hEnsure]
    exact .refl w'

theorem advance_pays
    {account : AccountMeta}
    {wallet : Pubkey}
    (hAdvance :
      advance H w account wallet user = .ok w') :
    Pays H signers payees [] w w' := by
  simp only [advance, bind_eq_ok, require_eq_ok,
    pure_eq_ok] at hAdvance
  rcases hAdvance with
    ⟨_, _, _, _, created, hEnsure, _, _, _, _, _, _, data, _,
      rfl⟩
  exact (ensureProofRequestState_pays hUser hEnsure).before
    (setPda_pays _)

theorem advanceOnly_pays
    (hAdvance :
      advanceOnly H w remainingAccounts user = .ok w') :
    Pays H signers payees [] w w' := by
  unfold advanceOnly at hAdvance
  split_ifs at hAdvance
  · match remainingAccounts, hAdvance with
    | [_], hAdvance => exact advance_pays hUser hAdvance
  · rw [Except.ok.inj hAdvance]
    exact .refl w'

theorem advanceForMigration_pays
    {walletOld : Pubkey}
    {identityOld : IdentityState}
    (hAdvance :
      advanceForMigration H w user walletOld identityOld
        remainingAccounts = .ok w') :
    Pays H signers payees [] w w' := by
  unfold advanceForMigration at hAdvance
  split_ifs at hAdvance
  · split at hAdvance
    · simp only [bind_eq_ok, require_eq_ok] at hAdvance
      rcases hAdvance with
        ⟨_, _, _, _, advanced, hOld, hNew⟩
      exact (advance_pays hUser hOld).before
        (advance_pays hUser hNew)
    · cases hAdvance
  · rw [Except.ok.inj hAdvance]
    exact .refl w'

theorem splitResetAccounts_pays
    {split : World × List AccountMeta}
    (hSplit :
      splitResetAccounts H w remainingAccounts user =
        .ok split) :
    Pays H signers payees [] w split.1 := by
  unfold splitResetAccounts at hSplit
  split_ifs at hSplit
  · cases hLast : remainingAccounts.getLast? with
    | none => simp [hLast] at hSplit
    | some state =>
        simp only [hLast, bind_eq_ok, pure_eq_ok] at hSplit
        rcases hSplit with ⟨advanced, hAdvance, rfl⟩
        exact advance_pays hUser hAdvance
  · rw [← Except.ok.inj hSplit]
    exact .refl w

theorem openIdentity_pays
    {opened : World × IdentityState}
    (hOpen : openIdentity H w user = .ok opened) :
    Pays H signers payees [] w opened.1 := by
  simp only [openIdentity, bind_eq_ok, require_eq_ok,
    pure_eq_ok] at hOpen
  rcases hOpen with
    ⟨_, _, grown, hGrow, _, _, _, _, rfl⟩
  unfold growIdentity at hGrow
  dsimp only at hGrow
  split_ifs at hGrow
  · exact growPda_pays hUser hGrow trivial
  · rw [Except.ok.inj hGrow]
    exact .refl grown

omit hUser in
theorem writeIdentity_pays
    {wallet : Pubkey}
    {identity : IdentityState}
    (hWrite :
      writeIdentity H w wallet identity = .ok w') :
    Pays H signers payees [] w w' :=
  savePda_pays (remapError_eq_ok.mp hWrite)

omit hUser in
theorem consumeProof_pays
    {now : Int64}
    {authority : Signer}
    {identity : IdentityState}
    {address : Address}
    {bound : Bool}
    {consumed : World × ProofTransition}
    (hConsume :
      consumeProof H w now authority identity address bound =
        .ok consumed) :
    Pays H signers payees [] w consumed.1 := by
  unfold consumeProof at hConsume
  split_ifs at hConsume
  · simp only [consumeBoundResult, bind_eq_ok,
      require_eq_ok, pure_eq_ok] at hConsume
    rcases hConsume with
      ⟨_, _, _, _, _, _, _, _, _, _, _, _, _, _, _, _, _, _,
        _, _, data, _, rfl⟩
    exact setPda_pays _
  · simp only [bind_eq_ok, pure_eq_ok] at hConsume
    rcases hConsume with ⟨_, _, rfl⟩
    exact .refl w

theorem closeVerificationResultCpi_pays
    {address : Address}
    {boundNonce : Option (Bytes 32)}
    (hReserves :
      ∀ reserve, Reserved H reserve →
        (w.accounts reserve).owner ≠ .verifier)
    (hPayee : user.key ∈ payees)
    (hClose :
      closeVerificationResultCpi H w user address
        boundNonce = .ok w') :
    Pays H signers payees [] w w' := by
  cases boundNonce with
  | none =>
      exact Verifier.closeVerificationResult_pays hUser
        hReserves hPayee hClose
  | some nonce =>
      exact Verifier.closeBoundVerificationResult_pays hUser
        hReserves hPayee hClose

end Anchor

end Entros

------------------------------------------------------------
-- Anchor Instructions
------------------------------------------------------------

namespace Entros

open Foundations

namespace Anchor

variable {H : Host} {w w' : World}
variable {signers : List Signer} {payees : List Pubkey}
variable {user : Signer} {remainingAccounts : List AccountMeta}
variable (hUser : user ∈ signers)

include hUser

theorem prepareProofRequest_pays
    (hPrepare : prepareProofRequest H w user = .ok w') :
    Pays H signers payees [] w w' := by
  simp only [prepareProofRequest, bind_eq_ok, require_eq_ok]
    at hPrepare
  rcases hPrepare with
    ⟨opened, hOpen, _, _, _, _, _, _, hSave⟩
  refine Pays.before ?_ (savePda_pays hSave)
  unfold openProofRequestState at hOpen
  dsimp only at hOpen
  split_ifs at hOpen
  · simp only [bind_eq_ok, pure_eq_ok] at hOpen
    rcases hOpen with ⟨created, hCreate, rfl⟩
    exact createPda_pays hUser hCreate trivial
  · simp only [bind_eq_ok, require_eq_ok, pure_eq_ok]
      at hOpen
    rcases hOpen with ⟨_, _, _, _, rfl⟩
    exact .refl w

theorem upgradeIdentityLayout_pays
    (hUpgrade : upgradeIdentityLayout H w user = .ok w') :
    Pays H signers payees [] w w' := by
  simp only [upgradeIdentityLayout, bind_eq_ok,
    require_eq_ok] at hUpgrade
  rcases hUpgrade with ⟨_, _, _, _, _, _, hExtend⟩
  unfold extendIdentity at hExtend
  dsimp only at hExtend
  split_ifs at hExtend
  · rw [Except.ok.inj hExtend]
    exact .refl w'
  · simp only [bind_eq_ok, pure_eq_ok] at hExtend
    rcases hExtend with ⟨funded, hFunded, rfl⟩
    exact (topUp_pays hUser
      (not_reserved_of_plain (.identity user.key) trivial)
      hFunded).before (setPda_pays _)

theorem mintAnchor_pays
    {tx : Transaction H}
    {now : Int64}
    {commitment : Bytes 32}
    (hMint :
      mintAnchor tx w now user remainingAccounts
        commitment = .ok w') :
    Pays H signers payees [feeDue H user (storedFee H w 61)]
      w w' := by
  simp only [mintAnchor, bind_eq_ok, require_eq_ok] at hMint
  rcases hMint with
    ⟨created, hInit, advanced, hAdvanced, _, _, issued,
      hIssued, config, hConfig, _, _, paid, hPaid, hSave⟩
  have hKept : protocolConfig H issued = protocolConfig H w :=
    (((Spares.of_create Seeds.ofRegistry_config hInit
      not_false).trans
        (advanceOnly_spares Seeds.ofRegistry_config
          hAdvanced)).trans (issueToken_spares hIssued)).account
  have hIssuedPays : Pays H signers payees [] w issued :=
    ((createPda_pays hUser hInit trivial).before
      (advanceOnly_pays hUser hAdvanced)).before
        (issueToken_pays hUser hIssued)
  have hFee : Pays H signers payees
      [feeDue H user config.verificationFee.toNat] issued
        paid := payFee_pays hPaid
  rw [← storedFee_eq hKept (lifecycleFee hConfig)] at hFee
  exact (hIssuedPays.before hFee).after (savePda_pays hSave)

omit hUser in
theorem authorizeNewWallet_pays
    {signer signerNew : Signer}
    (hAuthorize :
      authorizeNewWallet H w signer signerNew = .ok w') :
    Pays H signers payees [] w w' := by
  simp only [authorizeNewWallet, bind_eq_ok] at hAuthorize
  rcases hAuthorize with
    ⟨_, _, _, _, approved, hApprove, hSave⟩
  exact (approve_pays hApprove).before (savePda_pays hSave)

theorem migrateIdentity_pays
    {walletOld : Pubkey}
    (hPayee : user.key ∈ payees)
    (hPayeeOld : walletOld ∈ payees)
    (hMigrate :
      migrateIdentity H w user walletOld
        remainingAccounts = .ok w') :
    Pays H signers payees [feeDue H user (storedFee H w 69)]
      w w' := by
  simp only [migrateIdentity, bind_eq_ok, require_eq_ok,
    pure_eq_ok] at hMigrate
  rcases hMigrate with
    ⟨_, _, _, _, created, hInit, advanced, hAdvanced,
      issued, hIssued, _, _, fee, hFee, paid, hPaid, burned,
      hBurned, closed, hClosed, saved, hSave, rfl⟩
  have hKept : protocolConfig H issued = protocolConfig H w :=
    (((Spares.of_create Seeds.ofRegistry_config hInit
      not_false).trans
        (advanceForMigration_spares Seeds.ofRegistry_config
          hAdvanced)).trans (issueToken_spares hIssued)).account
  have hRead :
      readFee (protocolConfig H issued).data 69 = .ok fee := by
    simp only [readMigrationFee, bind_eq_ok] at hFee
    rcases hFee with ⟨_, _, hRead⟩
    exact hRead
  have hIssuedPays : Pays H signers payees [] w issued :=
    ((createPda_pays hUser hInit trivial).before
      (advanceForMigration_pays hUser hAdvanced)).before
        (issueToken_pays hUser hIssued)
  have hPaidPays : Pays H signers payees
      [feeDue H user fee.toNat] issued paid :=
    payFee_pays hPaid
  rw [← storedFee_eq hKept hRead] at hPaidPays
  have hClosedPays : Pays H signers payees [] paid closed :=
    (burn_pays hBurned).before
      (closeMint_pays hPayee hClosed)
  have hOldClosed :
      Pays H signers payees [] closed
        (saved.closeAccount (identityAddress H walletOld)
          (.key walletOld)) :=
    (savePda_pays hSave).before
      (closePda_pays (.identity walletOld) hPayeeOld trivial)
  exact ((hIssuedPays.before hPaidPays).after
    hClosedPays).after hOldClosed

theorem resetIdentityState_pays
    {tx : Transaction H}
    {now : Int64}
    {commitment : Bytes 32}
    {projectionVersion : UInt16}
    (hReset :
      resetIdentityState tx w now user remainingAccounts
        commitment projectionVersion = .ok w') :
    Pays H signers payees [feeDue H user (storedFee H w 61)]
      w w' := by
  simp only [resetIdentityState, bind_eq_ok, require_eq_ok]
    at hReset
  rcases hReset with
    ⟨split, hSplit, _, _, opened, hOpen, _, _, config,
      hConfig, _, _, _, _, _, _, written, hWrite, hPay⟩
  have hKept :
      protocolConfig H opened.1 = protocolConfig H w :=
    ((splitResetAccounts_spares Seeds.ofRegistry_config
      hSplit).trans
        (openIdentity_spares Seeds.ofRegistry_config
          hOpen)).account
  have hWritten : Pays H signers payees [] w written :=
    ((splitResetAccounts_pays hUser hSplit).before
      (openIdentity_pays hUser hOpen)).before
        (writeIdentity_pays hWrite)
  have hFee : Pays H signers payees
      [feeDue H user config.verificationFee.toNat] written
        w' := payFee_pays hPay
  rw [← storedFee_eq hKept (lifecycleFee hConfig)] at hFee
  exact hWritten.before hFee

theorem rebaselineAnchor_pays
    {tx : Transaction H}
    {now : Int64}
    {commitment : Bytes 32}
    {projectionVersion : UInt16}
    (hRebaseline :
      rebaselineAnchor tx w now user remainingAccounts
        commitment projectionVersion = .ok w') :
    Pays H signers payees [feeDue H user (storedFee H w 61)]
      w w' := by
  simp only [rebaselineAnchor, bind_eq_ok, require_eq_ok]
    at hRebaseline
  rcases hRebaseline with
    ⟨advanced, hAdvanced, _, _, opened, hOpen, config,
      hConfig, _, _, _, _, _, _, _, _, written, hWrite, hPay⟩
  have hKept :
      protocolConfig H opened.1 = protocolConfig H w :=
    ((advanceOnly_spares Seeds.ofRegistry_config
      hAdvanced).trans
        (openIdentity_spares Seeds.ofRegistry_config
          hOpen)).account
  have hWritten : Pays H signers payees [] w written :=
    ((advanceOnly_pays hUser hAdvanced).before
      (openIdentity_pays hUser hOpen)).before
        (writeIdentity_pays hWrite)
  have hFee : Pays H signers payees
      [feeDue H user config.verificationFee.toNat] written
        w' := payFee_pays hPay
  rw [← storedFee_eq hKept (lifecycleFee hConfig)] at hFee
  exact hWritten.before hFee

theorem setEncryptedBaseline_pays
    {blob : Bytes 96}
    (hSet : setEncryptedBaseline H w user blob = .ok w') :
    Pays H signers payees [] w w' := by
  simp only [setEncryptedBaseline, bind_eq_ok,
    require_eq_ok] at hSet
  rcases hSet with ⟨opened, hOpen, _, _, hSave⟩
  refine Pays.before ?_ (savePda_pays hSave)
  unfold openEncryptedBaseline at hOpen
  dsimp only at hOpen
  split_ifs at hOpen
  · exact createPda_pays hUser hOpen trivial
  · simp only [bind_eq_ok, require_eq_ok, pure_eq_ok]
      at hOpen
    rcases hOpen with ⟨_, _, _, _, rfl⟩
    exact .refl w

theorem processAnchorUpdate_pays
    {tx : Transaction H}
    {now : Int64}
    {verificationResult : Address}
    {receipt : UpdateReceiptArgs}
    {expected : Option (Bytes 32)}
    {bound : Bool}
    (hReserves :
      ∀ reserve, Reserved H reserve →
        (w.accounts reserve).owner ≠ .verifier)
    (hPayee : user.key ∈ payees)
    (hUpdate :
      processAnchorUpdate tx w now user
        verificationResult receipt expected bound = .ok w') :
    Pays H signers payees [feeDue H user (storedFee H w 61)]
      w w' := by
  simp only [processAnchorUpdate, bind_eq_ok,
    require_eq_ok] at hUpdate
  rcases hUpdate with
    ⟨_, _, opened, hOpen, _, _, config, hConfig, consumed,
      hConsume, _, _, _, _, _, _, closed, hClose, _, _,
      written, hWrite, hPay⟩
  have hKept :
      protocolConfig H opened.1 = protocolConfig H w :=
    (openIdentity_spares Seeds.ofRegistry_config
      hOpen).account
  have hConsumedReserves :
      ∀ reserve, Reserved H reserve →
        (consumed.1.accounts reserve).owner ≠ .verifier := by
    have hSpared
        (seeds : Seeds)
        (hSeeds : seeds.OfRegistry) :
        Spares H seeds w consumed.1 :=
      (openIdentity_spares hSeeds hOpen).trans
        (consumeProof_spares hSeeds hConsume)
    rintro reserve (rfl | rfl)
    · rw [treasuryAddress,
        (hSpared .protocolTreasury trivial).account]
      exact hReserves _ (.inl rfl)
    · rw [vaultAddress, (hSpared .vault trivial).account]
      exact hReserves _ (.inr rfl)
  have hWritten : Pays H signers payees [] w written :=
    (((openIdentity_pays hUser hOpen).before
      (consumeProof_pays hConsume)).before
        (closeVerificationResultCpi_pays hUser
          hConsumedReserves hPayee hClose)).before
            (writeIdentity_pays hWrite)
  have hFee : Pays H signers payees
      [feeDue H user config.verificationFee.toNat] written
        w' := payFee_pays hPay
  rw [← storedFee_eq hKept (updateFee hConfig)] at hFee
  exact hWritten.before hFee

end Anchor

end Entros

------------------------------------------------------------
-- Registry Instructions
------------------------------------------------------------

namespace Entros

open Foundations

namespace Registry

variable {H : Host} {w w' : World}
variable {signers : List Signer} {payees : List Pubkey}
variable {signer : Signer}
variable (hSigner : signer ∈ signers)

include hSigner

theorem ensureProtocolConfigLen_pays
    (hEnsure : ensureProtocolConfigLen H w signer = .ok w') :
    Pays H signers payees [] w w' := by
  unfold ensureProtocolConfigLen at hEnsure
  split_ifs at hEnsure
  · exact growPda_pays hSigner hEnsure trivial
  · rw [Except.ok.inj hEnsure]
    exact .refl w'

/- Growing the configuration and writing its bytes. -/
theorem rewriteConfig_pays
    {grown : World}
    (data : List UInt8)
    (hEnsure :
      ensureProtocolConfigLen H w signer = .ok grown) :
    Pays H signers payees [] w
      (grown.setData (configAddress H) data) :=
  (ensureProtocolConfigLen_pays hSigner hEnsure).before
    (setPda_pays _)

/- The stake that a registration puts into the vault. -/
def stakeDue
    (H : Host)
    (validator : Signer)
    (stake : ℕ) : Posting :=
  { source := walletAddress validator
    destination := some (vaultAddress H)
    amount := stake
    reason := .stake }

/- What the vault pays back. -/
def unstakeDue
    (H : Host)
    (validator : Signer)
    (stake : ℕ) : Posting :=
  { source := vaultAddress H
    destination := some (walletAddress validator)
    amount := stake
    reason := .unstake }

/- What an admin takes from the treasury. -/
def withdrawalDue
    (H : Host)
    (admin : Signer)
    (amount : ℕ) : Posting :=
  { source := treasuryAddress H
    destination := some (walletAddress admin)
    amount := amount
    reason := .withdrawal }

theorem registerValidator_pays
    {now : Int64}
    {stakeAmount : UInt64}
    (hRegister :
      registerValidator H w now signer stakeAmount =
        .ok w') :
    Pays H signers payees
      [stakeDue H signer stakeAmount.toNat] w w' := by
  simp only [registerValidator, bind_eq_ok, require_eq_ok]
    at hRegister
  rcases hRegister with
    ⟨_, _, created, hCreate, _, _, staked, hStake, hSave⟩
  have hStaked : Pays H signers payees
      [stakeDue H signer stakeAmount.toNat] created staked :=
    transfer_pays rfl hStake
  exact ((createPda_pays hSigner hCreate trivial).before
    hStaked).after (savePda_pays hSave)

omit hSigner in
theorem unstakeValidator_repays
    (hPayee : signer.key ∈ payees)
    (hUnstake : unstakeValidator H w signer = .ok w') :
    Pays H signers payees
      [unstakeDue H signer
        ((recordedStake H w signer.key).getD 0)] w w' := by
  simp only [unstakeValidator, bind_eq_ok, require_eq_ok,
    pure_eq_ok] at hUnstake
  rcases hUnstake with
    ⟨state, hLoad, _, _, _, _, paid, hPaid, rfl⟩
  have hStake :
      recordedStake H w signer.key =
        some state.stake.toNat := by
    unfold recordedStake
    rw [registration_eq_load.mpr hLoad]
    rfl
  rw [hStake]
  exact Pays.after (transfer_pays rfl hPaid)
    (closePda_pays (.validator signer.key) hPayee trivial)

omit hSigner in
theorem withdrawTreasury_pays
    {amount : UInt64}
    (hWithdraw :
      withdrawTreasury H w signer amount = .ok w') :
    Pays H signers payees
      [withdrawalDue H signer amount.toNat] w w' := by
  simp only [withdrawTreasury, bind_eq_ok, require_eq_ok]
    at hWithdraw
  rcases hWithdraw with ⟨_, _, _, _, _, _, hTransfer⟩
  exact transfer_pays rfl hTransfer

end Registry

open Registry

def RegistryInstruction.signers :
    RegistryInstruction → List Signer
| .initializeProtocol admin _ _ _ _ _ _ => [admin]
| .updateProtocolConfig admin _ => [admin]
| .setValidatorPubkey admin _ => [admin]
| .rotateValidatorPubkey admin _ _ => [admin]
| .setProjectionVersions admin _ _ => [admin]
| .proposeAuthority admin _ => [admin]
| .acceptAuthority pendingAuthority => [pendingAuthority]
| .migrateAdmin newAdmin => [newAdmin]
| .withdrawTreasury admin _ => [admin]
| .registerValidator validator _ => [validator]
| .computeTrustScore _ _ _ => []
| .unstakeValidator validator => [validator]

/- Stakes, their return, and withdrawals. -/
def RegistryInstruction.dues
    (H : Host)
    (w : World) : RegistryInstruction → List Posting
| .withdrawTreasury admin amount =>
    [withdrawalDue H admin amount.toNat]
| .registerValidator validator stakeAmount =>
    [stakeDue H validator stakeAmount.toNat]
| .unstakeValidator validator =>
    [unstakeDue H validator
      ((recordedStake H w validator.key).getD 0)]
| _ => []

theorem registry_pays
    {H : Host}
    {w w' : World}
    {now : Int64}
    {instruction : RegistryInstruction}
    (hExecute : instruction.execute H now w = .ok w') :
    Pays H instruction.signers
      (instruction.signers.map Signer.key)
      (instruction.dues H w) w w' := by
  cases instruction with
  | initializeProtocol admin minStake challengeExpiry
      maxTrustScore baseTrustIncrement verificationFee
      validatorPubkey =>
      simp only [RegistryInstruction.execute,
        initializeProtocol, bind_eq_ok, require_eq_ok]
        at hExecute
      rcases hExecute with ⟨created, hCreate, _, _, hSave⟩
      exact (createPda_pays (.head _) hCreate
        trivial).before (savePda_pays hSave)
  | updateProtocolConfig admin verificationFee =>
      simp only [RegistryInstruction.execute,
        updateProtocolConfig, bind_eq_ok, require_eq_ok]
        at hExecute
      rcases hExecute with
        ⟨config, _, grown, hGrow, _, _, hSave⟩
      exact (growPda_pays (.head _) hGrow trivial).before
        (savePda_pays hSave)
  | setValidatorPubkey admin validatorPubkey =>
      simp only [RegistryInstruction.execute,
        setValidatorPubkey, bind_eq_ok, require_eq_ok,
        pure_eq_ok] at hExecute
      rcases hExecute with
        ⟨_, _, _, _, grown, hEnsure, data, _, rfl⟩
      exact rewriteConfig_pays (.head _) data hEnsure
  | rotateValidatorPubkey admin newValidatorPubkey
      gracePeriodSecs =>
      simp only [RegistryInstruction.execute,
        rotateValidatorPubkey, bind_eq_ok, require_eq_ok,
        pure_eq_ok] at hExecute
      rcases hExecute with
        ⟨_, _, _, _, _, _, _, _, _, _, grown, hEnsure, _, _,
          data, _, rfl⟩
      exact rewriteConfig_pays (.head _) data hEnsure
  | setProjectionVersions admin current minimum =>
      simp only [RegistryInstruction.execute,
        setProjectionVersions, bind_eq_ok, pure_eq_ok]
        at hExecute
      rcases hExecute with
        ⟨_, _, _, _, _, _, _, _, grown, hEnsure, _, _, data,
          _, rfl⟩
      exact rewriteConfig_pays (.head _) data hEnsure
  | proposeAuthority admin newAuthority =>
      simp only [RegistryInstruction.execute,
        proposeAuthority, bind_eq_ok, require_eq_ok,
        pure_eq_ok] at hExecute
      rcases hExecute with
        ⟨_, _, _, _, _, _, grown, hEnsure, data, _, rfl⟩
      exact rewriteConfig_pays (.head _) data hEnsure
  | acceptAuthority pendingAuthority =>
      simp only [RegistryInstruction.execute,
        acceptAuthority, bind_eq_ok, require_eq_ok,
        pure_eq_ok] at hExecute
      rcases hExecute with
        ⟨_, _, _, _, _, _, _, _, _, _, _, _, data, _, rfl⟩
      exact setPda_pays _
  | migrateAdmin newAdmin =>
      simp only [RegistryInstruction.execute, migrateAdmin,
        bind_eq_ok, require_eq_ok] at hExecute
      rcases hExecute with
        ⟨_, _, _, _, _, _, data, _, hTopUp⟩
      exact (setPda_pays _).before
        (topUp_pays (.head _)
          (not_reserved_of_plain .protocolConfig trivial)
          hTopUp)
  | withdrawTreasury admin amount =>
      exact withdrawTreasury_pays hExecute
  | registerValidator validator stakeAmount =>
      exact registerValidator_pays (.head _) hExecute
  | computeTrustScore count creation recent =>
      rw [computeTrustScore_unchanged hExecute]
      exact .refl w
  | unstakeValidator validator =>
      exact unstakeValidator_repays (.head _) hExecute

end Entros

------------------------------------------------------------
-- All Calls
------------------------------------------------------------

namespace Entros

open Foundations

open Anchor

def AnchorInstruction.signers :
    AnchorInstruction → List Signer
| .prepareProofRequest authority => [authority]
| .upgradeIdentityLayout authority => [authority]
| .mintAnchor user _ _ => [user]
| .authorizeNewWallet signer signerNew =>
    [signer, signerNew]
| .migrateIdentity user _ _ => [user]
| .updateAnchor authority _ _ _ => [authority]
| .updateAnchorCompact authority _ _ => [authority]
| .updateAnchorBound authority _ _ => [authority]
| .resetIdentityState authority _ _ _ => [authority]
| .rebaselineAnchor authority _ _ _ => [authority]
| .setEncryptedBaseline authority _ => [authority]

def OutsideInstruction.signers :
    OutsideInstruction → List Signer
| .approve owner _ _ => [owner]
| .revoke _ authority => [authority]
| .burn _ authority _ => [authority]
| .openTokenAccount payer _ => [payer]
| .closeTokenAccount owner => [owner]
| .transfer source _ _ => [source]
| .createAccount payer _ _ _ => [payer]
| .writeProgramData _ => []

/- Who signs a call. -/
def Instruction.signers : Instruction → List Signer
| .registry instruction => instruction.signers
| .verifier instruction => [instruction.signer]
| .anchor instruction => instruction.signers
| .outside instruction => instruction.signers

/-
  Who can be refunded: the signers, and the wallet that an
  identity leaves.
-/
def Instruction.payees
    (instruction : Instruction) : List Pubkey :=
  instruction.signers.map Signer.key ++
    match instruction with
    | .anchor (.migrateIdentity _ walletOld _) =>
        [walletOld]
    | _ => []

theorem Instruction.payees_registry
    (instruction : RegistryInstruction) :
    (Instruction.registry instruction).payees =
      instruction.signers.map Signer.key :=
  List.append_nil _

/- The lifecycle of an identity costs a fee at every step. -/
def AnchorInstruction.dues
    (H : Host)
    (w : World) : AnchorInstruction → List Posting
| .mintAnchor user _ _ =>
    [feeDue H user (storedFee H w 61)]
| .migrateIdentity user _ _ =>
    [feeDue H user (storedFee H w 69)]
| .updateAnchor authority _ _ _ =>
    [feeDue H authority (storedFee H w 61)]
| .updateAnchorCompact authority _ _ =>
    [feeDue H authority (storedFee H w 61)]
| .updateAnchorBound authority _ _ =>
    [feeDue H authority (storedFee H w 61)]
| .resetIdentityState authority _ _ _ =>
    [feeDue H authority (storedFee H w 61)]
| .rebaselineAnchor authority _ _ _ =>
    [feeDue H authority (storedFee H w 61)]
| _ => []

def giftDue
    (source : Signer)
    (destination : Address)
    (amount : ℕ) : Posting :=
  { source := walletAddress source
    destination := some destination
    amount := amount
    reason := .gift }

def OutsideInstruction.dues :
    OutsideInstruction → List Posting
| .transfer source destination amount =>
    [giftDue source destination amount]
| _ => []

/- What a call has to move, apart from rent. -/
def Instruction.dues
    (H : Host)
    (w : World) : Instruction → List Posting
| .registry instruction => instruction.dues H w
| .verifier _ => []
| .anchor instruction => instruction.dues H w
| .outside instruction => instruction.dues

variable {H : Host} {w w' : World}

theorem anchor_pays
    {now : Int64}
    {tx : Transaction H}
    {instruction : AnchorInstruction}
    (hReserves :
      ∀ reserve, Reserved H reserve →
        (w.accounts reserve).owner ≠ .verifier)
    (hExecute : instruction.execute now tx w = .ok w') :
    Pays H instruction.signers
      (Instruction.anchor instruction).payees
      (instruction.dues H w) w w' := by
  cases instruction with
  | prepareProofRequest authority =>
      exact prepareProofRequest_pays (.head _) hExecute
  | upgradeIdentityLayout authority =>
      exact upgradeIdentityLayout_pays (.head _) hExecute
  | mintAnchor user remainingAccounts commitment =>
      exact mintAnchor_pays (.head _) hExecute
  | authorizeNewWallet signer signerNew =>
      exact authorizeNewWallet_pays hExecute
  | migrateIdentity user walletOld remainingAccounts =>
      exact migrateIdentity_pays (.head _) (.head _)
        (.tail _ (.head _)) hExecute
  | updateAnchor authority verificationResult newCommitment
      receipt =>
      simp only [AnchorInstruction.execute, updateAnchor,
        bind_eq_ok, require_eq_ok] at hExecute
      rcases hExecute with ⟨_, _, hUpdate⟩
      exact processAnchorUpdate_pays (.head _) hReserves
        (.head _) hUpdate
  | updateAnchorCompact authority verificationResult
      receipt =>
      exact processAnchorUpdate_pays (.head _) hReserves
        (.head _) hExecute
  | updateAnchorBound authority verificationResult receipt =>
      simp only [AnchorInstruction.execute,
        updateAnchorBound, bind_eq_ok, require_eq_ok]
        at hExecute
      rcases hExecute with ⟨_, _, hUpdate⟩
      exact processAnchorUpdate_pays (.head _) hReserves
        (.head _) hUpdate
  | resetIdentityState authority remainingAccounts commitment
      projectionVersion =>
      exact resetIdentityState_pays (.head _) hExecute
  | rebaselineAnchor authority remainingAccounts commitment
      projectionVersion =>
      exact rebaselineAnchor_pays (.head _) hExecute
  | setEncryptedBaseline authority blob =>
      exact setEncryptedBaseline_pays (.head _) hExecute

/- The journal part of what happens around the programs. -/
theorem outside_journal
    {instruction : OutsideInstruction}
    (hExecute : instruction.execute H w = .ok w') :
    ∃ entries,
      Posts w.lamports entries w'.lamports ∧
        entries.filter (fun entry => entry.reason.isDue) =
            instruction.dues ∧
          ∀ entry ∈ entries,
            entry.reason.isDue = false →
              Incidental H instruction.signers
                (Instruction.outside instruction).payees w
                entry := by
  cases instruction with
  | approve owner delegate amount =>
      exact (approve_pays hExecute).journal
  | revoke wallet authority =>
      simp only [OutsideInstruction.execute, World.revoke,
        bind_eq_ok, pure_eq_ok] at hExecute
      rcases hExecute with ⟨_, _, _, _, rfl⟩
      exact (Pays.of_eq rfl rfl).journal
  | burn wallet authority amount =>
      exact (burn_pays hExecute).journal
  | openTokenAccount payer wallet =>
      simp only [OutsideInstruction.execute, bind_eq_ok,
        require_eq_ok] at hExecute
      rcases hExecute with ⟨_, _, hCreate⟩
      exact (createTokenAccount_pays (.head _)
        hCreate).journal
  | closeTokenAccount owner =>
      exact (closeTokenAccount_pays (.head _)
        hExecute).journal
  | transfer source destination amount =>
      have hPays :
          Pays H [source] [source.key]
            [giftDue source destination amount] w w' :=
        transfer_pays rfl hExecute
      exact hPays.journal
  | createAccount payer key size owner =>
      simp only [OutsideInstruction.execute,
        World.createAccount, World.allocate, bind_eq_ok,
        require_eq_ok, pure_eq_ok] at hExecute
      rcases hExecute with ⟨funded, hFunded, _, _, rfl⟩
      exact (topUp_pays (.head _) (not_reserved_key key)
        hFunded).journal
  | writeProgramData data =>
      rw [← Except.ok.inj hExecute]
      exact (Pays.of_eq rfl rfl).journal

/-
  Every lamport that a call moves is one of its dues, or rent
  that a signer pays, or the refund of a closed account.
-/
theorem step_journal
    {call : Call H}
    (hReserves :
      ∀ reserve, Reserved H reserve →
        (w.accounts reserve).owner ≠ .verifier)
    (hStep : Step H w call w') :
    ∃ entries,
      Posts w.lamports entries w'.lamports ∧
        entries.filter (fun entry => entry.reason.isDue) =
            call.instruction.dues H w ∧
          ∀ entry ∈ entries,
            entry.reason.isDue = false →
              Incidental H call.instruction.signers
                call.instruction.payees w entry := by
  rcases call with ⟨now, tx, instruction⟩
  cases instruction with
  | registry instruction =>
      have hPays := registry_pays hStep
      rw [← Instruction.payees_registry] at hPays
      exact hPays.journal
  | verifier instruction =>
      exact (verifier_pays hReserves hStep).journal
  | anchor instruction =>
      exact (anchor_pays hReserves hStep).journal
  | outside instruction =>
      exact outside_journal hStep

end Entros
