import Entros.System.ProofLocality

/-
  The instructions of entros-anchor stay inside the accounts
  that their contexts open for them.

  Key definitions include:
    * `OpensFee`
    * `OpensUpdate`
    * `OpensToken`

  Key theorems include:
    * `advance_tracks`
    * `openIdentity_tracks`
    * `consumeProof_tracks`
    * `processAnchorUpdate_tracks`
    * `mintAnchor_tracks`
    * `migrateIdentity_tracks`
    * `resetIdentityState_tracks`
-/

------------------------------------------------------------
-- Request Counters and Layouts
------------------------------------------------------------

namespace Entros

open Foundations

namespace Anchor

variable {H : Host} {Z : Zone Resource} {base w : World}
variable {user : Signer} {wallet : Pubkey}
variable {accounts : List AccountMeta}
variable (hFaithful : Z.Faithful base w)

include hFaithful

section

variable (hUser : Zone.Opens Z (walletAddress user))

include hUser

theorem ensureProofRequestState_tracks
    (hRequest : Zone.Opens Z (requestAddress H wallet)) :
    Tracks Z base (ensureProofRequestState H w wallet user)
      (ensureProofRequestState H (Z.copy base w) wallet
        user) := by
  unfold ensureProofRequestState
  rw [hRequest.account hFaithful]
  apply Mirrors.ite Iff.rfl
  · intro _
    apply Mirrors.bind
      (createAccount_tracks hFaithful hUser hRequest)
    intro created _ hCreated
    exact saveAccount_tracks hCreated _ hRequest
  · intro _
    exact .ok hFaithful

/- The counter is opened by the account that is passed. -/
theorem advance_tracks
    {account : AccountMeta}
    (hOpen :
      account.writable = true →
        Zone.Opens Z account.address) :
    Tracks Z base (advance H w account wallet user)
      (advance H (Z.copy base w) account wallet user) := by
  unfold advance
  apply Mirrors.value rfl
  intro _ hWritable
  apply Mirrors.value rfl
  intro _ hAddress
  have hRequest :
      Zone.Opens Z (requestAddress H wallet) := by
    rw [← require_eq_ok.mp hAddress]
    exact hOpen (require_eq_ok.mp hWritable)
  apply Mirrors.bind
    (ensureProofRequestState_tracks hFaithful hUser hRequest)
  intro created _ hCreated
  dsimp only
  rw [hRequest.account hCreated]
  iterate 3
    apply Mirrors.value rfl
    intro _ _
  apply Mirrors.value rfl
  intro data _
  exact setData_tracks hCreated data hRequest

theorem advanceOnly_tracks
    (hOpen :
      ∀ account ∈ accounts,
        account.writable = true →
          Zone.Opens Z account.address) :
    Tracks Z base (advanceOnly H w accounts user)
      (advanceOnly H (Z.copy base w) accounts user) := by
  unfold advanceOnly
  apply Mirrors.ite Iff.rfl
  · intro _
    match accounts with
    | [] => exact .error _
    | [state] =>
        exact advance_tracks hFaithful hUser
          (hOpen state (.head _))
    | _ :: _ :: _ => exact .error _
  · intro _
    exact .ok hFaithful

theorem advanceForMigration_tracks
    {identityOld : IdentityState}
    (hOpen :
      ∀ account ∈ accounts,
        account.writable = true →
          Zone.Opens Z account.address) :
    Tracks Z base
      (advanceForMigration H w user wallet identityOld
        accounts)
      (advanceForMigration H (Z.copy base w) user wallet
        identityOld accounts) := by
  unfold advanceForMigration
  apply Mirrors.ite Iff.rfl
  · intro _
    match accounts with
    | [] => exact .error _
    | [_] => exact .error _
    | [stateOld, stateNew] =>
        apply Mirrors.value rfl
        intro _ _
        apply Mirrors.value rfl
        intro _ _
        apply Mirrors.bind
          (advance_tracks hFaithful hUser
            (hOpen stateOld (.head _)))
        intro advanced _ hAdvanced
        exact advance_tracks hAdvanced hUser
          (hOpen stateNew (.tail _ (.head _)))
    | _ :: _ :: _ :: _ => exact .error _
  · intro _
    exact .ok hFaithful

theorem splitResetAccounts_tracks
    (hOpen :
      ∀ account ∈ accounts,
        account.writable = true →
          Zone.Opens Z account.address) :
    TracksWith Z base (splitResetAccounts H w accounts user)
      (splitResetAccounts H (Z.copy base w) accounts
        user) := by
  unfold splitResetAccounts
  apply Mirrors.ite Iff.rfl
  · intro _
    cases hLast : accounts.getLast? with
    | none => exact .error _
    | some state =>
        have hMem : state ∈ accounts :=
          List.mem_of_getLast? hLast
        apply Mirrors.bind
          (advance_tracks hFaithful hUser
            (hOpen state hMem))
        intro advanced _ hAdvanced
        exact .ok hAdvanced
  · intro _
    exact .ok hFaithful

theorem openProofRequestState_tracks
    (hRequest : Zone.Opens Z (requestAddress H user.key)) :
    TracksWith Z base (openProofRequestState H w user)
      (openProofRequestState H (Z.copy base w) user) := by
  unfold openProofRequestState
  dsimp only
  rw [hRequest.account hFaithful,
    loadAccount_copy hFaithful (Z.writes_subset hRequest)]
  apply Mirrors.ite Iff.rfl
  · intro _
    apply Mirrors.bind
      (createAccount_tracks hFaithful hUser hRequest)
    intro created _ hCreated
    exact .ok hCreated
  · intro _
    apply Mirrors.value rfl
    intro _ _
    apply Mirrors.value rfl
    intro _ _
    exact .ok hFaithful

theorem prepareProofRequest_tracks
    (hRequest : Zone.Opens Z (requestAddress H user.key)) :
    Tracks Z base (prepareProofRequest H w user)
      (prepareProofRequest H (Z.copy base w) user) := by
  unfold prepareProofRequest
  apply Mirrors.bind
    (openProofRequestState_tracks hFaithful hUser hRequest)
  intro opened _ hOpened
  apply Mirrors.value rfl
  intro _ _
  apply Mirrors.value rfl
  intro state _
  apply Mirrors.value rfl
  intro _ _
  exact saveAccount_tracks hOpened state hRequest

variable
  (hIdentity : Zone.Opens Z (identityAddress H user.key))

include hIdentity

theorem extendIdentity_tracks :
    Tracks Z base (extendIdentity H w user)
      (extendIdentity H (Z.copy base w) user) := by
  unfold extendIdentity
  dsimp only
  rw [hIdentity.account hFaithful]
  apply Mirrors.ite Iff.rfl
  · intro _
    exact .ok hFaithful
  · intro _
    apply Mirrors.bind
      (topUp_tracks hFaithful hUser hIdentity)
    intro funded _ hFunded
    exact setData_tracks hFunded _ hIdentity

theorem upgradeIdentityLayout_tracks :
    Tracks Z base (upgradeIdentityLayout H w user)
      (upgradeIdentityLayout H (Z.copy base w) user) := by
  unfold upgradeIdentityLayout
  dsimp only
  rw [hIdentity.account hFaithful]
  iterate 3
    apply Mirrors.value rfl
    intro _ _
  exact extendIdentity_tracks hFaithful hUser hIdentity

theorem growIdentity_tracks :
    Tracks Z base (growIdentity H w user)
      (growIdentity H (Z.copy base w) user) := by
  unfold growIdentity
  dsimp only
  rw [hIdentity.account hFaithful]
  apply Mirrors.ite Iff.rfl
  · intro _
    exact growAccount_tracks hFaithful hUser hIdentity
  · intro _
    exact .ok hFaithful

theorem openIdentity_tracks :
    TracksWith Z base (openIdentity H w user)
      (openIdentity H (Z.copy base w) user) := by
  unfold openIdentity
  rw [hIdentity.account hFaithful]
  apply Mirrors.value rfl
  intro _ _
  apply Mirrors.bind
    (growIdentity_tracks hFaithful hUser hIdentity)
  intro grown _ hGrown
  unfold readIdentity
  rw [hIdentity.account hGrown]
  apply Mirrors.value rfl
  intro _ _
  apply Mirrors.value rfl
  intro _ _
  exact .ok hGrown

theorem initIdentity_tracks :
    Tracks Z base (initIdentity H w user)
      (initIdentity H (Z.copy base w) user) :=
  createAccount_tracks hFaithful hUser hIdentity

end

theorem writeIdentity_tracks
    (identity : IdentityState)
    (hIdentity : Zone.Opens Z (identityAddress H wallet)) :
    Tracks Z base (writeIdentity H w wallet identity)
      (writeIdentity H (Z.copy base w) wallet identity) :=
  (saveAccount_tracks hFaithful identity
    hIdentity).remapError

end Anchor

end Entros

------------------------------------------------------------
-- Fees and Proof Results
------------------------------------------------------------

namespace Entros

open Foundations

namespace Anchor

variable {H : Host} {Z : Zone Resource} {base w : World}
variable {user : Signer} {address : Address}
variable (hFaithful : Z.Faithful base w)

/- The accounts a fee is charged through. -/
structure OpensFee
    (H : Host)
    (Z : Zone Resource) : Prop where
  config :
    .account (H.findProgramAddress .protocolConfig) ∈ Z.reads
  treasury :
    Zone.Accepts Z (H.findProgramAddress .protocolTreasury)

theorem opensFee_of_subset
    {locks : List Lock}
    (hSubset : feeContext H ⊆ locks) :
    OpensFee H (lockZone H locks) where
  config := reads_of_mem (hSubset (.head _))
  treasury := accepts_of_mem (hSubset (.tail _ (.head _)))

include hFaithful

theorem protocolConfig_copy
    (hFee : OpensFee H Z) :
    protocolConfig H (Z.copy base w) = protocolConfig H w :=
  Faithful.account hFaithful hFee.config

theorem consumeBoundResult_tracks
    {identity : IdentityState}
    (now : Int64)
    (hResult : .account address ∈ Z.reads)
    (hRequest : Zone.Opens Z (requestAddress H user.key)) :
    TracksWith Z base
      (consumeBoundResult H w now user identity address)
      (consumeBoundResult H (Z.copy base w) now user identity
        address) := by
  unfold consumeBoundResult loadBoundResult
  dsimp only
  rw [Faithful.account hFaithful hResult,
    hRequest.account hFaithful]
  apply Mirrors.value rfl
  intro _ _
  apply Mirrors.value rfl
  intro result _
  iterate 8
    apply Mirrors.value rfl
    intro _ _
  apply Mirrors.value rfl
  intro data _
  rcases Tracks.copy_eq
    (setData_tracks hFaithful data hRequest) with
    ⟨hCopy, hWritten⟩
  rw [hCopy]
  exact .ok hWritten

theorem consumeProof_tracks
    {identity : IdentityState}
    (now : Int64)
    (bound : Bool)
    (hResult : .account address ∈ Z.reads)
    (hRequest :
      bound = true →
        Zone.Opens Z (requestAddress H user.key)) :
    TracksWith Z base
      (consumeProof H w now user identity address bound)
      (consumeProof H (Z.copy base w) now user identity
        address bound) := by
  unfold consumeProof
  apply Mirrors.ite Iff.rfl
  · intro hBound
    exact consumeBoundResult_tracks hFaithful now hResult
      (hRequest hBound)
  · intro _
    unfold readVerificationResult
    dsimp only
    rw [Faithful.account hFaithful hResult]
    apply Mirrors.value rfl
    intro _ _
    exact .ok hFaithful

variable (hUser : Zone.Opens Z (walletAddress user))

include hUser

theorem payFee_tracks
    (fee : UInt64)
    (hFee : OpensFee H Z) :
    Tracks Z base (payFee H w user fee)
      (payFee H (Z.copy base w) user fee) := by
  unfold payFee
  apply Mirrors.ite Iff.rfl
  · intro _
    exact transfer_tracks hFaithful hUser hFee.treasury
  · intro _
    exact .ok hFaithful

theorem closeVerificationResultCpi_tracks
    (boundNonce : Option (Bytes 32))
    (hAddress : Zone.Opens Z address) :
    Tracks Z base
      (closeVerificationResultCpi H w user address boundNonce)
      (closeVerificationResultCpi H (Z.copy base w) user
        address boundNonce) := by
  cases boundNonce with
  | none =>
      exact Verifier.closeVerificationResult_tracks
        hFaithful hUser hAddress
  | some nonce =>
      exact Verifier.closeBoundVerificationResult_tracks
        hFaithful hUser hAddress

theorem issueToken_tracks
    (hMint : Zone.OpensMint H Z user.key)
    (hToken : Zone.OpensToken H Z user.key) :
    Tracks Z base (issueToken H w user)
      (issueToken H (Z.copy base w) user) := by
  unfold issueToken
  apply Mirrors.bind (createMint_tracks hFaithful hUser hMint)
  intro minted _ hMinted
  apply Mirrors.bind
    (createTokenAccount_tracks hMinted hUser hToken)
  intro opened _ hOpened
  exact mintOne_tracks hOpened hMint hToken

end Anchor

end Entros

------------------------------------------------------------
-- Updates
------------------------------------------------------------

namespace Entros

open Foundations

namespace Anchor

variable {H : Host} {Z : Zone Resource} {base w : World}
variable {tx : Transaction H}
variable {authority : Signer} {verificationResult : Address}

/- The accounts that all the updates share. -/
structure OpensUpdate
    (H : Host)
    (Z : Zone Resource)
    (authority : Signer)
    (verificationResult : Address) : Prop where
  wallet : Zone.Opens Z (walletAddress authority)
  identity :
    Zone.Opens Z (identityAddress H authority.key)
  result : Zone.Opens Z verificationResult
  fee : OpensFee H Z

theorem opensUpdate_of_subset
    {locks : List Lock}
    (hSubset :
      updateAnchorContext H authority verificationResult ⊆
        locks) :
    OpensUpdate H (lockZone H locks) authority
      verificationResult where
  wallet := opens_of_mem (hSubset (.head _))
  identity := opens_of_mem (hSubset (.tail _ (.head _)))
  result :=
    opens_of_mem (hSubset (.tail _ (.tail _ (.head _))))
  fee := by
    apply opensFee_of_subset
    intro lock hMem
    apply hSubset
    exact List.mem_append_right _ hMem

variable (hFaithful : Z.Faithful base w)
variable (hOpen : OpensUpdate H Z authority verificationResult)

include hFaithful hOpen

theorem processAnchorUpdate_tracks
    (now : Int64)
    (receipt : UpdateReceiptArgs)
    (expected : Option (Bytes 32))
    (bound : Bool)
    (hRequest :
      bound = true →
        Zone.Opens Z (requestAddress H authority.key)) :
    Tracks Z base
      (processAnchorUpdate tx w now authority
        verificationResult receipt expected bound)
      (processAnchorUpdate tx (Z.copy base w) now authority
        verificationResult receipt expected bound) := by
  unfold processAnchorUpdate
  apply Mirrors.value rfl
  intro _ _
  apply Mirrors.bind
    (openIdentity_tracks hFaithful hOpen.wallet
      hOpen.identity)
  intro opened _ hOpened
  apply Mirrors.value rfl
  intro _ _
  rw [protocolConfig_copy hOpened hOpen.fee]
  apply Mirrors.value rfl
  intro config _
  apply Mirrors.bind
    (consumeProof_tracks hOpened now bound
      (Z.writes_subset hOpen.result) hRequest)
  intro consumed _ hConsumed
  iterate 3
    apply Mirrors.value rfl
    intro _ _
  apply Mirrors.bind
    (closeVerificationResultCpi_tracks hConsumed
      hOpen.wallet _ hOpen.result)
  intro closed _ hClosed
  apply Mirrors.value rfl
  intro updated _
  apply Mirrors.bind
    (writeIdentity_tracks hClosed updated hOpen.identity)
  intro written _ hWritten
  exact payFee_tracks hWritten hOpen.wallet _ hOpen.fee

theorem updateAnchor_tracks
    (now : Int64)
    (newCommitment : Bytes 32)
    (receipt : UpdateReceiptArgs) :
    Tracks Z base
      (updateAnchor tx w now authority verificationResult
        newCommitment receipt)
      (updateAnchor tx (Z.copy base w) now authority
        verificationResult newCommitment receipt) := by
  unfold updateAnchor
  apply Mirrors.value rfl
  intro _ _
  apply processAnchorUpdate_tracks hFaithful hOpen
  intro hBound
  cases hBound

theorem updateAnchorCompact_tracks
    (now : Int64)
    (receipt : UpdateReceiptArgs) :
    Tracks Z base
      (updateAnchorCompact tx w now authority
        verificationResult receipt)
      (updateAnchorCompact tx (Z.copy base w) now authority
        verificationResult receipt) := by
  apply processAnchorUpdate_tracks hFaithful hOpen
  intro hBound
  cases hBound

theorem updateAnchorBound_tracks
    (now : Int64)
    (receipt : UpdateReceiptArgs)
    (hRequest :
      Zone.Opens Z (requestAddress H authority.key)) :
    Tracks Z base
      (updateAnchorBound tx w now authority
        verificationResult receipt)
      (updateAnchorBound tx (Z.copy base w) now authority
        verificationResult receipt) := by
  unfold updateAnchorBound
  rw [hRequest.account hFaithful]
  apply Mirrors.value rfl
  intro _ _
  apply processAnchorUpdate_tracks hFaithful hOpen
  intro _
  exact hRequest

end Anchor

end Entros

------------------------------------------------------------
-- Minting and Migration
------------------------------------------------------------

namespace Entros

open Foundations

namespace Anchor

variable {H : Host} {Z : Zone Resource} {base w : World}
variable {tx : Transaction H}
variable {user : Signer} {wallet : Pubkey}
variable {accounts : List AccountMeta}

/- The accounts of a wallet's identity and its token. -/
structure OpensToken
    (H : Host)
    (Z : Zone Resource)
    (wallet : Pubkey) : Prop where
  identity : Zone.Opens Z (identityAddress H wallet)
  mint : Zone.OpensMint H Z wallet
  token : Zone.OpensToken H Z wallet

variable (hFaithful : Z.Faithful base w)

include hFaithful

theorem requireToken_copy
    (hOpen : OpensToken H Z wallet) :
    requireToken (Z.copy base w) wallet =
      requireToken w wallet := by
  unfold requireToken
  rw [hOpen.mint.read hFaithful, hOpen.token.read hFaithful]

theorem loadIdentity_copy
    (hOpen : OpensToken H Z wallet) :
    loadIdentity H (Z.copy base w) wallet =
      loadIdentity H w wallet :=
  loadAccount_copy hFaithful
    (Z.writes_subset hOpen.identity)

variable
  (hAccounts :
    ∀ account ∈ accounts,
      account.writable = true →
        Zone.Opens Z account.address)

theorem authorizeNewWallet_tracks
    {signer signerNew : Signer}
    (hOpen : OpensToken H Z signer.key) :
    Tracks Z base (authorizeNewWallet H w signer signerNew)
      (authorizeNewWallet H (Z.copy base w) signer
        signerNew) := by
  unfold authorizeNewWallet
  apply Mirrors.value (loadIdentity_copy hFaithful hOpen)
  intro identity _
  apply Mirrors.value (requireToken_copy hFaithful hOpen)
  intro _ _
  apply Mirrors.bind (approve_tracks hFaithful hOpen.token)
  intro approved _ hApproved
  exact saveAccount_tracks hApproved _ hOpen.identity

include hAccounts

theorem mintAnchor_tracks
    (now : Int64)
    (initialCommitment : Bytes 32)
    (hUser : Zone.Opens Z (walletAddress user))
    (hOpen : OpensToken H Z user.key)
    (hFee : OpensFee H Z) :
    Tracks Z base
      (mintAnchor tx w now user accounts initialCommitment)
      (mintAnchor tx (Z.copy base w) now user accounts
        initialCommitment) := by
  unfold mintAnchor
  apply Mirrors.bind
    (initIdentity_tracks hFaithful hUser
      hOpen.identity)
  intro created _ hCreated
  apply Mirrors.bind
    (advanceOnly_tracks hCreated hUser hAccounts)
  intro advanced _ hAdvanced
  apply Mirrors.value rfl
  intro _ _
  apply Mirrors.bind
    (issueToken_tracks hAdvanced hUser hOpen.mint
      hOpen.token)
  intro issued _ hIssued
  rw [protocolConfig_copy hIssued hFee]
  apply Mirrors.value rfl
  intro config _
  apply Mirrors.value rfl
  intro _ _
  apply Mirrors.bind
    (payFee_tracks hIssued hUser _ hFee)
  intro paid _ hPaid
  exact saveAccount_tracks hPaid _ hOpen.identity

theorem migrateIdentity_tracks
    (hUser : Zone.Opens Z (walletAddress user))
    (hRefunded : Zone.Accepts Z (.key wallet))
    (hOpen : OpensToken H Z user.key)
    (hOld : OpensToken H Z wallet)
    (hFee : OpensFee H Z) :
    Tracks Z base (migrateIdentity H w user wallet accounts)
      (migrateIdentity H (Z.copy base w) user wallet
        accounts) := by
  unfold migrateIdentity
  apply Mirrors.value (loadIdentity_copy hFaithful hOld)
  intro identityOld _
  apply Mirrors.value (requireToken_copy hFaithful hOld)
  intro _ _
  apply Mirrors.bind
    (initIdentity_tracks hFaithful hUser
      hOpen.identity)
  intro created _ hCreated
  apply Mirrors.bind
    (advanceForMigration_tracks hCreated hUser
      hAccounts)
  intro advanced _ hAdvanced
  apply Mirrors.bind
    (issueToken_tracks hAdvanced hUser hOpen.mint
      hOpen.token)
  intro issued _ hIssued
  apply Mirrors.value rfl
  intro _ _
  rw [protocolConfig_copy hIssued hFee]
  apply Mirrors.value rfl
  intro migrationFee _
  apply Mirrors.bind
    (payFee_tracks hIssued hUser _ hFee)
  intro paid _ hPaid
  apply Mirrors.bind
    (burn_tracks hPaid hOld.mint hOld.token)
  intro burned _ hBurned
  apply Mirrors.bind
    (closeMint_tracks hBurned hOld.mint hUser)
  intro closed _ hClosed
  apply Mirrors.bind
    (saveAccount_tracks hClosed _ hOpen.identity)
  intro saved _ hSaved
  exact closeAccount_tracks hSaved hOld.identity hRefunded

end Anchor

end Entros

------------------------------------------------------------
-- Reset, Rebaseline and Baselines
------------------------------------------------------------

namespace Entros

open Foundations

namespace Anchor

variable {H : Host} {Z : Zone Resource} {base w : World}
variable {tx : Transaction H}
variable {authority : Signer}
variable {accounts : List AccountMeta}
variable (hFaithful : Z.Faithful base w)
variable (hAuthority : Zone.Opens Z (walletAddress authority))

include hFaithful hAuthority

theorem setEncryptedBaseline_tracks
    (blob : Bytes 96)
    (hBaseline :
      Zone.Opens Z (baselineAddress H authority.key))
    (hIdentity :
      .account (identityAddress H authority.key) ∈ Z.reads) :
    Tracks Z base (setEncryptedBaseline H w authority blob)
      (setEncryptedBaseline H (Z.copy base w) authority
        blob) := by
  have hOpened :
      Tracks Z base (openEncryptedBaseline H w authority)
        (openEncryptedBaseline H (Z.copy base w)
          authority) := by
    unfold openEncryptedBaseline
    dsimp only
    rw [hBaseline.account hFaithful,
      loadAccount_copy hFaithful
        (Z.writes_subset hBaseline)]
    apply Mirrors.ite Iff.rfl
    · intro _
      exact createAccount_tracks hFaithful hAuthority
        hBaseline
    · intro _
      apply Mirrors.value rfl
      intro _ _
      apply Mirrors.value rfl
      intro _ _
      exact .ok hFaithful
  unfold setEncryptedBaseline
  apply Mirrors.bind hOpened
  intro opened _ hOpened
  rw [Faithful.account hOpened hIdentity]
  apply Mirrors.value rfl
  intro _ _
  exact saveAccount_tracks hOpened _ hBaseline

variable
  (hIdentity : Zone.Opens Z (identityAddress H authority.key))
variable
  (hAccounts :
    ∀ account ∈ accounts,
      account.writable = true →
        Zone.Opens Z account.address)
variable (hFee : OpensFee H Z)

include hIdentity hAccounts hFee

theorem resetIdentityState_tracks
    (now : Int64)
    (newCommitment : Bytes 32)
    (projectionVersion : UInt16) :
    Tracks Z base
      (resetIdentityState tx w now authority accounts
        newCommitment projectionVersion)
      (resetIdentityState tx (Z.copy base w) now authority
        accounts newCommitment projectionVersion) := by
  unfold resetIdentityState
  apply Mirrors.bind
    (splitResetAccounts_tracks hFaithful hAuthority hAccounts)
  intro split _ hSplit
  apply Mirrors.value rfl
  intro _ _
  apply Mirrors.bind
    (openIdentity_tracks hSplit hAuthority hIdentity)
  intro opened _ hOpened
  apply Mirrors.value rfl
  intro _ _
  rw [protocolConfig_copy hOpened hFee]
  apply Mirrors.value rfl
  intro config _
  iterate 3
    apply Mirrors.value rfl
    intro _ _
  apply Mirrors.bind
    (writeIdentity_tracks hOpened _ hIdentity)
  intro written _ hWritten
  exact payFee_tracks hWritten hAuthority _ hFee

theorem rebaselineAnchor_tracks
    (now : Int64)
    (newCommitment : Bytes 32)
    (projectionVersion : UInt16) :
    Tracks Z base
      (rebaselineAnchor tx w now authority accounts
        newCommitment projectionVersion)
      (rebaselineAnchor tx (Z.copy base w) now authority
        accounts newCommitment projectionVersion) := by
  unfold rebaselineAnchor
  apply Mirrors.bind
    (advanceOnly_tracks hFaithful hAuthority hAccounts)
  intro advanced _ hAdvanced
  apply Mirrors.value rfl
  intro _ _
  apply Mirrors.bind
    (openIdentity_tracks hAdvanced hAuthority hIdentity)
  intro opened _ hOpened
  rw [protocolConfig_copy hOpened hFee]
  apply Mirrors.value rfl
  intro config _
  iterate 4
    apply Mirrors.value rfl
    intro _ _
  apply Mirrors.bind
    (writeIdentity_tracks hOpened _ hIdentity)
  intro written _ hWritten
  exact payFee_tracks hWritten hAuthority _ hFee

end Anchor

end Entros
