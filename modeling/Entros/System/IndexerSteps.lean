import Entros.Anchor.Bins
import Entros.System.ConfigReaders
import Entros.System.Evolution
import Entros.System.Indexer

/-
  The calls of entros-anchor and entros-verifier, and those
  made outside, announce what they do to the index.

  Key theorems include:
    * `LedgerStep.identity_kept`
    * `verifier_announces`
    * `updated_announces`
    * `anchor_announces`
    * `step_announces`
-/

------------------------------------------------------------
-- Calls that Leave the Index Alone
------------------------------------------------------------

namespace Entros

open Foundations
open Anchor
open Registry

variable {H : Host} {w w' : World} {call : Call H}

/- A call that neither moves nor rewrites an identity. -/
theorem LedgerStep.identity_kept
    {config : Account}
    {l l' : Ledger}
    (hStep : LedgerStep H config call l l')
    (hStay : call.instruction.motion = .stay)
    (hNone : call.instruction.rewrites = none) :
    l'.identity = l.identity := by
  have hChange := hStep.identityChange
  generalize l'.identity = identity' at hChange
  cases hChange with
  | born slot _ _ hMotion =>
      rw [hStay] at hMotion
      cases hMotion
  | moved walletOld walletNew _ hMotion =>
      rw [hStay] at hMotion
      cases hMotion
  | rewritten wallet _ _ hRewrites =>
      rw [hNone] at hRewrites
      cases hRewrites
  | same => rfl

/- Only the registry's calls touch the rest of the index. -/
theorem index_of_profiles
    {profile : Pubkey → Option Profile}
    (hIndexed : w.Indexed H)
    (hStep : Step H w call w')
    (hCall :
      ∀ instruction,
        call.instruction ≠ .registry instruction)
    (hProfile :
      profilesOf (w'.ledger H).identity = profile) :
    w'.index H = { w.index H with profile := profile } := by
  refine World.index_eq (config_kept hIndexed hStep hCall)
    hProfile (stakes_kept hIndexed hStep ?_)
  intro validator hStakes
  cases hInstruction : call.instruction with
  | registry instruction =>
      exact hCall instruction hInstruction
  | verifier instruction =>
      rw [hInstruction] at hStakes
      exact hStakes
  | anchor instruction =>
      rw [hInstruction] at hStakes
      exact hStakes
  | outside instruction =>
      rw [hInstruction] at hStakes
      exact hStakes

theorem anchor_ne_registry
    {instruction : AnchorInstruction}
    (hInstruction : call.instruction = .anchor instruction)
    (other : RegistryInstruction) :
    call.instruction ≠ .registry other := by
  rw [hInstruction]
  exact nofun

theorem index_kept
    (hIndexed : w.Indexed H)
    (hStep : Step H w call w')
    (hCall :
      ∀ instruction,
        call.instruction ≠ .registry instruction)
    (hStay : call.instruction.motion = .stay)
    (hNone : call.instruction.rewrites = none) :
    w'.index H = w.index H := by
  apply index_of_profiles hIndexed hStep hCall
  rw [(hIndexed.ledgerStep hStep).identity_kept hStay hNone]

end Entros

------------------------------------------------------------
-- Verifier Calls
------------------------------------------------------------

namespace Entros

open Foundations
open Anchor
open Registry

variable {H : Host} {w w' : World} {call : Call H}

theorem createChallenge_logs
    {challenger : Signer}
    {nonce : Bytes 32}
    {now : Int64}
    (hCreate :
      Verifier.createChallenge H w now challenger nonce =
        .ok w') :
    ∃ expiresAt,
      checkedAdd now Verifier.defaultChallengeExpiry =
          some expiresAt ∧
        nonce ≠ Bytes.zero 32 := by
  simp only [Verifier.createChallenge, bind_eq_ok,
    require_eq_ok, okOr_eq_ok] at hCreate
  rcases hCreate with
    ⟨_, _, _, hNonce, expiresAt, hExpires, _⟩
  exact ⟨expiresAt, hExpires, hNonce⟩

theorem verifyAndStore_nonce
    {now : Int64}
    {verifier : Signer}
    {proofBytes : List UInt8}
    {publicInputs : Verifier.PublicInputs}
    {nonce : Bytes 32}
    (hVerify :
      Verifier.verifyAndStore H w now verifier proofBytes
        publicInputs nonce = .ok w') :
    nonce ≠ Bytes.zero 32 := by
  simp only [Verifier.verifyAndStore, bind_eq_ok,
    require_eq_ok] at hVerify
  rcases hVerify with ⟨_, _, _, hNonce, _⟩
  exact hNonce

/- Every call of the verifier announces what it does. -/
theorem verifier_announces
    {instruction : VerifierInstruction}
    (hIndexed : w.Indexed H)
    (hInstruction :
      call.instruction = .verifier instruction)
    (hStep : Step H w call w') :
    ∃ log,
      instruction.logs call.now = .ok log ∧
        Announces H w w' log := by
  have hExecute := hStep
  unfold Step execute at hExecute
  rw [hInstruction] at hExecute
  have hStay : call.instruction.motion = .stay := by
    rw [hInstruction]
    rfl
  have hNone : call.instruction.rewrites = none := by
    rw [hInstruction]
    rfl
  have hIndex : w'.index H = w.index H := by
    refine index_kept hIndexed hStep ?_ hStay hNone
    rw [hInstruction]
    exact fun _ => nofun
  cases instruction with
  | createChallenge challenger nonce =>
      rcases createChallenge_logs hExecute with
        ⟨expiresAt, hExpires, hNonce⟩
      refine
        ⟨[.challengeCreated challenger.key nonce expiresAt],
          ?_, .single hIndex hNonce⟩
      exact bind_eq_ok.mpr
        ⟨expiresAt, okOr_eq_ok.mpr hExpires, rfl⟩
  | closeChallenge challenger address =>
      exact ⟨_, rfl, .silent hIndex⟩
  | verifyProof verifier proofBytes publicInputs nonce =>
      simp only [VerifierInstruction.execute,
        Verifier.verifyProof, bind_eq_ok] at hExecute
      rcases hExecute with ⟨_, _, inputs, _, hVerify⟩
      exact ⟨_, rfl, .single hIndex
        ⟨rfl, verifyAndStore_nonce hVerify⟩⟩
  | verifyProofCompact verifier nonce proofBytes new prev
      threshold minDistance =>
      simp only [VerifierInstruction.execute,
        Verifier.verifyProofCompact, bind_eq_ok] at hExecute
      rcases hExecute with ⟨_, _, hVerify⟩
      exact ⟨_, rfl, .single hIndex
        ⟨rfl, verifyAndStore_nonce hVerify⟩⟩
  | verifyProofBound verifier nonce proof new prev threshold
      minDistance validUntil =>
      exact ⟨_, rfl, .silent hIndex⟩
  | closeVerificationResult verifier address =>
      exact ⟨_, rfl, .silent hIndex⟩
  | closeBoundVerificationResult verifier nonce address =>
      exact ⟨_, rfl, .silent hIndex⟩

end Entros

------------------------------------------------------------
-- Events of Identities
------------------------------------------------------------

namespace Entros

open Foundations
open Anchor
open Registry

variable {H : Host} {w w' : World} {call : Call H}

/- A stored identity is opened as it is. -/
theorem openIdentity_eq
    {l : Ledger}
    {authority : Signer}
    {identity : IdentityState}
    (hRep : Represents H w.accounts l)
    (hIdentity : l.identity authority.key = some identity)
    (hOwner : identity.owner = authority.key) :
    openIdentity H w authority = .ok (w, identity) := by
  have hStored := hRep.identity authority.key
  rw [hIdentity] at hStored
  have hLength :
      (w.accounts (identityAddress H
        authority.key)).data.length = IdentityState.len := by
    rw [hStored]
    exact length_serialized identity
  have hGrow : growIdentity H w authority = .ok w := by
    unfold growIdentity
    rw [if_neg (Nat.not_lt.mpr hLength.ge)]
  have hRead :
      readIdentity H w authority.key = .ok identity := by
    apply remapError_eq_ok.mpr
    rw [hStored]
    exact tryDeserialize_serialized_exact identity
  simp only [openIdentity, bind_eq_ok, require_eq_ok,
    pure_eq_ok]
  refine ⟨(), ?_, w, hGrow, identity, hRead, (), hOwner, rfl⟩
  rw [hStored]
  rfl

/- The version that a lifecycle call reads is the record's. -/
theorem lifecycle_recorded
    {lifecycle : LifecycleConfig}
    (hDocumented : Documented (configData H w))
    (hConfig :
      readLifecycleConfig (protocolConfig H w) =
        .ok lifecycle) :
    lifecycle.projectionPolicy.current =
      (configRecord H w).currentProjectionVersion := by
  simp only [readLifecycleConfig, bind_eq_ok, pure_eq_ok]
    at hConfig
  rcases hConfig with
    ⟨_, _, policy, hPolicy, _, _, _, _, rfl⟩
  change policy.current = _
  rw [readProjectionPolicy_record hDocumented hPolicy]
  rfl

/- A bound session follows the entry of its identity. -/
theorem receiptSession_follows
    {index : Index}
    {profile : Profile}
    {owner : Pubkey}
    {version : UInt16}
    (purpose : ReceiptPurpose)
    (session : Option ReceiptSession)
    (hProfile : index.profile owner = some profile)
    (hVersion : profile.projectionVersion = version) :
    (receiptSessionLogs owner purpose version session).foldl
          Index.apply index = index ∧
      Accepted Index.apply (Index.Accepts H) index
        (receiptSessionLogs owner purpose version
          session) := by
  cases session with
  | none => exact ⟨rfl, trivial⟩
  | some session =>
      exact ⟨rfl,
        accepted_single.mpr ⟨profile, hProfile, hVersion⟩⟩

/-
  A call that writes one identity announces it, and then the
  session that its receipt was bound to.
-/
theorem identity_announces
    {entry : Log}
    {wallet : Pubkey}
    {stored : IdentityState}
    {version : UInt16}
    {instruction : AnchorInstruction}
    (purpose : ReceiptPurpose)
    (session : Option ReceiptSession)
    (hIndexed : w.Indexed H)
    (hInstruction : call.instruction = .anchor instruction)
    (hStep : Step H w call w')
    (hIdentity :
      (w'.ledger H).identity =
        Function.update (w.ledger H).identity wallet
          (some stored))
    (hApply :
      (w.index H).apply entry =
        (w.index H).setProfile wallet
          (some (profileOf stored)))
    (hAccepts : (w.index H).Accepts H entry)
    (hVersion : stored.projectionVersion = version) :
    Announces H w w'
      (entry ::
        receiptSessionLogs wallet purpose version
          session) := by
  have hCall := anchor_ne_registry hInstruction
  have hIndex :
      w'.index H = (w.index H).apply entry := by
    rw [hApply]
    apply index_of_profiles hIndexed hStep hCall
    rw [hIdentity, profilesOf_update]
    rfl
  have hProfile :
      ((w.index H).apply entry).profile wallet =
        some (profileOf stored) := by
    rw [hApply]
    exact Function.update_self _ _ _
  rcases receiptSession_follows (H := H) purpose session
      hProfile hVersion with
    ⟨hFold, hSession⟩
  exact
    { image := by
        rw [List.foldl_cons, hFold, hIndex]
      accepted := ⟨hAccepts, hSession⟩ }

end Entros

------------------------------------------------------------
-- Lifecycle Calls
------------------------------------------------------------

namespace Entros

open Foundations
open Anchor
open Registry

variable {H : Host} {w w' : World} {call : Call H}

theorem mintAnchor_announces
    {user : Signer}
    {remainingAccounts : List AccountMeta}
    {commitment : Bytes 32}
    {lifecycle : LifecycleConfig}
    {session : Option ReceiptSession}
    (hIndexed : w.Indexed H)
    (hInstruction :
      call.instruction =
        .anchor (.mintAnchor user remainingAccounts
          commitment))
    (hStep : Step H w call w')
    (hConfig :
      readLifecycleConfig (protocolConfig H w) =
        .ok lifecycle)
    (hReceipt :
      verifyValidatorReceipt call.tx lifecycle.validatorKeys
        user.key commitment .mint
        lifecycle.projectionPolicy.current call.now =
          .ok session)
    (hCommitment : commitment ≠ Bytes.zero 32)
    (hVacant : (w.ledger H).identity user.key = none)
    (hIdentity :
      (w'.ledger H).identity =
        Function.update (w.ledger H).identity user.key
          (some (mintedIdentity H user.key call.now
            commitment
            lifecycle.projectionPolicy.current))) :
    ∃ log,
      mintAnchorLogs call.tx w call.now user commitment =
          .ok log ∧
        Announces H w w' log := by
  have hCurrent :=
    lifecycle_recorded hIndexed.config.layout hConfig
  refine ⟨.anchorMinted user.key (mintKey H user.key)
    commitment :: _, ?_, identity_announces .mint session
      hIndexed hInstruction hStep hIdentity ?_
      ⟨profilesOf_none hVacant, rfl, hCommitment⟩ rfl⟩
  · simp only [mintAnchorLogs, hConfig, hReceipt, ok_bind]
    rfl
  · rw [hCurrent]
    rfl

theorem resetIdentityState_announces
    {authority : Signer}
    {remainingAccounts : List AccountMeta}
    {commitment : Bytes 32}
    {projectionVersion : UInt16}
    {identity : IdentityState}
    {lifecycle : LifecycleConfig}
    {session : Option ReceiptSession}
    (hIndexed : w.Indexed H)
    (hInstruction :
      call.instruction =
        .anchor (.resetIdentityState authority
          remainingAccounts commitment projectionVersion))
    (hStep : Step H w call w')
    (hStored :
      (w.ledger H).identity authority.key = some identity)
    (hOwner : identity.owner = authority.key)
    (hCommitment : commitment ≠ Bytes.zero 32)
    (hConfig :
      readLifecycleConfig (protocolConfig H w) =
        .ok lifecycle)
    (hReceipt :
      verifyValidatorReceipt call.tx lifecycle.validatorKeys
        authority.key commitment .reset
        lifecycle.projectionPolicy.current call.now =
          .ok session)
    (hIdentity :
      (w'.ledger H).identity =
        Function.update (w.ledger H).identity authority.key
          (some (resetIdentity identity call.now commitment
            lifecycle.projectionPolicy.current))) :
    ∃ log,
      resetIdentityStateLogs call.tx w call.now authority
          commitment = .ok log ∧
        Announces H w w' log := by
  have hCurrent :=
    lifecycle_recorded hIndexed.config.layout hConfig
  have hOpen :=
    openIdentity_eq hIndexed.ledger hStored hOwner
  have hMint :=
    (hIndexed.held authority.key identity hStored).mint
  have hLive :
      (w.index H).profile authority.key =
        some (profileOf identity) :=
    profilesOf_some hStored
  refine ⟨.anchorReset authority.key identity.mint
    commitment :: _, ?_, identity_announces .reset session
      hIndexed hInstruction hStep hIdentity ?_
      ⟨?_, hMint, hCommitment⟩ rfl⟩
  · simp only [resetIdentityStateLogs, hOpen, hConfig,
      hReceipt, ok_bind]
    rw [← hOwner]
    rfl
  · rw [hCurrent]
    rfl
  · rw [hLive]
    exact Option.some_ne_none _

theorem rebaselineAnchor_announces
    {authority : Signer}
    {remainingAccounts : List AccountMeta}
    {commitment : Bytes 32}
    {projectionVersion : UInt16}
    {identity : IdentityState}
    {lifecycle : LifecycleConfig}
    {session : Option ReceiptSession}
    (hIndexed : w.Indexed H)
    (hInstruction :
      call.instruction =
        .anchor (.rebaselineAnchor authority
          remainingAccounts commitment projectionVersion))
    (hStep : Step H w call w')
    (hStored :
      (w.ledger H).identity authority.key = some identity)
    (hOwner : identity.owner = authority.key)
    (hCommitment : commitment ≠ Bytes.zero 32)
    (hConfig :
      readLifecycleConfig (protocolConfig H w) =
        .ok lifecycle)
    (hAdvanced :
      identity.projectionVersion <
        lifecycle.projectionPolicy.current)
    (hReceipt :
      verifyValidatorReceipt call.tx lifecycle.validatorKeys
        authority.key commitment .rebaseline
        lifecycle.projectionPolicy.current call.now =
          .ok session)
    (hIdentity :
      (w'.ledger H).identity =
        Function.update (w.ledger H).identity authority.key
          (some (rebaselinedIdentity identity call.now
            commitment
            lifecycle.projectionPolicy.current))) :
    ∃ log,
      rebaselineAnchorLogs call.tx w call.now authority
          commitment = .ok log ∧
        Announces H w w' log := by
  have hCurrent :=
    lifecycle_recorded hIndexed.config.layout hConfig
  have hOpen :=
    openIdentity_eq hIndexed.ledger hStored hOwner
  have hLive :
      (w.index H).profile authority.key =
        some (profileOf identity) :=
    profilesOf_some hStored
  refine ⟨.anchorRebaselined authority.key commitment
    lifecycle.projectionPolicy.current :: _, ?_,
    identity_announces .rebaseline session hIndexed
      hInstruction hStep hIdentity ?_
      ⟨_, hLive, hAdvanced, hCurrent, hCommitment⟩ rfl⟩
  · simp only [rebaselineAnchorLogs, hOpen, hConfig,
      hReceipt, ok_bind]
    rw [← hOwner]
    rfl
  · rw [Index.apply, hLive]
    rfl

theorem migrateIdentity_announces
    {user : Signer}
    {walletOld : Pubkey}
    {remainingAccounts : List AccountMeta}
    {identityOld : IdentityState}
    (hIndexed : w.Indexed H)
    (hInstruction :
      call.instruction =
        .anchor (.migrateIdentity user walletOld
          remainingAccounts))
    (hStep : Step H w call w')
    (hStored :
      (w.ledger H).identity walletOld = some identityOld)
    (hVacant : (w.ledger H).identity user.key = none)
    (hIdentity :
      (w'.ledger H).identity =
        Function.update
          (Function.update (w.ledger H).identity user.key
            (some (migratedIdentity H user.key
              identityOld)))
          walletOld none) :
    Announces H w w' (migrateIdentityLogs H user walletOld) := by
  have hCall := anchor_ne_registry hInstruction
  have hLive :
      (w.index H).profile walletOld =
        some (profileOf identityOld) :=
    profilesOf_some hStored
  refine .single ?_
    ⟨?_, profilesOf_none hVacant, rfl, rfl⟩
  · rw [Index.apply, hLive]
    apply index_of_profiles hIndexed hStep hCall
    rw [hIdentity, profilesOf_update, profilesOf_update]
    rfl
  · rw [hLive]
    exact Option.some_ne_none _

end Entros

------------------------------------------------------------
-- Updates
------------------------------------------------------------

namespace Entros

open Foundations
open Anchor
open Registry

variable {H : Host} {w w' : World} {call : Call H}

/- The proof that a successful update has consumed. -/
theorem processAnchorUpdate_consumed
    {tx : Transaction H}
    {now : Int64}
    {authority : Signer}
    {verificationResult : Address}
    {receipt : UpdateReceiptArgs}
    {expected : Option (Bytes 32)}
    {bound : Bool}
    {identity : IdentityState}
    (hOpen : openIdentity H w authority = .ok (w, identity))
    (hUpdate :
      processAnchorUpdate tx w now authority
        verificationResult receipt expected bound =
          .ok w') :
    ∃ consumed,
      consumeProof H w now authority identity
        verificationResult bound = .ok consumed := by
  simp only [processAnchorUpdate, hOpen, ok_bind, bind_eq_ok]
    at hUpdate
  rcases hUpdate with
    ⟨_, _, _, _, _, _, consumed, hConsume, _⟩
  exact ⟨consumed, hConsume⟩

/- The two builds of an update announce the same entry. -/
theorem updated_announces
    {request : UpdateCall}
    {instruction : AnchorInstruction}
    {bound : Bool}
    {commitment : Bytes 32}
    {identity updated : IdentityState}
    {updateConfig : UpdateConfig}
    {session : Option ReceiptSession}
    {consumed : World × ProofTransition}
    (hIndexed : w.Indexed H)
    (hInstruction : call.instruction = .anchor instruction)
    (hStep : Step H w call w')
    (hStored :
      (w.ledger H).identity request.authority.key =
        some identity)
    (hOwner : identity.owner = request.authority.key)
    (hConfig :
      readUpdateConfig (protocolConfig H w)
        identity.projectionVersion = .ok updateConfig)
    (hConsume :
      consumeProof H w call.now request.authority identity
        request.verificationResult bound = .ok consumed)
    (hCommitment : consumed.2.commitmentNew = commitment)
    (hNew : commitment ≠ Bytes.zero 32)
    (hChanged : commitment ≠ identity.currentCommitment)
    (hReceipt :
      verifyUpdateReceiptDigest call.tx
        updateConfig.validatorKeys request.authority.key
        commitment identity.projectionVersion request.receipt
        call.now = .ok session)
    (hUpdated :
      updatedIdentity identity call.now commitment
        updateConfig = .ok updated)
    (hIdentity :
      (w'.ledger H).identity =
        Function.update (w.ledger H).identity
          request.authority.key (some updated)) :
    ∃ log,
      processAnchorUpdateLogs call.tx w call.now
          request.authority request.verificationResult
          request.receipt bound = .ok log ∧
        Announces H w w' log := by
  have hOpen :=
    openIdentity_eq hIndexed.ledger hStored hOwner
  have hLive :
      (w.index H).profile request.authority.key =
        some (profileOf identity) :=
    profilesOf_some hStored
  have hScore :
      updated.trustScore ≤
        (configRecord H w).maxTrustScore := by
    have hMax := trustScore_le
      (updatedIdentity_score hUpdated)
    rw [readUpdateConfig_record hIndexed.config.layout
      hConfig] at hMax
    exact hMax
  have hLogs :
      processAnchorUpdateLogs call.tx w call.now
          request.authority request.verificationResult
          request.receipt bound =
        .ok (.anchorUpdated updated.owner
            updated.verificationCount updated.trustScore
            commitment ::
          receiptSessionLogs updated.owner .update
            updated.projectionVersion session) := by
    subst hCommitment
    simp only [processAnchorUpdateLogs, hOpen, hConfig,
      hConsume, hReceipt, hUpdated, ok_bind]
    rfl
  rcases updatedIdentity_eq_ok hUpdated with
    ⟨count, score, hCount, rfl⟩
  refine ⟨_, hLogs, ?_⟩
  change Announces H w w'
    (.anchorUpdated identity.owner count score commitment ::
      receiptSessionLogs identity.owner .update
        identity.projectionVersion session)
  rw [hOwner]
  refine identity_announces .update session hIndexed
    hInstruction hStep hIdentity ?_
    ⟨_, hLive, hCount, hScore, hChanged, hNew⟩ rfl
  rw [Index.apply, hLive]
  rfl

/- The default build finds its proof by its address. -/
theorem consumeProof_default
    {l : Ledger}
    {now : Int64}
    {authority : Signer}
    {identity : IdentityState}
    {key : ResultKey}
    {result : VerificationResult}
    {consumed : World × ProofTransition}
    (hRep : Represents H w.accounts l)
    (hResult : l.result key = some result)
    (hConsume :
      consumeProof H w now authority identity key.address
        false = .ok consumed) :
    consumed.2.commitmentNew = result.commitmentNew := by
  simp only [consumeProof, Bool.false_eq_true, if_false,
    bind_eq_ok, pure_eq_ok] at hConsume
  rcases hConsume with ⟨transition, hRead, rfl⟩
  rcases readVerificationResult_spec hRep hRead with
    ⟨key', result', hAddress, hResult', _, _, _, rfl⟩
  rw [ResultKey.address_injective hAddress, hResult]
    at hResult'
  rw [Option.some.inj hResult']

theorem consumeProof_bound
    {l : Ledger}
    {now : Int64}
    {authority : Signer}
    {identity : IdentityState}
    {key : ResultKey}
    {result : BoundVerificationResult}
    {consumed : World × ProofTransition}
    (hRep : Represents H w.accounts l)
    (hResult : l.bound key = some result)
    (hConsume :
      consumeProof H w now authority identity
        key.boundAddress true = .ok consumed) :
    consumed.2.commitmentNew = result.commitmentNew := by
  simp only [consumeProof, if_true] at hConsume
  rcases consumeBoundResult_spec hRep hConsume with
    ⟨key', result', _, hAddress, hResult', _, _, _, _, _, _,
      _, hTransition⟩
  rw [ResultKey.boundAddress_injective hAddress, hResult]
    at hResult'
  rw [hTransition, Option.some.inj hResult']

/- How the default build's updates are executed and logged. -/
theorem defaultUpdate_cases
    {instruction : AnchorInstruction}
    {request : UpdateCall}
    {now : Int64}
    {tx : Transaction H}
    (hRequest :
      (Instruction.anchor instruction).defaultUpdate =
        some request)
    (hExecute : instruction.execute now tx w = .ok w') :
    ∃ expected,
      processAnchorUpdate tx w now request.authority
          request.verificationResult request.receipt expected
          false = .ok w' ∧
        instruction.logs now tx w =
          processAnchorUpdateLogs tx w now request.authority
            request.verificationResult request.receipt
            false := by
  cases instruction with
  | updateAnchor authority verificationResult newCommitment
      receipt =>
      cases Option.some.inj hRequest
      simp only [AnchorInstruction.execute, updateAnchor,
        bind_eq_ok, require_eq_ok] at hExecute
      rcases hExecute with ⟨_, _, hUpdate⟩
      exact ⟨_, hUpdate, rfl⟩
  | updateAnchorCompact authority verificationResult
      receipt =>
      cases Option.some.inj hRequest
      exact ⟨_, hExecute, rfl⟩
  | _ => cases hRequest

theorem updateAnchorBound_update
    {authority : Signer}
    {verificationResult : Address}
    {receipt : UpdateReceiptArgs}
    {now : Int64}
    {tx : Transaction H}
    (hUpdate :
      updateAnchorBound tx w now authority verificationResult
        receipt = .ok w') :
    processAnchorUpdate tx w now authority verificationResult
      receipt none true = .ok w' := by
  simp only [updateAnchorBound, bind_eq_ok, require_eq_ok]
    at hUpdate
  rcases hUpdate with ⟨_, _, hUpdate⟩
  exact hUpdate

end Entros

------------------------------------------------------------
-- All Calls
------------------------------------------------------------

namespace Entros

open Foundations
open Anchor
open Registry

variable {H : Host} {w w' : World} {call : Call H}

/- A baseline is accepted for a live identity only. -/
theorem setEncryptedBaseline_live
    {l : Ledger}
    {authority : Signer}
    {blob : Bytes 96}
    (hRep : Represents H w.accounts l)
    (hSet :
      setEncryptedBaseline H w authority blob = .ok w') :
    ∃ identity, l.identity authority.key = some identity := by
  simp only [setEncryptedBaseline, bind_eq_ok,
    require_eq_ok] at hSet
  rcases hSet with ⟨opened, hOpen, _, hData, _⟩
  have hNe :
      identityAddress H authority.key ≠
        baselineAddress H authority.key := by
    simp [identityAddress, baselineAddress,
      Host.findProgramAddress]
  have hSame :
      opened.accounts (identityAddress H authority.key) =
        w.accounts (identityAddress H authority.key) := by
    unfold openEncryptedBaseline at hOpen
    dsimp only at hOpen
    split_ifs at hOpen
    · rw [(World.createAccount_eq_ok hOpen).2.1]
      exact Function.update_of_ne hNe
        { owner := .anchor
          data := List.replicate EncryptedBaseline.len 0 } _
    · simp only [bind_eq_ok, pure_eq_ok] at hOpen
      rcases hOpen with ⟨_, _, _, _, rfl⟩
      rfl
  rw [hSame, hRep.identity] at hData
  cases hIdentity : l.identity authority.key with
  | none =>
      rw [hIdentity] at hData
      exact absurd hData (Nat.lt_irrefl 0)
  | some identity => exact ⟨identity, rfl⟩

/- Calls that change nothing an indexer has stored. -/
theorem anchor_index_kept
    {instruction : AnchorInstruction}
    (hIndexed : w.Indexed H)
    (hInstruction : call.instruction = .anchor instruction)
    (hStep : Step H w call w')
    (hStay :
      (Instruction.anchor instruction).motion = .stay)
    (hNone :
      (Instruction.anchor instruction).rewrites = none) :
    w'.index H = w.index H := by
  rw [← hInstruction] at hStay hNone
  exact index_kept hIndexed hStep
    (anchor_ne_registry hInstruction) hStay hNone

/- A pending migration is no part of the index. -/
theorem authorizeNewWallet_index
    {signer signerNew : Signer}
    {identity : IdentityState}
    (hIndexed : w.Indexed H)
    (hInstruction :
      call.instruction =
        .anchor (.authorizeNewWallet signer signerNew))
    (hStep : Step H w call w')
    (hStored :
      (w.ledger H).identity signer.key = some identity)
    (hIdentity :
      (w'.ledger H).identity =
        Function.update (w.ledger H).identity signer.key
          (some { identity with
            newWallet := signerNew.key })) :
    w'.index H = w.index H := by
  apply index_of_profiles hIndexed hStep
    (anchor_ne_registry hInstruction)
  rw [hIdentity, profilesOf_update]
  exact Function.update_eq_iff.mpr
    ⟨(profilesOf_some hStored).symm, fun _ _ => rfl⟩

/- Every call of the anchor program announces what it does. -/
theorem anchor_announces
    {instruction : AnchorInstruction}
    (hIndexed : w.Indexed H)
    (hInstruction : call.instruction = .anchor instruction)
    (hStep : Step H w call w') :
    ∃ log,
      instruction.logs call.now call.tx w = .ok log ∧
        Announces H w w' log := by
  have hExecute := hStep
  unfold Step execute at hExecute
  rw [hInstruction] at hExecute
  have hLedger := hIndexed.ledgerStep hStep
  generalize hAfter : w'.ledger H = l' at hLedger
  have hIdentity :=
    congrArg Ledger.identity hAfter
  cases hLedger with
  | mint user remainingAccounts commitment lifecycle session
      hMint hConfig hReceipt hCommitment hVacant _ =>
      cases hInstruction.symm.trans hMint
      exact mintAnchor_announces hIndexed hInstruction hStep
        hConfig hReceipt hCommitment hVacant
        (hIdentity.trans (by simp [Ledger.setIdentity]))
  | authorize signer signerNew identity hAuthorize hStored =>
      cases hInstruction.symm.trans hAuthorize
      exact ⟨_, rfl, .silent (authorizeNewWallet_index
        hIndexed hInstruction hStep hStored hIdentity)⟩
  | migrate user walletOld remainingAccounts identityOld
      hMigrate hStored _ hVacant _ _ _ =>
      cases hInstruction.symm.trans hMigrate
      exact ⟨_, rfl, migrateIdentity_announces hIndexed
        hInstruction hStep hStored hVacant
        (hIdentity.trans (by simp [Ledger.setIdentity]))⟩
  | update request key result identity updated updateConfig
      session hRequest _ hStored hOwner hConfig hAddress
      hResult _ _ _ hNew hPrev hChanged hReceipt _ hUpdated =>
      rw [hInstruction] at hRequest
      rcases defaultUpdate_cases hRequest hExecute with
        ⟨expected, hUpdate, hLogs⟩
      rcases processAnchorUpdate_consumed
          (openIdentity_eq hIndexed.ledger hStored hOwner)
          hUpdate with
        ⟨consumed, hConsume⟩
      have hSame := hConsume
      rw [← hAddress] at hSame
      rw [hLogs]
      rw [hPrev] at hChanged
      exact updated_announces hIndexed hInstruction hStep
        hStored hOwner hConfig hConsume
        (consumeProof_default hIndexed.ledger hResult hSame)
        hNew hChanged hReceipt hUpdated hIdentity
  | updateBound request key result counter identity updated
      updateConfig session hRequest _ hStored hOwner hConfig
      hAddress hResult _ _ _ _ _ _ hNew hPrev hChanged
      hReceipt _ hUpdated =>
      cases hInstruction.symm.trans hRequest
      rcases processAnchorUpdate_consumed
          (openIdentity_eq hIndexed.ledger hStored hOwner)
          (updateAnchorBound_update hExecute) with
        ⟨consumed, hConsume⟩
      have hSame := hConsume
      rw [← hAddress] at hSame
      rw [hPrev] at hChanged
      exact updated_announces hIndexed hInstruction hStep
        hStored hOwner hConfig hConsume
        (consumeProof_bound hIndexed.ledger hResult hSame)
        hNew hChanged hReceipt hUpdated hIdentity
  | reset authority remainingAccounts commitment _ identity
      lifecycle session hReset hStored hOwner hCommitment _
      hConfig _ hReceipt _ =>
      cases hInstruction.symm.trans hReset
      exact resetIdentityState_announces hIndexed
        hInstruction hStep hStored hOwner hCommitment hConfig
        hReceipt
        (hIdentity.trans (by simp [Ledger.setIdentity]))
  | rebaseline authority remainingAccounts commitment _
      identity lifecycle session hRebaseline hStored hOwner
      hCommitment hConfig _ hAdvanced _ hReceipt _ =>
      cases hInstruction.symm.trans hRebaseline
      exact rebaselineAnchor_announces hIndexed hInstruction
        hStep hStored hOwner hCommitment hConfig hAdvanced
        hReceipt
        (hIdentity.trans (by simp [Ledger.setIdentity]))
  | prepare authority hPrepare _ =>
      cases hInstruction.symm.trans hPrepare
      exact ⟨_, rfl, .silent (anchor_index_kept hIndexed
        hInstruction hStep rfl rfl)⟩
  | verify proof _ _ hProof =>
      rw [hInstruction] at hProof
      cases hProof
  | verifyBound proof _ _ _ hProof =>
      cases hInstruction.symm.trans hProof
  | close address hCloses =>
      rw [hInstruction] at hCloses
      cases hCloses
  | idle hIdle =>
      rw [hInstruction] at hIdle
      cases hIdle with
      | layout authority =>
          exact ⟨_, rfl, .silent (anchor_index_kept hIndexed
            hInstruction hStep rfl rfl)⟩
      | baseline authority blob =>
          rcases setEncryptedBaseline_live hIndexed.ledger
              hExecute with
            ⟨identity, hStored⟩
          refine ⟨[.encryptedBaselineSet authority.key], rfl,
            .single (anchor_index_kept hIndexed hInstruction
              hStep rfl rfl) ?_⟩
          change profilesOf _ _ ≠ none
          rw [profilesOf_some hStored]
          exact Option.some_ne_none _

/- Every call announces what it does to the index. -/
theorem step_announces
    (hIndexed : w.Indexed H)
    (hStep : Step H w call w') :
    ∃ log,
      emitted w call = .ok log ∧ Announces H w w' log := by
  unfold emitted
  cases hInstruction : call.instruction with
  | registry instruction =>
      exact registry_announces hIndexed hInstruction hStep
  | verifier instruction =>
      exact verifier_announces hIndexed hInstruction hStep
  | anchor instruction =>
      exact anchor_announces hIndexed hInstruction hStep
  | outside instruction =>
      refine ⟨[], rfl, .silent
        (index_kept hIndexed hStep ?_ ?_ ?_)⟩
      · rw [hInstruction]
        exact fun _ => nofun
      · rw [hInstruction]
        rfl
      · rw [hInstruction]
        rfl

end Entros
