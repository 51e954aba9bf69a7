import Entros.System.Identities

/-
  Where a live identity comes from: it was minted by the call
  that has just succeeded, or it is what that call made of an
  identity that was live before.

  Key definitions include:
    * `Instruction.updates`
    * `Instruction.rewrites`
    * `Instruction.Inherits`
    * `Evolution`
    * `IdentityOrigin`
    * `IdentityChange`

  Key theorems include:
    * `LedgerStep.identityChange`
    * `IdentityChange.origin`
    * `LedgerStep.evolution`
    * `run_identityOrigin`
-/

------------------------------------------------------------
-- Rewriting Instructions
------------------------------------------------------------

namespace Entros

open Foundations
open Anchor

namespace Instruction

/- The wallet whose identity an update rewrites. -/
def updates : Instruction → Option Pubkey
| .anchor (.updateAnchor authority _ _ _) =>
    some authority.key
| .anchor (.updateAnchorCompact authority _ _) =>
    some authority.key
| .anchor (.updateAnchorBound authority _ _) =>
    some authority.key
| _ => none

/- The wallet whose identity is reset. -/
def resets : Instruction → Option Pubkey
| .anchor (.resetIdentityState authority _ _ _) =>
    some authority.key
| _ => none

/- The wallet whose identity is rebaselined. -/
def rebaselines : Instruction → Option Pubkey
| .anchor (.rebaselineAnchor authority _ _ _) =>
    some authority.key
| _ => none

/- The wallet whose identity is rewritten in place. -/
def rewrites : Instruction → Option Pubkey
| .anchor (.authorizeNewWallet signer _) =>
    some signer.key
| .anchor (.updateAnchor authority _ _ _) =>
    some authority.key
| .anchor (.updateAnchorCompact authority _ _) =>
    some authority.key
| .anchor (.updateAnchorBound authority _ _) =>
    some authority.key
| .anchor (.resetIdentityState authority _ _ _) =>
    some authority.key
| .anchor (.rebaselineAnchor authority _ _ _) =>
    some authority.key
| _ => none

variable {instruction : Instruction} {wallet : Pubkey}

theorem rewrites_of_updates
    (hUpdates : instruction.updates = some wallet) :
    instruction.rewrites = some wallet := by
  unfold updates at hUpdates
  split at hUpdates
  · exact hUpdates
  · exact hUpdates
  · exact hUpdates
  · cases hUpdates

theorem rewrites_of_resets
    (hResets : instruction.resets = some wallet) :
    instruction.rewrites = some wallet := by
  unfold resets at hResets
  split at hResets
  · exact hResets
  · cases hResets

theorem rewrites_of_rebaselines
    (hRebaselines : instruction.rebaselines = some wallet) :
    instruction.rewrites = some wallet := by
  unfold rebaselines at hRebaselines
  split at hRebaselines
  · exact hRebaselines
  · cases hRebaselines

theorem updates_of_defaultUpdate
    {request : UpdateCall}
    (hUpdate : instruction.defaultUpdate = some request) :
    instruction.updates = some request.authority.key := by
  unfold defaultUpdate at hUpdate
  split at hUpdate
  · rw [← Option.some.inj hUpdate]
    rfl
  · rw [← Option.some.inj hUpdate]
    rfl
  · cases hUpdate

/- Rewriting in place moves no identity. -/
theorem motion_of_rewrites
    (hRewrites : instruction.rewrites = some wallet) :
    instruction.motion = .stay := by
  unfold rewrites at hRewrites
  split at hRewrites
  · rfl
  · rfl
  · rfl
  · rfl
  · rfl
  · rfl
  · cases hRewrites

theorem rewrites_of_defaultProof
    {proof : DefaultProof}
    (hProof : instruction.defaultProof = some proof) :
    instruction.rewrites = none := by
  unfold defaultProof at hProof
  split at hProof
  · rfl
  · rfl
  · cases hProof

theorem Closes.rewrites
    {address : Address}
    (hCloses : instruction.Closes address) :
    instruction.rewrites = none := by
  cases hCloses with
  | challenge => rfl
  | result => rfl
  | bound => rfl

theorem Idle.rewrites
    (hIdle : instruction.Idle) :
    instruction.rewrites = none := by
  cases hIdle with
  | registry => rfl
  | outside => rfl
  | challenge => rfl
  | layout => rfl
  | baseline => rfl

/-
  The identity of `wallet` after the instruction carries the
  lineage that `origin` held before it.
-/
def Inherits
    (instruction : Instruction)
    (origin wallet : Pubkey) : Prop :=
  ∀ placement : Placement Pubkey,
    (placement.apply instruction.motion).holder wallet =
      placement.holder origin

theorem inherits_of_stay
    (hStay : instruction.motion = .stay)
    (wallet : Pubkey) :
    instruction.Inherits wallet wallet := by
  intro placement
  rw [hStay]
  rfl

theorem inherits_of_birth
    {slot : Pubkey}
    (hBirth : instruction.motion = .birth slot)
    (hWallet : wallet ≠ slot) :
    instruction.Inherits wallet wallet := by
  intro placement
  rw [hBirth]
  exact Function.update_of_ne hWallet _ _

/- A wallet that a migration does not concern. -/
theorem inherits_of_move
    {walletOld walletNew : Pubkey}
    (hMove : instruction.motion = .move walletOld walletNew)
    (hOld : wallet ≠ walletOld)
    (hNew : wallet ≠ walletNew) :
    instruction.Inherits wallet wallet := by
  intro placement
  rw [hMove]
  exact (Function.update_of_ne hOld _ _).trans
    (Function.update_of_ne hNew _ _)

/- The wallet a migration leads to. -/
theorem inherits_of_moved
    {walletOld walletNew : Pubkey}
    (hMove : instruction.motion = .move walletOld walletNew)
    (hOld : walletNew ≠ walletOld) :
    instruction.Inherits walletOld walletNew := by
  intro placement
  rw [hMove]
  exact (Function.update_of_ne hOld _ _).trans
    (Function.update_self _ _ _)

end Instruction

end Entros

------------------------------------------------------------
-- Evolution
------------------------------------------------------------

namespace Entros

open Foundations
open Anchor

/-
  What a call makes of the identity `stored`, which belongs
  to `wallet` afterwards.
-/
inductive Evolution
    (H : Host)
    (config : Account)
    (call : Call H)
    (wallet : Pubkey)
    (stored : IdentityState) : IdentityState → Prop
| kept (hOther : call.instruction.rewrites ≠ some wallet) :
    Evolution H config call wallet stored stored
| authorized
    (signer signerNew : Signer)
    (hInstruction :
      call.instruction =
        .anchor (.authorizeNewWallet signer signerNew))
    (hWallet : signer.key = wallet) :
    Evolution H config call wallet stored
      { stored with newWallet := signerNew.key }
| migrated
    (walletOld : Pubkey)
    (hMotion :
      call.instruction.motion = .move walletOld wallet) :
    Evolution H config call wallet stored
      (migratedIdentity H wallet stored)
| updated
    (commitmentNew : Bytes 32)
    (updateConfig : UpdateConfig)
    (rewritten : IdentityState)
    (hUpdates : call.instruction.updates = some wallet)
    (hConfig :
      readUpdateConfig config stored.projectionVersion =
        .ok updateConfig)
    (hNew : commitmentNew ≠ Bytes.zero 32)
    (hUpdated :
      updatedIdentity stored call.now commitmentNew
        updateConfig = .ok rewritten) :
    Evolution H config call wallet stored rewritten
| reset
    (commitment : Bytes 32)
    (lifecycle : LifecycleConfig)
    (hResets : call.instruction.resets = some wallet)
    (hCommitment : commitment ≠ Bytes.zero 32)
    (hCooldown :
      resetCooldownSecs ≤
        saturatingSub call.now stored.lastResetTimestamp)
    (hConfig : readLifecycleConfig config = .ok lifecycle) :
    Evolution H config call wallet stored
      (resetIdentity stored call.now commitment
        lifecycle.projectionPolicy.current)
| rebaselined
    (commitment : Bytes 32)
    (lifecycle : LifecycleConfig)
    (hRebaselines :
      call.instruction.rebaselines = some wallet)
    (hCommitment : commitment ≠ Bytes.zero 32)
    (hConfig : readLifecycleConfig config = .ok lifecycle)
    (hAdvanced :
      stored.projectionVersion <
        lifecycle.projectionPolicy.current)
    (hCooldown :
      rebaselineCooldownSecs ≤
        saturatingSub call.now
          stored.lastRebaselineTimestamp) :
    Evolution H config call wallet stored
      (rebaselinedIdentity stored call.now commitment
        lifecycle.projectionPolicy.current)

/- The two ways in which a wallet comes to its identity. -/
inductive IdentityOrigin
    (H : Host)
    (config : Account)
    (call : Call H)
    (identity : Pubkey → Option IdentityState)
    (wallet : Pubkey) : IdentityState → Prop
| minted
    (commitment : Bytes 32)
    (lifecycle : LifecycleConfig)
    (hMotion : call.instruction.motion = .birth wallet)
    (hVacant : identity wallet = none)
    (hCommitment : commitment ≠ Bytes.zero 32)
    (hConfig : readLifecycleConfig config = .ok lifecycle) :
    IdentityOrigin H config call identity wallet
      (mintedIdentity H wallet call.now commitment
        lifecycle.projectionPolicy.current)
| evolved
    (origin : Pubkey)
    (stored stored' : IdentityState)
    (hInherits : call.instruction.Inherits origin wallet)
    (hStored : identity origin = some stored)
    (hEvolution :
      Evolution H config call wallet stored stored') :
    IdentityOrigin H config call identity wallet stored'

end Entros

------------------------------------------------------------
-- Steps
------------------------------------------------------------

namespace Entros

open Foundations
open Anchor

variable {H : Host} {config : Account} {call : Call H}
variable {wallet wallet' : Pubkey}
variable {stored rewritten stored' : IdentityState}

/- A wallet that the call does not concern. -/
theorem identityOrigin_kept
    {identity : Pubkey → Option IdentityState}
    (hInherits : call.instruction.Inherits wallet wallet)
    (hOther : call.instruction.rewrites ≠ some wallet)
    (hStored : identity wallet = some stored') :
    IdentityOrigin H config call identity wallet stored' :=
  .evolved wallet stored' stored' hInherits hStored
    (.kept hOther)

/- A call that rewrites one identity in place. -/
theorem identityOrigin_rewrite
    {identity : Pubkey → Option IdentityState}
    (hRewrites : call.instruction.rewrites = some wallet')
    (hIdentity : identity wallet' = some stored)
    (hEvolution :
      Evolution H config call wallet' stored rewritten)
    (hStored :
      Function.update identity wallet' (some rewritten)
        wallet = some stored') :
    IdentityOrigin H config call identity wallet stored' := by
  have hStay := Instruction.motion_of_rewrites hRewrites
  by_cases hWallet : wallet = wallet'
  · subst hWallet
    rw [Function.update_self] at hStored
    rw [← Option.some.inj hStored]
    exact .evolved wallet stored rewritten
      (Instruction.inherits_of_stay hStay wallet) hIdentity
      hEvolution
  · rw [Function.update_of_ne hWallet] at hStored
    refine identityOrigin_kept
      (Instruction.inherits_of_stay hStay wallet) ?_ hStored
    intro hEq
    rw [hRewrites] at hEq
    exact hWallet (Option.some.inj hEq).symm

/- What a call does to the identities as a whole. -/
inductive IdentityChange
    (H : Host)
    (config : Account)
    (call : Call H)
    (identity : Pubkey → Option IdentityState) :
    (Pubkey → Option IdentityState) → Prop
| born
    (slot : Pubkey)
    (commitment : Bytes 32)
    (lifecycle : LifecycleConfig)
    (hMotion : call.instruction.motion = .birth slot)
    (hNone : call.instruction.rewrites = none)
    (hVacant : identity slot = none)
    (hCommitment : commitment ≠ Bytes.zero 32)
    (hConfig : readLifecycleConfig config = .ok lifecycle) :
    IdentityChange H config call identity
      (Function.update identity slot
        (some (mintedIdentity H slot call.now commitment
          lifecycle.projectionPolicy.current)))
| moved
    (walletOld walletNew : Pubkey)
    (identityOld : IdentityState)
    (hMotion :
      call.instruction.motion = .move walletOld walletNew)
    (hNone : call.instruction.rewrites = none)
    (hIdentity : identity walletOld = some identityOld) :
    IdentityChange H config call identity
      (Function.update
        (Function.update identity walletNew
          (some (migratedIdentity H walletNew identityOld)))
        walletOld none)
| rewritten
    (wallet : Pubkey)
    (stored rewritten : IdentityState)
    (hRewrites : call.instruction.rewrites = some wallet)
    (hIdentity : identity wallet = some stored)
    (hEvolution :
      Evolution H config call wallet stored rewritten) :
    IdentityChange H config call identity
      (Function.update identity wallet (some rewritten))
| same
    (hStay : call.instruction.motion = .stay)
    (hNone : call.instruction.rewrites = none) :
    IdentityChange H config call identity identity

/- Every step of the ledger is such a change. -/
theorem LedgerStep.identityChange
    {l l' : Ledger}
    (hStep : LedgerStep H config call l l') :
    IdentityChange H config call l.identity
      l'.identity := by
  cases hStep with
  | mint user remainingAccounts commitment lifecycle session
      hInstruction hConfig _ hCommitment hVacant =>
      have hMotion :
          call.instruction.motion = .birth user.key := by
        rw [hInstruction]
        rfl
      have hNone : call.instruction.rewrites = none := by
        rw [hInstruction]
        rfl
      have hBorn := IdentityChange.born user.key commitment
        lifecycle hMotion hNone hVacant hCommitment hConfig
      rw [← Ledger.advanceIf_identity H l user.key]
        at hBorn ⊢
      exact hBorn
  | authorize signer signerNew stored hInstruction
      hIdentity =>
      refine .rewritten signer.key stored _ ?_ hIdentity
        (.authorized signer signerNew hInstruction rfl)
      rw [hInstruction]
      rfl
  | migrate user walletOld remainingAccounts identityOld
      hInstruction hIdentity =>
      have hMotion :
          call.instruction.motion =
            .move walletOld user.key := by
        rw [hInstruction]
        rfl
      have hNone : call.instruction.rewrites = none := by
        rw [hInstruction]
        rfl
      have hMoved :
          IdentityChange H config call l.identity _ :=
        .moved walletOld user.key identityOld hMotion hNone
          hIdentity
      rw [← Ledger.advanceIf_identity H l walletOld,
        ← Ledger.advanceIf_identity H _ user.key]
        at hMoved ⊢
      exact hMoved
  | update request key result identity updated updateConfig
      session hInstruction _ hIdentity _ hConfig _ _ _ _ _
      hNew _ _ _ _ hUpdated =>
      have hUpdates :=
        Instruction.updates_of_defaultUpdate hInstruction
      exact .rewritten request.authority.key identity updated
        (Instruction.rewrites_of_updates hUpdates) hIdentity
        (.updated result.commitmentNew updateConfig updated
          hUpdates hConfig hNew hUpdated)
  | updateBound request key result counter identity updated
      updateConfig session hInstruction _ hIdentity _ hConfig
      _ _ _ _ _ _ _ _ hNew _ _ _ _ hUpdated =>
      have hUpdates :
          call.instruction.updates =
            some request.authority.key := by
        rw [hInstruction]
        rfl
      exact .rewritten request.authority.key identity updated
        (Instruction.rewrites_of_updates hUpdates) hIdentity
        (.updated result.commitmentNew updateConfig updated
          hUpdates hConfig hNew hUpdated)
  | reset authority remainingAccounts commitment _ identity
      lifecycle session hInstruction hIdentity _ hCommitment
      hCooldown hConfig =>
      have hResets :
          call.instruction.resets = some authority.key := by
        rw [hInstruction]
        rfl
      have hReset := IdentityChange.rewritten authority.key
        identity _ (Instruction.rewrites_of_resets hResets)
        hIdentity
        (.reset commitment lifecycle hResets hCommitment
          hCooldown hConfig)
      rw [← Ledger.advanceIf_identity H l authority.key]
        at hReset ⊢
      exact hReset
  | rebaseline authority remainingAccounts commitment _
      identity lifecycle session hInstruction hIdentity _
      hCommitment hConfig _ hAdvanced hCooldown =>
      have hRebaselines :
          call.instruction.rebaselines =
            some authority.key := by
        rw [hInstruction]
        rfl
      have hRebaseline := IdentityChange.rewritten
        authority.key identity _
        (Instruction.rewrites_of_rebaselines hRebaselines)
        hIdentity
        (.rebaselined commitment lifecycle hRebaselines
          hCommitment hConfig hAdvanced hCooldown)
      rw [← Ledger.advanceIf_identity H l authority.key]
        at hRebaseline ⊢
      exact hRebaseline
  | prepare authority hInstruction =>
      refine .same ?_ ?_
      · rw [hInstruction]
        rfl
      · rw [hInstruction]
        rfl
  | verify proof _ _ hInstruction =>
      exact .same
        (Instruction.quiet_of_defaultProof
          hInstruction).motion
        (Instruction.rewrites_of_defaultProof hInstruction)
  | verifyBound proof _ _ _ hInstruction =>
      refine .same ?_ ?_
      · rw [hInstruction]
        rfl
      · rw [hInstruction]
        rfl
  | close address hInstruction =>
      exact .same hInstruction.quiet.motion
        hInstruction.rewrites
  | idle hInstruction =>
      exact .same hInstruction.quiet.motion
        hInstruction.rewrites

/- Every live identity has one of the two origins. -/
theorem IdentityChange.origin
    {identity identity' : Pubkey → Option IdentityState}
    (hChange :
      IdentityChange H config call identity identity')
    (hStored : identity' wallet = some stored') :
    IdentityOrigin H config call identity wallet stored' := by
  cases hChange with
  | born slot commitment lifecycle hMotion hNone hVacant
      hCommitment hConfig =>
      by_cases hWallet : wallet = slot
      · subst hWallet
        rw [Function.update_self] at hStored
        rw [← Option.some.inj hStored]
        exact .minted commitment lifecycle hMotion hVacant
          hCommitment hConfig
      · rw [Function.update_of_ne hWallet] at hStored
        exact identityOrigin_kept
          (Instruction.inherits_of_birth hMotion hWallet)
          (by simp [hNone]) hStored
  | moved walletOld walletNew identityOld hMotion hNone
      hIdentity =>
      by_cases hOld : wallet = walletOld
      · subst hOld
        rw [Function.update_self] at hStored
        cases hStored
      · rw [Function.update_of_ne hOld] at hStored
        by_cases hWallet : wallet = walletNew
        · subst hWallet
          rw [Function.update_self] at hStored
          rw [← Option.some.inj hStored]
          exact .evolved walletOld identityOld _
            (Instruction.inherits_of_moved hMotion hOld)
            hIdentity (.migrated walletOld hMotion)
        · rw [Function.update_of_ne hWallet] at hStored
          exact identityOrigin_kept
            (Instruction.inherits_of_move hMotion hOld
              hWallet)
            (by simp [hNone]) hStored
  | rewritten wallet' stored rewritten hRewrites hIdentity
      hEvolution =>
      exact identityOrigin_rewrite hRewrites hIdentity
        hEvolution hStored
  | same hStay hNone =>
      exact identityOrigin_kept
        (Instruction.inherits_of_stay hStay wallet)
        (by simp [hNone]) hStored

/- A call that rewrites an identity has found it live. -/
theorem LedgerStep.evolution
    {l l' : Ledger}
    (hStep : LedgerStep H config call l l')
    (hRewrites : call.instruction.rewrites = some wallet) :
    ∃ stored stored',
      l.identity wallet = some stored ∧
        l'.identity wallet = some stored' ∧
          Evolution H config call wallet stored stored' := by
  have hChange := hStep.identityChange
  generalize l'.identity = identity' at hChange
  cases hChange with
  | born _ _ _ _ hNone =>
      rw [hNone] at hRewrites
      cases hRewrites
  | moved _ _ _ _ hNone =>
      rw [hNone] at hRewrites
      cases hRewrites
  | rewritten wallet' stored rewritten hRewrites' hIdentity
      hEvolution =>
      rw [hRewrites] at hRewrites'
      cases hRewrites'
      exact ⟨stored, rewritten, hIdentity,
        Function.update_self _ _ _, hEvolution⟩
  | same _ hNone =>
      rw [hNone] at hRewrites
      cases hRewrites

/- The same along a run. -/
theorem run_identityOrigin
    {w : World}
    {history : List (Event H)}
    {last : Event H}
    (hFresh : w.Fresh)
    (hRun : Run (Step H) w history last.source)
    (hStored :
      (last.target.ledger H).identity wallet =
        some stored') :
    IdentityOrigin H (protocolConfig H last.source)
      last.label (last.source.ledger H).identity wallet
      stored' :=
  (run_step hFresh hRun).identityChange.origin hStored

end Entros
