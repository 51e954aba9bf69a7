import Entros.System.Refinement

/-
  How the calls of a run change the identities: what is
  common to all of them once counters and proof results are
  left out.

  Key definitions include:
    * `Instruction.motion`
    * `Instruction.authorization`
    * `IdentityStep`
    * `IdentitySound`

  Key theorems include:
    * `LedgerStep.identityStep`
    * `IdentityStep.sound`
    * `run_identitySound`
-/

------------------------------------------------------------
-- Kinds of Instructions
------------------------------------------------------------

namespace Entros

open Foundations
open Anchor

/- Which identities an instruction creates or moves. -/
def Instruction.motion : Instruction → Motion Pubkey
| .anchor (.mintAnchor user _ _) => .birth user.key
| .anchor (.migrateIdentity user walletOld _) =>
    .move walletOld user.key
| _ => .stay

/- The two signers of an authorisation. -/
def Instruction.authorization :
    Instruction → Option (Signer × Signer)
| .anchor (.authorizeNewWallet signer signerNew) =>
    some (signer, signerNew)
| _ => none

/- An instruction that neither moves nor authorises. -/
structure Instruction.Quiet
    (instruction : Instruction) : Prop where
  motion : instruction.motion = .stay
  authorization : instruction.authorization = none

end Entros

------------------------------------------------------------
-- Steps of the Identities
------------------------------------------------------------

namespace Entros

open Foundations
open Anchor

/- The fields that no update, reset or rebaseline touches. -/
structure SameHolder
    (stored rewritten : IdentityState) : Prop where
  owner : rewritten.owner = stored.owner
  mint : rewritten.mint = stored.mint
  bump : rewritten.bump = stored.bump
  newWallet : rewritten.newWallet = stored.newWallet
  creationTimestamp :
    rewritten.creationTimestamp = stored.creationTimestamp

/- What a successful call does to the identities. -/
inductive IdentityStep
    (H : Host)
    (call : Call H)
    (identity : Pubkey → Option IdentityState) :
    (Pubkey → Option IdentityState) → Prop
| mint
    (user : Signer)
    (remainingAccounts : List AccountMeta)
    (commitment : Bytes 32)
    (projectionVersion : UInt16)
    (hInstruction :
      call.instruction =
        .anchor (.mintAnchor user remainingAccounts
          commitment))
    (hVacant : identity user.key = none) :
    IdentityStep H call identity
      (Function.update identity user.key
        (some (mintedIdentity H user.key call.now commitment
          projectionVersion)))
| authorize
    (signer signerNew : Signer)
    (stored : IdentityState)
    (hInstruction :
      call.instruction =
        .anchor (.authorizeNewWallet signer signerNew))
    (hIdentity : identity signer.key = some stored) :
    IdentityStep H call identity
      (Function.update identity signer.key
        (some { stored with newWallet := signerNew.key }))
| migrate
    (user : Signer)
    (walletOld : Pubkey)
    (remainingAccounts : List AccountMeta)
    (identityOld : IdentityState)
    (hInstruction :
      call.instruction =
        .anchor (.migrateIdentity user walletOld
          remainingAccounts))
    (hIdentity : identity walletOld = some identityOld)
    (hAuthorized : identityOld.newWallet = user.key)
    (hVacant : identity user.key = none) :
    IdentityStep H call identity
      (Function.update
        (Function.update identity user.key
          (some (migratedIdentity H user.key identityOld)))
        walletOld none)
| rewrite
    (wallet : Pubkey)
    (stored rewritten : IdentityState)
    (hQuiet : call.instruction.Quiet)
    (hIdentity : identity wallet = some stored)
    (hSame : SameHolder stored rewritten) :
    IdentityStep H call identity
      (Function.update identity wallet (some rewritten))
| same (hQuiet : call.instruction.Quiet) :
    IdentityStep H call identity identity

theorem Instruction.quiet_of_defaultUpdate
    {instruction : Instruction}
    {request : UpdateCall}
    (hUpdate : instruction.defaultUpdate = some request) :
    instruction.Quiet := by
  rcases Instruction.defaultUpdate_eq_some hUpdate with
    ⟨_, rfl⟩ | rfl
  · exact ⟨rfl, rfl⟩
  · exact ⟨rfl, rfl⟩

theorem Instruction.quiet_of_defaultProof
    {instruction : Instruction}
    {proof : DefaultProof}
    (hProof : instruction.defaultProof = some proof) :
    instruction.Quiet := by
  unfold Instruction.defaultProof at hProof
  split at hProof
  · exact ⟨rfl, rfl⟩
  · exact ⟨rfl, rfl⟩
  · cases hProof

theorem Instruction.Closes.quiet
    {instruction : Instruction}
    {address : Address}
    (hCloses : instruction.Closes address) :
    instruction.Quiet := by
  cases hCloses with
  | challenge => exact ⟨rfl, rfl⟩
  | result => exact ⟨rfl, rfl⟩
  | bound => exact ⟨rfl, rfl⟩

theorem Instruction.Idle.quiet
    {instruction : Instruction}
    (hIdle : instruction.Idle) :
    instruction.Quiet := by
  cases hIdle with
  | registry => exact ⟨rfl, rfl⟩
  | outside => exact ⟨rfl, rfl⟩
  | challenge => exact ⟨rfl, rfl⟩
  | layout => exact ⟨rfl, rfl⟩
  | baseline => exact ⟨rfl, rfl⟩

/- An update keeps whose identity it is. -/
theorem sameHolder_of_update
    {identity updated : IdentityState}
    {now : Int64}
    {commitmentNew : Bytes 32}
    {updateConfig : UpdateConfig}
    (hUpdated :
      updatedIdentity identity now commitmentNew
        updateConfig = .ok updated) :
    SameHolder identity updated := by
  rcases updatedIdentity_eq_ok hUpdated with
    ⟨count, score, _, rfl⟩
  exact ⟨rfl, rfl, rfl, rfl, rfl⟩

/- Every step of the ledger is a step of the identities. -/
theorem LedgerStep.identityStep
    {H : Host}
    {config : Account}
    {call : Call H}
    {l l' : Ledger}
    (hStep : LedgerStep H config call l l') :
    IdentityStep H call l.identity l'.identity := by
  cases hStep with
  | mint user remainingAccounts commitment lifecycle session
      hInstruction _ _ _ hVacant _ =>
      have hMint := IdentityStep.mint user remainingAccounts
        commitment lifecycle.projectionPolicy.current
        hInstruction hVacant
      rw [← Ledger.advanceIf_identity H l user.key] at hMint ⊢
      exact hMint
  | authorize signer signerNew stored hInstruction
      hIdentity =>
      exact .authorize signer signerNew stored hInstruction
        hIdentity
  | migrate user walletOld remainingAccounts identityOld
      hInstruction hIdentity hAuthorized hVacant _ _ _ =>
      have hMigrate := IdentityStep.migrate user walletOld
        remainingAccounts identityOld hInstruction hIdentity
        hAuthorized hVacant
      rw [← Ledger.advanceIf_identity H l walletOld,
        ← Ledger.advanceIf_identity H _ user.key]
        at hMigrate ⊢
      exact hMigrate
  | update request key result stored updated updateConfig
      session hInstruction _ hIdentity _ _ _ _ _ _ _ _ _ _ _
      _ hUpdated =>
      exact .rewrite request.authority.key stored updated
        (Instruction.quiet_of_defaultUpdate hInstruction)
        hIdentity (sameHolder_of_update hUpdated)
  | updateBound request key result counter stored updated
      updateConfig session hInstruction _ hIdentity _ _ _ _ _
      _ _ _ _ _ _ _ _ _ _ hUpdated =>
      exact .rewrite request.authority.key stored updated
        (hInstruction ▸ ⟨rfl, rfl⟩) hIdentity
        (sameHolder_of_update hUpdated)
  | reset authority _ commitment _ stored lifecycle _
      hInstruction hIdentity =>
      have hQuiet : call.instruction.Quiet :=
        hInstruction ▸ ⟨rfl, rfl⟩
      have hReset := IdentityStep.rewrite authority.key
        stored
        (resetIdentity stored call.now commitment
          lifecycle.projectionPolicy.current)
        hQuiet hIdentity ⟨rfl, rfl, rfl, rfl, rfl⟩
      rw [← Ledger.advanceIf_identity H l authority.key]
        at hReset ⊢
      exact hReset
  | rebaseline authority _ commitment _ stored lifecycle _
      hInstruction hIdentity =>
      have hQuiet : call.instruction.Quiet :=
        hInstruction ▸ ⟨rfl, rfl⟩
      have hRebaseline := IdentityStep.rewrite authority.key
        stored
        (rebaselinedIdentity stored call.now commitment
          lifecycle.projectionPolicy.current)
        hQuiet hIdentity ⟨rfl, rfl, rfl, rfl, rfl⟩
      rw [← Ledger.advanceIf_identity H l authority.key]
        at hRebaseline ⊢
      exact hRebaseline
  | prepare authority hInstruction _ =>
      exact .same (hInstruction ▸ ⟨rfl, rfl⟩)
  | verify proof _ _ hInstruction =>
      exact .same
        (Instruction.quiet_of_defaultProof hInstruction)
  | verifyBound proof _ _ _ hInstruction =>
      exact .same (hInstruction ▸ ⟨rfl, rfl⟩)
  | close address hInstruction =>
      exact .same hInstruction.quiet
  | idle hInstruction =>
      exact .same hInstruction.quiet

end Entros

------------------------------------------------------------
-- Holders
------------------------------------------------------------

namespace Entros

open Foundations
open Anchor

/- The identity names the wallet it is stored for. -/
structure HeldBy
    (H : Host)
    (wallet : Pubkey)
    (stored : IdentityState) : Prop where
  owner : stored.owner = wallet
  mint : stored.mint = mintKey H wallet
  bump : stored.bump = H.canonicalBump (.identity wallet)

/- Every live identity names its wallet. -/
def IdentitySound
    (H : Host)
    (identity : Pubkey → Option IdentityState) : Prop :=
  ∀ wallet stored,
    identity wallet = some stored → HeldBy H wallet stored

theorem IdentitySound.update
    {H : Host}
    {identity : Pubkey → Option IdentityState}
    {wallet : Pubkey}
    {value : Option IdentityState}
    (hSound : IdentitySound H identity)
    (hValue :
      ∀ stored, value = some stored →
        HeldBy H wallet stored) :
    IdentitySound H
      (Function.update identity wallet value) := by
  intro wallet' stored hStored
  by_cases hWallet : wallet' = wallet
  · subst hWallet
    rw [Function.update_self] at hStored
    exact hValue stored hStored
  · rw [Function.update_of_ne hWallet] at hStored
    exact hSound wallet' stored hStored

theorem SameHolder.heldBy
    {H : Host}
    {wallet : Pubkey}
    {stored rewritten : IdentityState}
    (hSame : SameHolder stored rewritten)
    (hHeld : HeldBy H wallet stored) :
    HeldBy H wallet rewritten where
  owner := hSame.owner.trans hHeld.owner
  mint := hSame.mint.trans hHeld.mint
  bump := hSame.bump.trans hHeld.bump

theorem IdentityStep.sound
    {H : Host}
    {call : Call H}
    {identity identity' : Pubkey → Option IdentityState}
    (hStep : IdentityStep H call identity identity')
    (hSound : IdentitySound H identity) :
    IdentitySound H identity' := by
  cases hStep with
  | mint user _ commitment projectionVersion =>
      apply hSound.update
      intro stored hStored
      rw [← Option.some.inj hStored]
      exact ⟨rfl, rfl, rfl⟩
  | authorize signer signerNew stored _ hIdentity =>
      apply hSound.update
      intro rewritten hRewritten
      rw [← Option.some.inj hRewritten]
      have hHeld := hSound _ _ hIdentity
      exact ⟨hHeld.owner, hHeld.mint, hHeld.bump⟩
  | migrate user walletOld _ identityOld =>
      apply IdentitySound.update
      · apply hSound.update
        intro stored hStored
        rw [← Option.some.inj hStored]
        exact ⟨rfl, rfl, rfl⟩
      · exact nofun
  | rewrite wallet stored rewritten _ hIdentity hSame =>
      apply hSound.update
      intro rewritten' hRewritten
      rw [← Option.some.inj hRewritten]
      exact hSame.heldBy (hSound _ _ hIdentity)
  | same => exact hSound

variable {H : Host} {w w' : World}
variable {history : List (Event H)}

/- Every step of a run is a step of the identities. -/
theorem run_identityStep
    {last : Event H}
    (hFresh : w.Fresh)
    (hRun : Run (Step H) w history last.source) :
    IdentityStep H last.label
      (last.source.ledger H).identity
      (last.target.ledger H).identity :=
  (run_step hFresh hRun).identityStep

/- A migration moves the identity that names its wallet. -/
theorem IdentityStep.migrated
    {call : Call H}
    {identity identity' : Pubkey → Option IdentityState}
    {walletOld wallet : Pubkey}
    (hStep : IdentityStep H call identity identity')
    (hMotion :
      call.instruction.motion = .move walletOld wallet) :
    ∃ identityOld,
      identity walletOld = some identityOld ∧
        identityOld.newWallet = wallet ∧
          wallet ≠ Pubkey.default ∧
            identity wallet = none ∧
              identity' =
                Function.update
                  (Function.update identity wallet
                    (some (migratedIdentity H wallet
                      identityOld)))
                  walletOld none := by
  cases hStep with
  | migrate user _ _ identityOld hInstruction hIdentity
      hAuthorized hVacant =>
      rw [hInstruction] at hMotion
      cases hMotion
      exact ⟨identityOld, hIdentity, hAuthorized,
        user.key_ne_default, hVacant, rfl⟩
  | mint _ _ _ _ hInstruction =>
      rw [hInstruction] at hMotion
      cases hMotion
  | authorize _ _ _ hInstruction =>
      rw [hInstruction] at hMotion
      cases hMotion
  | rewrite _ _ _ hQuiet =>
      rw [hQuiet.motion] at hMotion
      cases hMotion
  | same hQuiet =>
      rw [hQuiet.motion] at hMotion
      cases hMotion

theorem run_identitySound
    (hFresh : w.Fresh)
    (hRun : Run (Step H) w history w') :
    IdentitySound H (w'.ledger H).identity := by
  refine hRun.preserves
    (fun _ state =>
      IdentitySound H (state.ledger H).identity) ?_ ?_
  · rw [hFresh.ledger_eq]
    exact fun _ _ => nofun
  · intro _ last hFront hSound
    exact (run_identityStep hFresh hFront).sound hSound

end Entros
