import Entros.System.Identities
import Entros.System.Replay

/-
  Identities followed from their mint through any chain of
  migrations: none is lost, duplicated or altered on the way.

  Key definitions include:
    * `lineages`
    * `SameReputation`
    * `Event.MigrationKeeps`
    * `LineagesSound`

  Key theorems include:
    * `tracks_step`
    * `migrationKeeps_of_step`
    * `lineages_sound`
-/

------------------------------------------------------------
-- Lineages
------------------------------------------------------------

namespace Entros

open Foundations
open Anchor

variable {H : Host}

def Event.motion (event : Event H) : Motion Pubkey :=
  event.instruction.motion

/-
  Which lineage each wallet holds; a lineage is named by the
  position of its mint in the history.
-/
def lineages (history : List (Event H)) : Placement Pubkey :=
  follow Event.motion history

/- The history a migration must not change. -/
structure SameReputation
    (identityOld identity : IdentityState) : Prop where
  creationTimestamp :
    identity.creationTimestamp =
      identityOld.creationTimestamp
  lastVerificationTimestamp :
    identity.lastVerificationTimestamp =
      identityOld.lastVerificationTimestamp
  verificationCount :
    identity.verificationCount =
      identityOld.verificationCount
  trustScore : identity.trustScore = identityOld.trustScore
  currentCommitment :
    identity.currentCommitment =
      identityOld.currentCommitment
  recentTimestamps :
    identity.recentTimestamps = identityOld.recentTimestamps
  lastResetTimestamp :
    identity.lastResetTimestamp =
      identityOld.lastResetTimestamp
  projectionVersion :
    identity.projectionVersion =
      identityOld.projectionVersion
  lastRebaselineTimestamp :
    identity.lastRebaselineTimestamp =
      identityOld.lastRebaselineTimestamp

/-
  A migration moves one identity to a wallet without one, and
  changes only whose it is.
-/
def Event.MigrationKeeps (event : Event H) : Prop :=
  ∀ walletOld wallet,
    event.motion = .move walletOld wallet →
      ∃ identityOld identity,
        (event.source.ledger H).identity walletOld =
            some identityOld ∧
          (event.source.ledger H).identity wallet = none ∧
            (event.target.ledger H).identity walletOld =
                none ∧
              (event.target.ledger H).identity wallet =
                  some identity ∧
                SameReputation identityOld identity ∧
                  HeldBy H wallet identity ∧
                    identity.newWallet = Pubkey.default

/- Exactly the live identities carry a lineage. -/
def Tracks
    (holder : Pubkey → Option ℕ)
    (identity : Pubkey → Option IdentityState) : Prop :=
  ∀ wallet, holder wallet = none ↔ identity wallet = none

/-
  In the state after a history: the live identities and the
  lineages correspond, no lineage is held twice, every
  identity names its wallet, and all migrations so far have
  kept what they moved.
-/
structure LineagesSound
    (history : List (Event H))
    (w : World) : Prop where
  live :
    Tracks (lineages history).holder (w.ledger H).identity
  unique :
    ∀ wallet wallet' lineage,
      (lineages history).holder wallet = some lineage →
        (lineages history).holder wallet' = some lineage →
          wallet = wallet'
  owner :
    ∀ wallet stored,
      (w.ledger H).identity wallet = some stored →
        stored.owner = wallet
  migrations :
    ∀ event : Event H,
      event ∈ history → event.MigrationKeeps

end Entros

------------------------------------------------------------
-- One Step
------------------------------------------------------------

namespace Entros

open Foundations
open Anchor

variable {H : Host}

/- A wallet whose slot and identity are both replaced. -/
theorem Tracks.update
    {holder : Pubkey → Option ℕ}
    {identity : Pubkey → Option IdentityState}
    {lineage : Option ℕ}
    {value : Option IdentityState}
    (hTracks : Tracks holder identity)
    (wallet : Pubkey)
    (hValue : lineage = none ↔ value = none) :
    Tracks (Function.update holder wallet lineage)
      (Function.update identity wallet value) := by
  intro wallet'
  by_cases hWallet : wallet' = wallet
  · subst hWallet
    rw [Function.update_self, Function.update_self]
    exact hValue
  · rw [Function.update_of_ne hWallet,
      Function.update_of_ne hWallet]
    exact hTracks wallet'

/- Rewriting a live identity keeps it live. -/
theorem Tracks.rewrite
    {holder : Pubkey → Option ℕ}
    {identity : Pubkey → Option IdentityState}
    {wallet : Pubkey}
    {stored rewritten : IdentityState}
    (hTracks : Tracks holder identity)
    (hStored : identity wallet = some stored) :
    Tracks holder
      (Function.update identity wallet (some rewritten)) := by
  have hHeld : holder wallet ≠ none := by
    intro hNone
    rw [(hTracks wallet).mp hNone] at hStored
    cases hStored
  have hUpdated :
      Tracks
        (Function.update holder wallet (holder wallet))
        (Function.update identity wallet
          (some rewritten)) :=
    hTracks.update wallet
      (iff_of_false hHeld (Option.some_ne_none rewritten))
  rw [Function.update_eq_self] at hUpdated
  exact hUpdated

/- A step moves lineages exactly as it moves identities. -/
theorem tracks_step
    {call : Call H}
    {placement : Placement Pubkey}
    {identity identity' : Pubkey → Option IdentityState}
    (hStep : IdentityStep H call identity identity')
    (hTracks : Tracks placement.holder identity) :
    Tracks (placement.apply call.instruction.motion).holder
      identity' := by
  cases hStep with
  | mint user _ commitment projectionVersion hInstruction _ =>
      rw [hInstruction]
      exact hTracks.update user.key ⟨nofun, nofun⟩
  | authorize signer signerNew stored hInstruction
      hIdentity =>
      rw [hInstruction]
      exact hTracks.rewrite hIdentity
  | migrate user walletOld _ identityOld hInstruction
      hIdentity _ _ =>
      rw [hInstruction]
      have hHeld : placement.holder walletOld ≠ none := by
        intro hNone
        rw [(hTracks walletOld).mp hNone] at hIdentity
        cases hIdentity
      have hMoved := hTracks.update user.key
        (iff_of_false hHeld (Option.some_ne_none
          (migratedIdentity H user.key identityOld)))
      exact hMoved.update walletOld
        (iff_of_true rfl rfl)
  | rewrite wallet stored rewritten hQuiet hIdentity _ =>
      rw [hQuiet.motion]
      exact hTracks.rewrite hIdentity
  | same hQuiet =>
      rw [hQuiet.motion]
      exact hTracks

/- What a migration does to the two wallets. -/
theorem migrationKeeps_of_step
    {event : Event H}
    (hStep :
      IdentityStep H event.label
        (event.source.ledger H).identity
        (event.target.ledger H).identity) :
    event.MigrationKeeps := by
  intro walletOld wallet hMotion
  rcases hStep.migrated hMotion with
    ⟨identityOld, hIdentity, _, _, hVacant, hTarget⟩
  have hWallets : wallet ≠ walletOld := by
    intro hEq
    rw [hEq, hIdentity] at hVacant
    cases hVacant
  rw [hTarget]
  refine ⟨identityOld, migratedIdentity H wallet identityOld,
    hIdentity, hVacant, Function.update_self _ _ _, ?_, ?_,
    ?_, rfl⟩
  · rw [Function.update_of_ne hWallets, Function.update_self]
  · exact ⟨rfl, rfl, rfl, rfl, rfl, rfl, rfl, rfl, rfl⟩
  · exact ⟨rfl, rfl, rfl⟩

end Entros

------------------------------------------------------------
-- Runs
------------------------------------------------------------

namespace Entros

open Foundations
open Anchor

variable {H : Host} {w w' : World}
variable {history : List (Event H)}

theorem tracks_run
    (hFresh : w.Fresh)
    (hRun : Run (Step H) w history w') :
    Tracks (lineages history).holder
      (w'.ledger H).identity := by
  refine hRun.preserves
    (fun history state =>
      Tracks (lineages history).holder
        (state.ledger H).identity)
    ?_ ?_
  · rw [hFresh.ledger_eq]
    exact fun _ => iff_of_true rfl rfl
  · intro history last hFront hTracks
    rw [lineages, follow_snoc]
    exact tracks_step (run_identityStep hFresh hFront)
      hTracks

/-
  In every run, identities and lineages correspond: at most
  one live identity carries a lineage, each wallet has at most
  one, and migrations move identities unaltered.
-/
theorem lineages_sound
    (hFresh : w.Fresh)
    (hRun : Run (Step H) w history w') :
    LineagesSound history w' where
  live := tracks_run hFresh hRun
  unique := fun _ _ _ hWallet hWallet' =>
    follow_injective Event.motion history hWallet hWallet'
  owner := fun wallet stored hStored =>
    (run_identitySound hFresh hRun wallet stored
      hStored).owner
  migrations := fun _ hEvent =>
    migrationKeeps_of_step
      (event_step hFresh hRun hEvent).identityStep

end Entros

------------------------------------------------------------
-- A Round Trip
------------------------------------------------------------

namespace Entros

open Foundations

theorem lineages_sound_roundTrip :
    ∃ (history : List (Event Sample.tables.host))
      (w' : World),
      Run (Step Sample.tables.host) .funded history w' ∧
        history.map Transition.label = Sample.roundTrip ∧
          LineagesSound history w' := by
  rcases Sample.roundTrip_run with
    ⟨history, w', hRun, hLabels⟩
  exact ⟨history, w', hRun, hLabels,
    lineages_sound funded_fresh hRun⟩

end Entros
