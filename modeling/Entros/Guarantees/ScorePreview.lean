import Entros.Guarantees.CleanReset
import Entros.Guarantees.WellFormed
import Entros.Registry.Preview

/-
  When the trust-score preview of entros-registry shows the
  score that entros-anchor has just stored: its history holds
  ten times, the scoring window twelve bins.

  Key definitions include:
    * `newestTen`
    * `PreviewSees`

  Key theorems include:
    * `loadProtocolConfig_eq_ok_iff`
    * `Evolution.of_updates`
    * `preview_agrees_iff`
    * `preview_misses`
-/

------------------------------------------------------------
-- Ten Newest Entries
------------------------------------------------------------

namespace Entros

open Foundations
open Anchor
open Registry

/- The ten newest entries of a ring. -/
def newestTen (ring : ActivityRing) : List.Vector Int64 10 :=
  ⟨ring.toList.take 10, by
    rw [List.length_take, ring.toList_length]
    rfl⟩

/-
  After a verification of the identity at `now`, the entries
  behind the ten newest add nothing to the score: each of
  their bins holds one of the ten as well, lies outside the
  window or is worth nothing; or the ten already reach the
  cap.
-/
def PreviewSees
    (c : ProtocolConfig)
    (now : Int64)
    (before : IdentityState) : Prop :=
  Covers now c.baseTrustIncrement
      ((recordVerification before.recentTimestamps
        now).toList.take 10)
      (recordVerification before.recentTimestamps
        now).toList ∨
    c.maxTrustScore.toNat ≤
      points c.baseTrustIncrement
          (hitBins now
            ((recordVerification before.recentTimestamps
              now).toList.take 10)) +
        ageBonusAt now before.creationTimestamp

/- What the ten newest entries show of a stored score. -/
theorem trustScore_newestTen
    {c : ProtocolConfig}
    {now : Int64}
    {commitmentNew : Bytes 32}
    {before after : IdentityState}
    (hUpdated :
      updatedIdentity before now commitmentNew
        (recordUpdateConfig c) = .ok after) :
    trustScore now after.creationTimestamp
          (newestTen after.recentTimestamps).toList
          c.baseTrustIncrement c.maxTrustScore =
        .ok after.trustScore ↔
      PreviewSees c now before := by
  have hScore := updatedIdentity_score hUpdated
  rcases updatedIdentity_eq_ok hUpdated with
    ⟨count, score, _, rfl⟩
  cases hAge : checkedSub now before.creationTimestamp with
  | none =>
      rw [trustScore, ageBonus_eq_error hAge] at hScore
      cases hScore
  | some age =>
      have hSubset :
          hitBins now
              ((recordVerification before.recentTimestamps
                now).toList.take 10) ⊆
            hitBins now
              (recordVerification before.recentTimestamps
                now).toList :=
        hitBins_subset fun time hTime _ =>
          List.mem_of_mem_take hTime
      have hBonus :
          ageBonusAt now before.creationTimestamp =
            agePoints age := by
        rw [ageBonusAt, hAge]
        rfl
      rw [PreviewSees, hBonus, ← hScore]
      exact trustScore_covers_iff hAge hSubset

end Entros

------------------------------------------------------------
-- Runs
------------------------------------------------------------

namespace Entros

open Foundations
open Anchor
open Registry

variable {H : Host} {w w' : World}
variable {history : List (Event H)} {event : Event H}
variable {wallet : Pubkey}

/- What it takes for the typed configuration to load. -/
theorem loadProtocolConfig_eq_ok_iff
    {config : ProtocolConfig} :
    loadProtocolConfig H w = .ok config ↔
      (protocolConfig H w).owner = .registry ∧
        tryDeserialize ProtocolConfig H
            ProtocolConfig.accountName
            (protocolConfig H w).data = .ok config ∧
          config.bump = H.canonicalBump .protocolConfig := by
  simp only [loadProtocolConfig, World.loadAccount,
    bind_eq_ok, require_eq_ok, pure_eq_ok]
  constructor
  · rintro ⟨read, ⟨_, _, _, hOwner, hRead⟩, _, hBump, rfl⟩
    exact ⟨hOwner, hRead, hBump⟩
  · rintro ⟨hOwner, hRead, hBump⟩
    have hLive :
        ¬ ((protocolConfig H w).owner = .system ∧
          w.lamports (configAddress H) = 0) := by
      rw [hOwner]
      simp
    exact ⟨config, ⟨(), hLive, (), hOwner, hRead⟩, (),
      hBump, rfl⟩

/- Only the configuration account decides on it. -/
theorem loadProtocolConfig_congr
    {config : ProtocolConfig}
    (hSame : KeepsConfig H w w') :
    loadProtocolConfig H w' = .ok config ↔
      loadProtocolConfig H w = .ok config := by
  rw [loadProtocolConfig_eq_ok_iff,
    loadProtocolConfig_eq_ok_iff, hSame]

/- An update is a call of the anchor program. -/
theorem Instruction.updates_anchor
    {instruction : Instruction}
    (hUpdates : instruction.updates = some wallet) :
    ∃ call, instruction = .anchor call := by
  unfold Instruction.updates at hUpdates
  split at hUpdates
  · exact ⟨_, rfl⟩
  · exact ⟨_, rfl⟩
  · exact ⟨_, rfl⟩
  · cases hUpdates

theorem update_keepsConfig
    {call : Call H}
    (hSound : w.ConfigSound H)
    (hStep : Step H w call w')
    (hUpdates : call.instruction.updates = some wallet) :
    KeepsConfig H w w' := by
  rcases Instruction.updates_anchor hUpdates with
    ⟨instruction, hInstruction⟩
  unfold Step execute at hStep
  rw [hInstruction] at hStep
  exact anchor_keepsConfig hStep hSound.owner

/- What an update has read, and made of an identity. -/
theorem Evolution.read_of_updates
    {config : Account}
    {call : Call H}
    {stored stored' : IdentityState}
    (hEvolution :
      Evolution H config call wallet stored stored')
    (hUpdates : call.instruction.updates = some wallet) :
    ∃ commitmentNew updateConfig,
      readUpdateConfig config stored.projectionVersion =
          .ok updateConfig ∧
        updatedIdentity stored call.now commitmentNew
          updateConfig = .ok stored' := by
  cases hEvolution with
  | kept hOther =>
      exact absurd (Instruction.rewrites_of_updates hUpdates)
        hOther
  | authorized _ _ hOther =>
      rw [hOther] at hUpdates
      cases hUpdates
  | migrated _ hMotion =>
      have hStay := Instruction.motion_of_rewrites
        (Instruction.rewrites_of_updates hUpdates)
      rw [hMotion] at hStay
      cases hStay
  | updated commitmentNew updateConfig _ _ hConfig _
      hUpdated =>
      exact ⟨commitmentNew, updateConfig, hConfig, hUpdated⟩
  | reset _ _ hResets =>
      rcases Instruction.resets_eq_some hResets with
        ⟨_, _, _, _, hInstruction, _⟩
      rw [hInstruction] at hUpdates
      cases hUpdates
  | rebaselined _ _ hRebaselines =>
      rcases Instruction.rebaselines_eq_some hRebaselines
        with ⟨_, _, _, _, hInstruction, _⟩
      rw [hInstruction] at hUpdates
      cases hUpdates

/- The same, in terms of the record of the configuration. -/
theorem Evolution.of_updates
    {config : Account}
    {call : Call H}
    {stored stored' : IdentityState}
    (hDocumented : Documented config.data)
    (hEvolution :
      Evolution H config call wallet stored stored')
    (hUpdates : call.instruction.updates = some wallet) :
    ∃ commitmentNew,
      updatedIdentity stored call.now commitmentNew
          (recordUpdateConfig (recordOf config.data)) =
        .ok stored' := by
  rcases hEvolution.read_of_updates hUpdates with
    ⟨commitmentNew, updateConfig, hConfig, hUpdated⟩
  rw [readUpdateConfig_record hDocumented hConfig] at hUpdated
  exact ⟨commitmentNew, hUpdated⟩

/-
  Right after every update of every run: the preview emits
  the stored score exactly when the configuration loads as a
  typed account and the ten newest entries show everything
  that is scored.
-/
theorem preview_agrees_iff
    {before after : IdentityState}
    {verificationCount : UInt32}
    (hFresh : w.Fresh)
    (hSound : w.ConfigSound H)
    (hRun : Run (Step H) w history w')
    (hEvent : event ∈ history)
    (hUpdates : event.instruction.updates = some wallet)
    (hBefore :
      (event.source.ledger H).identity wallet = some before)
    (hAfter :
      (event.target.ledger H).identity wallet = some after) :
    computeTrustScore H event.target event.now
          verificationCount after.creationTimestamp
          (newestTen after.recentTimestamps) =
        .ok { verificationCount := verificationCount
              creationTimestamp := after.creationTimestamp
              trustScore := after.trustScore } ↔
      ∃ config,
        loadProtocolConfig H event.source = .ok config ∧
          PreviewSees config event.now before := by
  rcases List.mem_iff_getElem?.mp hEvent with ⟨i, hIndex⟩
  have hSource :=
    run_configSound hSound (hRun.source hIndex)
  have hSame :=
    update_keepsConfig hSource event.valid hUpdates
  have hLoad (config : ProtocolConfig) :
      loadProtocolConfig H event.target = .ok config ↔
        loadProtocolConfig H event.source = .ok config :=
    loadProtocolConfig_congr hSame
  rcases (event_step hFresh hRun hEvent).evolution
    (Instruction.rewrites_of_updates hUpdates) with
    ⟨stored, stored', hStored, hStored', hEvolution⟩
  rw [hBefore] at hStored
  rw [hAfter] at hStored'
  cases hStored
  cases hStored'
  rcases hEvolution.of_updates hSource.layout hUpdates with
    ⟨commitmentNew, hUpdated⟩
  rw [computeTrustScore_eq_ok_iff]
  constructor
  · rintro ⟨config, hConfig, hScore⟩
    have hConfig' := (hLoad config).mp hConfig
    have hRecord :
        recordOf
            (event.source.accounts
              (configAddress H)).data =
          config := configRecord_of_load hConfig'
    rw [hRecord] at hUpdated
    exact ⟨config, hConfig',
      (trustScore_newestTen hUpdated).mp hScore⟩
  · rintro ⟨config, hConfig, hSees⟩
    have hRecord :
        recordOf
            (event.source.accounts
              (configAddress H)).data =
          config := configRecord_of_load hConfig
    rw [hRecord] at hUpdated
    exact ⟨config, (hLoad config).mpr hConfig,
      (trustScore_newestTen hUpdated).mpr hSees⟩

end Entros

------------------------------------------------------------
-- Eleven Weeks
------------------------------------------------------------

namespace Entros

open Foundations
open Anchor
open Registry

namespace ScorePreview

open CleanReset
open Sample (tables configure)

/- A weekly verification, between two commitments. -/
def inWeek (week : Int64) : Verification where
  now := 1700000000 + week * 604800
  commitmentNew :=
    if week % 2 = 0 then
      Sample.commitmentNew
    else
      Sample.commitmentPrev
  config := updateConfig

/- Eleven of them. -/
def elevenWeeks : List Verification :=
  [inWeek 0, inWeek 1, inWeek 2, inWeek 3, inWeek 4,
    inWeek 5, inWeek 6, inWeek 7, inWeek 8, inWeek 9,
    inWeek 10]

/- The deployment that only has a configuration. -/
def configured : List (Call tables.host) :=
  [Sample.call 1700000000 configure]

/- The preview of an identity after the eleven weeks. -/
def preview
    (w : World)
    (identity : IdentityState) : Result TrustScoreComputed :=
  computeTrustScore tables.host w (inWeek 10).now
    identity.verificationCount identity.creationTimestamp
    (newestTen identity.recentTimestamps)

/- The stored score and the preview. -/
def scores
    (w : World) : Result (UInt16 × TrustScoreComputed) := do
  let identity ← verifyAll (minted 1700000000) elevenWeeks
  let computed ← preview w identity
  return (identity.trustScore, computed)

end ScorePreview

open ScorePreview
open CleanReset (minted updateConfig)
open Sample (tables)

/-
  After eleven weekly verifications eleven bins are active,
  and the preview sees ten of them.
-/
theorem preview_misses :
    ∃ (history : List (Event tables.host)) (w' : World)
      (identity : IdentityState),
      Run (Step tables.host) .funded history w' ∧
        history.map Transition.label = configured ∧
          recordUpdateConfig (configRecord tables.host w') =
              updateConfig ∧
            verifyAll (minted 1700000000) elevenWeeks =
                .ok identity ∧
              identity.trustScore = 670 ∧
                preview w' identity =
                  .ok { verificationCount := 11
                        creationTimestamp := 1700000000
                        trustScore := 654 } := by
  have hReplay :
      (replay .funded configured).map (fun replayed =>
          (recordUpdateConfig
              (configRecord tables.host replayed.2),
            scores replayed.2)) =
        some (updateConfig,
          .ok (670,
            { verificationCount := 11
              creationTimestamp := 1700000000
              trustScore := 654 })) := by
    decide +kernel
  rcases exists_run hReplay with
    ⟨history, w', hRun, hLabels, hValues⟩
  rcases Prod.mk.inj hValues with ⟨hConfig, hScores⟩
  rcases bind_eq_ok.mp hScores with
    ⟨identity, hSeries, hRest⟩
  rcases bind_eq_ok.mp hRest with
    ⟨computed, hPreview, hPair⟩
  rcases Prod.mk.inj (pure_eq_ok.mp hPair) with
    ⟨hStored, hComputed⟩
  rw [hComputed] at hPreview
  exact ⟨history, w', identity, hRun, hLabels, hConfig,
    hSeries, hStored, hPreview⟩

end Entros

------------------------------------------------------------
-- A First Update
------------------------------------------------------------

namespace Entros

open Foundations
open Anchor
open Registry

open UpdateBacking

/- Whether the preview shows the score of the first update. -/
def previewAgrees (history : List (Event tables.host)) : Bool :=
  (history[4]?.bind fun event =>
    ((event.target.ledger tables.host).identity
      Sample.alice.key).map fun after =>
        decide
          (computeTrustScore tables.host event.target
              event.now 1 after.creationTimestamp
              (newestTen after.recentTimestamps) =
            .ok { verificationCount := 1
                  creationTimestamp :=
                    after.creationTimestamp
                  trustScore := after.trustScore })).getD
    false

theorem preview_agrees_iff_first :
    ∃ (history : List (Event tables.host)) (w' : World)
      (event : Event tables.host) (before : IdentityState),
      Run (Step tables.host) .funded history w' ∧
        history.map Transition.label = repeated ∧
          history[4]? = some event ∧
            (event.source.ledger tables.host).identity
                Sample.alice.key = some before ∧
              ∃ config,
                loadProtocolConfig tables.host
                    event.source = .ok config ∧
                  PreviewSees config event.now before := by
  have hReplay :
      (replay .funded repeated).map (fun replayed =>
          previewAgrees replayed.1) = some true := by
    decide +kernel
  rcases exists_run hReplay with
    ⟨history, w', hRun, hLabels, hAgrees⟩
  rcases event_of_label (i := 4) hLabels rfl with
    ⟨event, hEvent, hLabel⟩
  have hMem := List.mem_of_getElem? hEvent
  have hSound : World.funded.ConfigSound tables.host :=
    ⟨by decide, by decide⟩
  have hUpdates :
      event.instruction.updates = some Sample.alice.key := by
    rw [Event.instruction, hLabel]
    rfl
  rcases (event_step funded_fresh hRun hMem).evolution
    (Instruction.rewrites_of_updates hUpdates) with
    ⟨before, after, hBefore, hAfter, _⟩
  unfold previewAgrees at hAgrees
  rw [hEvent, Option.bind_some, hAfter] at hAgrees
  exact ⟨history, w', event, before, hRun, hLabels, hEvent,
    hBefore,
    (preview_agrees_iff funded_fresh hSound hRun hMem
      hUpdates hBefore hAfter).mp
      (of_decide_eq_true hAgrees)⟩

end Entros
