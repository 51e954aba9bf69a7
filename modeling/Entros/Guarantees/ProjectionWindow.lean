import Entros.System.ConfigReaders
import Entros.System.Evolution
import Entros.System.Frames
import Entros.System.Replay

/-
  The window of projection versions across the two programs:
  the registry only raises it, both programs read it alike,
  and no live identity is ahead of it.

  Key definitions include:
    * `ProjectionOrdered`
    * `Event.RaisesProjection`
    * `ProjectionWindow`

  Key theorems include:
    * `ConfigStep.projection`
    * `Evolution.projectionVersion`
    * `run_projectionLive`
    * `projectionWindow_run`
-/

------------------------------------------------------------
-- The Registry's Side
------------------------------------------------------------

namespace Entros

open Foundations
open Anchor
open Registry

/- The minimum does not exceed the current version. -/
def ProjectionOrdered (c : ProtocolConfig) : Prop :=
  c.minimumSupportedProjectionVersion ≤
    c.currentProjectionVersion

/- Neither version is lowered. -/
structure ProjectionRaised (c c' : ProtocolConfig) : Prop where
  current :
    c.currentProjectionVersion ≤ c'.currentProjectionVersion
  minimum :
    c.minimumSupportedProjectionVersion ≤
      c'.minimumSupportedProjectionVersion

theorem ProjectionRaised.of_eq
    {c c' : ProtocolConfig}
    (hCurrent :
      c.currentProjectionVersion =
        c'.currentProjectionVersion)
    (hMinimum :
      c.minimumSupportedProjectionVersion =
        c'.minimumSupportedProjectionVersion) :
    ProjectionRaised c c' :=
  ⟨UInt16.le_of_eq hCurrent, UInt16.le_of_eq hMinimum⟩

/- The event does not lower the stored versions. -/
def Event.RaisesProjection
    {H : Host}
    (event : Event H) : Prop :=
  ProjectionRaised (configRecord H event.source)
    (configRecord H event.target)

variable {H : Host} {w w' : World}

/- What a step of the record does to the window. -/
theorem ConfigStep.projection
    {now : Int64}
    {programData : List UInt8}
    {c c' : ProtocolConfig}
    {instruction : RegistryInstruction}
    (hStep :
      ConfigStep H now programData c instruction c') :
    ProjectionRaised c c' ∧
      (ProjectionOrdered c → ProjectionOrdered c') := by
  cases hStep with
  | initializeProtocol admin minStake challengeExpiry
      maxTrustScore baseTrustIncrement verificationFee
      validatorPubkey _ hVacant =>
      subst hVacant
      exact ⟨.of_eq rfl rfl, fun _ => UInt16.le_refl _⟩
  | setProjectionVersions admin current minimum _
      hTransition =>
      simp only [validateProjectionTransition, bind_eq_ok,
        require_eq_ok] at hTransition
      rcases hTransition with
        ⟨_, hNext, _, hCurrent, hMinimum⟩
      exact ⟨⟨hCurrent, hMinimum⟩, fun _ => hNext⟩
  | updateProtocolConfig => exact ⟨.of_eq rfl rfl, id⟩
  | setValidatorPubkey => exact ⟨.of_eq rfl rfl, id⟩
  | rotateValidatorPubkey => exact ⟨.of_eq rfl rfl, id⟩
  | proposeAuthority => exact ⟨.of_eq rfl rfl, id⟩
  | acceptAuthority => exact ⟨.of_eq rfl rfl, id⟩
  | migrateAdmin => exact ⟨.of_eq rfl rfl, id⟩
  | apart => exact ⟨.of_eq rfl rfl, id⟩

/- What any call does to the window. -/
theorem projection_step
    {call : Call H}
    (hSound : w.ConfigSound H)
    (hStep : Step H w call w') :
    ProjectionRaised (configRecord H w)
        (configRecord H w') ∧
      (ProjectionOrdered (configRecord H w) →
        ProjectionOrdered (configRecord H w')) := by
  rcases (config_step hSound hStep).2 with
    ⟨instruction, _, hConfig⟩ | ⟨_, hSame⟩
  · exact hConfig.projection
  · rw [hSame]
    exact ⟨.of_eq rfl rfl, id⟩

end Entros

------------------------------------------------------------
-- The Identities' Side
------------------------------------------------------------

namespace Entros

open Foundations
open Anchor
open Registry

variable {H : Host}

/- The version that mint, reset and rebaseline write. -/
theorem lifecycle_current
    {config : Account}
    {lifecycle : LifecycleConfig}
    (hDocumented : Documented config.data)
    (hConfig : readLifecycleConfig config = .ok lifecycle) :
    lifecycle.projectionPolicy.current =
      (recordOf config.data).currentProjectionVersion := by
  simp only [readLifecycleConfig, bind_eq_ok, require_eq_ok,
    pure_eq_ok] at hConfig
  rcases hConfig with
    ⟨_, _, policy, hPolicy, _, _, _, _, rfl⟩
  rw [readProjectionPolicy_record hDocumented hPolicy]
  rfl

/- An identity keeps its version or gets the current one. -/
theorem Evolution.projectionVersion
    {config : Account}
    {call : Call H}
    {wallet : Pubkey}
    {stored stored' : IdentityState}
    (hDocumented : Documented config.data)
    (hEvolution :
      Evolution H config call wallet stored stored') :
    stored'.projectionVersion = stored.projectionVersion ∨
      stored'.projectionVersion =
        (recordOf config.data).currentProjectionVersion := by
  cases hEvolution with
  | kept => exact .inl rfl
  | authorized => exact .inl rfl
  | migrated => exact .inl rfl
  | updated commitmentNew updateConfig rewritten _ _ _
      hUpdated =>
      rcases updatedIdentity_eq_ok hUpdated with
        ⟨count, score, _, rfl⟩
      exact .inl rfl
  | reset commitment lifecycle _ _ _ hConfig =>
      exact .inr (lifecycle_current hDocumented hConfig)
  | rebaselined commitment lifecycle _ _ hConfig =>
      exact .inr (lifecycle_current hDocumented hConfig)

/- No live identity is ahead of the registry. -/
def ProjectionLive (H : Host) (w : World) : Prop :=
  ∀ wallet stored,
    (w.ledger H).identity wallet = some stored →
      stored.projectionVersion ≤
        (configRecord H w).currentProjectionVersion

theorem projection_live_step
    {w : World}
    {history : List (Event H)}
    {last : Event H}
    (hFresh : w.Fresh)
    (hRun : Run (Step H) w history last.source)
    (hSound : last.source.ConfigSound H)
    (hRaised : last.RaisesProjection)
    (hLive : ProjectionLive H last.source) :
    ProjectionLive H last.target := by
  intro wallet stored hStored
  have hDocumented :
      Documented (protocolConfig H last.source).data :=
    hSound.layout
  have hCurrent :
      (recordOf
          (protocolConfig
            H last.source).data).currentProjectionVersion ≤
        (configRecord
          H last.target).currentProjectionVersion :=
    hRaised.current
  cases run_identityOrigin hFresh hRun hStored with
  | minted commitment lifecycle _ _ _ hConfig =>
      rw [← lifecycle_current hDocumented hConfig]
        at hCurrent
      exact hCurrent
  | evolved origin before _ _ hBefore hEvolution =>
      rcases hEvolution.projectionVersion hDocumented with
        hSame | hSame
      · rw [hSame]
        exact UInt16.le_trans
          (hLive origin before hBefore) hCurrent
      · rw [hSame]
        exact hCurrent

end Entros

------------------------------------------------------------
-- Runs
------------------------------------------------------------

namespace Entros

open Foundations
open Anchor
open Registry

/-
  The window in a reachable state.  `decided` says that an
  identity is rejected exactly when its version is below the
  minimum, and never for being too new.
-/
structure ProjectionWindow (H : Host) (w : World) : Prop where
  ordered : ProjectionOrdered (configRecord H w)
  registry :
    Registry.readProjectionVersions (configData H w) =
      .ok ((configRecord H w).currentProjectionVersion,
        (configRecord H w).minimumSupportedProjectionVersion)
  anchor :
    readProjectionPolicy (configData H w) =
      .ok (recordProjection (configRecord H w))
  live : ProjectionLive H w
  decided :
    ∀ wallet stored,
      (w.ledger H).identity wallet = some stored →
        validateIdentityProjection stored.projectionVersion
            (recordProjection (configRecord H w)) =
          if stored.projectionVersion <
              (configRecord
                H w).minimumSupportedProjectionVersion then
            .error (.anchor .projectionVersionTooOld)
          else
            .ok ()

variable {H : Host} {w w' : World}
variable {history : List (Event H)}

/- What the validation decides below the current version. -/
theorem validateIdentityProjection_eq
    {version : UInt16}
    {policy : ProjectionPolicy}
    (hCurrent : version ≤ policy.current) :
    validateIdentityProjection version policy =
      if version < policy.minimum then
        .error (.anchor .projectionVersionTooOld)
      else
        .ok () := by
  unfold validateIdentityProjection
  by_cases hOld : version < policy.minimum
  · have hBelow : ¬ policy.minimum ≤ version :=
      UInt16.not_le.mpr hOld
    rw [if_pos hOld, require, if_neg hBelow]
    rfl
  · rw [if_neg hOld, require, if_pos (UInt16.not_lt.mp hOld),
      require, if_pos hCurrent]
    rfl

/- Every step of a run raises the window, if anything. -/
theorem run_raisesProjection
    {last : Event H}
    (hSound : w.ConfigSound H)
    (hRun : Run (Step H) w history last.source) :
    last.RaisesProjection :=
  (projection_step (run_configSound hSound hRun)
    last.valid).1

theorem run_projectionOrdered
    (hSound : w.ConfigSound H)
    (hOrdered : ProjectionOrdered (configRecord H w))
    (hRun : Run (Step H) w history w') :
    ProjectionOrdered (configRecord H w') := by
  refine hRun.preserves
    (fun _ state =>
      ProjectionOrdered (configRecord H state))
    hOrdered ?_
  intro history last hFront hSource
  exact (projection_step (run_configSound hSound hFront)
    last.valid).2 hSource

/- Identities stay behind the registry along a run. -/
theorem run_projectionLive
    (hFresh : w.Fresh)
    (hSound : w.ConfigSound H)
    (hRun : Run (Step H) w history w') :
    ProjectionLive H w' := by
  refine hRun.preserves
    (fun _ state => ProjectionLive H state) ?_ ?_
  · intro wallet stored hStored
    rw [hFresh.ledger_eq] at hStored
    cases hStored
  · intro history last hFront hLive
    exact projection_live_step hFresh hFront
      (run_configSound hSound hFront)
      (run_raisesProjection hSound hFront) hLive

/-
  From any documented layout with versions (0, 0) and without
  identities: the window is sound in every reachable state,
  and no call has ever lowered it.
-/
theorem projectionWindow_run
    (hFresh : w.Fresh)
    (hSound : w.ConfigSound H)
    (hCurrent :
      (configRecord H w).currentProjectionVersion = 0)
    (hMinimum :
      (configRecord H w).minimumSupportedProjectionVersion =
        0)
    (hRun : Run (Step H) w history w') :
    ProjectionWindow H w' ∧
      ∀ event : Event H,
        event ∈ history → event.RaisesProjection := by
  have hStart : ProjectionOrdered (configRecord H w) := by
    rw [ProjectionOrdered, hCurrent, hMinimum]
    exact UInt16.le_refl 0
  have hOrdered := run_projectionOrdered hSound hStart hRun
  have hLive := run_projectionLive hFresh hSound hRun
  have hLayout := (run_configSound hSound hRun).layout
  refine ⟨⟨hOrdered, ?_, ?_, hLive, ?_⟩, ?_⟩
  · exact registry_readProjectionVersions_eq hLayout
      hOrdered
  · exact readProjectionPolicy_eq hLayout hOrdered
  · intro wallet stored hStored
    have hBelow :
        stored.projectionVersion ≤
          (recordProjection (configRecord H w')).current :=
      hLive wallet stored hStored
    exact validateIdentityProjection_eq hBelow
  · intro event hEvent
    rcases List.mem_iff_getElem?.mp hEvent with ⟨i, hIndex⟩
    exact run_raisesProjection hSound (hRun.source hIndex)

end Entros

------------------------------------------------------------
-- A Round Trip
------------------------------------------------------------

namespace Entros

open Foundations
open Registry

theorem projectionWindow_roundTrip :
    ∃ (history : List (Event Sample.tables.host))
      (w' : World),
      Run (Step Sample.tables.host) .funded history w' ∧
        history.map Transition.label = Sample.roundTrip ∧
          ProjectionWindow Sample.tables.host w' ∧
            ∀ event : Event Sample.tables.host,
              event ∈ history → event.RaisesProjection := by
  rcases Sample.roundTrip_run with
    ⟨history, w', hRun, hLabels⟩
  have hSound :
      World.funded.ConfigSound Sample.tables.host :=
    ⟨by decide, by decide⟩
  have hRecord :
      configRecord Sample.tables.host .funded = .zero :=
    recordOf_nil
  exact ⟨history, w', hRun, hLabels,
    projectionWindow_run funded_fresh hSound
      (by rw [hRecord]; rfl) (by rw [hRecord]; rfl) hRun⟩

end Entros
