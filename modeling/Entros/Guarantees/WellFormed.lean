import Entros.Anchor.Bins
import Entros.Anchor.Ring
import Entros.Guarantees.Cooldowns

/-
  What the fields of a live identity say about each other in
  every reachable state.

  Key definitions include:
    * `Coherent`
    * `WellFormed`

  Key theorems include:
    * `Evolution.coherent`
    * `run_coherent`
    * `Evolution.trustScore`
    * `identities_wellFormed`
-/

------------------------------------------------------------
-- Times
------------------------------------------------------------

namespace Entros

open Foundations
open Anchor

/-
  The times in an identity fit together: `times` are those
  its ring has recorded since the mint or the last reset.
-/
structure Coherent
    (now : Int64)
    (identity : IdentityState)
    (times : List Int64) : Prop where
  keeps : Keeps identity.recentTimestamps times
  recent :
    ∀ time, time ∈ times →
      identity.creationTimestamp ≤ time ∧
        identity.lastResetTimestamp ≤ time ∧
          time ≤ identity.lastVerificationTimestamp
  counted : times.length ≤ identity.verificationCount.toNat
  started : times = [] → identity.verificationCount = 0
  created :
    identity.creationTimestamp ≤
      identity.lastVerificationTimestamp
  reset :
    identity.lastResetTimestamp ≤
      identity.lastVerificationTimestamp
  rebaselined :
    identity.lastRebaselineTimestamp ≤
      identity.lastVerificationTimestamp
  past : identity.lastVerificationTimestamp ≤ now

namespace Coherent

variable {H : Host} {now now' : Int64}
variable {identity : IdentityState} {times : List Int64}

theorem later
    (hCoherent : Coherent now identity times)
    (hNow : now ≤ now') :
    Coherent now' identity times where
  keeps := hCoherent.keeps
  recent := hCoherent.recent
  counted := hCoherent.counted
  started := hCoherent.started
  created := hCoherent.created
  reset := hCoherent.reset
  rebaselined := hCoherent.rebaselined
  past := Int64.le_trans hCoherent.past hNow

/- Only the wallet changes in a migration. -/
theorem migrated
    (hCoherent : Coherent now identity times)
    (wallet : Pubkey) :
    Coherent now (migratedIdentity H wallet identity)
      times :=
  { hCoherent with }

theorem authorized
    (hCoherent : Coherent now identity times)
    (newWallet : Pubkey) :
    Coherent now { identity with newWallet := newWallet }
      times :=
  { hCoherent with }

/- A mint starts with empty records. -/
theorem minted
    (wallet : Pubkey)
    (commitment : Bytes 32)
    (projectionVersion : UInt16)
    (hNow : 0 ≤ now) :
    Coherent now
      (mintedIdentity H wallet now commitment
        projectionVersion) [] where
  keeps := .empty
  recent := by simp
  counted := Nat.zero_le _
  started := fun _ => rfl
  created := Int64.le_refl now
  reset := hNow
  rebaselined := hNow
  past := Int64.le_refl now

/- A reset clears the records. -/
theorem wiped
    (hCoherent : Coherent now identity times)
    (commitment : Bytes 32)
    (projectionVersion : UInt16)
    (hNow : now ≤ now') :
    Coherent now'
      (resetIdentity identity now' commitment
        projectionVersion) [] where
  keeps := .empty
  recent := by simp
  counted := Nat.zero_le _
  started := fun _ => rfl
  created :=
    Int64.le_trans hCoherent.created
      (Int64.le_trans hCoherent.past hNow)
  reset := Int64.le_refl now'
  rebaselined :=
    Int64.le_trans hCoherent.rebaselined
      (Int64.le_trans hCoherent.past hNow)
  past := Int64.le_refl now'

/- A rebaseline counts as a verification without a record. -/
theorem renewed
    (hCoherent : Coherent now identity times)
    (commitment : Bytes 32)
    (projectionVersion : UInt16)
    (hNow : now ≤ now') :
    Coherent now'
      (rebaselinedIdentity identity now' commitment
        projectionVersion) times where
  keeps := hCoherent.keeps
  recent := by
    intro time hTime
    rcases hCoherent.recent time hTime with
      ⟨hCreated, hReset, hLast⟩
    exact ⟨hCreated, hReset,
      Int64.le_trans hLast
        (Int64.le_trans hCoherent.past hNow)⟩
  counted := hCoherent.counted
  started := hCoherent.started
  created :=
    Int64.le_trans hCoherent.created
      (Int64.le_trans hCoherent.past hNow)
  reset :=
    Int64.le_trans hCoherent.reset
      (Int64.le_trans hCoherent.past hNow)
  rebaselined := Int64.le_refl now'
  past := Int64.le_refl now'

/- An update records its time, or skips it. -/
theorem updated
    {commitmentNew : Bytes 32}
    {config : UpdateConfig}
    {rewritten : IdentityState}
    (hCoherent : Coherent now identity times)
    (hNow : now ≤ now')
    (hPositive : 0 < now')
    (hUpdated :
      updatedIdentity identity now' commitmentNew config =
        .ok rewritten) :
    Coherent now' rewritten (recorded now' times) := by
  have hLast : identity.lastVerificationTimestamp ≤ now' :=
    Int64.le_trans hCoherent.past hNow
  have hNonzero : now' ≠ 0 := by
    rintro rfl
    exact absurd hPositive (by decide)
  rcases updatedIdentity_eq_ok hUpdated with
    ⟨count, score, hCount, rfl⟩
  have hNext : count.toNat =
      identity.verificationCount.toNat + 1 :=
    toNat_checkedAdd32 hCount
  have hCreated :
      identity.creationTimestamp ≤ now' :=
    Int64.le_trans hCoherent.created hLast
  have hReset :
      identity.lastResetTimestamp ≤ now' :=
    Int64.le_trans hCoherent.reset hLast
  refine {
    keeps := hCoherent.keeps.record hNonzero
    recent := ?_
    counted := ?_
    started := fun hNone =>
      absurd hNone (recorded_ne_nil now' times)
    created := hCreated
    reset := hReset
    rebaselined :=
      Int64.le_trans hCoherent.rebaselined hLast
    past := Int64.le_refl now' }
  · intro time hTime
    rcases mem_recorded hTime with rfl | hOld
    · exact ⟨hCreated, hReset, Int64.le_refl _⟩
    · rcases hCoherent.recent time hOld with
        ⟨hFirst, hSecond, hThird⟩
      exact ⟨hFirst, hSecond, Int64.le_trans hThird hLast⟩
  · have hLength := length_recorded_le now' times
    have hBefore := hCoherent.counted
    change (recorded now' times).length ≤ count.toNat
    omega

end Coherent

variable {H : Host} {config : Account} {call : Call H}
variable {wallet : Pubkey} {stored stored' : IdentityState}
variable {now : Int64} {times : List Int64}

/- Every call keeps identities coherent. -/
theorem Evolution.coherent
    (hEvolution :
      Evolution H config call wallet stored stored')
    (hCoherent : Coherent now stored times)
    (hNow : now ≤ call.now)
    (hPositive : 0 < call.now) :
    ∃ times', Coherent call.now stored' times' := by
  have hLater := hCoherent.later hNow
  cases hEvolution with
  | kept => exact ⟨times, hLater⟩
  | authorized signer signerNew =>
      exact ⟨times, hLater.authorized signerNew.key⟩
  | migrated => exact ⟨times, hLater.migrated wallet⟩
  | updated _ _ _ _ _ _ hUpdated =>
      exact ⟨_, hCoherent.updated hNow hPositive hUpdated⟩
  | reset commitment lifecycle =>
      exact ⟨[], hCoherent.wiped commitment _ hNow⟩
  | rebaselined commitment lifecycle =>
      exact ⟨times, hCoherent.renewed commitment _ hNow⟩

end Entros

------------------------------------------------------------
-- Coherent Identities
------------------------------------------------------------

namespace Entros

open Foundations
open Anchor

variable {H : Host} {w w' : World}
variable {history : List (Event H)}

/- Every call happens at a positive time. -/
def PositiveTimes (history : List (Event H)) : Prop :=
  ∀ event : Event H, event ∈ history → 0 < event.now

/- No call happens after the time. -/
def Before
    (history : List (Event H))
    (now : Int64) : Prop :=
  ∀ event : Event H, event ∈ history → event.now ≤ now

/- The identities of a state are coherent at any later time. -/
def AllCoherent
    (H : Host)
    (history : List (Event H))
    (w : World) : Prop :=
  ∀ wallet stored now,
    (w.ledger H).identity wallet = some stored →
      Before history now →
        ∃ times, Coherent now stored times

theorem run_coherent
    (hFresh : w.Fresh)
    (hClock : Clocked history)
    (hPositive : PositiveTimes history)
    (hRun : Run (Step H) w history w') :
    AllCoherent H history w' := by
  refine hRun.preserves
    (fun history state =>
      Clocked history → PositiveTimes history →
        AllCoherent H history state) ?_ ?_ hClock hPositive
  · intro _ _ wallet stored now hStored
    rw [hFresh.ledger_eq] at hStored
    cases hStored
  · intro history last hFront hSource hClock hPositive wallet
      stored now hStored hBefore
    have hLast : last ∈ history ++ [last] :=
      List.mem_append_right _ (List.mem_singleton_self last)
    have hNow : last.label.now ≤ now := hBefore last hLast
    have hStart : 0 < last.label.now := hPositive last hLast
    cases run_identityOrigin hFresh hFront hStored with
    | minted commitment lifecycle =>
        exact ⟨[],
          (Coherent.minted wallet commitment _
            (Int64.le_of_lt hStart)).later hNow⟩
    | evolved origin before _ _ hStoredBefore hEvolution =>
        have hPast : Before history last.label.now :=
          fun event hEvent => hClock.le_last hEvent
        rcases hSource hClock.front
          (fun event hEvent =>
            hPositive event (List.mem_append_left _ hEvent))
          origin before last.label.now hStoredBefore hPast with
          ⟨times, hCoherent⟩
        rcases hEvolution.coherent hCoherent
          (Int64.le_refl _) hStart with ⟨times', hCoherent'⟩
        exact ⟨times', hCoherent'.later hNow⟩

end Entros

------------------------------------------------------------
-- Scores and Commitments
------------------------------------------------------------

namespace Entros

open Foundations
open Anchor
open Registry

variable {H : Host} {w w' : World}
variable {history : List (Event H)}
variable {config : Account} {call : Call H}
variable {wallet : Pubkey} {stored stored' : IdentityState}

/- A score is inherited, zero, or capped by the record. -/
theorem Evolution.trustScore
    (hDocumented : Documented config.data)
    (hEvolution :
      Evolution H config call wallet stored stored') :
    stored'.trustScore ≤ stored.trustScore ∨
      stored'.trustScore ≤
        (recordOf config.data).maxTrustScore := by
  cases hEvolution with
  | kept => exact .inl (UInt16.le_refl _)
  | authorized => exact .inl (UInt16.le_refl _)
  | migrated => exact .inl (UInt16.le_refl _)
  | updated commitmentNew updateConfig rewritten _ hConfig _
      hUpdated =>
      have hRead :=
        readUpdateConfig_record hDocumented hConfig
      have hMax :
          updateConfig.maxTrustScore =
            (recordOf config.data).maxTrustScore := by
        rw [hRead]
        rfl
      rw [← hMax]
      exact .inr
        (trustScore_le (updatedIdentity_score hUpdated))
  | reset => exact .inl (UInt16.zero_le)
  | rebaselined => exact .inl (UInt16.le_refl _)

/- No call clears a commitment. -/
theorem Evolution.currentCommitment
    (hEvolution :
      Evolution H config call wallet stored stored')
    (hStored : stored.currentCommitment ≠ Bytes.zero 32) :
    stored'.currentCommitment ≠ Bytes.zero 32 := by
  cases hEvolution with
  | kept => exact hStored
  | authorized => exact hStored
  | migrated => exact hStored
  | updated commitmentNew updateConfig rewritten _ _ hNew
      hUpdated =>
      rcases updatedIdentity_eq_ok hUpdated with
        ⟨count, score, _, rfl⟩
      exact hNew
  | reset commitment lifecycle _ hCommitment =>
      exact hCommitment
  | rebaselined commitment lifecycle _ hCommitment =>
      exact hCommitment

/- The cap is set once and for all. -/
theorem ConfigStep.maxTrustScore
    {now : Int64}
    {programData : List UInt8}
    {c c' : ProtocolConfig}
    {instruction : RegistryInstruction}
    (hStep :
      ConfigStep H now programData c instruction c') :
    c.maxTrustScore ≤ c'.maxTrustScore := by
  cases hStep with
  | initializeProtocol _ _ _ _ _ _ _ _ hVacant =>
      subst hVacant
      exact UInt16.zero_le
  | updateProtocolConfig => exact UInt16.le_refl _
  | setValidatorPubkey => exact UInt16.le_refl _
  | rotateValidatorPubkey => exact UInt16.le_refl _
  | setProjectionVersions => exact UInt16.le_refl _
  | proposeAuthority => exact UInt16.le_refl _
  | acceptAuthority => exact UInt16.le_refl _
  | migrateAdmin => exact UInt16.le_refl _
  | apart => exact UInt16.le_refl _

theorem maxTrustScore_step
    {call : Call H}
    (hSound : w.ConfigSound H)
    (hStep : Step H w call w') :
    (configRecord H w).maxTrustScore ≤
      (configRecord H w').maxTrustScore := by
  rcases (config_step hSound hStep).2 with
    ⟨instruction, _, hConfig⟩ | ⟨_, hSame⟩
  · exact hConfig.maxTrustScore
  · rw [hSame]
    exact UInt16.le_refl _

/- What a single identity satisfies besides its times. -/
structure Settled
    (H : Host)
    (w : World)
    (stored : IdentityState) : Prop where
  commitment : stored.currentCommitment ≠ Bytes.zero 32
  score :
    stored.trustScore ≤ (configRecord H w).maxTrustScore

theorem run_settled
    (hFresh : w.Fresh)
    (hSound : w.ConfigSound H)
    (hRun : Run (Step H) w history w')
    (hStored : (w'.ledger H).identity wallet = some stored) :
    Settled H w' stored := by
  refine hRun.preserves
    (fun _ state =>
      ∀ wallet stored,
        (state.ledger H).identity wallet = some stored →
          Settled H state stored) ?_ ?_ wallet stored hStored
  · intro wallet stored hStored
    rw [hFresh.ledger_eq] at hStored
    cases hStored
  · intro history last hFront hSource wallet stored hStored
    have hConfig := run_configSound hSound hFront
    have hGrows := maxTrustScore_step hConfig last.valid
    cases run_identityOrigin hFresh hFront hStored with
    | minted commitment lifecycle _ _ hCommitment =>
        exact ⟨hCommitment, UInt16.zero_le⟩
    | evolved origin before _ _ hBefore hEvolution =>
        have hSettled := hSource origin before hBefore
        refine ⟨hEvolution.currentCommitment
          hSettled.commitment, ?_⟩
        rcases hEvolution.trustScore hConfig.layout with
          hInherited | hCapped
        · exact UInt16.le_trans hInherited
            (UInt16.le_trans hSettled.score hGrows)
        · exact UInt16.le_trans hCapped hGrows

end Entros

------------------------------------------------------------
-- Runs
------------------------------------------------------------

namespace Entros

open Foundations
open Anchor
open Registry

/- The relations between the fields of a live identity. -/
structure WellFormed
    (H : Host)
    (w : World)
    (now : Int64)
    (wallet : Pubkey)
    (stored : IdentityState) : Prop where
  owner : stored.owner = wallet
  mint : stored.mint = mintKey H wallet
  bump : stored.bump = H.canonicalBump (.identity wallet)
  commitment : stored.currentCommitment ≠ Bytes.zero 32
  score :
    stored.trustScore ≤ (configRecord H w).maxTrustScore
  created :
    stored.creationTimestamp ≤
      stored.lastVerificationTimestamp
  past : stored.lastVerificationTimestamp ≤ now
  reset :
    stored.lastResetTimestamp ≤
      stored.lastVerificationTimestamp
  rebaselined :
    stored.lastRebaselineTimestamp ≤
      stored.lastVerificationTimestamp
  recent :
    ∀ time, time ∈ stored.recentTimestamps.toList →
      time ≠ 0 →
        stored.creationTimestamp ≤ time ∧
          stored.lastResetTimestamp ≤ time ∧
            time ≤ stored.lastVerificationTimestamp
  counted :
    (stored.recentTimestamps.toList.filter
        fun time => decide (time ≠ 0)).length ≤
      stored.verificationCount.toNat
  empty :
    stored.recentTimestamps = IdentityState.emptyRing ↔
      stored.verificationCount = 0

variable {H : Host} {w w' : World}
variable {history : List (Event H)}

/-
  In every run from a fresh deployment, with a clock that is
  positive and does not go back, all identities are well
  formed at every time that is not before the last call.
-/
theorem identities_wellFormed
    {now : Int64}
    {wallet : Pubkey}
    {stored : IdentityState}
    (hFresh : w.Fresh)
    (hSound : w.ConfigSound H)
    (hClock : Clocked history)
    (hPositive : PositiveTimes history)
    (hRun : Run (Step H) w history w')
    (hBefore : Before history now)
    (hStored : (w'.ledger H).identity wallet = some stored) :
    WellFormed H w' now wallet stored := by
  have hHeld :=
    run_identitySound hFresh hRun wallet stored hStored
  have hSettled := run_settled hFresh hSound hRun hStored
  rcases run_coherent hFresh hClock hPositive hRun wallet
    stored now hStored hBefore with ⟨times, hCoherent⟩
  refine {
    owner := hHeld.owner
    mint := hHeld.mint
    bump := hHeld.bump
    commitment := hSettled.commitment
    score := hSettled.score
    created := hCoherent.created
    past := hCoherent.past
    reset := hCoherent.reset
    rebaselined := hCoherent.rebaselined
    recent := ?_
    counted := ?_
    empty := ?_ }
  · intro time hTime hNonzero
    have hRecorded :=
      hCoherent.keeps.mem_iff.mp ⟨hTime, hNonzero⟩
    exact hCoherent.recent time
      (List.mem_of_mem_take hRecorded)
  · rw [hCoherent.keeps.filter_eq]
    exact (List.length_take_le' 52 times).trans
      hCoherent.counted
  · rw [hCoherent.keeps.emptyRing_iff]
    constructor
    · exact hCoherent.started
    · intro hZero
      have hLength := hCoherent.counted
      rw [hZero] at hLength
      exact List.length_eq_zero_iff.mp
        (Nat.le_zero.mp hLength)

end Entros

------------------------------------------------------------
-- Updates around a Reset
------------------------------------------------------------

namespace Entros

open Foundations

variable {H : Host}
variable {history : List (Event H)} {calls : List (Call H)}

/- Only the calls decide on the times of a history. -/
theorem times_of_labels
    {p : Int64 → Prop}
    (hLabels : history.map Transition.label = calls)
    (hCalls : ∀ call : Call H, call ∈ calls → p call.now)
    (event : Event H)
    (hEvent : event ∈ history) :
    p event.now := by
  apply hCalls event.label
  rw [← hLabels]
  exact List.mem_map_of_mem hEvent

open UpdateBacking

theorem identities_wellFormed_repeated :
    ∃ (history : List (Event tables.host)) (w' : World)
      (stored : IdentityState),
      Run (Step tables.host) .funded history w' ∧
        history.map Transition.label = repeated ∧
          (w'.ledger tables.host).identity Sample.alice.key =
              some stored ∧
            WellFormed tables.host w' 1700000040
              Sample.alice.key stored := by
  have hReplay :
      (replay .funded repeated).map (fun replayed =>
          ((replayed.2.ledger tables.host).identity
            Sample.alice.key).isSome) = some true := by
    decide +kernel
  rcases exists_run hReplay with
    ⟨history, w', hRun, hLabels, hLive⟩
  rcases Option.isSome_iff_exists.mp hLive with
    ⟨stored, hStored⟩
  have hSound : World.funded.ConfigSound tables.host :=
    ⟨by decide, by decide⟩
  have hClock : Clocked history :=
    clocked_of_labels hLabels (by decide)
  have hPositive : PositiveTimes history :=
    times_of_labels hLabels (by decide)
  have hBefore : Before history 1700000040 :=
    times_of_labels (p := fun time => time ≤ 1700000040)
      hLabels (by decide)
  exact ⟨history, w', stored, hRun, hLabels, hStored,
    identities_wellFormed funded_fresh hSound hClock hPositive
      hRun hBefore hStored⟩

end Entros
