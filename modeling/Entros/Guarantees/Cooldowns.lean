import Entros.Guarantees.Lineage
import Entros.Guarantees.ProjectionWindow
import Entros.Guarantees.UpdateBacking

/-
  Cooldowns and projection versions belong to a lineage: they
  hold between any two calls on the same identity, however
  often it has changed its wallet in between.

  Key definitions include:
    * `Event.ActsOn`
    * `Stamps`
    * `Dated`
    * `CooldownsFollow`

  Key theorems include:
    * `dated_run`
    * `spaced_of_cooldown`
    * `versions_run`
    * `cooldowns_follow`
-/

------------------------------------------------------------
-- Clocks
------------------------------------------------------------

namespace Entros

open Foundations

variable {H : Host}
variable {history : List (Event H)}
variable {event last : Event H}

theorem Clocked.front
    (hClock : Clocked (history ++ [last])) :
    Clocked history :=
  (List.pairwise_append.mp hClock).1

theorem Clocked.le_last
    (hClock : Clocked (history ++ [last]))
    (hEvent : event ∈ history) :
    event.now ≤ last.now :=
  (List.pairwise_append.mp hClock).2.2 event hEvent last
    (List.mem_singleton_self last)

theorem Clocked.take
    (hClock : Clocked history)
    (i : ℕ) :
    Clocked (history.take i) :=
  List.Pairwise.sublist (List.take_sublist i history) hClock

theorem Clocked.le_of_take
    {i : ℕ}
    {earlier : Event H}
    (hClock : Clocked history)
    (hEvent : history[i]? = some event)
    (hEarlier : earlier ∈ history.take i) :
    earlier.now ≤ event.now := by
  have hTake := hClock.take (i + 1)
  rw [List.take_add_one, hEvent] at hTake
  exact hTake.le_last hEarlier

end Entros

------------------------------------------------------------
-- Acting on a Lineage
------------------------------------------------------------

namespace Entros

open Foundations
open Anchor

variable {H : Host}

/-
  After the history `past`, the event acts on the identity of
  a wallet that holds the lineage.
-/
def Event.ActsOn
    (kind : Instruction → Option Pubkey)
    (past : List (Event H))
    (event : Event H)
    (lineage : ℕ) : Prop :=
  ∃ wallet,
    kind event.instruction = some wallet ∧
      (lineages past).holder wallet = some lineage

/-
  A time stored in identities: calls of the kind set it to
  the current time, all others carry it on or set it too.
-/
structure Stamps
    (H : Host)
    (kind : Instruction → Option Pubkey)
    (stamp : IdentityState → Int64) : Prop where
  rewrites :
    ∀ instruction wallet,
      kind instruction = some wallet →
        instruction.rewrites = some wallet
  acted :
    ∀ config (call : Call H) wallet stored stored',
      Evolution H config call wallet stored stored' →
        kind call.instruction = some wallet →
          stamp stored' = call.now
  kept :
    ∀ config (call : Call H) wallet stored stored',
      Evolution H config call wallet stored stored' →
        stamp stored' = stamp stored ∨
          stamp stored' = call.now

/- No call of the kind is later than the stored time. -/
def Dated
    (kind : Instruction → Option Pubkey)
    (stamp : IdentityState → Int64)
    (history : List (Event H))
    (w : World) : Prop :=
  ∀ wallet stored lineage,
    (w.ledger H).identity wallet = some stored →
      (lineages history).holder wallet = some lineage →
        ∀ k (event : Event H),
          history[k]? = some event →
            event.ActsOn kind (history.take k) lineage →
              event.now ≤ stamp stored

variable {kind : Instruction → Option Pubkey}
variable {stamp : IdentityState → Int64}
variable {w w' : World}
variable {history : List (Event H)}
variable {last : Event H}
variable {lineage : ℕ} {wallet : Pubkey}

/- A lineage that has been acted on is not a new one. -/
theorem Event.ActsOn.lt
    {past : List (Event H)}
    {event : Event H}
    (hActs : event.ActsOn kind past lineage) :
    lineage < past.length := by
  rcases hActs with ⟨wallet, _, hHolder⟩
  exact follow_lt Event.motion past hHolder

/- The holder of a lineage that a mint has just begun. -/
theorem holder_of_birth
    (hMotion : last.motion = .birth wallet)
    (hHolder :
      (lineages (history ++ [last])).holder wallet =
        some lineage) :
    lineage = history.length := by
  rw [lineages, follow_snoc, hMotion] at hHolder
  simp only [Placement.apply, Function.update_self]
    at hHolder
  rw [← Option.some.inj hHolder]
  exact follow_count Event.motion history

/- The lineage that a wallet inherits in a step. -/
theorem holder_of_inherits
    {origin : Pubkey}
    (hInherits : last.label.instruction.Inherits origin wallet)
    (hHolder :
      (lineages (history ++ [last])).holder wallet =
        some lineage) :
    (lineages history).holder origin = some lineage := by
  rw [lineages, follow_snoc] at hHolder
  exact (hInherits _).symm.trans hHolder

/- Positions of a longer history, seen from the shorter. -/
theorem take_snoc_of_some
    {k : ℕ}
    {event : Event H}
    (hEvent : history[k]? = some event) :
    (history ++ [last]).take k = history.take k := by
  have hIndex := (List.getElem?_eq_some_iff.mp hEvent).1
  exact List.take_append_of_le_length hIndex.le

theorem take_snoc_self :
    (history ++ [last]).take history.length = history :=
  List.take_left

/- A call that rewrites an identity in place moves none. -/
theorem Stamps.stay
    {instruction : Instruction}
    (hStamps : Stamps H kind stamp)
    (hKind : kind instruction = some wallet) :
    instruction.motion = .stay :=
  Instruction.motion_of_rewrites
    (hStamps.rewrites instruction wallet hKind)

/- One step keeps identities dated. -/
theorem dated_step
    (hStamps : Stamps H kind stamp)
    (hFresh : w.Fresh)
    (hRun : Run (Step H) w history last.source)
    (hClock : Clocked (history ++ [last]))
    (hDated : Dated kind stamp history last.source) :
    Dated kind stamp (history ++ [last]) last.target := by
  intro wallet stored' lineage hStored hHolder k event hEvent
    hActs
  cases run_identityOrigin hFresh hRun hStored with
  | minted commitment lifecycle hMotion =>
      -- nothing can have acted on the lineage before
      have hNew := holder_of_birth hMotion hHolder
      rcases getElem?_snoc_cases hEvent with
        hOld | ⟨rfl, rfl⟩
      · rw [take_snoc_of_some hOld] at hActs
        have hLt := hActs.lt
        rw [List.length_take] at hLt
        omega
      · rcases hActs with ⟨actor, hKind, _⟩
        have hClash : Motion.birth wallet = .stay :=
          hMotion.symm.trans (hStamps.stay hKind)
        cases hClash
  | evolved origin stored _ hInherits hBefore hEvolution =>
      have hOrigin := holder_of_inherits hInherits hHolder
      rcases getElem?_snoc_cases hEvent with
        hOld | ⟨rfl, rfl⟩
      · rw [take_snoc_of_some hOld] at hActs
        have hPast := hDated origin stored lineage hBefore
          hOrigin k event hOld hActs
        rcases hStamps.kept _ _ _ _ _ hEvolution with
          hKept | hNow
        · rw [hKept]
          exact hPast
        · rw [hNow]
          exact hClock.le_last (List.mem_of_getElem? hOld)
      · rw [take_snoc_self] at hActs
        rcases hActs with ⟨actor, hKind, hActor⟩
        have hSame : wallet = actor := by
          have hStay := hStamps.stay hKind
          have hWallet :
              (lineages history).holder wallet =
                some lineage :=
            holder_of_inherits
              (Instruction.inherits_of_stay hStay wallet)
              hHolder
          exact follow_injective Event.motion history hWallet
            hActor
        subst hSame
        rw [hStamps.acted _ _ _ _ _ hEvolution hKind]
        exact Int64.le_refl _

/- Identities are dated in every reachable state. -/
theorem dated_run
    (hStamps : Stamps H kind stamp)
    (hFresh : w.Fresh)
    (hClock : Clocked history)
    (hRun : Run (Step H) w history w') :
    Dated kind stamp history w' := by
  refine hRun.preserves
    (fun history state =>
      Clocked history → Dated kind stamp history state)
    ?_ ?_ hClock
  · intro _ wallet stored lineage hStored
    rw [hFresh.ledger_eq] at hStored
    cases hStored
  · intro history last hFront hDated hClock
    exact dated_step hStamps hFresh hFront hClock
      (hDated hClock.front)

end Entros

------------------------------------------------------------
-- Resets and Rebaselines
------------------------------------------------------------

namespace Entros

open Foundations
open Anchor

namespace Instruction

variable {instruction : Instruction} {wallet : Pubkey}

theorem resets_eq_some
    (hResets : instruction.resets = some wallet) :
    ∃ authority remainingAccounts commitment
      projectionVersion,
      instruction =
          .anchor (.resetIdentityState authority
            remainingAccounts commitment
            projectionVersion) ∧
        authority.key = wallet := by
  unfold resets at hResets
  split at hResets
  · exact ⟨_, _, _, _, rfl, Option.some.inj hResets⟩
  · cases hResets

theorem rebaselines_eq_some
    (hRebaselines : instruction.rebaselines = some wallet) :
    ∃ authority remainingAccounts commitment
      projectionVersion,
      instruction =
          .anchor (.rebaselineAnchor authority
            remainingAccounts commitment
            projectionVersion) ∧
        authority.key = wallet := by
  unfold rebaselines at hRebaselines
  split at hRebaselines
  · exact ⟨_, _, _, _, rfl, Option.some.inj hRebaselines⟩
  · cases hRebaselines

end Instruction

variable {H : Host} {config : Account} {call : Call H}
variable {wallet : Pubkey} {stored stored' : IdentityState}

/- What a reset has made of an identity. -/
theorem Evolution.of_resets
    (hEvolution :
      Evolution H config call wallet stored stored')
    (hResets : call.instruction.resets = some wallet) :
    resetCooldownSecs ≤
        saturatingSub call.now stored.lastResetTimestamp ∧
      stored'.lastResetTimestamp = call.now := by
  rcases Instruction.resets_eq_some hResets with
    ⟨authority, _, _, _, hInstruction, _⟩
  cases hEvolution with
  | kept hOther =>
      exact absurd (Instruction.rewrites_of_resets hResets)
        hOther
  | authorized _ _ hOther =>
      rw [hInstruction] at hOther
      cases hOther
  | migrated _ hMotion =>
      rw [hInstruction] at hMotion
      cases hMotion
  | updated _ _ _ hUpdates =>
      rw [hInstruction] at hUpdates
      cases hUpdates
  | reset _ _ _ _ hCooldown => exact ⟨hCooldown, rfl⟩
  | rebaselined _ _ hRebaselines =>
      rw [hInstruction] at hRebaselines
      cases hRebaselines

/- What a rebaseline has made of an identity. -/
theorem Evolution.of_rebaselines
    (hEvolution :
      Evolution H config call wallet stored stored')
    (hRebaselines :
      call.instruction.rebaselines = some wallet) :
    rebaselineCooldownSecs ≤
        saturatingSub call.now
          stored.lastRebaselineTimestamp ∧
      stored'.lastRebaselineTimestamp = call.now ∧
        stored.projectionVersion <
          stored'.projectionVersion := by
  rcases Instruction.rebaselines_eq_some hRebaselines with
    ⟨authority, _, _, _, hInstruction, _⟩
  cases hEvolution with
  | kept hOther =>
      exact absurd
        (Instruction.rewrites_of_rebaselines hRebaselines)
        hOther
  | authorized _ _ hOther =>
      rw [hInstruction] at hOther
      cases hOther
  | migrated _ hMotion =>
      rw [hInstruction] at hMotion
      cases hMotion
  | updated _ _ _ hUpdates =>
      rw [hInstruction] at hUpdates
      cases hUpdates
  | reset _ _ hResets =>
      rw [hInstruction] at hResets
      cases hResets
  | rebaselined _ _ _ _ _ hAdvanced hCooldown =>
      exact ⟨hCooldown, rfl, hAdvanced⟩

/- The time of the last reset. -/
theorem stamps_lastReset :
    Stamps H Instruction.resets
      IdentityState.lastResetTimestamp where
  rewrites := fun _ _ => Instruction.rewrites_of_resets
  acted := fun _ _ _ _ _ hEvolution hResets =>
    (hEvolution.of_resets hResets).2
  kept := by
    intro config call wallet stored stored' hEvolution
    cases hEvolution with
    | kept => exact .inl rfl
    | authorized => exact .inl rfl
    | migrated => exact .inl rfl
    | updated _ _ _ _ _ _ hUpdated =>
        rcases updatedIdentity_eq_ok hUpdated with
          ⟨count, score, _, rfl⟩
        exact .inl rfl
    | reset => exact .inr rfl
    | rebaselined => exact .inl rfl

/- The time of the last rebaseline. -/
theorem stamps_lastRebaseline :
    Stamps H Instruction.rebaselines
      IdentityState.lastRebaselineTimestamp where
  rewrites := fun _ _ => Instruction.rewrites_of_rebaselines
  acted := fun _ _ _ _ _ hEvolution hRebaselines =>
    (hEvolution.of_rebaselines hRebaselines).2.1
  kept := by
    intro config call wallet stored stored' hEvolution
    cases hEvolution with
    | kept => exact .inl rfl
    | authorized => exact .inl rfl
    | migrated => exact .inl rfl
    | updated _ _ _ _ _ _ hUpdated =>
        rcases updatedIdentity_eq_ok hUpdated with
          ⟨count, score, _, rfl⟩
        exact .inl rfl
    | reset => exact .inl rfl
    | rebaselined => exact .inr rfl

end Entros

------------------------------------------------------------
-- Spacing
------------------------------------------------------------

namespace Entros

open Foundations
open Anchor

variable {H : Host} {w w' : World}
variable {history : List (Event H)}

/-
  Calls of the kind on one lineage are at least 604800
  seconds apart.
-/
def Spaced
    (kind : Instruction → Option Pubkey)
    (history : List (Event H)) : Prop :=
  ∀ i j (earlier later : Event H) lineage,
    i < j →
      history[i]? = some earlier →
        history[j]? = some later →
          earlier.ActsOn kind (history.take i) lineage →
            later.ActsOn kind (history.take j) lineage →
              earlier.now.toInt + 604800 ≤ later.now.toInt

/- An element of a history before position `j`. -/
theorem getElem?_take_of_before
    {i j : ℕ}
    {event : Event H}
    (hBefore : i < j)
    (hEvent : history[i]? = some event) :
    (history.take j)[i]? = some event := by
  rw [List.getElem?_take_of_lt hBefore]
  exact hEvent

theorem take_take_of_before
    {i j : ℕ}
    (hBefore : i < j) :
    (history.take j).take i = history.take i := by
  rw [List.take_take, Nat.min_eq_left hBefore.le]

/- A cooldown on the stored time spaces the calls. -/
theorem spaced_of_cooldown
    {kind : Instruction → Option Pubkey}
    {stamp : IdentityState → Int64}
    (hStamps : Stamps H kind stamp)
    (hCooldown :
      ∀ config (call : Call H) wallet stored stored',
        Evolution H config call wallet stored stored' →
          kind call.instruction = some wallet →
            (604800 : Int64) ≤
              saturatingSub call.now (stamp stored))
    (hFresh : w.Fresh)
    (hClock : Clocked history)
    (hRun : Run (Step H) w history w') :
    Spaced kind history := by
  intro i j earlier later lineage hBefore hEarlier hLater
    hActs hActs'
  have hFront := hRun.source hLater
  rcases hActs' with ⟨wallet, hKind, hHolder⟩
  rcases (run_step hFresh hFront).evolution
    (hStamps.rewrites _ _ hKind) with
    ⟨stored, stored', hStored, _, hEvolution⟩
  have hWait :=
    hCooldown _ _ _ _ _ hEvolution hKind
  rw [le_saturatingSub_iff (by decide)] at hWait
  have hDated :=
    dated_run hStamps hFresh (hClock.take j) hFront
  rw [← take_take_of_before hBefore] at hActs
  have hStamp := hDated wallet stored lineage hStored
    hHolder i earlier
    (getElem?_take_of_before hBefore hEarlier) hActs
  rw [Int64.le_iff_toInt_le] at hStamp
  have hSeconds : (604800 : Int64).toInt = 604800 := rfl
  change earlier.now.toInt + 604800 ≤ later.label.now.toInt
  omega

end Entros

------------------------------------------------------------
-- Versions
------------------------------------------------------------

namespace Entros

open Foundations
open Anchor
open Registry

variable {H : Host} {w w' : World}
variable {history : List (Event H)}

/-
  Every identity that once carried a lineage had at most the
  version of the identity that carries it now.
-/
def VersionsGrow
    (history : List (Event H))
    (w : World) : Prop :=
  ∀ k (event : Event H) wallet stored wallet' stored' lineage,
    history[k]? = some event →
      (event.source.ledger H).identity wallet =
          some stored →
        (lineages (history.take k)).holder wallet =
            some lineage →
          (w.ledger H).identity wallet' = some stored' →
            (lineages history).holder wallet' =
                some lineage →
              stored.projectionVersion ≤
                stored'.projectionVersion

theorem versions_step
    {last : Event H}
    (hFresh : w.Fresh)
    (hSound : w.ConfigSound H)
    (hRun : Run (Step H) w history last.source)
    (hGrow : VersionsGrow history last.source) :
    VersionsGrow (history ++ [last]) last.target := by
  intro k event wallet stored wallet' stored' lineage hEvent
    hStored hHolder hStored' hHolder'
  have hLive := run_projectionLive hFresh hSound hRun
  have hLayout := (run_configSound hSound hRun).layout
  cases run_identityOrigin hFresh hRun hStored' with
  | minted commitment lifecycle hMotion =>
      have hNew := holder_of_birth hMotion hHolder'
      have hLt := follow_lt Event.motion _ hHolder
      have hIndex := (List.getElem?_eq_some_iff.mp hEvent).1
      rw [List.length_take] at hLt
      rw [List.length_append, List.length_singleton]
        at hIndex
      omega
  | evolved origin before _ hInherits hBefore hEvolution =>
      have hOrigin := holder_of_inherits hInherits hHolder'
      have hStep :
          before.projectionVersion ≤
            stored'.projectionVersion := by
        rcases hEvolution.projectionVersion hLayout with
          hSame | hCurrent
        · exact UInt16.le_of_eq hSame.symm
        · rw [hCurrent]
          exact hLive origin before hBefore
      rcases getElem?_snoc_cases hEvent with
        hOld | ⟨rfl, rfl⟩
      · rw [take_snoc_of_some hOld] at hHolder
        exact UInt16.le_trans
          (hGrow k event wallet stored origin before lineage
            hOld hStored hHolder hBefore hOrigin)
          hStep
      · rw [take_snoc_self] at hHolder
        have hSame : wallet = origin :=
          follow_injective Event.motion history hHolder
            hOrigin
        subst hSame
        rw [hStored] at hBefore
        cases hBefore
        exact hStep

theorem versions_run
    (hFresh : w.Fresh)
    (hSound : w.ConfigSound H)
    (hRun : Run (Step H) w history w') :
    VersionsGrow history w' := by
  refine hRun.preserves VersionsGrow ?_ ?_
  · intro k event _ _ _ _ _ hEvent
    rw [List.getElem?_nil] at hEvent
    cases hEvent
  · intro history last hFront hGrow
    exact versions_step hFresh hSound hFront hGrow

/- A rebaseline raises the version of the identity. -/
def Event.RebaselineAdvances (event : Event H) : Prop :=
  ∀ wallet,
    event.instruction.rebaselines = some wallet →
      ∃ stored stored',
        (event.source.ledger H).identity wallet =
            some stored ∧
          (event.target.ledger H).identity wallet =
              some stored' ∧
            stored.projectionVersion <
              stored'.projectionVersion

end Entros

------------------------------------------------------------
-- Runs
------------------------------------------------------------

namespace Entros

open Foundations
open Anchor

variable {H : Host} {w w' : World}
variable {history : List (Event H)}

/- What holds along every lineage of a run. -/
structure CooldownsFollow
    (history : List (Event H))
    (w : World) : Prop where
  resets : Spaced Instruction.resets history
  rebaselines : Spaced Instruction.rebaselines history
  advances :
    ∀ event : Event H,
      event ∈ history → event.RebaselineAdvances
  versions : VersionsGrow history w

/-
  In every run with a clock that does not go back, cooldowns
  and versions follow the lineages.
-/
theorem cooldowns_follow
    (hFresh : w.Fresh)
    (hSound : w.ConfigSound H)
    (hClock : Clocked history)
    (hRun : Run (Step H) w history w') :
    CooldownsFollow history w' where
  resets :=
    spaced_of_cooldown stamps_lastReset
      (fun _ _ _ _ _ hEvolution hResets =>
        (hEvolution.of_resets hResets).1)
      hFresh hClock hRun
  rebaselines :=
    spaced_of_cooldown stamps_lastRebaseline
      (fun _ _ _ _ _ hEvolution hRebaselines =>
        (hEvolution.of_rebaselines hRebaselines).1)
      hFresh hClock hRun
  advances := by
    intro event hEvent wallet hRebaselines
    rcases (event_step hFresh hRun hEvent).evolution
      (Instruction.rewrites_of_rebaselines hRebaselines) with
      ⟨stored, stored', hStored, hStored', hEvolution⟩
    exact ⟨stored, stored', hStored, hStored',
      (hEvolution.of_rebaselines hRebaselines).2.2⟩
  versions := versions_run hFresh hSound hRun

end Entros

------------------------------------------------------------
-- Two Resets around a Migration
------------------------------------------------------------

namespace Entros

open Foundations

namespace Cooldowns

open Sample

/- The validator's signature on a reset a week later. -/
def bobReset : Pubkey × Bytes 64 × List UInt8 :=
  (validator,
    Bytes.ofList 64
      [139, 186, 128, 101, 72, 148, 211, 175, 59, 153, 119,
        27, 11, 227, 61, 135, 217, 210, 173, 212, 139, 250,
        77, 41, 69, 20, 213, 148, 20, 117, 121, 241, 234, 14,
        98, 25, 19, 39, 189, 217, 74, 133, 164, 79, 66, 137,
        147, 4, 143, 145, 108, 29, 164, 199, 229, 61, 125,
        151, 196, 76, 204, 95, 120, 6],
    Anchor.receiptV2Domain ++
      [Anchor.ReceiptPurpose.reset.code] ++
      Packed.encode (0 : UInt16) ++ bob.key.toList ++
      commitmentPrev.toList ++
      Packed.encode (1700604830 : Int64))

def tables : Tables where
  requestBound := false
  digests := accountDigests
  addresses := addresses
  proofs := []
  signatures := [aliceMint, UpdateBacking.aliceReset, bobReset]

/- `alice` resets, moves to `bob`, and `bob` resets again. -/
def resetTwice : List (Call tables.host) :=
  [{ now := 1700000000
     tx := tables.alone
     instruction := configure },
    { now := 1700000010
      tx := tables.signed aliceMint (by simp [tables])
      instruction :=
        .anchor (.mintAnchor alice [] commitmentPrev) },
    { now := 1700000030
      tx := tables.signed UpdateBacking.aliceReset
        (by simp [tables])
      instruction :=
        .anchor (.resetIdentityState alice
          [UpdateBacking.receiptAccount] commitmentPrev 0) },
    { now := 1700000040
      tx := tables.alone
      instruction :=
        .anchor (.authorizeNewWallet alice bob) },
    { now := 1700000050
      tx := tables.alone
      instruction :=
        .anchor (.migrateIdentity bob alice.key []) },
    { now := 1700604830
      tx := tables.signed bobReset (by simp [tables])
      instruction :=
        .anchor (.resetIdentityState bob
          [UpdateBacking.receiptAccount] commitmentPrev
          0) }]

end Cooldowns

open Cooldowns

theorem cooldowns_follow_resetTwice :
    ∃ (history : List (Event tables.host)) (w' : World),
      Run (Step tables.host) .funded history w' ∧
        history.map Transition.label = resetTwice ∧
          CooldownsFollow history w' := by
  have hReplay :
      (replay .funded resetTwice).map (fun _ => ()) =
        some () := by
    decide +kernel
  rcases exists_run hReplay with
    ⟨history, w', hRun, hLabels, _⟩
  have hSound : World.funded.ConfigSound tables.host :=
    ⟨by decide, by decide⟩
  have hClock : Clocked history :=
    clocked_of_labels hLabels (by decide)
  exact ⟨history, w', hRun, hLabels,
    cooldowns_follow funded_fresh hSound hClock hRun⟩

end Entros
