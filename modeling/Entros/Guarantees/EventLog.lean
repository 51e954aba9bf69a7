import Entros.Guarantees.UpdateBacking
import Entros.Guarantees.VaultSolvency
import Entros.System.IndexerSteps

/-
  The event log is complete: whoever reads it from the
  creation of the configuration on knows the configuration,
  the live identities and the open stakes without looking at
  an account.

  Key definitions include:
    * `countsOf`
    * `tally`

  Key theorems include:
    * `run_indexed`
    * `event_follows`
    * `index_follows_log`
    * `counts_tallied`
-/

------------------------------------------------------------
-- Following the Log
------------------------------------------------------------

namespace Entros

open Foundations
open Anchor
open Registry

variable {H : Host} {start w w' : World}
variable {front history : List (Event H)}

/- From the creation of the configuration on. -/
theorem run_indexed
    (hFresh : start.Fresh)
    (hSound : start.ConfigSound H)
    (hUnstaked : start.Unstaked H)
    (hFront : Run (Step H) start front w)
    (hConfigured : (protocolConfig H w).owner = .registry) :
    w.Indexed H where
  config := run_configSound hSound hFront
  configured := hConfigured
  stakes := run_stakesSound hUnstaked hFront
  ledger := run_represents hFresh hFront
  held := run_identitySound hFresh hFront

/- One event takes the index along. -/
theorem event_follows
    (event : Event H)
    (hIndexed : event.source.Indexed H) :
    emitted event.source event.label = .ok event.logs ∧
      Follows (World.index H) Event.logs Index.apply
        (Index.Accepts H) event := by
  rcases step_announces hIndexed event.valid with
    ⟨log, hEmitted, hAnnounces⟩
  have hLogs : event.logs = log := by
    unfold Event.logs
    rw [hEmitted]
    rfl
  refine ⟨hEmitted.trans (congrArg Except.ok hLogs.symm),
    ?_, ?_⟩
  · rw [hLogs]
    exact hAnnounces.image
  · rw [hLogs]
    exact hAnnounces.accepted

theorem event_indexed
    {event : Event H}
    (hIndexed : w.Indexed H)
    (hRun : Run (Step H) w history w')
    (hEvent : event ∈ history) :
    event.source.Indexed H := by
  rcases List.mem_iff_getElem?.mp hEvent with ⟨i, hIndex⟩
  exact (hRun.source hIndex).preserves
    (fun _ state => state.Indexed H) hIndexed
    fun _ last _ hBefore => hBefore.step last.valid

/-
  Nothing is changed in silence and nothing is announced in
  vain: every successful call has its entries, they stand
  only where they can follow what has been announced before,
  and applied in their order they lead from what the accounts
  showed to what they show now.
-/
theorem index_follows_log
    (hFresh : start.Fresh)
    (hSound : start.ConfigSound H)
    (hUnstaked : start.Unstaked H)
    (hFront : Run (Step H) start front w)
    (hConfigured : (protocolConfig H w).owner = .registry)
    (hRun : Run (Step H) w history w') :
    (∀ event ∈ history,
        emitted event.source event.label =
          .ok event.logs) ∧
      w'.index H =
          (logOf Event.logs history).foldl Index.apply
            (w.index H) ∧
        Accepted Index.apply (Index.Accepts H) (w.index H)
          (logOf Event.logs history) := by
  have hIndexed :=
    run_indexed hFresh hSound hUnstaked hFront hConfigured
  constructor
  · intro event hEvent
    exact (event_follows event
      (event_indexed hIndexed hRun hEvent)).1
  · apply hRun.follows (fun state => state.Indexed H)
      hIndexed
    intro last hBefore
    exact ⟨hBefore.step last.valid,
      (event_follows last hBefore).2⟩

end Entros

------------------------------------------------------------
-- A Sample Log
------------------------------------------------------------

namespace Entros

open Foundations
open Anchor

namespace EventLog

open Sample (alice commitmentPrev commitmentNew nonce)
open UpdateBacking (tables repeated)

theorem funded_configSound :
    World.funded.ConfigSound tables.host where
  owner := by decide
  layout := by decide

theorem funded_unstaked :
    World.funded.Unstaked tables.host :=
  ⟨by decide, fun _ => rfl⟩

/- The configuration first, and what follows it. -/
def configured : List (Call tables.host) := repeated.take 1
def performed : List (Call tables.host) := repeated.drop 1

def performedLog : List Log :=
  [.anchorMinted alice.key (mintKey tables.host alice.key)
      commitmentPrev,
    .verificationComplete alice.key true (nonce 1),
    .verificationComplete alice.key true (nonce 2),
    .anchorUpdated alice.key 1 100 commitmentNew,
    .anchorReset alice.key (mintKey tables.host alice.key)
      commitmentPrev,
    .anchorUpdated alice.key 1 100 commitmentNew]

/- The two parts of the run and what the second one emits. -/
theorem performed_runs :
    ∃ (front history : List (Event tables.host))
        (w w' : World),
      Run (Step tables.host) .funded front w ∧
        (protocolConfig tables.host w).owner = .registry ∧
          Run (Step tables.host) w history w' ∧
            logOf Event.logs history = performedLog ∧
              ((w'.ledger tables.host).identity
                alice.key).isSome := by
  have hReplay :
      (replay .funded configured).map (fun replayed =>
          (decide ((protocolConfig tables.host
              replayed.2).owner = .registry),
            (replay replayed.2 performed).map fun replayed =>
              (logOf Event.logs replayed.1,
                ((replayed.2.ledger tables.host).identity
                  alice.key).isSome))) =
        some (true, some (performedLog, true)) := by
    decide +kernel
  rcases exists_run hReplay with
    ⟨front, w, hFront, _, hValues⟩
  rcases Prod.mk.inj hValues with ⟨hConfigured, hSecond⟩
  rcases exists_run hSecond with
    ⟨history, w', hRun, _, hLog⟩
  rcases Prod.mk.inj hLog with ⟨hLog, hLive⟩
  exact ⟨front, history, w, w', hFront,
    of_decide_eq_true hConfigured, hRun, hLog, hLive⟩

end EventLog

open EventLog
open UpdateBacking (tables)

theorem index_follows_log_performed :
    ∃ (history : List (Event tables.host)) (w w' : World),
      Run (Step tables.host) w history w' ∧
        (∀ event ∈ history,
            emitted event.source event.label =
              .ok event.logs) ∧
          w'.index tables.host =
              performedLog.foldl Index.apply
                (w.index tables.host) ∧
            Accepted Index.apply (Index.Accepts tables.host)
              (w.index tables.host) performedLog := by
  rcases performed_runs with
    ⟨front, history, w, w', hFront, hConfigured, hRun, hLog,
      _⟩
  have hFollows := index_follows_log funded_fresh
    funded_configSound funded_unstaked hFront hConfigured hRun
  rw [hLog] at hFollows
  exact ⟨history, w, w', hRun, hFollows⟩

end Entros

------------------------------------------------------------
-- Counting Updates
------------------------------------------------------------

namespace Entros

open Foundations
open Anchor
open EventLog
open UpdateBacking (tables)

/- The counts that the accounts show. -/
def countsOf
    (profile : Pubkey → Option Profile)
    (wallet : Pubkey) : ℕ :=
  (profile wallet).elim 0 fun profile =>
    profile.verificationCount.toNat

/-
  Count update entries along each lineage, from its last
  mint or reset on.  The counts in the entries do not matter.
-/
def tally (counts : Pubkey → ℕ) : Log → Pubkey → ℕ
| .anchorMinted owner _ _ => Function.update counts owner 0
| .migrateIdentityEvent walletOld walletNew _ _ =>
    Function.update counts walletNew (counts walletOld)
| .anchorUpdated owner _ _ _ =>
    Function.update counts owner (counts owner + 1)
| .anchorReset owner _ _ => Function.update counts owner 0
| _ => counts

/- The counts of the live identities are those tallied. -/
def Tallied
    (counts : Pubkey → ℕ)
    (profile : Pubkey → Option Profile) : Prop :=
  ∀ wallet live,
    profile wallet = some live →
      counts wallet = live.verificationCount.toNat

namespace Tallied

variable {counts : Pubkey → ℕ}
variable {profile : Pubkey → Option Profile}
variable {wallet : Pubkey} {count : ℕ}

theorem update
    {live : Option Profile}
    (hTallied : Tallied counts profile)
    (hCount :
      ∀ stored, live = some stored →
        count = stored.verificationCount.toNat) :
    Tallied (Function.update counts wallet count)
      (Function.update profile wallet live) := by
  intro other stored hStored
  by_cases hOther : other = wallet
  · subst hOther
    rw [Function.update_self] at hStored ⊢
    exact hCount stored hStored
  · rw [Function.update_of_ne hOther] at hStored ⊢
    exact hTallied other stored hStored

/- An entry that keeps the counts of the profiles it writes. -/
theorem rewrite
    {live : Option Profile}
    (hTallied : Tallied counts profile)
    (hCount :
      ∀ stored, live = some stored →
        counts wallet = stored.verificationCount.toNat) :
    Tallied counts (Function.update profile wallet live) := by
  have hUpdate :
      Tallied
        (Function.update counts wallet (counts wallet))
        (Function.update profile wallet live) :=
    hTallied.update hCount
  rwa [Function.update_eq_self] at hUpdate

/- Every entry that can follow is tallied. -/
theorem apply
    {H : Host}
    {index : Index}
    {entry : Log}
    (hTallied : Tallied counts index.profile)
    (hAccepts : index.Accepts H entry) :
    Tallied (tally counts entry)
      (index.apply entry).profile := by
  cases entry with
  | anchorMinted owner mint commitment =>
      apply hTallied.update
      intro stored hStored
      rw [← Option.some.inj hStored]
      rfl
  | migrateIdentityEvent walletOld walletNew _ _ =>
      apply Tallied.rewrite
      · exact hTallied.update fun stored hStored =>
          hTallied walletOld stored hStored
      · exact nofun
  | anchorUpdated owner count score commitment =>
      rcases hAccepts with ⟨live, hLive, hCount, _⟩
      apply hTallied.update
      intro stored hStored
      rw [hLive] at hStored
      rw [← Option.some.inj hStored, hTallied owner live hLive]
      exact (toNat_checkedAdd32 hCount).symm
  | anchorReset owner mint commitment =>
      apply hTallied.update
      intro stored hStored
      rw [← Option.some.inj hStored]
      rfl
  | anchorRebaselined owner commitment version =>
      apply hTallied.rewrite
      intro stored hStored
      rcases Option.map_eq_some_iff.mp hStored with
        ⟨live, hLive, rfl⟩
      exact hTallied owner live hLive
  | _ => exact hTallied

end Tallied

variable {H : Host} {start w w' : World}
variable {front history : List (Event H)}
variable {wallet : Pubkey} {identity : IdentityState}

/-
  The verification count of a live identity is the number of
  updates announced for it since it was last minted or reset,
  whatever wallets it has lived in; what the identity had when
  the log was opened is counted with them.
-/
theorem counts_tallied
    (hFresh : start.Fresh)
    (hSound : start.ConfigSound H)
    (hUnstaked : start.Unstaked H)
    (hFront : Run (Step H) start front w)
    (hConfigured : (protocolConfig H w).owner = .registry)
    (hRun : Run (Step H) w history w')
    (hLive :
      (w'.ledger H).identity wallet = some identity) :
    identity.verificationCount.toNat =
      (logOf Event.logs history).foldl tally
        (countsOf (w.index H).profile) wallet := by
  have hIndexed :=
    run_indexed hFresh hSound hUnstaked hFront hConfigured
  rcases hRun.follows (fun state => state.Indexed H) hIndexed
      (fun last hBefore =>
        ⟨hBefore.step last.valid,
          (event_follows last hBefore).2⟩) with
    ⟨hImage, hAccepted⟩
  have hTallied :
      Tallied
        ((logOf Event.logs history).foldl tally
          (countsOf (w.index H).profile))
        ((logOf Event.logs history).foldl Index.apply
          (w.index H)).profile := by
    refine hAccepted.preserves
      (fun log index =>
        Tallied
          (log.foldl tally (countsOf (w.index H).profile))
          index.profile)
      ?_ ?_
    · intro other live hOther
      rw [List.foldl_nil, countsOf, hOther]
      rfl
    · intro log index entry hBefore hAccepts
      rw [List.foldl_append]
      exact hBefore.apply hAccepts
  rw [← hImage] at hTallied
  exact (hTallied wallet _ (profilesOf_some hLive)).symm

theorem counts_tallied_performed :
    ∃ (w w' : World) (identity : IdentityState),
      (w'.ledger tables.host).identity Sample.alice.key =
          some identity ∧
        identity.verificationCount.toNat =
          performedLog.foldl tally
            (countsOf (w.index tables.host).profile)
            Sample.alice.key := by
  rcases performed_runs with
    ⟨front, history, w, w', hFront, hConfigured, hRun, hLog,
      hSome⟩
  rcases Option.isSome_iff_exists.mp hSome with
    ⟨identity, hLive⟩
  have hCount := counts_tallied funded_fresh
    funded_configSound funded_unstaked hFront hConfigured
    hRun hLive
  rw [hLog] at hCount
  exact ⟨w, w', identity, hLive, hCount⟩

end Entros
