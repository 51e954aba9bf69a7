import Entros.System.Counters
import Entros.System.Replay

/-
  In the request-bound build the counter of a wallet is the
  number of its lifecycle steps: it is created once, kept in
  one layout whoever writes it, never lost, and never wraps.

  Key definitions include:
    * `World.counterAt`
    * `CountedBy`
    * `CountersKept`

  Key theorems include:
    * `counterAt_ledger`
    * `CounterMove.read`
    * `countedBy_run`
    * `stops_at_max`
    * `counters_kept`
-/

------------------------------------------------------------
-- Reading Counters
------------------------------------------------------------

namespace Entros

open Foundations
open Anchor

variable {H : Host} {w w' : World} {l : Ledger}
variable {wallet : Pubkey} {counter : UInt64}

/- What `read_counter` finds in the account of a wallet. -/
def World.counterAt
    (H : Host)
    (w : World)
    (wallet : Pubkey) : Option UInt64 :=
  readCounter H (w.accounts (requestAddress H wallet)).data
    wallet (requestBump H wallet)

/-
  The account after so many lifecycle steps: it may be absent
  before the first of them, and otherwise it is the record of
  that wallet, with the counter `read_counter` expects.
-/
inductive CountedBy
    (H : Host)
    (wallet : Pubkey)
    (count : ℕ) :
    Account → Prop
| absent (hNone : count = 0) :
    CountedBy H wallet count .vacant
| stored
    (counter : UInt64)
    (hCount : counter.toNat = count)
    (hRead :
      readCounter H
          (requestAccount H wallet (some counter)).data
          wallet (requestBump H wallet) = some counter) :
    CountedBy H wallet count
      (requestAccount H wallet (some counter))

/- The typed record is what the raw reader expects. -/
theorem readCounter_requestAccount
    (wallet : Pubkey)
    (counter : Option UInt64) :
    readCounter H (requestAccount H wallet counter).data
        wallet (requestBump H wallet) = counter := by
  cases counter with
  | none => exact if_neg (by simp [requestAccount,
      storedAccount, Account.vacant, ProofRequestState.len])
  | some counter =>
      change readCounter H (serialized H _ _) _ _ = _
      rw [readCounter_serialized, if_pos ⟨rfl, rfl, rfl⟩]
      rfl

/- The raw reader agrees with the ledger. -/
theorem counterAt_ledger
    (hRep : Represents H w.accounts l) :
    w.counterAt H wallet = l.counter wallet := by
  rw [World.counterAt, hRep.counter,
    readCounter_requestAccount]

end Entros

------------------------------------------------------------
-- One Call
------------------------------------------------------------

namespace Entros

open Foundations
open Anchor

variable {H : Host} {w w' : World}
variable {wallet : Pubkey} {counter : UInt64}
variable {instruction : Instruction}

/- A counter that exists is incremented or left alone. -/
theorem CounterMove.read
    {after : Option UInt64}
    (hMove :
      CounterMove instruction wallet (some counter) after) :
    after =
      some
        (if wallet ∈ instruction.advances then counter + 1
          else counter) := by
  cases hMove with
  | advance hAdvances => rw [if_pos hAdvances]; rfl
  | prepare authority hPrepare =>
      rw [hPrepare,
        if_neg (CounterMove.not_advances_prepare _ _)]
      rfl
  | keep hKeeps => rw [if_neg hKeeps]

/- Whatever the counter, the bytes around it are the same. -/
theorem requestAccount_changedWithin
    (wallet : Pubkey)
    (counter counter' : UInt64) :
    ChangedWithin [(ProofRequestState.offsetCounter, 8)]
      (requestAccount H wallet (some counter)).data
      (requestAccount H wallet (some counter')).data := by
  have hSplice :=
    splice_counter_serialized (H := H)
      (requestState H wallet counter) counter'
  have hLength :
      (Packed.encode counter').length = 8 :=
    Packed.length_encode counter'
  have hWithin :
      ChangedWithin
        [(ProofRequestState.offsetCounter,
          (Packed.encode counter').length)]
        (serialized H ProofRequestState.accountName
          (requestState H wallet counter))
        (splice
          (serialized H ProofRequestState.accountName
            (requestState H wallet counter))
          ProofRequestState.offsetCounter
          (Packed.encode counter')) := by
    apply ChangedWithin.of_splice
    rw [length_serialized, hLength]
    decide
  rw [hSplice, hLength] at hWithin
  exact hWithin

/- At the largest counter every lifecycle step fails. -/
theorem stops_at_max
    {call : Call H}
    {l : Ledger}
    (hBuild : H.requestBound = true)
    (hRep : Represents H w.accounts l)
    (hCounter : w.counterAt H wallet = some counter)
    (hMax : counter.toNat + 1 = 2 ^ 64)
    (hAdvances : wallet ∈ call.instruction.advances) :
    ∃ fault, execute w call = .error fault := by
  cases hExecute : execute w call with
  | error fault => exact ⟨fault, rfl⟩
  | ok next =>
      rcases step_refines hRep hExecute with ⟨l', hStep, _⟩
      have hRoom :=
        (hStep.counterMove hBuild wallet).room hAdvances
      rw [← counterAt_ledger hRep, hCounter,
        Option.getD_some, hMax] at hRoom
      exact absurd hRoom (Nat.lt_irrefl _)

end Entros

------------------------------------------------------------
-- Runs
------------------------------------------------------------

namespace Entros

open Foundations
open Anchor

variable {H : Host} {w w' : World}
variable {history : List (Event H)}

/- What holds of all counters at the end of a run. -/
structure CountersKept
    (history : List (Event H))
    (w' : World) : Prop where
  counted :
    ∀ wallet,
      CountedBy H wallet (lifecycleCount wallet history)
        (w'.accounts (requestAddress H wallet))
  moves :
    ∀ event : Event H, event ∈ history →
      ∀ wallet counter,
        event.source.counterAt H wallet = some counter →
          event.target.counterAt H wallet =
            some
              (if wallet ∈ event.instruction.advances then
                counter + 1
              else
                counter)
  prepared :
    ∀ event : Event H, event ∈ history →
      ∀ authority,
        event.instruction =
            .anchor (.prepareProofRequest authority) →
          ∀ wallet,
            (event.target.counterAt H wallet).getD 0 =
              (event.source.counterAt H wallet).getD 0
  layout :
    ∀ event : Event H, event ∈ history →
      ∀ wallet counter,
        event.source.counterAt H wallet = some counter →
          ChangedWithin
            [(ProofRequestState.offsetCounter, 8)]
            (event.source.accounts
              (requestAddress H wallet)).data
            (event.target.accounts
              (requestAddress H wallet)).data
  survives :
    ∀ (i : ℕ) (event : Event H) (wallet : Pubkey)
        (counter : UInt64),
      history[i]? = some event →
        event.source.counterAt H wallet = some counter →
          ∃ counter',
            w'.counterAt H wallet = some counter' ∧
              counter'.toNat =
                counter.toNat +
                  lifecycleCount wallet (history.drop i)
  stops :
    ∀ (call : Call H) (wallet : Pubkey) (counter : UInt64),
      w'.counterAt H wallet = some counter →
        counter.toNat + 1 = 2 ^ 64 →
          wallet ∈ call.instruction.advances →
            ∃ fault, execute w' call = .error fault

/- The ends of an event of a run are well formed. -/
theorem event_represents
    {event : Event H}
    (hFresh : w.Fresh)
    (hRun : Run (Step H) w history w')
    (hEvent : event ∈ history) :
    Represents H event.source.accounts
        (event.source.ledger H) ∧
      Represents H event.target.accounts
        (event.target.ledger H) := by
  rcases List.mem_iff_getElem?.mp hEvent with ⟨i, hIndex⟩
  have hBefore := hRun.source hIndex
  exact ⟨run_represents hFresh hBefore,
    run_represents hFresh (.snoc event hBefore)⟩

/- What an event does to the counter that can be read. -/
theorem event_counterMove
    {event : Event H}
    (hBuild : H.requestBound = true)
    (hFresh : w.Fresh)
    (hRun : Run (Step H) w history w')
    (hEvent : event ∈ history)
    (wallet : Pubkey) :
    CounterMove event.instruction wallet
      (event.source.counterAt H wallet)
      (event.target.counterAt H wallet) := by
  rcases event_represents hFresh hRun hEvent with
    ⟨hSource, hTarget⟩
  rw [counterAt_ledger hSource, counterAt_ledger hTarget]
  exact (event_step hFresh hRun hEvent).counterMove hBuild
    wallet

/- The account of a wallet counts its lifecycle steps. -/
theorem countedBy_run
    (hBuild : H.requestBound = true)
    (hFresh : w.Fresh)
    (hRun : Run (Step H) w history w')
    (wallet : Pubkey) :
    CountedBy H wallet (lifecycleCount wallet history)
      (w'.accounts (requestAddress H wallet)) := by
  have hCount := run_counter hBuild hFresh hRun wallet
  rw [(run_represents hFresh hRun).counter wallet]
  cases hCounter : (w'.ledger H).counter wallet with
  | none =>
      rw [hCounter] at hCount
      exact .absent hCount.symm
  | some counter =>
      rw [hCounter] at hCount
      exact .stored counter hCount
        (readCounter_requestAccount wallet (some counter))

/- Outside bytes 41..49 a stored record stays as it is. -/
theorem layout_run
    {event : Event H}
    {wallet : Pubkey}
    {counter : UInt64}
    (hBuild : H.requestBound = true)
    (hFresh : w.Fresh)
    (hRun : Run (Step H) w history w')
    (hEvent : event ∈ history)
    (hCounter :
      event.source.counterAt H wallet = some counter) :
    ChangedWithin [(ProofRequestState.offsetCounter, 8)]
      (event.source.accounts (requestAddress H wallet)).data
      (event.target.accounts
        (requestAddress H wallet)).data := by
  have hMove :=
    event_counterMove hBuild hFresh hRun hEvent wallet
  rcases event_represents hFresh hRun hEvent with
    ⟨hSource, hTarget⟩
  rw [hCounter] at hMove
  have hAfter := hMove.read
  rw [counterAt_ledger hSource] at hCounter
  rw [counterAt_ledger hTarget] at hAfter
  rw [hSource.counter wallet, hTarget.counter wallet,
    hCounter, hAfter]
  exact requestAccount_changedWithin wallet _ _

/- A counter once there only counts on. -/
theorem survives_run
    {i : ℕ}
    {event : Event H}
    {wallet : Pubkey}
    {counter : UInt64}
    (hBuild : H.requestBound = true)
    (hFresh : w.Fresh)
    (hRun : Run (Step H) w history w')
    (hEvent : history[i]? = some event)
    (hCounter :
      event.source.counterAt H wallet = some counter) :
    ∃ counter',
      w'.counterAt H wallet = some counter' ∧
        counter'.toNat =
          counter.toNat +
            lifecycleCount wallet (history.drop i) := by
  have hBefore := hRun.source hEvent
  have hSource := run_represents hFresh hBefore
  rw [counterAt_ledger hSource] at hCounter
  have hPresent :
      (w'.ledger H).counter wallet ≠ none :=
    run_counter_isSome hBuild hFresh hRun wallet event
      (List.mem_of_getElem? hEvent)
      (.inl (by simp [hCounter]))
  rcases Option.ne_none_iff_exists'.mp hPresent with
    ⟨counter', hCounter'⟩
  refine ⟨counter', ?_, ?_⟩
  · rw [counterAt_ledger (run_represents hFresh hRun),
      hCounter']
  · have hFront := run_counter hBuild hFresh hBefore wallet
    have hAll := run_counter hBuild hFresh hRun wallet
    rw [hCounter, Option.getD_some] at hFront
    rw [hCounter', Option.getD_some] at hAll
    rw [hAll, hFront, lifecycleCount, lifecycleCount,
      lifecycleCount, ← List.countP_append,
      List.take_append_drop]

/-
  In every run of the request-bound build the counters are
  kept, whatever lamports the addresses were funded with.
-/
theorem counters_kept
    (hBuild : H.requestBound = true)
    (hFresh : w.Fresh)
    (hRun : Run (Step H) w history w') :
    CountersKept history w' where
  counted := countedBy_run hBuild hFresh hRun
  moves := by
    intro event hEvent wallet counter hCounter
    have hMove :=
      event_counterMove hBuild hFresh hRun hEvent wallet
    rw [hCounter] at hMove
    exact hMove.read
  prepared := by
    intro event hEvent authority hPrepare wallet
    have hCount :=
      (event_counterMove hBuild hFresh hRun hEvent
        wallet).toNat_getD
    rw [hPrepare,
      if_neg (CounterMove.not_advances_prepare _ _)]
      at hCount
    exact UInt64.toNat_inj.mp hCount
  layout := by
    intro event hEvent wallet counter hCounter
    exact layout_run hBuild hFresh hRun hEvent hCounter
  survives := by
    intro i event wallet counter hEvent hCounter
    exact survives_run hBuild hFresh hRun hEvent hCounter
  stops := by
    intro call wallet counter hCounter hMax hAdvances
    exact stops_at_max hBuild (run_represents hFresh hRun)
      hCounter hMax hAdvances

end Entros

------------------------------------------------------------
-- There and Back
------------------------------------------------------------

namespace Entros

open Foundations
open Anchor

namespace RequestCounters

open Sample

/- The request-bound build, with one signed mint receipt. -/
def tables : Tables where
  requestBound := true
  digests := accountDigests
  addresses := addresses
  proofs := []
  signatures := [aliceMint]

def call
    (now : Int64)
    (instruction : Instruction) : Call tables.host where
  now := now
  tx := tables.signed aliceMint (.head _)
  instruction := instruction

/- The account of a wallet's counter, as it is passed in. -/
def state (wallet : Signer) : AccountMeta where
  address := requestAddress tables.host wallet.key
  writable := true

/-
  One wallet prepares its counter and the other does not;
  the identity goes from the first to the second and back.
-/
def calls : List (Call tables.host) :=
  [call 1700000000 configure,
    call 1700000005 (.anchor (.prepareProofRequest alice)),
    call 1700000010
      (.anchor (.mintAnchor alice [state alice]
        commitmentPrev)),
    call 1700000020
      (.anchor (.authorizeNewWallet alice bob)),
    call 1700000030
      (.anchor (.migrateIdentity bob alice.key
        [state alice, state bob])),
    call 1700000040 (.outside (.closeTokenAccount alice)),
    call 1700000050
      (.anchor (.authorizeNewWallet bob alice)),
    call 1700000060
      (.anchor (.migrateIdentity alice bob.key
        [state bob, state alice]))]

end RequestCounters

open RequestCounters in
theorem counters_kept_return :
    ∃ (history : List (Event tables.host)) (w' : World),
      Run (Step tables.host) .funded history w' ∧
        history.map Transition.label = calls ∧
          (w'.counterAt tables.host Sample.alice.key,
              w'.counterAt tables.host Sample.bob.key) =
            (some 3, some 2) ∧
            CountersKept history w' := by
  have hReplay :
      (replay .funded calls).map (fun replayed =>
        (replayed.2.counterAt tables.host Sample.alice.key,
          replayed.2.counterAt tables.host
            Sample.bob.key)) =
        some (some 3, some 2) := by
    decide +kernel
  rcases exists_run hReplay with
    ⟨history, w', hRun, hLabels, hValue⟩
  exact ⟨history, w', hRun, hLabels, hValue,
    counters_kept rfl funded_fresh hRun⟩

end Entros
