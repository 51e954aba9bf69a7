import Entros.System.Refinement

/-
  The request counter of a wallet: which calls advance it,
  and what a run does to it.

  Key definitions include:
    * `Instruction.advances`
    * `CounterMove`
    * `lifecycleCount`

  Key theorems include:
    * `LedgerStep.counterMove`
    * `run_counter`
    * `run_counter_isSome`
-/

------------------------------------------------------------
-- Moves
------------------------------------------------------------

namespace Entros

open Foundations
open Anchor

/-
  The wallets for which an instruction is a lifecycle step:
  a migration is one for its source and its destination.
-/
def Instruction.advances : Instruction → List Pubkey
| .anchor (.mintAnchor user _ _) => [user.key]
| .anchor (.updateAnchorBound authority _ _) =>
    [authority.key]
| .anchor (.resetIdentityState authority _ _ _) =>
    [authority.key]
| .anchor (.rebaselineAnchor authority _ _ _) =>
    [authority.key]
| .anchor (.migrateIdentity user walletOld _) =>
    [walletOld, user.key]
| _ => []

/- What one call does to the counter of one wallet. -/
inductive CounterMove
    (instruction : Instruction)
    (wallet : Pubkey)
    (before : Option UInt64) :
    Option UInt64 → Prop
| advance
    (hAdvances : wallet ∈ instruction.advances)
    (hRoom : (before.getD 0).toNat + 1 < 2 ^ 64) :
    CounterMove instruction wallet before
      (some (nextCounter before))
| prepare
    (authority : Signer)
    (hPrepare :
      instruction =
        .anchor (.prepareProofRequest authority)) :
    CounterMove instruction wallet before
      (some (before.getD 0))
| keep (hKeeps : wallet ∉ instruction.advances) :
    CounterMove instruction wallet before before

namespace CounterMove

variable {instruction : Instruction} {wallet : Pubkey}
variable {before after : Option UInt64}

theorem not_advances_prepare
    (authority : Signer)
    (wallet : Pubkey) :
    wallet ∉
      (Instruction.anchor
        (.prepareProofRequest authority)).advances :=
  List.not_mem_nil

/- A lifecycle step counts, and nothing else does. -/
theorem toNat_getD
    (hMove : CounterMove instruction wallet before after) :
    (after.getD 0).toNat =
      (before.getD 0).toNat +
        if wallet ∈ instruction.advances then 1 else 0 := by
  cases hMove with
  | advance hAdvances hRoom =>
      rw [if_pos hAdvances, Option.getD_some, nextCounter,
        UInt64.toNat_add]
      exact Nat.mod_eq_of_lt hRoom
  | prepare authority hPrepare =>
      rw [hPrepare, if_neg (not_advances_prepare _ _),
        Option.getD_some, Nat.add_zero]
  | keep hKeeps => rw [if_neg hKeeps, Nat.add_zero]

/- A counter does not disappear. -/
theorem isSome
    (hMove : CounterMove instruction wallet before after)
    (hBefore : before ≠ none) :
    after ≠ none := by
  cases hMove with
  | advance => simp
  | prepare => simp
  | keep => exact hBefore

/- A lifecycle step leaves a counter behind. -/
theorem isSome_of_advances
    (hMove : CounterMove instruction wallet before after)
    (hAdvances : wallet ∈ instruction.advances) :
    after ≠ none := by
  cases hMove with
  | advance => simp
  | prepare => simp
  | keep hKeeps => exact absurd hAdvances hKeeps

/- A full counter admits no lifecycle step. -/
theorem room
    (hMove : CounterMove instruction wallet before after)
    (hAdvances : wallet ∈ instruction.advances) :
    (before.getD 0).toNat + 1 < 2 ^ 64 := by
  cases hMove with
  | advance _ hRoom => exact hRoom
  | prepare authority hPrepare =>
      rw [hPrepare] at hAdvances
      exact absurd hAdvances (not_advances_prepare _ _)
  | keep hKeeps => exact absurd hAdvances hKeeps

end CounterMove

end Entros

------------------------------------------------------------
-- Steps
------------------------------------------------------------

namespace Entros

open Foundations
open Anchor

variable {H : Host} {config : Account} {call : Call H}
variable {l l' : Ledger}

/- Advancing one wallet's counter. -/
theorem Ledger.advance_counter
    (l : Ledger)
    (wallet wallet' : Pubkey) :
    (l.advance wallet).counter wallet' =
      if wallet' = wallet then
        some (nextCounter (l.counter wallet))
      else
        l.counter wallet' := by
  rw [advance, setCounter_counter]

/- A call that advances exactly one wallet. -/
theorem counterMove_of_advance
    {instruction : Instruction}
    {own : Pubkey}
    (hAdvances : instruction.advances = [own])
    (hRoom : l.CanAdvance own)
    (wallet : Pubkey) :
    CounterMove instruction wallet (l.counter wallet)
      ((l.advance own).counter wallet) := by
  rw [Ledger.advance_counter]
  by_cases hWallet : wallet = own
  · subst hWallet
    rw [if_pos rfl]
    exact .advance (by simp [hAdvances]) hRoom
  · rw [if_neg hWallet]
    exact .keep (by simp [hAdvances, hWallet])

/- A migration advances the two wallets one after another. -/
theorem counterMove_of_migrate
    {instruction : Instruction}
    {source destination : Pubkey}
    (hAdvances :
      instruction.advances = [source, destination])
    (hNe : destination ≠ source)
    (hSource : l.CanAdvance source)
    (hDestination : l.CanAdvance destination)
    (wallet : Pubkey) :
    CounterMove instruction wallet (l.counter wallet)
      (((l.advance source).advance destination).counter
        wallet) := by
  rw [Ledger.advance_counter, Ledger.advance_counter,
    if_neg hNe]
  by_cases hNew : wallet = destination
  · subst hNew
    rw [if_pos rfl]
    exact .advance (by simp [hAdvances]) hDestination
  · rw [if_neg hNew, Ledger.advance_counter]
    by_cases hOld : wallet = source
    · subst hOld
      rw [if_pos rfl]
      exact .advance (by simp [hAdvances]) hSource
    · rw [if_neg hOld]
      exact .keep (by simp [hAdvances, hNew, hOld])

/- Calls of the verifier and idle calls are no such steps. -/
theorem advances_of_defaultProof
    {instruction : Instruction}
    {proof : DefaultProof}
    (hProof : instruction.defaultProof = some proof) :
    instruction.advances = [] := by
  unfold Instruction.defaultProof at hProof
  split at hProof
  · rfl
  · rfl
  · cases hProof

theorem Instruction.Closes.advances
    {instruction : Instruction}
    {address : Address}
    (hCloses : instruction.Closes address) :
    instruction.advances = [] := by
  cases hCloses with
  | challenge => rfl
  | result => rfl
  | bound => rfl

theorem Instruction.Idle.advances
    {instruction : Instruction}
    (hIdle : instruction.Idle) :
    instruction.advances = [] := by
  cases hIdle with
  | registry => rfl
  | outside => rfl
  | challenge => rfl
  | layout => rfl
  | baseline => rfl

/- In the request-bound build every step is such a move. -/
theorem LedgerStep.counterMove
    (hBuild : H.requestBound = true)
    (hStep : LedgerStep H config call l l')
    (wallet : Pubkey) :
    CounterMove call.instruction wallet (l.counter wallet)
      (l'.counter wallet) := by
  have hAdvanceIf (l : Ledger) (own : Pubkey) :
      l.advanceIf H own = l.advance own := if_pos hBuild
  have hKeep
      (hAdvances : call.instruction.advances = []) :
      CounterMove call.instruction wallet (l.counter wallet)
        (l.counter wallet) :=
    .keep (by simp [hAdvances])
  cases hStep with
  | mint user _ _ _ _ hInstruction _ _ _ _ hAdvance =>
      rw [Ledger.setIdentity_counter, hAdvanceIf]
      exact counterMove_of_advance (by rw [hInstruction]; rfl)
        (hAdvance hBuild) wallet
  | authorize _ _ _ hInstruction =>
      exact hKeep (by rw [hInstruction]; rfl)
  | migrate user walletOld _ _ hInstruction hIdentity _
      hVacant _ hAdvanceOld hAdvance =>
      have hNe : user.key ≠ walletOld := by
        intro hSame
        rw [hSame, hIdentity] at hVacant
        cases hVacant
      rw [Ledger.setIdentity_counter,
        Ledger.setIdentity_counter, hAdvanceIf, hAdvanceIf]
      exact counterMove_of_migrate
        (by rw [hInstruction]; rfl) hNe (hAdvanceOld hBuild)
        (hAdvance hBuild) wallet
  | update _ _ _ _ _ _ _ _ hDefault =>
      rw [hBuild] at hDefault
      cases hDefault
  | updateBound request _ _ _ _ _ _ _ hInstruction _ _ _ _ _
      _ _ _ _ _ _ hAdvance =>
      rw [Ledger.setIdentity_counter, Ledger.closeAt_counter]
      exact counterMove_of_advance (by rw [hInstruction]; rfl)
        hAdvance wallet
  | reset authority _ _ _ _ _ _ hInstruction _ _ _ _ _ _ _
      hAdvance =>
      rw [Ledger.setIdentity_counter, hAdvanceIf]
      exact counterMove_of_advance (by rw [hInstruction]; rfl)
        (hAdvance hBuild) wallet
  | rebaseline authority _ _ _ _ _ _ hInstruction _ _ _ _ _ _
      _ _ hAdvance =>
      rw [Ledger.setIdentity_counter, hAdvanceIf]
      exact counterMove_of_advance (by rw [hInstruction]; rfl)
        (hAdvance hBuild) wallet
  | prepare authority hInstruction =>
      rw [Ledger.setCounter_counter]
      by_cases hWallet : wallet = authority.key
      · subst hWallet
        rw [if_pos rfl]
        exact .prepare authority hInstruction
      · rw [if_neg hWallet]
        exact hKeep (by rw [hInstruction]; rfl)
  | verify _ _ _ hInstruction =>
      exact hKeep (advances_of_defaultProof hInstruction)
  | verifyBound _ _ _ _ hInstruction =>
      exact hKeep (by rw [hInstruction]; rfl)
  | close _ hInstruction => exact hKeep hInstruction.advances
  | idle hInstruction => exact hKeep hInstruction.advances

end Entros

------------------------------------------------------------
-- Runs
------------------------------------------------------------

namespace Entros

open Foundations
open Anchor

variable {H : Host} {w w' : World}
variable {history : List (Event H)}
variable {wallet : Pubkey}

/- How many lifecycle steps a wallet has been through. -/
def lifecycleCount
    (wallet : Pubkey)
    (history : List (Event H)) : ℕ :=
  history.countP fun event =>
    wallet ∈ event.instruction.advances

theorem lifecycleCount_snoc
    (history : List (Event H))
    (last : Event H) :
    lifecycleCount wallet (history ++ [last]) =
      lifecycleCount wallet history +
        if wallet ∈ last.instruction.advances then 1
        else 0 := by
  simp [lifecycleCount, List.countP_singleton]

/- The counter of a wallet is the number of its steps. -/
theorem run_counter
    (hBuild : H.requestBound = true)
    (hFresh : w.Fresh)
    (hRun : Run (Step H) w history w')
    (wallet : Pubkey) :
    (((w'.ledger H).counter wallet).getD 0).toNat =
      lifecycleCount wallet history := by
  refine hRun.preserves
    (fun history state =>
      (((state.ledger H).counter wallet).getD 0).toNat =
        lifecycleCount wallet history) ?_ ?_
  · rw [hFresh.ledger_eq]
    rfl
  · intro history last hBefore hCount
    have hMove :=
      (run_step hFresh hBefore).counterMove hBuild wallet
    rw [hMove.toNat_getD, hCount, lifecycleCount_snoc]
    rfl

/- A lifecycle step leaves a counter behind for good. -/
theorem run_counter_isSome
    (hBuild : H.requestBound = true)
    (hFresh : w.Fresh)
    (hRun : Run (Step H) w history w')
    (wallet : Pubkey) :
    ∀ event ∈ history,
      (event.source.ledger H).counter wallet ≠ none ∨
          wallet ∈ event.instruction.advances →
        (w'.ledger H).counter wallet ≠ none := by
  refine hRun.preserves
    (fun history state =>
      ∀ event : Event H, event ∈ history →
        (event.source.ledger H).counter wallet ≠ none ∨
            wallet ∈ event.instruction.advances →
          (state.ledger H).counter wallet ≠ none) ?_ ?_
  · intro event hEvent
    cases hEvent
  · intro history last hBefore hKept event hEvent hCause
    have hMove :=
      (run_step hFresh hBefore).counterMove hBuild wallet
    rcases List.mem_append.mp hEvent with hOld | hNew
    · exact hMove.isSome (hKept event hOld hCause)
    · rw [List.mem_singleton.mp hNew] at hCause
      rcases hCause with hPresent | hAdvances
      · exact hMove.isSome hPresent
      · exact hMove.isSome_of_advances hAdvances

end Entros
