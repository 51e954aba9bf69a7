import Entros.System.AnchorSteps
import Entros.System.ConfigSteps

/-
  The deployment refines the ledger: from accounts that a
  ledger describes, every successful call is a step of that
  ledger, so every run is a run of it.

  Key definitions include:
    * `Ledger.empty`
    * `World.Fresh`

  Key theorems include:
    * `step_refines`
    * `run_represents`
    * `run_step`
    * `event_step`
-/

------------------------------------------------------------
-- Registry and Outside Instructions
------------------------------------------------------------

namespace Entros

open Foundations
open Anchor
open Registry

variable {H : Host} {w w' : World} {l : Ledger}

/- The registry writes no account that a ledger describes. -/
theorem Represents.registry
    {now : Int64}
    {instruction : RegistryInstruction}
    (hRep : Represents H w.accounts l)
    (hExecute : instruction.execute H now w = .ok w') :
    Represents H w'.accounts l := by
  apply hRep.congr
  intro seeds bump hDescribed
  apply registry_frame hExecute
  · cases hDescribed <;>
      simp [configAddress, Host.findProgramAddress]
  · intro authority
    cases hDescribed <;> simp [Host.findProgramAddress]

/-
  Wallets create accounts at ordinary keys and close token
  accounts only.
-/
theorem outside_accounts
    {instruction : OutsideInstruction}
    (hExecute : instruction.execute H w = .ok w') :
    w'.accounts = w.accounts ∨
      ∃ address account,
        ((∃ key, address = .key key) ∨
          ∃ wallet,
            address =
              H.findProgramAddress
                (.associatedToken wallet)) ∧
          w'.accounts =
            Function.update w.accounts address account := by
  cases instruction with
  | approve owner delegate amount =>
      exact .inl (World.approve_accounts hExecute)
  | revoke wallet authority =>
      exact .inl (World.revoke_accounts hExecute)
  | burn wallet authority amount =>
      exact .inl (World.burn_accounts hExecute)
  | openTokenAccount payer wallet =>
      simp only [OutsideInstruction.execute, bind_eq_ok,
        require_eq_ok] at hExecute
      rcases hExecute with ⟨_, _, hCreate⟩
      exact .inl (World.createTokenAccount_accounts hCreate)
  | closeTokenAccount owner =>
      exact .inr ⟨_, _, .inr ⟨owner.key, rfl⟩,
        World.closeTokenAccount_accounts hExecute⟩
  | transfer source destination amount =>
      exact .inl (World.transfer_sameState hExecute).1
  | createAccount payer key size owner =>
      exact .inr ⟨_, _, .inl ⟨key, rfl⟩,
        (World.createAccount_eq_ok hExecute).2.1⟩
  | writeProgramData data =>
      rw [← Except.ok.inj hExecute]
      exact .inl rfl

theorem Represents.outside
    {instruction : OutsideInstruction}
    (hRep : Represents H w.accounts l)
    (hExecute : instruction.execute H w = .ok w') :
    Represents H w'.accounts l := by
  rcases outside_accounts hExecute with
    hSame | ⟨_, account, ⟨key, rfl⟩ | ⟨wallet, rfl⟩, hSame⟩
  · rw [hSame]
    exact hRep
  · rw [hSame]
    exact hRep.update_other fun _ _ _ => nofun
  · rw [hSame]
    apply hRep.update_other
    intro seeds bump hDescribed
    cases hDescribed <;> simp [Host.findProgramAddress]

end Entros

------------------------------------------------------------
-- Runs
------------------------------------------------------------

namespace Entros

open Foundations
open Anchor

variable {H : Host} {w w' : World}

/- Every successful call is a step of the ledger. -/
theorem step_refines
    {call : Call H}
    {l : Ledger}
    (hRep : Represents H w.accounts l)
    (hStep : Step H w call w') :
    ∃ l', LedgerStep H (protocolConfig H w) call l l' ∧
      Represents H w'.accounts l' := by
  unfold Step execute at hStep
  cases hInstruction : call.instruction with
  | registry instruction =>
      rw [hInstruction] at hStep
      exact ⟨l, .idle (hInstruction ▸ .registry _),
        hRep.registry hStep⟩
  | verifier instruction =>
      rw [hInstruction] at hStep
      exact verifier_step hRep hInstruction hStep
  | anchor instruction =>
      rw [hInstruction] at hStep
      exact anchor_step hRep hInstruction hStep
  | outside instruction =>
      rw [hInstruction] at hStep
      exact ⟨l, .idle (hInstruction ▸ .outside _),
        hRep.outside hStep⟩

/- The ledger before anything has been created. -/
def Ledger.empty : Ledger where
  identity _ := none
  counter _ := none
  result _ := none
  bound _ := none

/-
  A deployment in which no wallet has been active; its
  configuration may exist already.
-/
def World.Fresh (w : World) : Prop :=
  ∀ seeds bump, seeds.Described →
    w.accounts (.pda seeds bump) = Account.vacant

theorem World.Fresh.represents
    (hFresh : w.Fresh) :
    Represents H w.accounts .empty where
  identity _ := hFresh _ _ (.identity _)
  counter _ := hFresh _ _ (.counter _)
  result _ := hFresh _ _ (.result _ _)
  bound _ := hFresh _ _ (.bound _ _)

/- A fresh deployment shows the empty ledger. -/
theorem World.Fresh.ledger_eq (hFresh : w.Fresh) :
    w.ledger H = .empty :=
  hFresh.represents.ledger_eq

/- In every reachable state the accounts are well formed. -/
theorem run_represents
    {history : List (Event H)}
    (hFresh : w.Fresh)
    (hRun : Run (Step H) w history w') :
    Represents H w'.accounts (w'.ledger H) := by
  refine hRun.preserves
    (fun _ state =>
      Represents H state.accounts (state.ledger H)) ?_ ?_
  · rw [hFresh.ledger_eq]
    exact hFresh.represents
  · intro _ last _ hRep
    rcases step_refines hRep last.valid with ⟨l, _, hRep'⟩
    rw [hRep'.ledger_eq]
    exact hRep'

/- Every step of a run is a step between the ledgers. -/
theorem run_step
    {history : List (Event H)}
    {last : Event H}
    (hFresh : w.Fresh)
    (hRun : Run (Step H) w history last.source) :
    LedgerStep H (protocolConfig H last.source) last.label
      (last.source.ledger H) (last.target.ledger H) := by
  rcases step_refines (run_represents hFresh hRun)
    last.valid with ⟨l, hStep, hRep⟩
  rw [hRep.ledger_eq]
  exact hStep

/- The same, for an event found in the history. -/
theorem event_step
    {history : List (Event H)}
    {event : Event H}
    (hFresh : w.Fresh)
    (hRun : Run (Step H) w history w')
    (hEvent : event ∈ history) :
    LedgerStep H (protocolConfig H event.source) event.label
      (event.source.ledger H) (event.target.ledger H) := by
  rcases List.mem_iff_getElem?.mp hEvent with ⟨i, hIndex⟩
  exact run_step hFresh (hRun.source hIndex)

end Entros
