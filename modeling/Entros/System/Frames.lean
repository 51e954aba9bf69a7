import Entros.System.Spares

/-
  Who writes the configuration: only entros-registry.  Every
  call of the other programs, and everything that wallets do
  around them, leaves the account as it is.

  Key definitions include:
    * `KeepsConfig`
    * `World.ConfigSound`
    * `RecordStep`

  Key theorems include:
    * `anchor_keepsConfig`
    * `verifier_keepsConfig`
    * `outside_keepsConfig`
    * `config_step`
    * `run_configSound`
-/

------------------------------------------------------------
-- Kept Configurations
------------------------------------------------------------

namespace Entros

open Foundations
open Anchor

/- The configuration account stays as it is. -/
def KeepsConfig (H : Host) (w w' : World) : Prop :=
  protocolConfig H w' = protocolConfig H w

variable {H : Host} {w w' : World}

theorem Spares.keepsConfig
    (hSpares : Spares H .protocolConfig w w') :
    KeepsConfig H w w' :=
  hSpares.account

theorem anchor_keepsConfig
    {now : Int64}
    {tx : Transaction H}
    {instruction : AnchorInstruction}
    (hExecute : instruction.execute now tx w = .ok w')
    (hOwner : (protocolConfig H w).owner ≠ .verifier) :
    KeepsConfig H w w' :=
  (anchor_spares Seeds.ofRegistry_config hExecute
    hOwner).keepsConfig

theorem verifier_keepsConfig
    {now : Int64}
    {instruction : VerifierInstruction}
    (hExecute : instruction.execute H now w = .ok w')
    (hOwner : (protocolConfig H w).owner ≠ .verifier) :
    KeepsConfig H w w' :=
  (verifier_spares Seeds.ofRegistry_config hExecute
    hOwner).keepsConfig

theorem outside_keepsConfig
    {instruction : OutsideInstruction}
    (hExecute : instruction.execute H w = .ok w') :
    KeepsConfig H w w' :=
  (outside_spares Seeds.ofRegistry_config
    hExecute).keepsConfig

end Entros

------------------------------------------------------------
-- Runs
------------------------------------------------------------

namespace Entros

open Foundations
open Anchor
open Registry

variable {H : Host} {w w' : World}

/-
  The configuration has one of its documented layouts, or
  does not exist yet, and is not the verifier's.
-/
structure World.ConfigSound
    (H : Host)
    (w : World) : Prop where
  owner : (protocolConfig H w).owner ≠ .verifier
  layout : Documented (configData H w)

/- A call of the registry and what it does to the record. -/
def RecordStep
    (H : Host)
    (w : World)
    (call : Call H)
    (w' : World) : Prop :=
  ∃ instruction,
    call.instruction = .registry instruction ∧
      ConfigStep H call.now w.programData (configRecord H w)
        instruction (configRecord H w')

/-
  A successful call either is a step of the record, or is no
  call of the registry and leaves the record as it is.
-/
theorem config_step
    {call : Call H}
    (hSound : w.ConfigSound H)
    (hStep : Step H w call w') :
    w'.ConfigSound H ∧
      (RecordStep H w call w' ∨
        (∀ instruction,
          call.instruction ≠ .registry instruction) ∧
            configRecord H w' = configRecord H w) := by
  have hKept
      (hKeeps : KeepsConfig H w w')
      (hOther :
        ∀ instruction,
          call.instruction ≠ .registry instruction) :
      w'.ConfigSound H ∧
        (RecordStep H w call w' ∨
          (∀ instruction,
            call.instruction ≠ .registry instruction) ∧
              configRecord H w' = configRecord H w) := by
    have hAccount :
        w'.accounts (configAddress H) =
          w.accounts (configAddress H) := hKeeps
    refine ⟨⟨?_, ?_⟩, .inr ⟨hOther, ?_⟩⟩
    · rw [hKeeps]
      exact hSound.owner
    · rw [configData, hAccount]
      exact hSound.layout
    · rw [configRecord, configData, hAccount]
      rfl
  unfold Step execute at hStep
  cases hInstruction : call.instruction with
  | registry instruction =>
      rw [hInstruction] at hStep
      rcases registry_step hSound.layout hStep with
        ⟨hRecord, hLayout⟩
      refine ⟨⟨?_, hLayout⟩,
        .inl ⟨instruction, hInstruction, hRecord⟩⟩
      rcases registry_owner hStep with hOwner | hOwner
      · exact fun hVerifier =>
          hSound.owner (hOwner.symm.trans hVerifier)
      · change (w'.accounts (configAddress H)).owner ≠ _
        rw [hOwner]
        simp
  | verifier instruction =>
      rw [hInstruction] at hStep hKept
      exact hKept (verifier_keepsConfig hStep hSound.owner)
        (by simp)
  | anchor instruction =>
      rw [hInstruction] at hStep hKept
      exact hKept (anchor_keepsConfig hStep hSound.owner)
        (by simp)
  | outside instruction =>
      rw [hInstruction] at hStep hKept
      exact hKept (outside_keepsConfig hStep) (by simp)

/- The configuration is sound in every reachable state. -/
theorem run_configSound
    {history : List (Event H)}
    (hSound : w.ConfigSound H)
    (hRun : Run (Step H) w history w') :
    w'.ConfigSound H :=
  hRun.preserves
    (fun _ state => state.ConfigSound H) hSound
    fun _ last _ hSource =>
      (config_step hSource last.valid).1

end Entros
