import Entros.System.Frames
import Entros.System.Replay

/-
  Two-step transfer of the registry's authority: which
  proposals an acceptance can be the second step of.

  `accept_authority` clears the pending authority, and so
  every regular change of admin ends the proposals made
  before it.  `migrate_admin` changes the admin and keeps the
  pending authority, so a proposal can outlive the admin who
  made it.

  Key definitions include:
    * `Event.Proposes`
    * `ProposedInOffice`
    * `TwoStepTransfer`
    * `Event.RecoversCleanly`

  Key theorems include:
    * `pending_step`
    * `twoStepTransfer_of_recoversCleanly`
    * `twoStepTransfer_fails`
-/

------------------------------------------------------------
-- Proposals
------------------------------------------------------------

namespace Entros

open Foundations
open Registry

variable {H : Host}

/- A proposal of a new authority. -/
def Event.Proposes (event : Event H) : Prop :=
  ∃ admin newAuthority,
    event.instruction =
      .registry (.proposeAuthority admin newAuthority)

/-
  The last proposal of the history names `key`, is signed by
  `admin`, and `admin` has been the stored admin ever since.
-/
def ProposedInOffice
    (history : List (Event H))
    (admin key : Pubkey) : Prop :=
  ∃ i proposal signer,
    StandsAt Event.Proposes
        (fun event =>
          (configRecord H event.target).admin = admin)
        history i proposal ∧
      proposal.instruction =
          .registry (.proposeAuthority signer key) ∧
        signer.key = admin

/-
  Whatever an acceptance installs was proposed by the admin
  who is in office when it happens.
-/
def TwoStepTransfer (history : List (Event H)) : Prop :=
  ∀ (i : ℕ) (event : Event H) (pendingAuthority : Signer),
    history[i]? = some event →
      event.instruction =
          .registry (.acceptAuthority pendingAuthority) →
        ProposedInOffice (history.take i)
          (configRecord H event.source).admin
          (configRecord H event.target).admin

/-
  A recovery by `migrate_admin` does not change the admin
  while a proposal is pending.
-/
def Event.RecoversCleanly (event : Event H) : Prop :=
  ∀ newAdmin,
    event.instruction =
        .registry (.migrateAdmin newAdmin) →
      (configRecord H event.source).pendingAuthority =
          Pubkey.default ∨
        (configRecord H event.source).admin = newAdmin.key

/- The same as a computation on one event. -/
def Event.recoversCleanly (event : Event H) : Bool :=
  match event.instruction with
  | .registry (.migrateAdmin newAdmin) =>
      (configRecord H event.source).pendingAuthority =
          Pubkey.default ∨
        (configRecord H event.source).admin = newAdmin.key
  | _ => true

theorem recoversCleanly_iff {event : Event H} :
    event.recoversCleanly = true ↔
      event.RecoversCleanly := by
  unfold Event.recoversCleanly Event.RecoversCleanly
  split
  · next newAdmin hInstruction =>
      rw [hInstruction, decide_eq_true_iff]
      constructor
      · intro hClean newAdmin' hSame
        cases hSame
        exact hClean
      · intro hClean
        exact hClean newAdmin rfl
  · next hOther =>
      refine ⟨fun _ newAdmin hMigrate => ?_, fun _ => rfl⟩
      exact absurd hMigrate (hOther newAdmin)

/- A pending authority stems from the admin in office. -/
def PendingExplained
    (history : List (Event H))
    (c : ProtocolConfig) : Prop :=
  c.pendingAuthority = Pubkey.default ∨
    ProposedInOffice history c.admin c.pendingAuthority

/- A step that proposes nothing and keeps both fields. -/
theorem PendingExplained.kept
    {history : List (Event H)}
    {last : Event H}
    {c c' : ProtocolConfig}
    (hBefore : PendingExplained history c)
    (hLast : ¬ last.Proposes)
    (hTarget : configRecord H last.target = c')
    (hAdmin : c'.admin = c.admin)
    (hPending :
      c'.pendingAuthority = c.pendingAuthority) :
    PendingExplained (history ++ [last]) c' := by
  rw [PendingExplained, hAdmin, hPending]
  rcases hBefore with hNone | ⟨i, proposal, signer, hStands,
    hInstruction, hSigner⟩
  · exact .inl hNone
  · refine .inr ⟨i, proposal, signer, ?_, hInstruction,
      hSigner⟩
    apply hStands.snoc hLast
    rw [hTarget]
    exact hAdmin

/-
  One successful call keeps the explanation, as long as a
  recovery does not change the admin under a proposal.
-/
theorem pending_step
    {history : List (Event H)}
    {last : Event H}
    (hSound : last.source.ConfigSound H)
    (hClean : last.RecoversCleanly)
    (hBefore :
      PendingExplained history
        (configRecord H last.source)) :
    PendingExplained (history ++ [last])
      (configRecord H last.target) := by
  have hOther {instruction : RegistryInstruction}
      (hInstruction :
        last.instruction = .registry instruction)
      (hKind :
        ∀ admin newAuthority,
          instruction ≠
            .proposeAuthority admin newAuthority) :
      ¬ last.Proposes := by
    rintro ⟨admin, newAuthority, hProposes⟩
    exact hKind admin newAuthority
      (Instruction.registry.inj
        (hInstruction.symm.trans hProposes))
  rcases (config_step hSound last.valid).2 with
    ⟨instruction, hInstruction, hRecord⟩ | ⟨hForeign, hSame⟩
  · generalize hTarget :
      configRecord H last.target = c' at hRecord ⊢
    cases hRecord with
    | initializeProtocol => exact .inl rfl
    | updateProtocolConfig =>
        exact hBefore.kept (hOther hInstruction nofun)
          hTarget rfl rfl
    | setValidatorPubkey =>
        exact hBefore.kept (hOther hInstruction nofun)
          hTarget rfl rfl
    | rotateValidatorPubkey =>
        exact hBefore.kept (hOther hInstruction nofun)
          hTarget rfl rfl
    | setProjectionVersions =>
        exact hBefore.kept (hOther hInstruction nofun)
          hTarget rfl rfl
    | proposeAuthority signer key hAdmin _ =>
        refine .inr ⟨history.length, last, signer, ?_,
          hInstruction, hAdmin.symm⟩
        apply StandsAt.snoc_self history
        · exact ⟨signer, key, hInstruction⟩
        · rw [hTarget]
    | acceptAuthority => exact .inl rfl
    | migrateAdmin newAdmin _ =>
        -- only here the admin changes and the proposal stays
        rcases hClean newAdmin hInstruction with
          hNone | hAdmin
        · exact .inl hNone
        · exact hBefore.kept (hOther hInstruction nofun)
            hTarget hAdmin.symm rfl
    | apart _ hApart =>
        refine hBefore.kept (hOther hInstruction ?_) hTarget
          rfl rfl
        rintro admin newAuthority rfl
        cases hApart
  · refine hBefore.kept ?_ rfl
      (congrArg ProtocolConfig.admin hSame)
      (congrArg ProtocolConfig.pendingAuthority hSame)
    rintro ⟨admin, newAuthority, hProposes⟩
    exact hForeign _ hProposes

end Entros

------------------------------------------------------------
-- Acceptance
------------------------------------------------------------

namespace Entros

open Foundations
open Registry

variable {H : Host} {w w' : World}
variable {history : List (Event H)}

theorem pending_run
    (hSound : w.ConfigSound H)
    (hNothing :
      (configRecord H w).pendingAuthority = Pubkey.default)
    (hRun : Run (Step H) w history w')
    (hClean : ∀ event ∈ history, event.RecoversCleanly) :
    PendingExplained history (configRecord H w') := by
  refine hRun.preserves
    (fun history state =>
      (∀ event ∈ history, Event.RecoversCleanly event) →
        PendingExplained history (configRecord H state))
    ?_ ?_ hClean
  · exact fun _ => .inl hNothing
  · intro history last hFront hBefore hAll
    have hEarlier :
        ∀ event ∈ history, Event.RecoversCleanly event :=
      fun event hEvent =>
        hAll event (List.mem_append_left _ hEvent)
    exact pending_step (run_configSound hSound hFront)
      (hAll last (by simp)) (hBefore hEarlier)

/- An acceptance installs the pending authority. -/
theorem acceptAuthority_installs
    {event : Event H}
    {pendingAuthority : Signer}
    (hSound : event.source.ConfigSound H)
    (hAccept :
      event.instruction =
        .registry (.acceptAuthority pendingAuthority)) :
    (configRecord H event.source).pendingAuthority ≠
        Pubkey.default ∧
      (configRecord H event.target).admin =
        (configRecord H event.source).pendingAuthority := by
  rcases (config_step hSound event.valid).2 with
    ⟨instruction, hInstruction, hRecord⟩ | ⟨hForeign, _⟩
  · have hSame :
        RegistryInstruction.acceptAuthority
            pendingAuthority =
          instruction :=
      Instruction.registry.inj
        (hAccept.symm.trans hInstruction)
    subst hSame
    generalize configRecord H event.target = c' at hRecord ⊢
    cases hRecord with
    | acceptAuthority _ hPending hProposed =>
        rw [hPending]
        exact ⟨hProposed, rfl⟩
    | apart _ hApart => cases hApart
  · exact absurd hAccept (hForeign _)

/-
  The two-step transfer holds in every run, from any stored
  configuration with nothing pending, in which no recovery
  changes the admin while a proposal is pending.
-/
theorem twoStepTransfer_of_recoversCleanly
    (hSound : w.ConfigSound H)
    (hNothing :
      (configRecord H w).pendingAuthority = Pubkey.default)
    (hRun : Run (Step H) w history w')
    (hClean : ∀ event ∈ history, event.RecoversCleanly) :
    TwoStepTransfer history := by
  intro i event pendingAuthority hEvent hAccept
  have hFront := hRun.source hEvent
  have hExplained : PendingExplained (history.take i)
      (configRecord H event.source) :=
    pending_run hSound hNothing hFront fun earlier hEarlier =>
      hClean earlier (List.mem_of_mem_take hEarlier)
  rcases acceptAuthority_installs
    (run_configSound hSound hFront) hAccept with
    ⟨hPending, hInstalled⟩
  rw [hInstalled]
  rcases hExplained with hNone | hProposed
  · exact absurd hNone hPending
  · exact hProposed

end Entros

------------------------------------------------------------
-- A Proposal That Outlives Its Admin
------------------------------------------------------------

namespace Entros

open Foundations
open Registry

namespace AuthorityTransfer

def tables : Tables where
  requestBound := false
  digests := accountDigests
  addresses := []
  proofs := []
  signatures := []

def founder : Signer where
  key := Bytes.ofList 32 (List.replicate 32 10)
  key_ne_default := by decide

def successor : Signer where
  key := Bytes.ofList 32 (List.replicate 32 11)
  key_ne_default := by decide

def upgrader : Signer where
  key := Bytes.ofList 32 (List.replicate 32 12)
  key_ne_default := by decide

/- The programdata account with its upgrade authority. -/
def programData : List UInt8 :=
  [3, 0, 0, 0] ++ leBytes 8 0 ++ [1] ++ upgrader.key.toList

def call (instruction : Instruction) : Call tables.host where
  now := 1700000000
  tx := tables.alone
  instruction := instruction

/- The configuration is created with `founder` as admin. -/
def setUp : List (Call tables.host) :=
  [call (.registry (.initializeProtocol founder 1000000000
      300 10000 100 0 successor.key)),
    call (.outside (.writeProgramData programData))]

/-
  `founder` proposes `successor`; `upgrader` takes over as
  admin; `successor` still accepts.
-/
def recovery : List (Call tables.host) :=
  setUp ++
    [call (.registry (.proposeAuthority founder
        successor.key)),
      call (.registry (.migrateAdmin upgrader)),
      call (.registry (.acceptAuthority successor))]

/- The same, with the recovery before the proposal. -/
def handover : List (Call tables.host) :=
  setUp ++
    [call (.registry (.migrateAdmin upgrader)),
      call (.registry (.proposeAuthority upgrader
        successor.key)),
      call (.registry (.acceptAuthority successor))]

/- Who is admin before each call of a history. -/
def admins (history : List (Event tables.host)) :
    List Pubkey :=
  history.map fun event =>
    (configRecord tables.host event.source).admin

theorem funded_configSound :
    World.funded.ConfigSound tables.host where
  owner := by decide
  layout := by decide

theorem funded_nothing_pending :
    (configRecord tables.host
      World.funded).pendingAuthority = Pubkey.default :=
  congrArg ProtocolConfig.pendingAuthority recordOf_nil

theorem recovery_admins :
    (replay .funded recovery).map
        (fun replayed => admins replayed.1) =
      some [Pubkey.default, founder.key, founder.key,
        founder.key, upgrader.key] := by
  decide +kernel

/- The only proposal of the recovery is by `founder`. -/
theorem recovery_proposal
    {made : Call tables.host}
    {admin : Signer}
    {newAuthority : Pubkey}
    (hMade : made ∈ recovery)
    (hInstruction :
      made.instruction =
        .registry (.proposeAuthority admin newAuthority)) :
    admin.key = founder.key := by
  simp only [recovery, setUp, List.cons_append,
    List.nil_append, List.mem_cons, List.not_mem_nil,
    or_false] at hMade
  rcases hMade with rfl | rfl | rfl | rfl | rfl <;>
    cases hInstruction
  rfl

end AuthorityTransfer

open AuthorityTransfer

/-
  The proposal of `founder` survives the recovery: the key
  `successor` installs was not proposed by `upgrader`.
-/
theorem twoStepTransfer_fails :
    ¬ ∀ (H : Host) (w w' : World)
        (history : List (Event H)),
        w.ConfigSound H →
          (configRecord H w).pendingAuthority =
              Pubkey.default →
            Run (Step H) w history w' →
              TwoStepTransfer history := by
  intro hAll
  rcases exists_run recovery_admins with
    ⟨history, w', hRun, hLabels, hAdmins⟩
  have hTransfer := hAll tables.host .funded w' history
    funded_configSound funded_nothing_pending hRun
  rcases event_of_label (i := 4) hLabels rfl with
    ⟨acceptance, hIndex, hLabel⟩
  have hAdmin :
      (configRecord tables.host acceptance.source).admin =
        upgrader.key := by
    have hEntry := congrArg (fun keys => keys[4]?) hAdmins
    simp only [admins, List.getElem?_map, hIndex] at hEntry
    exact Option.some.inj hEntry
  rcases hTransfer 4 acceptance successor hIndex
    (congrArg Call.instruction hLabel) with
    ⟨i, proposal, signer, hStands, hProposes, hSigner⟩
  rw [hAdmin] at hSigner
  have hMember : proposal.label ∈ recovery := by
    rw [← hLabels]
    exact List.mem_map_of_mem
      (List.mem_of_mem_take
        (List.mem_of_getElem? hStands.latest.1))
  rw [recovery_proposal hMember hProposes] at hSigner
  exact absurd hSigner (by decide)

/- A run in which the recovery comes before the proposal. -/
theorem twoStepTransfer_handover :
    ∃ (history : List (Event tables.host)) (w' : World),
      Run (Step tables.host) .funded history w' ∧
        history.map Transition.label = handover ∧
          TwoStepTransfer history := by
  have hReplay :
      (replay .funded handover).map
          (fun replayed =>
            replayed.1.all Event.recoversCleanly) =
        some true := by
    decide +kernel
  rcases exists_run hReplay with
    ⟨history, w', hRun, hLabels, hClean⟩
  refine ⟨history, w', hRun, hLabels,
    twoStepTransfer_of_recoversCleanly funded_configSound
      funded_nothing_pending hRun ?_⟩
  intro event hEvent
  exact recoversCleanly_iff.mp
    (List.all_eq_true.mp hClean event hEvent)

end Entros
