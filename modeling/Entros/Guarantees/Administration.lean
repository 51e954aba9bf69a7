import Entros.System.ConfigReaders
import Entros.System.Frames
import Entros.System.Replay
import Entros.System.Vault

/-
  The raw-byte administration of the configuration refines
  the typed record: every call writes its own fields and no
  other byte, needs the key that may write them, and leaves
  both programs reading what the record says.

  Key definitions include:
    * `RegistryInstruction.written`
    * `RegistryInstruction.AuthorizedBy`
    * `Administered`
    * `ReadersAgree`

  Key theorems include:
    * `registry_administered`
    * `ConfigStep.authorized`
    * `readersAgree_of_exists`
    * `administration_refines`
-/

------------------------------------------------------------
-- Written Bytes
------------------------------------------------------------

namespace Entros

open Foundations
open Registry

/- The fields that both rotation instructions write. -/
def keyWindows : List (ℕ × ℕ) :=
  [(ProtocolConfig.offsetValidatorPubkey, 32),
    (ProtocolConfig.offsetSecondaryValidatorPubkey, 32),
    (ProtocolConfig.offsetSecondaryValidatorValidUntil, 8)]

/-
  The windows that each raw-byte instruction may write: the
  keys and the expiry, the two versions, the pending
  authority, or the admin.
-/
def RegistryInstruction.written :
    RegistryInstruction → Option (List (ℕ × ℕ))
| .setValidatorPubkey _ _ => some keyWindows
| .rotateValidatorPubkey _ _ _ => some keyWindows
| .setProjectionVersions _ _ _ =>
    some
      [(ProtocolConfig.offsetCurrentProjectionVersion, 2),
        (ProtocolConfig.offsetMinimumSupportedProjectionVersion,
          2)]
| .proposeAuthority _ _ =>
    some [(ProtocolConfig.offsetPendingAuthority, 32)]
| .acceptAuthority _ =>
    some
      [(ProtocolConfig.offsetAdmin, 32),
        (ProtocolConfig.offsetPendingAuthority, 32)]
| .migrateAdmin _ => some [(ProtocolConfig.offsetAdmin, 32)]
| _ => none

variable {data written : List UInt8}

theorem length_le_ensuredData (data : List UInt8) :
    data.length ≤ (ensuredData data).length := by
  unfold ensuredData
  split_ifs with hShort
  · rw [length_resize]
    exact hShort.le
  · exact Nat.le_refl _

/- A raw write, seen on the zero-extended bytes. -/
theorem changedWithin_writeField
    {A : Type}
    [Packed A]
    {offset : ℕ}
    {value : A}
    (hWrite : writeField data offset value = .ok written) :
    ChangedWithin [(offset, Packed.width A)]
      (ensuredData data) (ensuredData written) := by
  have hBound :
      offset + (Packed.encode value).length ≤
        (ensuredData data).length := by
    rw [Packed.length_encode]
    exact (writeField_eq_ok.mp hWrite).1.trans
      (length_le_ensuredData data)
  rw [ensuredData_writeField hWrite]
  have hSplice := ChangedWithin.of_splice hBound
  rw [Packed.length_encode] at hSplice
  exact hSplice

theorem changedWithin_writeValidatorKeys
    {primary secondary : Pubkey}
    {validUntil : Int64}
    (hWrite :
      writeValidatorKeys data primary secondary validUntil =
        .ok written) :
    ChangedWithin keyWindows (ensuredData data)
      (ensuredData written) := by
  simp only [writeValidatorKeys, bind_eq_ok] at hWrite
  rcases hWrite with ⟨first, hFirst, second, hSecond, hThird⟩
  exact (changedWithin_writeField hFirst).trans
    ((changedWithin_writeField hSecond).trans
      (changedWithin_writeField hThird))

/- Truncating a documented layout to the record is no loss. -/
theorem ensuredData_resize
    (hDocumented : Documented data) :
    ensuredData (resize data ProtocolConfig.len) =
      ensuredData data := by
  rw [ensuredData_of_le (length_resize _ _).ge]
  unfold ensuredData
  split_ifs with hShort
  · rfl
  · apply resize_of_length_eq
    simp only [Documented, List.mem_cons, List.not_mem_nil,
      or_false] at hDocumented
    simp only [ProtocolConfig.len] at hShort ⊢
    omega

end Entros

------------------------------------------------------------
-- Instructions
------------------------------------------------------------

namespace Entros

open Foundations
open Registry

/-
  What a raw-byte instruction does: a step of the record that
  writes inside the windows of the instruction, extends the
  account to the full layout or keeps its length, and touches
  no other account.
-/
structure Administered
    (H : Host)
    (now : Int64)
    (instruction : RegistryInstruction)
    (windows : List (ℕ × ℕ))
    (w w' : World) : Prop where
  step :
    ConfigStep H now w.programData (configRecord H w)
      instruction (configRecord H w')
  bytes :
    ChangedWithin windows (ensuredData (configData H w))
      (ensuredData (configData H w'))
  length :
    (configData H w').length = (configData H w).length ∨
      (configData H w').length = ProtocolConfig.len
  frame : OnlyConfig H w w'

variable {H : Host} {w w' : World} {now : Int64}

/- The bytes after growing the account and writing to it. -/
theorem rewritten_bytes
    {payer : Signer}
    {grown : World}
    {data : List UInt8}
    {windows : List (ℕ × ℕ)}
    (hDocumented : Documented (configData H w))
    (hEnsure :
      ensureProtocolConfigLen H w payer = .ok grown)
    (hBytes :
      ChangedWithin windows
        (ensuredData (configData H grown))
        (ensuredData data))
    (hLength : data.length = (configData H grown).length) :
    ChangedWithin windows (ensuredData (configData H w))
        (ensuredData
          (configData H
            (grown.setData (configAddress H) data))) ∧
      ((configData H
            (grown.setData (configAddress H) data)).length =
          (configData H w).length ∨
        (configData H
            (grown.setData (configAddress H) data)).length =
          ProtocolConfig.len) := by
  have hEnsured := (ensureProtocolConfigLen_spec hEnsure).1
  rw [hEnsured, ensuredData_idem] at hBytes
  rw [setData_config, hLength, hEnsured]
  exact ⟨hBytes,
    .inr (length_ensuredData_of_documented hDocumented)⟩

theorem registry_bytes
    {instruction : RegistryInstruction}
    {windows : List (ℕ × ℕ)}
    (hDocumented : Documented (configData H w))
    (hWritten : instruction.written = some windows)
    (hExecute : instruction.execute H now w = .ok w') :
    ChangedWithin windows (ensuredData (configData H w))
        (ensuredData (configData H w')) ∧
      ((configData H w').length = (configData H w).length ∨
        (configData H w').length = ProtocolConfig.len) := by
  cases instruction with
  | setValidatorPubkey admin validatorPubkey =>
      cases hWritten
      simp only [RegistryInstruction.execute,
        setValidatorPubkey, bind_eq_ok, require_eq_ok,
        pure_eq_ok] at hExecute
      rcases hExecute with
        ⟨_, _, _, _, grown, hEnsure, data, hWrite, rfl⟩
      exact rewritten_bytes hDocumented hEnsure
        (changedWithin_writeValidatorKeys hWrite)
        (length_writeValidatorKeys hWrite)
  | rotateValidatorPubkey admin newValidatorPubkey
      gracePeriodSecs =>
      cases hWritten
      simp only [RegistryInstruction.execute,
        rotateValidatorPubkey, bind_eq_ok, require_eq_ok,
        pure_eq_ok] at hExecute
      rcases hExecute with
        ⟨_, _, _, _, _, _, _, _, _, _, grown, hEnsure, _, _,
          data, hWrite, rfl⟩
      exact rewritten_bytes hDocumented hEnsure
        (changedWithin_writeValidatorKeys hWrite)
        (length_writeValidatorKeys hWrite)
  | setProjectionVersions admin current minimum =>
      cases hWritten
      simp only [RegistryInstruction.execute,
        setProjectionVersions, bind_eq_ok, pure_eq_ok]
        at hExecute
      rcases hExecute with
        ⟨_, _, _, _, _, _, _, _, grown, hEnsure, first,
          hFirst, data, hSecond, rfl⟩
      exact rewritten_bytes hDocumented hEnsure
        ((changedWithin_writeField hFirst).trans
          (changedWithin_writeField hSecond))
        ((length_writeField hSecond).trans
          (length_writeField hFirst))
  | proposeAuthority admin newAuthority =>
      cases hWritten
      simp only [RegistryInstruction.execute,
        proposeAuthority, bind_eq_ok, require_eq_ok,
        pure_eq_ok] at hExecute
      rcases hExecute with
        ⟨_, _, _, _, _, _, grown, hEnsure, data, hWrite, rfl⟩
      exact rewritten_bytes hDocumented hEnsure
        (changedWithin_writeField hWrite)
        (length_writeField hWrite)
  | acceptAuthority pendingAuthority =>
      cases hWritten
      simp only [RegistryInstruction.execute,
        acceptAuthority, bind_eq_ok, require_eq_ok,
        pure_eq_ok] at hExecute
      rcases hExecute with
        ⟨_, _, _, _, _, _, _, _, _, _, first, hFirst, data,
          hSecond, rfl⟩
      rw [setData_config]
      exact ⟨(changedWithin_writeField hFirst).trans
        (changedWithin_writeField hSecond),
        .inl ((length_writeField hSecond).trans
          (length_writeField hFirst))⟩
  | migrateAdmin newAdmin =>
      cases hWritten
      simp only [RegistryInstruction.execute, migrateAdmin,
        bind_eq_ok, require_eq_ok] at hExecute
      rcases hExecute with
        ⟨_, _, _, _, _, _, data, hWrite, hTopUp⟩
      have hData : configData H w' = data := by
        rw [configData, (World.topUp_sameState hTopUp).1]
        exact setData_config data
      have hBytes := changedWithin_writeField hWrite
      rw [← configData, ensuredData_resize hDocumented]
        at hBytes
      rw [hData]
      exact ⟨hBytes,
        .inr ((length_writeField hWrite).trans
          (length_resize _ _))⟩
  | _ => cases hWritten

/- The other accounts are left alone. -/
theorem registry_onlyConfig
    {instruction : RegistryInstruction}
    {windows : List (ℕ × ℕ)}
    (hWritten : instruction.written = some windows)
    (hExecute : instruction.execute H now w = .ok w') :
    OnlyConfig H w w' := by
  have hFunds : ¬ instruction.MovesFunds := by
    intro hMoves
    cases hMoves with
    | withdrawTreasury admin amount => cases hWritten
    | registerValidator validator stakeAmount =>
        cases hWritten
    | unstakeValidator validator => cases hWritten
  intro address hAddress
  by_cases hValidator :
      ∃ validator,
        address = H.findProgramAddress (.validator validator)
  · rcases hValidator with ⟨validator, rfl⟩
    exact (registry_spares (by simp) hFunds hExecute).account
  · apply registry_frame hExecute hAddress
    intro validator hEq
    exact hValidator ⟨validator, hEq⟩

theorem registry_administered
    {instruction : RegistryInstruction}
    {windows : List (ℕ × ℕ)}
    (hDocumented : Documented (configData H w))
    (hWritten : instruction.written = some windows)
    (hExecute : instruction.execute H now w = .ok w') :
    Administered H now instruction windows w w' := by
  rcases registry_bytes hDocumented hWritten hExecute with
    ⟨hBytes, hLength⟩
  exact ⟨(registry_step hDocumented hExecute).1, hBytes,
    hLength, registry_onlyConfig hWritten hExecute⟩

/-
  The signer is who may give the instruction: the stored
  admin, the pending authority, or the upgrade authority.
-/
def RegistryInstruction.AuthorizedBy
    (c : ProtocolConfig)
    (programData : List UInt8) :
    RegistryInstruction → Prop
| .updateProtocolConfig admin _ => c.admin = admin.key
| .setValidatorPubkey admin _ => c.admin = admin.key
| .rotateValidatorPubkey admin _ _ => c.admin = admin.key
| .setProjectionVersions admin _ _ => c.admin = admin.key
| .proposeAuthority admin _ => c.admin = admin.key
| .acceptAuthority pendingAuthority =>
    c.pendingAuthority = pendingAuthority.key
| .migrateAdmin newAdmin =>
    upgradeAuthority programData = .ok newAdmin.key
| _ => True

theorem ConfigStep.authorized
    {programData : List UInt8}
    {c c' : ProtocolConfig}
    {instruction : RegistryInstruction}
    (hStep :
      ConfigStep H now programData c instruction c') :
    instruction.AuthorizedBy c programData := by
  cases hStep with
  | initializeProtocol => trivial
  | updateProtocolConfig admin fee hAdmin => exact hAdmin
  | setValidatorPubkey admin key hAdmin => exact hAdmin
  | rotateValidatorPubkey admin key grace secondary hAdmin =>
      exact hAdmin
  | setProjectionVersions admin current minimum hAdmin =>
      exact hAdmin
  | proposeAuthority admin authority hAdmin => exact hAdmin
  | acceptAuthority pendingAuthority hPending =>
      exact hPending
  | migrateAdmin newAdmin hAuthority => exact hAuthority
  | apart instruction hApart =>
      cases hApart with
      | withdrawTreasury admin amount => trivial
      | registerValidator validator stakeAmount => trivial
      | computeTrustScore count creation recent => trivial
      | unstakeValidator validator => trivial

/- Without that signature the call fails. -/
theorem registry_refuses
    {instruction : RegistryInstruction}
    (hDocumented : Documented (configData H w))
    (hForeign :
      ¬ instruction.AuthorizedBy (configRecord H w)
        w.programData) :
    ∃ fault, instruction.execute H now w = .error fault := by
  cases hExecute : instruction.execute H now w with
  | error fault => exact ⟨fault, rfl⟩
  | ok w' =>
      have hStep := (registry_step hDocumented hExecute).1
      exact absurd hStep.authorized hForeign

end Entros

------------------------------------------------------------
-- Readers
------------------------------------------------------------

namespace Entros

open Foundations
open Anchor
open Registry

/-
  What entros-anchor reads at its own offsets is what the
  record says.  The two versions are refused when they are
  out of order.
-/
structure ReadersAgree
    (H : Host)
    (w : World) : Prop where
  maxTrustScore :
    readField UInt16 (configData H w) 56 =
      .ok (configRecord H w).maxTrustScore
  baseTrustIncrement :
    readField UInt16 (configData H w) 58 =
      .ok (configRecord H w).baseTrustIncrement
  verificationFee :
    readField UInt64 (configData H w) 61 =
      .ok (configRecord H w).verificationFee
  lifecycleFee :
    readFee (configData H w) 61 =
      .ok (configRecord H w).verificationFee
  migrationFee :
    readFee (configData H w) 69 =
      .ok (configRecord H w).migrationFee
  validatorKeys :
    readValidatorKeyPolicy (configData H w) =
      .ok (recordPolicy (configRecord H w))
  projection :
    Anchor.readProjectionVersions (configData H w) =
      .ok (recordProjection (configRecord H w))
  projectionPolicy :
    ∀ policy,
      readProjectionPolicy (configData H w) = .ok policy ↔
        policy = recordProjection (configRecord H w) ∧
          (configRecord H w).minimumSupportedProjectionVersion ≤
            (configRecord H w).currentProjectionVersion

variable {H : Host} {w w' : World}

theorem readProjectionPolicy_iff
    {data : List UInt8}
    {policy : ProjectionPolicy}
    (hDocumented : Documented data) :
    readProjectionPolicy data = .ok policy ↔
      policy = recordProjection (recordOf data) ∧
        (recordOf data).minimumSupportedProjectionVersion ≤
          (recordOf data).currentProjectionVersion := by
  simp only [readProjectionPolicy,
    anchor_readProjectionVersions_eq hDocumented, ok_bind,
    bind_eq_ok, require_eq_ok, pure_eq_ok]
  constructor
  · rintro ⟨_, hOrdered, rfl⟩
    exact ⟨rfl, hOrdered⟩
  · rintro ⟨rfl, hOrdered⟩
    exact ⟨(), hOrdered, rfl⟩

/- The shortest layout already holds the first fields. -/
theorem length_of_exists
    {data : List UInt8}
    (hDocumented : Documented data)
    (hExists : data ≠ []) :
    69 ≤ data.length := by
  have hPositive := List.length_pos_iff.mpr hExists
  simp only [Documented, List.mem_cons, List.not_mem_nil,
    or_false] at hDocumented
  omega

theorem readersAgree_of_exists
    (hDocumented : Documented (configData H w))
    (hExists : configData H w ≠ []) :
    ReadersAgree H w := by
  have hLength := length_of_exists hDocumented hExists
  rcases encodes_recordOf (configData H w) with
    ⟨tag, rest, hData⟩
  have hField
      {A : Type}
      [Packed A]
      (field : Packed.Column ProtocolConfig A)
      (hInside : 8 + field.offset + Packed.width A ≤ 69) :
      readField A (configData H w) (8 + field.offset) =
        .ok (field.get (configRecord H w)) :=
    readField_eq_ok.mpr
      (hData.read field (hInside.trans hLength))
  refine ⟨?_, ?_, ?_, readVerificationFee_eq hDocumented,
    readMigrationFee_eq hDocumented,
    readValidatorKeyPolicy_eq hDocumented,
    anchor_readProjectionVersions_eq hDocumented, ?_⟩
  · exact hField ConfigField.maxTrustScore (by decide)
  · exact hField ConfigField.baseTrustIncrement (by decide)
  · exact hField ConfigField.verificationFee (by decide)
  · intro policy
    exact readProjectionPolicy_iff hDocumented

end Entros

------------------------------------------------------------
-- Runs
------------------------------------------------------------

namespace Entros

open Foundations
open Anchor
open Registry

variable {H : Host} {w w' : World}

theorem updateProtocolConfig_length
    {admin : Signer}
    {verificationFee : UInt64}
    (hUpdate :
      updateProtocolConfig H w admin verificationFee =
        .ok w') :
    (configData H w').length = ProtocolConfig.len := by
  simp only [updateProtocolConfig, bind_eq_ok,
    require_eq_ok] at hUpdate
  rcases hUpdate with ⟨config, _, grown, hGrow, _, _, hSave⟩
  have hGrown := (World.growAccount_sameState hGrow).1
  have hAccount := congrFun hGrown (configAddress H)
  rw [World.setData_accounts, Function.update_self]
    at hAccount
  rw [configData,
    World.saveAccount_accounts hSave hAccount
      ((length_resize _ _).trans ProtocolConfig.width_eq.symm),
    Function.update_self, length_serialized]
  rfl

/- The configuration, once there, is not taken away. -/
theorem registry_exists
    {now : Int64}
    {instruction : RegistryInstruction}
    (hDocumented : Documented (configData H w))
    (hExists : configData H w ≠ [])
    (hExecute : instruction.execute H now w = .ok w') :
    configData H w' ≠ [] := by
  have hLonger
      (hLength :
        (configData H w').length = (configData H w).length ∨
          (configData H w').length = ProtocolConfig.len) :
      configData H w' ≠ [] := by
    apply List.ne_nil_of_length_pos
    rcases hLength with hSame | hFull
    · rw [hSame]
      exact List.length_pos_iff.mpr hExists
    · rw [hFull]
      decide
  have hApart (hApart : instruction.Apart) :
      configData H w' ≠ [] := by
    rw [configData, apart_account hApart hExecute]
    exact hExists
  cases hWritten : instruction.written with
  | some windows =>
      exact hLonger
        (registry_bytes hDocumented hWritten hExecute).2
  | none =>
      cases instruction with
      | initializeProtocol admin minStake challengeExpiry
          maxTrustScore baseTrustIncrement verificationFee
          validatorPubkey =>
          have hVacant :=
            (initializeProtocol_record hExecute).2.1
          refine absurd ?_ hExists
          rw [configData, hVacant]
          rfl
      | updateProtocolConfig admin verificationFee =>
          exact hLonger
            (.inr (updateProtocolConfig_length hExecute))
      | withdrawTreasury admin amount =>
          exact hApart (.withdrawTreasury _ _)
      | registerValidator validator stakeAmount =>
          exact hApart (.registerValidator _ _)
      | computeTrustScore count creation recent =>
          exact hApart (.computeTrustScore _ _ _)
      | unstakeValidator validator =>
          exact hApart (.unstakeValidator _)
      | _ => cases hWritten

theorem config_exists_step
    {call : Call H}
    (hSound : w.ConfigSound H)
    (hExists : configData H w ≠ [])
    (hStep : Step H w call w') :
    configData H w' ≠ [] := by
  have hKept (hKeeps : KeepsConfig H w w') :
      configData H w' ≠ [] := by
    have hAccount :
        w'.accounts (configAddress H) =
          w.accounts (configAddress H) := hKeeps
    rw [configData, hAccount]
    exact hExists
  unfold Step execute at hStep
  cases hInstruction : call.instruction with
  | registry instruction =>
      rw [hInstruction] at hStep
      exact registry_exists hSound.layout hExists hStep
  | verifier instruction =>
      rw [hInstruction] at hStep
      exact hKept (verifier_keepsConfig hStep hSound.owner)
  | anchor instruction =>
      rw [hInstruction] at hStep
      exact hKept (anchor_keepsConfig hStep hSound.owner)
  | outside instruction =>
      rw [hInstruction] at hStep
      exact hKept (outside_keepsConfig hStep)

theorem run_configExists
    {history : List (Event H)}
    (hSound : w.ConfigSound H)
    (hExists : configData H w ≠ [])
    (hRun : Run (Step H) w history w') :
    configData H w' ≠ [] := by
  refine hRun.preserves
    (fun _ state => configData H state ≠ []) hExists ?_
  intro _ last hBefore hSource
  exact config_exists_step (run_configSound hSound hBefore)
    hSource last.valid

/-
  Every raw-byte call of the history was such a step of the
  record, a call without the right signature fails now, and
  the readers show the record as it is now.
-/
structure AdministrationRefines
    (H : Host)
    (history : List (Event H))
    (w : World) : Prop where
  administered :
    ∀ (event : Event H) instruction windows,
      event ∈ history →
        event.instruction = .registry instruction →
          instruction.written = some windows →
            Administered H event.now instruction windows
              event.source event.target
  refused :
    ∀ (call : Call H) instruction,
      call.instruction = .registry instruction →
        ¬ instruction.AuthorizedBy (configRecord H w)
            w.programData →
          ∃ fault, execute w call = .error fault
  readers : ReadersAgree H w

theorem administration_refines
    {history : List (Event H)}
    (hSound : w.ConfigSound H)
    (hExists : configData H w ≠ [])
    (hRun : Run (Step H) w history w') :
    AdministrationRefines H history w' := by
  have hEnd := run_configSound hSound hRun
  refine ⟨?_, ?_, readersAgree_of_exists hEnd.layout
    (run_configExists hSound hExists hRun)⟩
  · intro event instruction windows hEvent hInstruction
      hWritten
    rcases List.mem_iff_getElem?.mp hEvent with ⟨i, hIndex⟩
    have hSource :=
      run_configSound hSound (hRun.source hIndex)
    have hStep := event.valid
    unfold Step execute at hStep
    rw [show event.label.instruction = _ from hInstruction]
      at hStep
    exact registry_administered hSource.layout hWritten hStep
  · intro call instruction hInstruction hForeign
    unfold execute
    rw [hInstruction]
    exact registry_refuses hEnd.layout hForeign

end Entros

------------------------------------------------------------
-- A Legacy Account
------------------------------------------------------------

namespace Entros

open Foundations
open Anchor
open Registry

namespace Administration

open Sample

/- A programdata account whose authority is `alice`. -/
def programData : List UInt8 :=
  List.replicate 12 0 ++ [1] ++ alice.key.toList

/- The fields of the shortest layout, with `admin` in charge. -/
def legacyRecord : ProtocolConfig :=
  { ProtocolConfig.zero with
    admin := admin.key
    minStake := 1000000000
    challengeExpiry := 300
    maxTrustScore := 10000
    baseTrustIncrement := 100
    bump := 255
    verificationFee := 5000 }

/- A deployment with a configuration of 69 bytes. -/
def legacy : World :=
  { World.funded with
    accounts :=
      Function.update World.funded.accounts
        (configAddress tables.host)
        { owner := .registry
          data :=
            (serialized tables.host
              ProtocolConfig.accountName
                legacyRecord).take 69 }
    programData := programData }

/- Both roles change hands, and the keys with them. -/
def handover : List (Call tables.host) :=
  [call 1700000000
      (.registry (.rotateValidatorPubkey admin validator
        3600)),
    call 1700000010
      (.registry (.setProjectionVersions admin 3 2)),
    call 1700000020
      (.registry (.proposeAuthority admin bob.key)),
    call 1700000030
      (.registry (.acceptAuthority bob)),
    call 1700000040
      (.registry (.rotateValidatorPubkey bob alice.key
        3600)),
    call 1700000050 (.registry (.migrateAdmin alice)),
    call 1700000060
      (.registry (.setValidatorPubkey alice validator))]

end Administration

open Administration

theorem administration_refines_legacy :
    ∃ (history : List (Event Sample.tables.host))
      (w' : World),
      Run (Step Sample.tables.host) legacy history w' ∧
        history.map Transition.label = handover ∧
          configRecord Sample.tables.host w' =
              { legacyRecord with
                admin := Sample.alice.key
                validatorPubkey := Sample.validator
                currentProjectionVersion := 3
                minimumSupportedProjectionVersion := 2 } ∧
            AdministrationRefines Sample.tables.host history
              w' := by
  have hReplay :
      (replay legacy handover).map (fun replayed =>
          configRecord Sample.tables.host replayed.2) =
        some { legacyRecord with
          admin := Sample.alice.key
          validatorPubkey := Sample.validator
          currentProjectionVersion := 3
          minimumSupportedProjectionVersion := 2 } := by
    decide +kernel
  have hSound : legacy.ConfigSound Sample.tables.host :=
    ⟨by decide, by decide +kernel⟩
  have hExists :
      configData Sample.tables.host legacy ≠ [] := by
    decide +kernel
  rcases exists_run hReplay with
    ⟨history, w', hRun, hLabels, hRecord⟩
  exact ⟨history, w', hRun, hLabels, hRecord,
    administration_refines hSound hExists hRun⟩

end Entros
