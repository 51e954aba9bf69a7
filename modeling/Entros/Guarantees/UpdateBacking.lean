import Entros.Foundations.Provenance
import Entros.System.Replay
import Entros.System.Results

/-
  In the default build every accepted update rests on a proof
  check of its own: the same wallet has had the very
  transition verified at most ten minutes before.

  Key definitions include:
    * `Event.IsUpdate`
    * `Event.Updates`
    * `Event.Checks`
    * `Backs`

  Key theorems include:
    * `checks_of_fills`
    * `backs_of_accepted`
    * `updates_backed`
-/

------------------------------------------------------------
-- Updates and Checks
------------------------------------------------------------

namespace Entros

open Foundations
open Anchor

variable {H : Host}

/- The proof results of a state. -/
def storedResults
    (H : Host)
    (w : World) : ResultKey → Option VerificationResult :=
  (w.ledger H).result

/- A successful update of the default build. -/
def Event.IsUpdate (event : Event H) : Prop :=
  ∃ request, event.instruction.defaultUpdate = some request

/-
  The event is an update by `wallet` that moves the stored
  commitment from `commitmentPrev` to `commitmentNew`.
-/
structure Event.Updates
    (event : Event H)
    (wallet : Pubkey)
    (commitmentPrev commitmentNew : Bytes 32) : Prop where
  request :
    ∃ request,
      event.instruction.defaultUpdate = some request ∧
        request.authority.key = wallet
  before :
    ∃ identity,
      (event.source.ledger H).identity wallet =
          some identity ∧
        identity.currentCommitment = commitmentPrev
  after :
    ∃ updated,
      (event.target.ledger H).identity wallet =
          some updated ∧
        updated.currentCommitment = commitmentNew

/-
  The event is a verification for `wallet` whose Groth16
  check passed on the two commitments, with bounds in range.
-/
def Event.Checks
    (event : Event H)
    (wallet : Pubkey)
    (commitmentPrev commitmentNew : Bytes 32) : Prop :=
  ∃ (proof : DefaultProof) (threshold minDistance : UInt16),
    event.instruction.defaultProof = some proof ∧
      proof.verifier.key = wallet ∧
        proof.publicInputs =
            Verifier.compactInputs commitmentNew
              commitmentPrev threshold minDistance ∧
          Verifier.groth16VerifyProof H proof.proofBytes
              proof.publicInputs = .ok () ∧
            3 ≤ minDistance ∧ minDistance < threshold ∧
              threshold ≤ 96

/-
  The check justifies the update: same wallet and transition,
  and not more than 600 seconds apart.
-/
structure Backs (check update : Event H) : Prop where
  transition :
    ∃ wallet commitmentPrev commitmentNew,
      update.Updates wallet commitmentPrev commitmentNew ∧
        check.Checks wallet commitmentPrev commitmentNew
  past : check.now ≤ update.now
  recent : update.now.toInt - 600 ≤ check.now.toInt

end Entros

------------------------------------------------------------
-- One Update
------------------------------------------------------------

namespace Entros

open Foundations
open Anchor

variable {H : Host} {config : Account}

/- The bounds that the verifier accepts. -/
theorem hammingBounds_of_valid
    {threshold minDistance : UInt16}
    (hBounds :
      Verifier.validateHammingBounds threshold minDistance =
        .ok ()) :
    3 ≤ minDistance ∧ minDistance < threshold ∧
      threshold ≤ 96 := by
  simp only [Verifier.validateHammingBounds, bind_eq_ok,
    require_eq_ok] at hBounds
  rcases hBounds with ⟨_, hThreshold, _, hFloor, hDistance⟩
  exact ⟨hFloor, hDistance, hThreshold⟩

/- The update an accepted request performs. -/
theorem updates_of_accepted
    {event : Event H}
    {request : UpdateCall}
    {key : ResultKey}
    {result : VerificationResult}
    {identity updated : IdentityState}
    {updateConfig : UpdateConfig}
    (hRequest :
      event.instruction.defaultUpdate = some request)
    (hAccepted :
      UpdateAccepted H config event.label
        (event.source.ledger H) request key result identity
        updated updateConfig)
    (hTarget :
      event.target.ledger H =
        ((event.source.ledger H).closeAt
          key.address).setIdentity request.authority.key
            (some updated)) :
    event.Updates request.authority.key
      result.commitmentPrev result.commitmentNew where
  request := ⟨request, hRequest, rfl⟩
  before := ⟨identity, hAccepted.live, hAccepted.prev.symm⟩
  after := by
    rcases updatedIdentity_eq_ok hAccepted.updated with
      ⟨count, score, _, hUpdated⟩
    refine ⟨updated, ?_, ?_⟩
    · rw [hTarget, Ledger.setIdentity_identity_same]
    · rw [hUpdated]

/- Whatever fills a key has checked the stored transition. -/
theorem checks_of_fills
    {event : Event H}
    {key : ResultKey}
    {result : VerificationResult}
    (hStep :
      LedgerStep H config event.label
        (event.source.ledger H) (event.target.ledger H))
    (hFills : Fills (storedResults H) key result event) :
    event.Checks result.verifier result.commitmentPrev
        result.commitmentNew ∧
      result.verifiedAt = event.now := by
  rcases hStep.fills_result hFills.before hFills.after with
    ⟨proof, threshold, minDistance, hChecked, _, rfl⟩
  exact ⟨⟨proof, threshold, minDistance,
      hChecked.instruction, rfl, hChecked.inputs,
      hChecked.accepted,
      hammingBounds_of_valid hChecked.bounds⟩,
    rfl⟩

/- The check that filled the key backs the update. -/
theorem backs_of_accepted
    {config' : Account}
    {check update : Event H}
    {request : UpdateCall}
    {key : ResultKey}
    {result : VerificationResult}
    {identity updated : IdentityState}
    {updateConfig : UpdateConfig}
    (hStep :
      LedgerStep H config check.label
        (check.source.ledger H) (check.target.ledger H))
    (hFills : Fills (storedResults H) key result check)
    (hAccepted :
      UpdateAccepted H config' update.label
        (update.source.ledger H) request key result identity
        updated updateConfig)
    (hUpdates :
      update.Updates request.authority.key
        result.commitmentPrev result.commitmentNew) :
    Backs check update := by
  rcases checks_of_fills hStep hFills with
    ⟨hChecks, hTime⟩
  rw [hAccepted.verifier] at hChecks
  have hPast := hAccepted.past
  rw [hTime] at hPast
  have hFresh : update.now.toInt - check.now.toInt ≤ 600 := by
    rw [← hTime]
    exact (saturatingSub_le_iff (by decide)).mp
      hAccepted.fresh
  refine ⟨⟨_, _, _, hUpdates, hChecks⟩, hPast, ?_⟩
  omega

end Entros

------------------------------------------------------------
-- Runs
------------------------------------------------------------

namespace Entros

open Foundations
open Anchor

variable {H : Host} {w w' : World}
variable {history : List (Event H)}

/- What an update takes out of the stored results. -/
def Event.Consumes
    (event : Event H)
    (key : ResultKey)
    (result : VerificationResult) : Prop :=
  ∃ request identity updated updateConfig,
    event.instruction.defaultUpdate = some request ∧
      UpdateAccepted H (protocolConfig H event.source)
          event.label (event.source.ledger H) request key
          result identity updated updateConfig ∧
        event.target.ledger H =
          ((event.source.ledger H).closeAt
            key.address).setIdentity request.authority.key
              (some updated)

theorem takes_of_consumes
    {event : Event H}
    {key : ResultKey}
    {result : VerificationResult}
    (hConsumes : event.Consumes key result) :
    Takes (storedResults H) key result event := by
  rcases hConsumes with
    ⟨request, identity, updated, updateConfig, _, hAccepted,
      hTarget⟩
  refine ⟨hAccepted.stored, ?_⟩
  rw [storedResults, hTarget, Ledger.setIdentity_result,
    Ledger.closeAt_result, if_pos rfl]

/- A call stores a result under one key only. -/
theorem fills_one
    {event : Event H}
    {config : Account}
    {key key' : ResultKey}
    {result result' : VerificationResult}
    (hStep :
      LedgerStep H config event.label
        (event.source.ledger H) (event.target.ledger H))
    (hFills : Fills (storedResults H) key result event)
    (hFills' : Fills (storedResults H) key' result' event) :
    key = key' := by
  rcases hStep.fills_result hFills.before hFills.after with
    ⟨proof, _, _, hChecked, hKey, _⟩
  rcases hStep.fills_result hFills'.before hFills'.after with
    ⟨proof', _, _, hChecked', hKey', _⟩
  have hProof : proof = proof' :=
    Option.some.inj
      (hChecked.instruction.symm.trans hChecked'.instruction)
  rw [hKey, hKey', hProof]

/-
  In every run, each update can be matched with an earlier
  check that backs it, and no check with two updates.
-/
theorem updates_backed
    (hFresh : w.Fresh)
    (hRun : Run (Step H) w history w') :
    ∃ matching : ℕ → ℕ,
      Set.InjOn matching
          (positions Event.IsUpdate history) ∧
        ∀ j (update : Event H),
          history[j]? = some update →
            update.IsUpdate →
              ∃ check : Event H,
                matching j < j ∧
                  history[matching j]? = some check ∧
                    Backs check update := by
  have hConsumes (update : Event H)
      (hUpdate : update ∈ history)
      (hIsUpdate : update.IsUpdate) :
      ∃ key result, update.Consumes key result := by
    rcases hIsUpdate with ⟨request, hRequest⟩
    rcases (event_step hFresh hRun hUpdate).updateAccepted
      hRequest with
      ⟨key, result, identity, updated, updateConfig,
        hAccepted, hTarget⟩
    exact ⟨key, result, request, identity, updated,
      updateConfig, hRequest, hAccepted, hTarget⟩
  have hStart (key : ResultKey) :
      storedResults H w key = none := by
    rw [storedResults, hFresh.ledger_eq]
    rfl
  rcases hRun.exists_matching Event.Consumes hStart
    (fun origin hOrigin _ _ _ _ =>
      fills_one (event_step hFresh hRun hOrigin))
    (fun _ _ _ _ => takes_of_consumes) with
    ⟨matching, hInjective, hMatching⟩
  refine ⟨matching, ?_, ?_⟩
  · intro j hJ j' hJ' hEq
    rcases hJ with ⟨update, hUpdate, hIsUpdate⟩
    rcases hJ' with ⟨update', hUpdate', hIsUpdate'⟩
    exact hInjective
      ⟨update, hUpdate, hConsumes update
        (List.mem_of_getElem? hUpdate) hIsUpdate⟩
      ⟨update', hUpdate', hConsumes update'
        (List.mem_of_getElem? hUpdate') hIsUpdate'⟩
      hEq
  · intro j update hUpdate hIsUpdate
    rcases hMatching j update hUpdate
      (hConsumes update (List.mem_of_getElem? hUpdate)
        hIsUpdate) with
      ⟨hBefore, key, result, check, hUses, hCheck, hFills⟩
    rcases hUses with
      ⟨request, identity, updated, updateConfig, hRequest,
        hAccepted, hTarget⟩
    have hStep :=
      event_step hFresh hRun (List.mem_of_getElem? hCheck)
    exact ⟨check, hBefore, hCheck,
      backs_of_accepted hStep hFills hAccepted
        (updates_of_accepted hRequest hAccepted hTarget)⟩

end Entros

------------------------------------------------------------
-- Two Updates around a Reset
------------------------------------------------------------

namespace Entros

open Foundations

namespace UpdateBacking

open Sample

/- A receipt of an update that reports no session. -/
def receipt : Anchor.UpdateReceiptArgs where
  validatedAt := 1700000030
  assuranceTier := 0
  sessionFinalDigest := none

/- The account that a reset reads its receipt from. -/
def receiptAccount : AccountMeta where
  address := .instructionsSysvar
  writable := false

/- The digest the validator signs for that update. -/
def updateDigest : Bytes 32 :=
  Bytes.ofList 32
    [237, 224, 108, 110, 190, 110, 140, 59, 105, 246, 166, 49,
      173, 133, 214, 137, 167, 22, 132, 175, 103, 146, 113,
      91, 146, 126, 224, 57, 100, 234, 77, 183]

/- The validator's signature on an update of `alice`. -/
def aliceUpdate : Pubkey × Bytes 64 × List UInt8 :=
  (validator,
    Bytes.ofList 64
      [40, 167, 146, 74, 3, 234, 157, 243, 85, 48, 171, 43,
        39, 242, 102, 125, 167, 29, 182, 222, 88, 195, 149,
        84, 200, 178, 101, 207, 226, 138, 96, 255, 172, 24,
        204, 154, 100, 137, 242, 45, 62, 215, 142, 52, 108,
        145, 44, 231, 209, 215, 8, 13, 22, 78, 137, 54, 119,
        191, 190, 171, 63, 38, 177, 6],
    updateDigest.toList)

/- Its signature on a reset to the commitment before. -/
def aliceReset : Pubkey × Bytes 64 × List UInt8 :=
  (validator,
    Bytes.ofList 64
      [244, 158, 58, 159, 78, 140, 150, 92, 108, 48, 130, 208,
        158, 237, 121, 68, 130, 240, 110, 18, 193, 151, 9,
        216, 97, 249, 233, 137, 185, 243, 31, 48, 134, 106, 9,
        139, 65, 240, 192, 221, 80, 60, 253, 29, 136, 132,
        213, 209, 131, 17, 137, 229, 212, 175, 60, 86, 200,
        86, 151, 81, 91, 237, 228, 0],
    Anchor.receiptV2Domain ++
      [Anchor.ReceiptPurpose.reset.code] ++
      Packed.encode (0 : UInt16) ++ alice.key.toList ++
      commitmentPrev.toList ++
      Packed.encode (1700000030 : Int64))

/- The transition that the proof of the fixtures shows. -/
def publicInputs : Verifier.PublicInputs :=
  Verifier.compactInputs commitmentNew commitmentPrev 30 3

def tables : Tables where
  requestBound := false
  digests :=
    (Anchor.updateReceiptV4Bytes alice.key commitmentNew 0
      receipt, updateDigest) :: accountDigests
  addresses := addresses
  proofs := [(.default, proof, publicInputs.toList)]
  signatures := [aliceMint, aliceUpdate, aliceReset]

/-
  `alice` verifies one transition twice, performs it, resets
  to the old commitment and performs it again.
-/
def repeated : List (Call tables.host) :=
  [{ now := 1700000000
     tx := tables.alone
     instruction := configure },
    { now := 1700000010
      tx := tables.signed aliceMint (by simp [tables])
      instruction :=
        .anchor (.mintAnchor alice [] commitmentPrev) },
    { now := 1700000020
      tx := tables.alone
      instruction :=
        .verifier (.verifyProof alice proof.toList
          publicInputs.toList (nonce 1)) },
    { now := 1700000020
      tx := tables.alone
      instruction :=
        .verifier (.verifyProofCompact alice (nonce 2) proof
          commitmentNew commitmentPrev 30 3) },
    { now := 1700000030
      tx := tables.signed aliceUpdate (by simp [tables])
      instruction :=
        .anchor (.updateAnchor alice
          (.pda (.verification alice.key (nonce 1)) 255)
          commitmentNew receipt) },
    { now := 1700000030
      tx := tables.signed aliceReset (by simp [tables])
      instruction :=
        .anchor (.resetIdentityState alice [receiptAccount]
          commitmentPrev 0) },
    { now := 1700000040
      tx := tables.signed aliceUpdate (by simp [tables])
      instruction :=
        .anchor (.updateAnchorCompact alice
          (.pda (.verification alice.key (nonce 2)) 251)
          receipt) }]

theorem repeated_run :
    ∃ (history : List (Event tables.host)) (w' : World),
      Run (Step tables.host) .funded history w' ∧
        history.map Transition.label = repeated := by
  have hReplay :
      (replay .funded repeated).map (fun _ => ()) =
        some () := by
    decide +kernel
  rcases exists_run hReplay with
    ⟨history, w', hRun, hLabels, _⟩
  exact ⟨history, w', hRun, hLabels⟩

end UpdateBacking

open UpdateBacking

theorem updates_backed_repeated :
    ∃ (history : List (Event tables.host)) (w' : World),
      Run (Step tables.host) .funded history w' ∧
        history.map Transition.label = repeated ∧
          ∃ matching : ℕ → ℕ,
            Set.InjOn matching
                (positions Event.IsUpdate history) ∧
              ∀ j (update : Event tables.host),
                history[j]? = some update →
                  update.IsUpdate →
                    ∃ check : Event tables.host,
                      matching j < j ∧
                        history[matching j]? = some check ∧
                          Backs check update := by
  rcases repeated_run with ⟨history, w', hRun, hLabels⟩
  exact ⟨history, w', hRun, hLabels,
    updates_backed funded_fresh hRun⟩

end Entros
