import Entros.Guarantees.NoReplay

/-
  Whether the stored commitments can be proved against.  The
  encoding of a request takes a commitment that is not zero
  and is below the order of the scalar field.  Updates and
  migrations of the request-bound build keep to that; the
  lifecycle instructions only refuse zero.

  Key definitions include:
    * `Provable`
    * `Instruction.installs`
    * `Ledger.AllProvable`

  Key theorems include:
    * `provable_iff_encodable`
    * `LedgerStep.allProvable`
    * `LedgerStep.installed`
    * `unprovable_rejected`
    * `provable_commitments`
-/

------------------------------------------------------------
-- Provable Commitments
------------------------------------------------------------

namespace Entros

open Foundations
open Anchor

/- What `Action::encode` demands of a commitment. -/
def Provable (commitment : Bytes 32) : Prop :=
  0 < beNat commitment.toList ∧
    beNat commitment.toList < scalarOrder

theorem provable_iff {commitment : Bytes 32} :
    Provable commitment ↔
      commitment ≠ Bytes.zero 32 ∧
        canonicalScalar commitment := by
  unfold Provable
  rw [ne_zero_iff_beNat_pos, canonicalScalar_iff]

instance (commitment : Bytes 32) :
    Decidable (Provable commitment) :=
  decidable_of_iff _ provable_iff.symm

/- The commitments of an action that has an encoding. -/
theorem Action.Encodable.provable
    {action : Action}
    (hEncodable : action.Encodable) :
    Provable action.commitmentNew ∧
      Provable action.commitmentPrev := by
  rcases Action.encodable_iff.mp hEncodable with
    ⟨hNew, hPrev, _⟩
  exact ⟨hNew, hPrev⟩

/- A commitment is provable when some action starts at it. -/
theorem provable_iff_encodable {commitment : Bytes 32} :
    Provable commitment ↔
      ∃ action : Action,
        action.commitmentPrev = commitment ∧
          action.Encodable := by
  constructor
  · intro hProvable
    have hUntil : 0 < (1 : UInt64).toNat := by decide
    have hThreshold : (0 : UInt16).toNat ≤ 256 := by decide
    -- an action that leads back to the commitment
    refine ⟨{
      identity := Pubkey.default
      mint := Pubkey.default
      counter := 0
      projection := 0
      commitmentNew := commitment
      commitmentPrev := commitment
      threshold := 0
      minDistance := 0
      validUntil := 1 }, rfl, ?_⟩
    exact Action.encodable_iff.mpr
      ⟨hProvable, hProvable, hUntil, hThreshold,
        Nat.le_refl _⟩
  · rintro ⟨action, rfl, hEncodable⟩
    exact hEncodable.provable.2

/- A digest is only computed between such commitments. -/
theorem recomputedDigest_provable
    {H : Host}
    {wallet : Pubkey}
    {identity : IdentityState}
    {counter : UInt64}
    {result : BoundVerificationResult}
    {digest : Bytes 32}
    (hDigest :
      recomputedDigest H wallet identity counter result =
        some digest) :
    Provable result.commitmentNew ∧
      Provable result.commitmentPrev :=
  (requestDigest_eq_some.mp hDigest).1.provable

end Entros

------------------------------------------------------------
-- Ledgers
------------------------------------------------------------

namespace Entros

open Foundations
open Anchor

/- The commitment that a lifecycle call brings along. -/
def Instruction.installs :
    Instruction → Option (Bytes 32)
| .anchor (.mintAnchor _ _ commitment) => some commitment
| .anchor (.resetIdentityState _ _ commitment _) =>
    some commitment
| .anchor (.rebaselineAnchor _ _ commitment _) =>
    some commitment
| _ => none

namespace Ledger

/- Every live identity can be proved against. -/
def AllProvable (l : Ledger) : Prop :=
  ∀ wallet identity,
    l.identity wallet = some identity →
      Provable identity.currentCommitment

variable {l l' : Ledger}

theorem AllProvable.empty : Ledger.empty.AllProvable := by
  intro wallet identity hIdentity
  cases hIdentity

theorem AllProvable.congr
    (hAll : l.AllProvable)
    (hSame : l'.identity = l.identity) :
    l'.AllProvable := by
  intro wallet identity hIdentity
  rw [hSame] at hIdentity
  exact hAll wallet identity hIdentity

theorem AllProvable.setIdentity
    {wallet : Pubkey}
    {value : Option IdentityState}
    (hAll : l.AllProvable)
    (hValue :
      ∀ identity, value = some identity →
        Provable identity.currentCommitment) :
    (l.setIdentity wallet value).AllProvable := by
  intro wallet' identity hIdentity
  rw [setIdentity_identity] at hIdentity
  by_cases hWallet : wallet' = wallet
  · rw [if_pos hWallet] at hIdentity
    exact hValue identity hIdentity
  · rw [if_neg hWallet] at hIdentity
    exact hAll wallet' identity hIdentity

/- Storing an identity only asks for its own commitment. -/
theorem AllProvable.store
    {wallet : Pubkey}
    {stored : IdentityState}
    (hAll : l.AllProvable)
    (hStored : Provable stored.currentCommitment) :
    (l.setIdentity wallet (some stored)).AllProvable := by
  apply hAll.setIdentity
  intro identity hIdentity
  rw [← Option.some.inj hIdentity]
  exact hStored

end Ledger

end Entros

------------------------------------------------------------
-- Steps
------------------------------------------------------------

namespace Entros

open Foundations
open Anchor
open Ledger

variable {H : Host} {config : Account} {call : Call H}
variable {l l' : Ledger}

/-
  A step keeps all commitments provable if the commitment it
  brings along, if any, is canonical.
-/
theorem LedgerStep.allProvable
    (hBuild : H.requestBound = true)
    (hStep : LedgerStep H config call l l')
    (hCanonical :
      ∀ commitment,
        call.instruction.installs = some commitment →
          canonicalScalar commitment)
    (hAll : l.AllProvable) :
    l'.AllProvable := by
  cases hStep with
  | mint _ _ commitment _ _ hInstruction _ _ hCommitment =>
      rw [hInstruction] at hCanonical
      have hMinted :=
        provable_iff.mpr ⟨hCommitment, hCanonical _ rfl⟩
      exact (hAll.congr (advanceIf_identity ..)).store hMinted
  | authorize signer _ identity _ hIdentity =>
      exact hAll.store (hAll signer.key identity hIdentity)
  | migrate _ walletOld _ identityOld _ hIdentity =>
      have hMoved : Provable identityOld.currentCommitment :=
        hAll walletOld identityOld hIdentity
      apply AllProvable.setIdentity
      · apply AllProvable.store
        · apply AllProvable.congr hAll
          rw [advanceIf_identity, advanceIf_identity]
        · exact hMoved
      · exact nofun
  | update _ _ _ _ _ _ _ _ hDefault =>
      rw [hBuild] at hDefault
      cases hDefault
  | updateBound request key result counter identity updated
      updateConfig session _ _ _ _ _ _ _ _ _ _ _ hDigest _
      _ _ _ _ _ hUpdated =>
      rcases updatedIdentity_eq_ok hUpdated with
        ⟨_, _, _, rfl⟩
      have hNew := (recomputedDigest_provable hDigest).1
      exact (hAll.congr rfl).store hNew
  | reset _ _ commitment _ _ _ _ hInstruction _ _
      hCommitment =>
      rw [hInstruction] at hCanonical
      have hReset :=
        provable_iff.mpr ⟨hCommitment, hCanonical _ rfl⟩
      exact (hAll.congr (advanceIf_identity ..)).store hReset
  | rebaseline _ _ commitment _ _ _ _ hInstruction _ _
      hCommitment =>
      rw [hInstruction] at hCanonical
      have hRebaselined :=
        provable_iff.mpr ⟨hCommitment, hCanonical _ rfl⟩
      exact (hAll.congr (advanceIf_identity ..)).store
        hRebaselined
  | prepare => exact hAll.congr rfl
  | verify => exact hAll.congr rfl
  | verifyBound => exact hAll.congr rfl
  | close => exact hAll.congr rfl
  | idle => exact hAll

/- The commitment that a call brings along is stored. -/
theorem LedgerStep.installed
    {commitment : Bytes 32}
    (hStep : LedgerStep H config call l l')
    (hInstalls :
      call.instruction.installs = some commitment) :
    ∃ wallet, l'.Stores wallet commitment := by
  have hFacts := hStep.facts
  generalize call.instruction = instruction
    at hFacts hInstalls
  unfold Instruction.installs at hInstalls
  split at hInstalls
  · rw [← Option.some.inj hInstalls]
    have hMint : MintAccepted H config call l l' _ _ := hFacts
    exact ⟨_, hMint.stored⟩
  · rw [← Option.some.inj hInstalls]
    exact ⟨_, hFacts⟩
  · rw [← Option.some.inj hInstalls]
    exact ⟨_, hFacts⟩
  · cases hInstalls

/- What an accepted request says about its identity. -/
theorem LedgerStep.requested
    {proof : BoundProof}
    (hStep : LedgerStep H config call l l')
    (hProof : call.instruction = proof.instruction) :
    ∃ identity,
      l.identity proof.verifier.key = some identity ∧
        Provable identity.currentCommitment := by
  have hFacts := hStep.facts
  rw [hProof] at hFacts
  rcases hFacts with ⟨identity, counter, digest, hChecked⟩
  refine ⟨identity, hChecked.live, ?_⟩
  rw [hChecked.chained]
  exact (recomputedDigest_provable hChecked.hashed).2

end Entros

------------------------------------------------------------
-- Runs
------------------------------------------------------------

namespace Entros

open Foundations
open Anchor
open Ledger

variable {H : Host} {w w' : World}
variable {history : List (Event H)}

/-
  While the commitment of an identity is not provable, no
  request of its wallet is ever accepted.
-/
theorem unprovable_rejected
    {wallet : Pubkey}
    {identity : IdentityState}
    (hFresh : w.Fresh)
    (hRun : Run (Step H) w history w')
    (hIdentity :
      (w'.ledger H).identity wallet = some identity)
    (hUnprovable : ¬ Provable identity.currentCommitment)
    (call : Call H)
    (proof : BoundProof)
    (hProof : call.instruction = proof.instruction)
    (hWallet : proof.verifier.key = wallet)
    (target : World) :
    ¬ Step H w' call target := by
  intro hStep
  have hLedger :
      LedgerStep H (protocolConfig H w') call (w'.ledger H)
        (target.ledger H) :=
    @run_step H w history (Transition.mk w' call target hStep)
      hFresh hRun
  rcases hLedger.requested hProof with
    ⟨held, hHeld, hProvable⟩
  rw [hWallet] at hHeld
  have hSame : identity = held :=
    Option.some.inj (hIdentity.symm.trans hHeld)
  rw [← hSame] at hProvable
  exact hUnprovable hProvable

/- No commitment is brought along that is not canonical. -/
def Event.InstallsCanonical (event : Event H) : Prop :=
  ∀ commitment,
    event.label.instruction.installs = some commitment →
      canonicalScalar commitment

/- The invariant, carried through a whole run. -/
theorem allProvable_run
    (hBuild : H.requestBound = true)
    (hFresh : w.Fresh)
    (hRun : Run (Step H) w history w')
    (hCanonical :
      ∀ event : Event H,
        event ∈ history → event.InstallsCanonical) :
    (w'.ledger H).AllProvable := by
  refine hRun.preserves
    (fun front state =>
      (∀ event : Event H,
        event ∈ front → event.InstallsCanonical) →
        (state.ledger H).AllProvable) ?_ ?_ hCanonical
  · intro _
    rw [hFresh.ledger_eq]
    exact .empty
  · intro front last hFront hBefore hCanonical
    have hStep := run_step hFresh hFront
    apply hStep.allProvable hBuild
    · exact hCanonical last
        (List.mem_append_right _ (List.mem_singleton_self _))
    · apply hBefore
      intro event hEvent
      exact hCanonical event (List.mem_append_left _ hEvent)

/-
  In a run of the request-bound build all live identities of
  all states can be proved against exactly when no lifecycle
  call has brought along a commitment that is not canonical.
-/
theorem provable_commitments
    (hBuild : H.requestBound = true)
    (hFresh : w.Fresh)
    (hRun : Run (Step H) w history w') :
    (∀ event : Event H,
        event ∈ history →
          (event.target.ledger H).AllProvable) ↔
      ∀ event : Event H,
        event ∈ history → event.InstallsCanonical := by
  constructor
  · intro hAll event hEvent commitment hInstalls
    have hStep := event_step hFresh hRun hEvent
    rcases hStep.installed hInstalls with
      ⟨wallet, identity, hIdentity, rfl⟩
    have hProvable :=
      hAll event hEvent wallet identity hIdentity
    exact (provable_iff.mp hProvable).2
  · intro hCanonical event hEvent
    rcases List.mem_iff_getElem?.mp hEvent with ⟨i, hIndex⟩
    have hStep := event_step hFresh hRun hEvent
    apply hStep.allProvable hBuild (hCanonical event hEvent)
    apply allProvable_run hBuild hFresh (hRun.source hIndex)
    intro earlier hEarlier
    exact hCanonical earlier (List.mem_of_mem_take hEarlier)

open NoReplay in
theorem provable_commitments_return :
    ∃ (history : List (Event tables.host)) (w' : World),
      Run (Step tables.host) .funded history w' ∧
        history.map Transition.label = calls ∧
          ∀ event : Event tables.host,
            event ∈ history →
              (event.target.ledger tables.host).AllProvable := by
  rcases calls_run with ⟨history, w', hRun, hLabels⟩
  -- only the mint brings a commitment along
  have hOnly :
      calls.filterMap (fun call => call.instruction.installs) =
        [Sample.commitmentPrev] := rfl
  have hCanonical : canonicalScalar Sample.commitmentPrev := by
    decide +kernel
  refine ⟨history, w', hRun, hLabels, ?_⟩
  apply (provable_commitments rfl funded_fresh hRun).mpr
  intro event hEvent commitment hInstalls
  have hCall : event.label ∈ calls := by
    rw [← hLabels]
    exact List.mem_map_of_mem hEvent
  have hMem :
      commitment ∈
        calls.filterMap fun call =>
          call.instruction.installs :=
    List.mem_filterMap.mpr ⟨event.label, hCall, hInstalls⟩
  rw [hOnly, List.mem_singleton] at hMem
  rw [hMem]
  exact hCanonical

end Entros

------------------------------------------------------------
-- A Commitment That Is Not Canonical
------------------------------------------------------------

namespace Entros

open Foundations
open Anchor

namespace ProvableCommitments

open Sample

/- The order of the scalar field, as a commitment. -/
def modulus : Bytes 32 :=
  Bytes.ofList 32 scalarModulus

/- The validator's signature on a receipt that mints it. -/
def modulusMint : Pubkey × Bytes 64 × List UInt8 :=
  (validator,
    Bytes.ofList 64
      [22, 42, 234, 149, 74, 231, 242, 51, 2, 166, 242, 34,
        204, 201, 61, 81, 2, 10, 52, 209, 117, 99, 95, 116,
        70, 78, 111, 185, 112, 204, 44, 249, 21, 108, 182, 44,
        31, 75, 250, 58, 179, 164, 132, 225, 224, 10, 202, 75,
        74, 171, 174, 176, 7, 4, 231, 31, 169, 245, 67, 6,
        254, 121, 82, 10],
    alice.key.toList ++ modulus.toList ++
      Packed.encode (1700000000 : Int64))

def tables : Tables where
  requestBound := true
  digests := accountDigests
  addresses := addresses
  proofs := []
  signatures := [modulusMint]

def call
    (now : Int64)
    (instruction : Instruction) : Call tables.host where
  now := now
  tx := tables.signed modulusMint (.head _)
  instruction := instruction

def calls : List (Call tables.host) :=
  [call 1700000000 configure,
    call 1700000010
      (.anchor (.mintAnchor alice
        [{ address := requestAddress tables.host alice.key
           writable := true }]
        modulus))]

end ProvableCommitments

/-
  The mint succeeds, and no request of the wallet is accepted
  in the state it leads to, whatever is called and when.
-/
open ProvableCommitments in
theorem provable_commitments_modulus :
    ∃ (history : List (Event tables.host)) (w' : World)
      (stored : IdentityState),
      Run (Step tables.host) .funded history w' ∧
        history.map Transition.label = calls ∧
          (w'.ledger tables.host).identity Sample.alice.key =
            some stored ∧
            stored.currentCommitment = modulus ∧
              ¬ Provable modulus ∧
                ∀ (call : Call tables.host)
                  (proof : BoundProof) (target : World),
                  call.instruction = proof.instruction →
                    proof.verifier = Sample.alice →
                      ¬ Step tables.host w' call target := by
  have hReplay :
      (replay .funded calls).map (fun replayed =>
          ((replayed.2.ledger tables.host).identity
            Sample.alice.key).map
              IdentityState.currentCommitment) =
        some (some modulus) := by
    decide +kernel
  rcases exists_run hReplay with
    ⟨history, w', hRun, hLabels, hLive⟩
  rcases Option.map_eq_some_iff.mp hLive with
    ⟨stored, hStored, hModulus⟩
  have hUnprovable : ¬ Provable modulus := by
    decide +kernel
  refine ⟨history, w', stored, hRun, hLabels, hStored,
    hModulus, hUnprovable, ?_⟩
  intro call proof target hProof hWallet
  rw [← hModulus] at hUnprovable
  exact unprovable_rejected funded_fresh hRun hStored
    hUnprovable call proof hProof (congrArg Signer.key hWallet)
    target

end Entros
