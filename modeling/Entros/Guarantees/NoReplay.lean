import Entros.Guarantees.UpdateBacking
import Entros.Guarantees.VersionStamps
import Entros.ProofRequest.Encoding
import Mathlib.Data.Set.Function

/-
  In the request-bound build nothing is replayed: a counter
  serves one result, a result serves for five minutes, and a
  proof serves one update.

  Key definitions include:
    * `Event.ConsumesBound`
    * `StoredBy`
    * `Authorises`
    * `ProofsUnambiguous`
    * `encodedRequests`
    * `NoReplay`

  Key theorems include:
    * `accepted_of_consumes`
    * `consumption_unique`
    * `consumption_recent`
    * `counter_of_sameProof`
    * `no_replay`
-/

------------------------------------------------------------
-- Consumptions
------------------------------------------------------------

namespace Entros

open Foundations
open Anchor

variable {H : Host} {w w' : World}
variable {history : List (Event H)}
variable {key : ResultKey}
variable {result : BoundVerificationResult}

/- A successful update that takes a result out of the store. -/
structure Event.ConsumesBound
    (event : Event H)
    (key : ResultKey)
    (result : BoundVerificationResult) : Prop where
  updates :
    ∃ request, event.instruction.boundUpdate = some request
  takes : Takes (boundResults H) key result event

/-
  The check that stored the result which stands under a key
  at a position of the history.
-/
def StoredBy
    (history : List (Event H))
    (j : ℕ)
    (key : ResultKey)
    (result : BoundVerificationResult)
    (i : ℕ)
    (check : Event H) : Prop :=
  LatestAt (Changes (boundResults H) key) (history.take j) i
      check ∧
    Fills (boundResults H) key result check

/-
  The update at a position consumes a result that was stored
  for a proof with these bytes.
-/
def Authorises
    (history : List (Event H))
    (proofBytes : Bytes 256)
    (j : ℕ) : Prop :=
  ∃ update key result i check proof,
    history[j]? = some update ∧
      update.ConsumesBound key result ∧
        StoredBy history j key result i check ∧
          check.instruction = BoundProof.instruction proof ∧
            proof.proof = proofBytes

/- What is taken out is what was stored where it closed. -/
theorem key_of_takes
    {event : Event H}
    {key' : ResultKey}
    {wallet : Pubkey}
    {updated : IdentityState}
    (hTakes : Takes (boundResults H) key result event)
    (hTarget :
      event.target.ledger H =
        (((event.source.ledger H).advance wallet).closeAt
          key'.boundAddress).setIdentity wallet
            (some updated)) :
    key = key' := by
  have hBefore := hTakes.before
  have hAfter := hTakes.after
  rw [boundResults, hTarget, Ledger.setIdentity_bound,
    Ledger.closeAt_bound] at hAfter
  by_cases hAddress : key.boundAddress = key'.boundAddress
  · exact ResultKey.boundAddress_injective hAddress
  · -- another account is closed, so this one would remain
    rw [if_neg hAddress, Ledger.advance_bound] at hAfter
    exact absurd (hAfter.symm.trans hBefore)
      (Option.some_ne_none result).symm

/- An update consumes the very result that it has checked. -/
theorem accepted_of_consumes
    {config : Account}
    {update : Event H}
    (hStep :
      LedgerStep H config update.label
        (update.source.ledger H) (update.target.ledger H))
    (hConsumes : update.ConsumesBound key result) :
    ∃ request identity,
      update.instruction.boundUpdate = some request ∧
        BoundUpdateAccepted H update.label
          (update.source.ledger H) request key result
          result.counter identity := by
  rcases hConsumes.updates with ⟨request, hRequest⟩
  rcases hStep.boundUpdateAccepted hRequest with
    ⟨key', result', counter, identity, updated, hAccepted,
      hTarget⟩
  have hKey := key_of_takes hConsumes.takes hTarget
  subst hKey
  have hResult : result' = result :=
    Option.some.inj
      (hAccepted.stored.symm.trans hConsumes.takes.before)
  subst hResult
  rw [hAccepted.stamp]
  exact ⟨request, identity, hRequest, hAccepted⟩

/- One update consumes one result. -/
theorem consumes_unique
    {config : Account}
    {update : Event H}
    {key' : ResultKey}
    {result' : BoundVerificationResult}
    (hStep :
      LedgerStep H config update.label
        (update.source.ledger H) (update.target.ledger H))
    (hConsumes : update.ConsumesBound key result)
    (hConsumes' : update.ConsumesBound key' result') :
    key = key' ∧ result = result' := by
  rcases hConsumes.updates with ⟨request, hRequest⟩
  rcases hStep.boundUpdateAccepted hRequest with
    ⟨_, _, _, _, updated, _, hTarget⟩
  have hKey : key = key' :=
    (key_of_takes hConsumes.takes hTarget).trans
      (key_of_takes hConsumes'.takes hTarget).symm
  subst hKey
  exact ⟨rfl,
    Option.some.inj
      (hConsumes.takes.before.symm.trans
        hConsumes'.takes.before)⟩

/- Every update consumes some result. -/
theorem exists_consumption
    {config : Account}
    {update : Event H}
    {request : UpdateCall}
    (hStep :
      LedgerStep H config update.label
        (update.source.ledger H) (update.target.ledger H))
    (hRequest :
      update.instruction.boundUpdate = some request) :
    ∃ key result, update.ConsumesBound key result := by
  rcases hStep.boundUpdateAccepted hRequest with
    ⟨key, result, counter, identity, updated, hAccepted,
      hTarget⟩
  refine ⟨key, result, ⟨request, hRequest⟩, ?_, ?_⟩
  · exact hAccepted.stored
  · rw [boundResults, hTarget, Ledger.setIdentity_bound,
      Ledger.closeAt_bound, if_pos rfl]

/- What an update consumes was stored before it. -/
theorem exists_storedBy
    {update : Event H}
    {j : ℕ}
    (hFresh : w.Fresh)
    (hRun : Run (Step H) w history w')
    (hUpdate : history[j]? = some update)
    (hConsumes : update.ConsumesBound key result) :
    ∃ i check, StoredBy history j key result i check := by
  have hStart : boundResults H w key = none := by
    rw [boundResults, hFresh.ledger_eq]
    rfl
  exact (hRun.source hUpdate).exists_origin hStart
    hConsumes.takes.before

/- What the check that stored a result had accepted. -/
theorem checked_of_storedBy
    {i j : ℕ}
    {check : Event H}
    (hFresh : w.Fresh)
    (hRun : Run (Step H) w history w')
    (hStored : StoredBy history j key result i check) :
    history[i]? = some check ∧
      ∃ proof identity counter digest,
        RequestChecked H check.label (check.source.ledger H)
            proof identity counter digest ∧
          result =
            proof.record H check.now counter digest := by
  have hCheck : history[i]? = some check :=
    getElem?_of_take hStored.1.1
  have hStep :=
    event_step hFresh hRun (List.mem_of_getElem? hCheck)
  rcases hStep.fills_bound hStored.2.before hStored.2.after
    with ⟨proof, identity, counter, digest, hChecked, _,
      hResult⟩
  exact ⟨hCheck, proof, identity, counter, digest, hChecked,
    hResult⟩

end Entros

------------------------------------------------------------
-- One Result for Each Counter
------------------------------------------------------------

namespace Entros

open Foundations
open Anchor

variable {H : Host} {w w' : World}
variable {history : List (Event H)}
variable {key key' : ResultKey}
variable {result result' : BoundVerificationResult}

/- A consumption raises the counter it was made for. -/
theorem raises_of_consumes
    {update : Event H}
    (hBuild : H.requestBound = true)
    (hFresh : w.Fresh)
    (hRun : Run (Step H) w history w')
    (hUpdate : update ∈ history)
    (hConsumes : update.ConsumesBound key result) :
    Raises (World.versionAt H) result.wallet update ∧
      update.source.versionAt H result.wallet =
        result.counter.toNat := by
  have hStep := event_step hFresh hRun hUpdate
  rcases accepted_of_consumes hStep hConsumes with
    ⟨request, identity, hRequest, hAccepted⟩
  have hWallet := hAccepted.wallet
  have hCounted := hAccepted.counted
  have hCount :=
    (hStep.counterMove hBuild result.wallet).toNat_getD
  have hInstruction :
      update.label.instruction =
        .anchor (.updateAnchorBound request.authority
          request.verificationResult request.receipt) :=
    Instruction.boundUpdate_eq_some hRequest
  have hAdvances :
      result.wallet ∈ update.label.instruction.advances := by
    rw [hInstruction, hWallet]
    exact .head _
  rw [if_pos hAdvances] at hCount
  refine ⟨?_, ?_⟩
  · unfold Raises World.versionAt
    omega
  · unfold World.versionAt
    rw [hWallet, hCounted, Option.getD_some]

/- One counter of one wallet serves one consumption. -/
theorem consumption_unique
    {j j' : ℕ}
    {update update' : Event H}
    (hBuild : H.requestBound = true)
    (hFresh : w.Fresh)
    (hRun : Run (Step H) w history w')
    (hUpdate : history[j]? = some update)
    (hUpdate' : history[j']? = some update')
    (hConsumes : update.ConsumesBound key result)
    (hConsumes' : update'.ConsumesBound key' result')
    (hWallet : result.wallet = result'.wallet)
    (hCounter : result.counter = result'.counter) :
    j = j' := by
  have hSteps (event : Event H) (hEvent : event ∈ history) :
      Versioned (World.versionAt H) (World.viewAt H) event :=
    event_versioned hBuild hFresh hRun hEvent
  rcases raises_of_consumes hBuild hFresh hRun
    (List.mem_of_getElem? hUpdate) hConsumes with
    ⟨hRaises, hVersion⟩
  rcases raises_of_consumes hBuild hFresh hRun
    (List.mem_of_getElem? hUpdate') hConsumes' with
    ⟨hRaises', hVersion'⟩
  rw [← hWallet] at hRaises' hVersion'
  refine hRun.raise_unique hSteps hUpdate hUpdate' hRaises
    hRaises' ?_
  rw [hVersion, hVersion', hCounter]

end Entros

------------------------------------------------------------
-- Five Minutes
------------------------------------------------------------

namespace Entros

open Foundations
open Anchor

variable {H : Host} {w w' : World}
variable {history : List (Event H)}
variable {key : ResultKey}
variable {result : BoundVerificationResult}

/- The clock as the programs compare it with an expiry. -/
theorem toNat_clock (now : Int64) :
    (UInt64.ofNat now.toInt.toNat).toNat =
      now.toInt.toNat := by
  have hBound := (toInt_bounds now).2
  exact UInt64.toNat_ofNat_of_lt' (by
    change now.toInt.toNat < 2 ^ 64
    omega)

/- A request is not valid for more than five minutes. -/
theorem validUntil_le
    {now : Int64}
    {validUntil : UInt64}
    (hLifetime :
      Verifier.checkRequestLifetime now validUntil =
        .ok ()) :
    0 ≤ now.toInt ∧
      validUntil.toNat ≤ now.toInt.toNat + 300 := by
  simp only [Verifier.checkRequestLifetime, bind_eq_ok,
    require_eq_ok, okOr_eq_ok] at hLifetime
  rcases hLifetime with
    ⟨_, hNow, limit, hLimit, _, _, hUntil⟩
  have hSum := toNat_checkedAdd64 hLimit
  rw [toNat_clock] at hSum
  have hLe : validUntil.toNat ≤ limit.toNat :=
    UInt64.le_iff_toNat_le.mp hUntil
  exact ⟨hNow, hLe.trans_eq hSum⟩

/- A result that has not expired was verified before. -/
theorem unexpired
    {now : Int64}
    {result : BoundVerificationResult}
    (hExpiry : checkBoundExpiry now result = .ok ()) :
    result.verifiedAt ≤ now ∧
      now.toInt ≤ result.validUntil.toNat := by
  rcases require_eq_ok.mp hExpiry with
    ⟨hPast, hNow, hUntil, _⟩
  have hLe := UInt64.le_iff_toNat_le.mp hUntil
  rw [toNat_clock] at hLe
  refine ⟨hPast, ?_⟩
  omega

/- What is consumed has been verified shortly before. -/
theorem consumption_recent
    {j : ℕ}
    {update : Event H}
    (hFresh : w.Fresh)
    (hRun : Run (Step H) w history w')
    (hUpdate : history[j]? = some update)
    (hConsumes : update.ConsumesBound key result) :
    ∃ i check,
      StoredBy history j key result i check ∧
        i < j ∧ result.verifiedAt = check.now ∧
          check.now ≤ update.now ∧
            update.now.toInt - check.now.toInt ≤ 300 := by
  rcases exists_storedBy hFresh hRun hUpdate hConsumes with
    ⟨i, check, hStored⟩
  rcases checked_of_storedBy hFresh hRun hStored with
    ⟨_, proof, _, counter, digest, hChecked, hResult⟩
  have hStep :=
    event_step hFresh hRun (List.mem_of_getElem? hUpdate)
  rcases accepted_of_consumes hStep hConsumes with
    ⟨_, _, _, hAccepted⟩
  have hTime : result.verifiedAt = check.now :=
    congrArg BoundVerificationResult.verifiedAt hResult
  have hValid : result.validUntil = proof.validUntil :=
    congrArg BoundVerificationResult.validUntil hResult
  rcases unexpired hAccepted.expiry with ⟨hPast, hUntil⟩
  rcases validUntil_le hChecked.lifetime with
    ⟨hNow, hLimit⟩
  rw [hTime] at hPast
  rw [hValid] at hUntil
  have hLength := hStored.1.lt_length
  rw [List.length_take] at hLength
  refine ⟨i, check, hStored, by omega, hTime, hPast, ?_⟩
  change update.label.now.toInt - check.label.now.toInt ≤ 300
  omega

end Entros

------------------------------------------------------------
-- One Update for Each Proof
------------------------------------------------------------

namespace Entros

open Foundations
open Anchor

variable {H : Host} {w w' : World}
variable {history : List (Event H)}

/- A proof is accepted for at most one list of inputs. -/
def ProofsUnambiguous (H : Host) : Prop :=
  ∀ (proof : List UInt8) (inputs inputs' : List (Bytes 32)),
    Verifier.groth16Verify H .bound proof inputs = true →
      Verifier.groth16Verify H .bound proof inputs' = true →
        inputs = inputs'

/- The action that an accepted proof was checked for. -/
def BoundProof.action
    (H : Host)
    (proof : BoundProof)
    (identity : IdentityState)
    (now : Int64)
    (counter : UInt64)
    (digest : Bytes 32) : Action :=
  boundAction H proof.verifier.key identity counter
    (proof.record H now counter digest)

/-
  The encodings that are hashed when the proofs of a history
  are checked: of each action, and of each request.
-/
def encodedRequests
    (history : List (Event H)) : Set (List UInt8) :=
  {bytes |
    ∃ check : Event H,
      check ∈ history ∧
        ∃ proof identity counter digest,
          RequestChecked H check.label
              (check.source.ledger H) proof identity counter
              digest ∧
            (bytes =
                (proof.action H identity check.now counter
                  digest).bytes ∨
              bytes =
                requestBytes H.deploymentDomain H.verifierId
                  H.anchorId proof.verifier.key proof.nonce
                  (H.sha256
                    (proof.action H identity check.now
                      counter digest).bytes))}

/- The digest is the hash of the encoded request. -/
theorem digest_of_checked
    {check : Event H}
    {proof : BoundProof}
    {identity : IdentityState}
    {counter : UInt64}
    {digest : Bytes 32}
    (hChecked :
      RequestChecked H check.label (check.source.ledger H)
        proof identity counter digest) :
    H.sha256
        (requestBytes H.deploymentDomain H.verifierId
          H.anchorId proof.verifier.key proof.nonce
          (H.sha256
            (proof.action H identity check.now counter
              digest).bytes)) = digest := by
  have hHashed := hChecked.hashed
  unfold recomputedDigest requestDigest Action.encode
    at hHashed
  split_ifs at hHashed
  · exact Option.some.inj hHashed
  · cases hHashed

/- Two checks of one proof were made for one counter. -/
theorem counter_of_sameProof
    {check check' : Event H}
    {proof proof' : BoundProof}
    {identity identity' : IdentityState}
    {counter counter' : UInt64}
    {digest digest' : Bytes 32}
    (hUnambiguous : ProofsUnambiguous H)
    (hInjective :
      Set.InjOn H.sha256 (encodedRequests history))
    (hCheck : check ∈ history)
    (hCheck' : check' ∈ history)
    (hChecked :
      RequestChecked H check.label (check.source.ledger H)
        proof identity counter digest)
    (hChecked' :
      RequestChecked H check'.label (check'.source.ledger H)
        proof' identity' counter' digest')
    (hProof : proof.proof = proof'.proof) :
    proof.verifier.key = proof'.verifier.key ∧
      counter = counter' := by
  have hAccepted := hChecked.accepted
  rw [hProof] at hAccepted
  have hInputs :=
    hUnambiguous _ _ _ hAccepted hChecked'.accepted
  unfold Verifier.boundInputs at hInputs
  have hDigest : digest = digest' :=
    digestLimbs_injective
      (List.append_inj_right hInputs rfl)
  -- equal digests, so equal requests, so equal actions
  have hRequest :=
    hInjective
      ⟨check, hCheck, proof, identity, counter, digest,
        hChecked, .inr rfl⟩
      ⟨check', hCheck', proof', identity', counter', digest',
        hChecked', .inr rfl⟩
      ((digest_of_checked hChecked).trans
        (hDigest.trans (digest_of_checked hChecked').symm))
  rcases requestBytes_injective hRequest with
    ⟨_, _, _, hWallet, _, hActionDigest⟩
  have hAction :=
    hInjective
      ⟨check, hCheck, proof, identity, counter, digest,
        hChecked, .inl rfl⟩
      ⟨check', hCheck', proof', identity', counter', digest',
        hChecked', .inl rfl⟩
      hActionDigest
  exact ⟨hWallet,
    congrArg Action.counter (Action.bytes_injective hAction)⟩

end Entros

------------------------------------------------------------
-- Runs
------------------------------------------------------------

namespace Entros

open Foundations
open Anchor

variable {H : Host} {w w' : World}
variable {history : List (Event H)}

/- What holds of all the updates of a history. -/
structure NoReplay (history : List (Event H)) : Prop where
  backed :
    ∀ (j : ℕ) (update : Event H) (request : UpdateCall),
      history[j]? = some update →
        update.instruction.boundUpdate = some request →
          (∃ key result, update.ConsumesBound key result) ∧
            ∃ proofBytes, Authorises history proofBytes j
  once :
    ∀ (j j' : ℕ) (update update' : Event H)
        (key key' : ResultKey)
        (result result' : BoundVerificationResult),
      history[j]? = some update →
        history[j']? = some update' →
          update.ConsumesBound key result →
            update'.ConsumesBound key' result' →
              result.wallet = result'.wallet →
                result.counter = result'.counter →
                  j = j' ∧ key = key' ∧ result = result'
  recent :
    ∀ (j : ℕ) (update : Event H) (key : ResultKey)
        (result : BoundVerificationResult),
      history[j]? = some update →
        update.ConsumesBound key result →
          ∃ i check,
            StoredBy history j key result i check ∧
              i < j ∧ result.verifiedAt = check.now ∧
                check.now ≤ update.now ∧
                  update.now.toInt - check.now.toInt ≤ 300
  single :
    ProofsUnambiguous H →
      Set.InjOn H.sha256 (encodedRequests history) →
        ∀ (proofBytes : Bytes 256) (j j' : ℕ),
          Authorises history proofBytes j →
            Authorises history proofBytes j' → j = j'

/- Every update rests on the bytes of some proof. -/
theorem exists_authorises
    {j : ℕ}
    {update : Event H}
    {key : ResultKey}
    {result : BoundVerificationResult}
    (hFresh : w.Fresh)
    (hRun : Run (Step H) w history w')
    (hUpdate : history[j]? = some update)
    (hConsumes : update.ConsumesBound key result) :
    ∃ proofBytes, Authorises history proofBytes j := by
  rcases exists_storedBy hFresh hRun hUpdate hConsumes with
    ⟨i, check, hStored⟩
  rcases checked_of_storedBy hFresh hRun hStored with
    ⟨_, proof, _, _, _, hChecked, _⟩
  exact ⟨proof.proof, update, key, result, i, check, proof,
    hUpdate, hConsumes, hStored, hChecked.instruction, rfl⟩

/- The bytes of a proof are part of its instruction. -/
theorem proof_of_instruction
    {proof proof' : BoundProof}
    (hInstruction : proof.instruction = proof'.instruction) :
    proof.proof = proof'.proof := by
  unfold BoundProof.instruction at hInstruction
  injection hInstruction with hVerify
  injection hVerify

/-
  In every run of the request-bound build, in whatever order
  the calls were made.
-/
theorem no_replay
    (hBuild : H.requestBound = true)
    (hFresh : w.Fresh)
    (hRun : Run (Step H) w history w') :
    NoReplay history where
  backed := by
    intro j update request hUpdate hRequest
    have hStep :=
      event_step hFresh hRun (List.mem_of_getElem? hUpdate)
    rcases exists_consumption hStep hRequest with
      ⟨key, result, hConsumes⟩
    exact ⟨⟨key, result, hConsumes⟩,
      exists_authorises hFresh hRun hUpdate hConsumes⟩
  once := by
    intro j j' update update' key key' result result' hUpdate
      hUpdate' hConsumes hConsumes' hWallet hCounter
    have hSame : j = j' :=
      consumption_unique hBuild hFresh hRun hUpdate hUpdate'
        hConsumes hConsumes' hWallet hCounter
    subst hSame
    have hEvent : update = update' :=
      Option.some.inj (hUpdate.symm.trans hUpdate')
    subst hEvent
    exact ⟨rfl,
      consumes_unique
        (event_step hFresh hRun
          (List.mem_of_getElem? hUpdate))
        hConsumes hConsumes'⟩
  recent := by
    intro j update key result hUpdate hConsumes
    exact consumption_recent hFresh hRun hUpdate hConsumes
  single := by
    intro hUnambiguous hInjective proofBytes j j' hFirst
      hSecond
    rcases hFirst with
      ⟨update, key, result, i, check, proof, hUpdate,
        hConsumes, hStored, hInstruction, hBytes⟩
    rcases hSecond with
      ⟨update', key', result', i', check', proof', hUpdate',
        hConsumes', hStored', hInstruction', hBytes'⟩
    rcases checked_of_storedBy hFresh hRun hStored with
      ⟨hCheck, proof₀, _, _, _, hChecked, hResult⟩
    rcases checked_of_storedBy hFresh hRun hStored' with
      ⟨hCheck', proof₀', _, _, _, hChecked', hResult'⟩
    have hProof : proof₀.proof = proofBytes :=
      (proof_of_instruction
        (hChecked.instruction.symm.trans
          hInstruction)).trans hBytes
    have hProof' : proof₀'.proof = proofBytes :=
      (proof_of_instruction
        (hChecked'.instruction.symm.trans
          hInstruction')).trans hBytes'
    rcases counter_of_sameProof hUnambiguous hInjective
      (List.mem_of_getElem? hCheck)
      (List.mem_of_getElem? hCheck') hChecked hChecked'
      (hProof.trans hProof'.symm) with ⟨hWallet, hCounter⟩
    refine consumption_unique hBuild hFresh hRun hUpdate
      hUpdate' hConsumes hConsumes' ?_ ?_
    · rw [hResult, hResult']
      exact hWallet
    · rw [hResult, hResult']
      exact hCounter

end Entros

------------------------------------------------------------
-- Tables without Collisions
------------------------------------------------------------

namespace Entros

open Foundations

namespace Tables

variable {t : Tables}

/- A hash that is not zero has been tabulated. -/
theorem mem_digests
    {data : List UInt8}
    (hHash : t.host.sha256 data ≠ Bytes.zero 32) :
    (data, t.host.sha256 data) ∈ t.digests := by
  have hFind :
      t.host.sha256 data =
        ((t.digests.find? fun entry =>
          entry.1 = data).map Prod.snd).getD
            (Bytes.zero 32) := rfl
  cases hEntry :
      t.digests.find? fun entry => entry.1 = data with
  | none =>
      rw [hEntry] at hFind
      exact absurd hFind hHash
  | some entry =>
      rw [hEntry] at hFind
      have hData : entry.1 = data := by
        simpa using List.find?_some hEntry
      rw [hFind, ← hData]
      exact List.mem_of_find?_eq_some hEntry

/- An accepted proof has been tabulated with its inputs. -/
theorem mem_proofs
    {key : VerifyingKey}
    {proof : List UInt8}
    {inputs : List (Bytes 32)}
    (hProof :
      Verifier.groth16Verify t.host key proof inputs =
        true) :
    ∃ entry ∈ t.proofs,
      entry.1 = key ∧
        slice entry.2.1.toList 0 64 =
            (Bytes.ofList 64 (slice proof 0 64)).toList ∧
          entry.2.2 = inputs := by
  rcases List.any_eq_true.mp hProof with
    ⟨entry, hEntry, hMatch⟩
  rcases of_decide_eq_true hMatch with
    ⟨hKey, hFirst, _, _, hInputs⟩
  exact ⟨entry, hEntry, hKey, hFirst, hInputs⟩

/- Proofs that differ at the start are not ambiguous. -/
theorem proofsUnambiguous
    (hDiffer :
      ∀ entry ∈ t.proofs, ∀ entry' ∈ t.proofs,
        slice entry.2.1.toList 0 64 =
            slice entry'.2.1.toList 0 64 →
          entry.2.2 = entry'.2.2) :
    ProofsUnambiguous t.host := by
  intro proof inputs inputs' hProof hProof'
  rcases mem_proofs hProof with
    ⟨entry, hEntry, _, hFirst, rfl⟩
  rcases mem_proofs hProof' with
    ⟨entry', hEntry', _, hFirst', rfl⟩
  exact hDiffer entry hEntry entry' hEntry'
    (hFirst.trans hFirst'.symm)

/-
  If the tabulated hashes differ, and no tabulated text ends
  in the hash of something else, then whatever is hashed for
  an accepted proof has a hash of its own.
-/
theorem injOn_encodedRequests
    {history : List (Event t.host)}
    (hDiffer :
      ∀ entry ∈ t.digests, ∀ entry' ∈ t.digests,
        entry.2 = entry'.2 → entry.1 = entry'.1)
    (hInputs :
      ∀ entry ∈ t.proofs,
        digestLimbs (Bytes.zero 32) ≠ entry.2.2.drop 4)
    (hTails :
      ∀ entry ∈ t.digests,
        entry.1.drop 193 ≠ (Bytes.zero 32).toList) :
    Set.InjOn t.host.sha256 (encodedRequests history) := by
  have hHashed (data : List UInt8)
      (hData : data ∈ encodedRequests history) :
      t.host.sha256 data ≠ Bytes.zero 32 := by
    rcases hData with
      ⟨check, _, proof, identity, counter, digest, hChecked,
        hEncoded⟩
    have hDigest := digest_of_checked hChecked
    have hNonzero : digest ≠ Bytes.zero 32 := by
      rintro rfl
      rcases mem_proofs hChecked.accepted with
        ⟨entry, hEntry, _, _, hSame⟩
      refine hInputs entry hEntry ?_
      rw [hSame]
      rfl
    rcases hEncoded with rfl | rfl
    · -- the request ends in the hash of its action
      intro hZero
      rw [hZero] at hDigest
      rw [← hDigest] at hNonzero
      refine hTails _ (mem_digests hNonzero) ?_
      exact drop_requestBytes _ _ _ _ _ _
    · rw [hDigest]
      exact hNonzero
  intro data hData data' hData' hSame
  have hMem := mem_digests (hHashed data hData)
  have hMem' := mem_digests (hHashed data' hData')
  exact hDiffer _ hMem _ hMem' hSame

end Tables

end Entros

------------------------------------------------------------
-- There and Back Again
------------------------------------------------------------

namespace Entros

open Foundations
open Anchor

namespace NoReplay

open Sample
open VersionStamps

/- The digest of the action that leads back. -/
def returnDigest : Bytes 32 :=
  Bytes.ofList 32
    [13, 43, 246, 253, 175, 152, 6, 57, 91, 40, 7, 6, 226, 34,
      73, 138, 212, 30, 207, 157, 5, 50, 194, 162, 123, 52,
      203, 47, 181, 116, 88, 87]

def thirdDigest : Bytes 32 :=
  Bytes.ofList 32
    [95, 159, 5, 115, 236, 251, 109, 60, 57, 115, 164, 250,
      108, 13, 145, 156, 130, 144, 192, 76, 65, 27, 194, 200,
      75, 251, 253, 26, 27, 121, 11, 160]

/- The proof of the third request, for the same key. -/
def thirdProof : Bytes 256 :=
  Bytes.ofList 256
    [28, 181, 136, 90, 154, 200, 141, 159, 173, 220, 46,
      181, 252, 149, 190, 50, 4, 182, 105, 246, 46, 57, 91,
      201, 52, 216, 204, 174, 142, 65, 87, 58, 25, 211, 208,
      184, 101, 84, 213, 81, 183, 237, 114, 230, 220, 124,
      20, 161, 210, 11, 143, 150, 32, 111, 159, 120, 38,
      245, 21, 27, 62, 134, 247, 251, 16, 249, 67, 132, 47,
      55, 130, 45, 43, 155, 247, 176, 163, 33, 229, 19, 216,
      97, 74, 128, 77, 232, 94, 154, 197, 22, 42, 171, 185,
      81, 43, 189, 28, 52, 126, 159, 174, 199, 14, 147, 243,
      120, 132, 152, 138, 152, 174, 154, 137, 223, 230, 221,
      173, 74, 59, 195, 111, 77, 3, 250, 180, 2, 13, 151,
      18, 143, 54, 244, 146, 76, 108, 227, 111, 148, 235,
      200, 0, 52, 90, 107, 252, 203, 159, 82, 218, 165, 96,
      53, 32, 59, 101, 12, 204, 45, 208, 86, 34, 41, 101,
      89, 156, 98, 90, 48, 45, 131, 42, 122, 200, 78, 9,
      230, 131, 9, 94, 119, 31, 4, 207, 223, 106, 54, 200,
      203, 197, 3, 33, 111, 44, 113, 79, 251, 174, 63, 112,
      1, 28, 14, 242, 161, 111, 46, 120, 25, 134, 64, 182,
      217, 52, 228, 105, 143, 10, 221, 217, 106, 90, 92, 25,
      108, 10, 255, 46, 225, 166, 170, 109, 130, 199, 33,
      11, 241, 210, 6, 91, 188, 60, 92, 22, 213, 116, 59, 3,
      132, 240, 20, 225, 89, 184, 200, 243, 50]

/- The receipt of the update that leads back. -/
def returnReceipt : UpdateReceiptArgs where
  validatedAt := 1700000070
  assuranceTier := 0
  sessionFinalDigest := none

def returnUpdateDigest : Bytes 32 :=
  Bytes.ofList 32
    [108, 114, 193, 23, 183, 124, 58, 153, 57, 171, 244, 202,
      216, 57, 153, 201, 80, 157, 163, 229, 234, 116, 68, 73,
      138, 195, 36, 39, 143, 236, 166, 123]

/- The validator's signature on it. -/
def aliceReturn : Pubkey × Bytes 64 × List UInt8 :=
  (validator,
    Bytes.ofList 64
      [98, 61, 227, 139, 69, 29, 131, 104, 49, 232, 142, 228,
        41, 49, 18, 97, 235, 12, 24, 43, 136, 208, 15, 231,
        248, 101, 165, 160, 81, 16, 13, 235, 11, 166, 10, 65,
        30, 170, 169, 175, 166, 131, 161, 60, 7, 44, 1, 220,
        4, 86, 152, 127, 246, 43, 33, 24, 139, 169, 195, 253,
        15, 40, 251, 3],
    returnUpdateDigest.toList)

def tables : Tables where
  requestBound := true
  digests :=
    [((action 1 commitmentNew commitmentPrev).bytes,
        actionDigest),
      ((action 2 commitmentPrev commitmentNew).bytes,
        returnDigest),
      (request 1 actionDigest, firstDigest),
      (request 2 actionDigest, secondDigest),
      (request 3 returnDigest, thirdDigest),
      (updateReceiptV4Bytes alice.key commitmentNew 0
        UpdateBacking.receipt, UpdateBacking.updateDigest),
      (updateReceiptV4Bytes alice.key commitmentPrev 0
        returnReceipt, returnUpdateDigest)] ++
    accountDigests
  addresses := addresses
  proofs :=
    [(.bound, firstProof,
        inputs commitmentNew commitmentPrev firstDigest),
      (.bound, secondProof,
        inputs commitmentNew commitmentPrev secondDigest),
      (.bound, thirdProof,
        inputs commitmentPrev commitmentNew thirdDigest)]
  signatures :=
    [aliceMint, UpdateBacking.aliceUpdate, aliceReturn]

def call
    (now : Int64)
    (instruction : Instruction) : Call tables.host where
  now := now
  tx := tables.signed aliceMint (.head _)
  instruction := instruction

/-
  Of two requests for one counter the first is performed and
  the second closed; a third one leads back to the commitment
  that the first has left.
-/
def calls : List (Call tables.host) :=
  [call 1700000000 Sample.configure,
    call 1700000010
      (.anchor (.mintAnchor alice
        [{ address := requestAddress tables.host alice.key
           writable := true }]
        commitmentPrev)),
    call 1700000020 (VersionStamps.verify 1 firstProof),
    call 1700000030 (VersionStamps.verify 2 secondProof),
    { now := 1700000040
      tx :=
        tables.signed UpdateBacking.aliceUpdate
          (.tail _ (.head _))
      instruction :=
        .anchor (.updateAnchorBound alice
          (.pda (.verificationBound alice.key (nonce 1)) 250)
          UpdateBacking.receipt) },
    call 1700000050
      (.verifier (.closeBoundVerificationResult alice
        (nonce 2)
        (.pda (.verificationBound alice.key (nonce 2))
          255))),
    call 1700000060
      (.verifier (.verifyProofBound alice (nonce 3)
        thirdProof commitmentPrev commitmentNew 30 3
        1700000200)),
    { now := 1700000080
      tx :=
        tables.signed aliceReturn (.tail _ (.tail _ (.head _)))
      instruction :=
        .anchor (.updateAnchorBound alice
          (.pda (.verificationBound alice.key (nonce 3)) 254)
          returnReceipt) }]

theorem calls_run :
    ∃ (history : List (Event tables.host)) (w' : World),
      Run (Step tables.host) .funded history w' ∧
        history.map Transition.label = calls := by
  have hReplay :
      (replay .funded calls).map (fun _ => ()) =
        some () := by
    decide +kernel
  rcases exists_run hReplay with
    ⟨history, w', hRun, hLabels, _⟩
  exact ⟨history, w', hRun, hLabels⟩

theorem unambiguous : ProofsUnambiguous tables.host :=
  Tables.proofsUnambiguous (by decide +kernel)

theorem injective (history : List (Event tables.host)) :
    Set.InjOn tables.host.sha256 (encodedRequests history) :=
  Tables.injOn_encodedRequests (by decide +kernel)
    (by decide +kernel) (by decide +kernel)

end NoReplay

open NoReplay in
theorem no_replay_return :
    ∃ (history : List (Event tables.host)) (w' : World),
      Run (Step tables.host) .funded history w' ∧
        history.map Transition.label = calls ∧
          NoReplay history ∧
            ∀ (proofBytes : Bytes 256) (j j' : ℕ),
              Authorises history proofBytes j →
                Authorises history proofBytes j' →
                  j = j' := by
  rcases calls_run with ⟨history, w', hRun, hLabels⟩
  have hNoReplay : NoReplay history :=
    no_replay rfl funded_fresh hRun
  exact ⟨history, w', hRun, hLabels, hNoReplay,
    hNoReplay.single unambiguous (injective history)⟩

end Entros
