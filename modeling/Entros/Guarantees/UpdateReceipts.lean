import Entros.Guarantees.Cooldowns

/-
  How often one signed update receipt can be used.  Without a
  record of used receipts, the time of the last verification
  is all that stands against a second use, and it does not
  help within the second that the receipt names.

  Key definitions include:
    * `Event.AcceptsDigest`
    * `ReceiptsSingleUse`
    * `Event.hashedReceipt`
    * `Event.Revisits`

  Key theorems include:
    * `updateReceiptV4Bytes_inj`
    * `exists_accepts`
    * `receipts_singleUse`
    * `receipts_reused`
-/

------------------------------------------------------------
-- Receipts
------------------------------------------------------------

namespace Entros

open Foundations
open Anchor

variable {H : Host}

/-
  The signed message in front of an update, as the update
  loads it.
-/
def Event.acceptedDigest
    (event : Event H) : Option (List UInt8) := do
  let request ← event.instruction.defaultUpdate
  let identity ←
    (event.source.ledger H).identity request.authority.key
  let updateConfig ←
    (readUpdateConfig (protocolConfig H event.source)
      identity.projectionVersion).toOption
  (loadPrecedingEd25519Receipt event.label.tx
    updateConfig.validatorKeys [receiptV4DigestLen]
    event.now).toOption

/- The signature in front of the update is on the digest. -/
def Event.AcceptsDigest
    (event : Event H)
    (digest : Bytes 32) : Prop :=
  event.acceptedDigest = some digest.toList

/- No digest is accepted by two updates of one lineage. -/
def ReceiptsSingleUse (history : List (Event H)) : Prop :=
  ∀ i j (earlier later : Event H) lineage digest,
    history[i]? = some earlier →
      history[j]? = some later →
        earlier.ActsOn Instruction.updates (history.take i)
            lineage →
          later.ActsOn Instruction.updates (history.take j)
              lineage →
            earlier.AcceptsDigest digest →
              later.AcceptsDigest digest → i = j

/- The new commitment in the result account of an update. -/
def Event.askedCommitment
    (event : Event H)
    (request : UpdateCall) : Option (Bytes 32) :=
  (decodeAccount VerificationResult H .verifier
    VerificationResult.accountName
    (event.source.accounts
      request.verificationResult)).map
    VerificationResult.commitmentNew

/- What an update is asked to do, before it runs. -/
structure Event.Asks
    (event : Event H)
    (request : UpdateCall)
    (commitmentNew : Bytes 32)
    (projectionVersion : UInt16) : Prop where
  asked :
    event.instruction.defaultUpdate = some request
  commitment :
    event.askedCommitment request = some commitmentNew
  version :
    ((event.source.ledger H).identity
        request.authority.key).map
        IdentityState.projectionVersion =
      some projectionVersion

/-
  With the same arguments, an earlier update of the lineage
  has already installed the commitment the update asks for,
  in the very second that the receipt names.
-/
def Event.Revisits
    (past : List (Event H))
    (event : Event H) : Prop :=
  ∃ (k : ℕ) (earlier : Event H) (lineage : ℕ)
    (request request' : UpdateCall)
    (commitmentNew : Bytes 32) (projectionVersion : UInt16),
    past[k]? = some earlier ∧
      earlier.ActsOn Instruction.updates (past.take k)
          lineage ∧
        event.ActsOn Instruction.updates past lineage ∧
          earlier.Asks request commitmentNew
              projectionVersion ∧
            event.Asks request' commitmentNew
                projectionVersion ∧
              request.authority.key =
                  request'.authority.key ∧
                request.receipt = request'.receipt ∧
                  earlier.now = request'.receipt.validatedAt

/- The string that an update hashes for its receipt. -/
def Event.hashedReceipt
    (event : Event H) : Option (List UInt8) := do
  let request ← event.instruction.defaultUpdate
  let commitmentNew ← event.askedCommitment request
  let identity ←
    (event.source.ledger H).identity request.authority.key
  return updateReceiptV4Bytes request.authority.key
    commitmentNew identity.projectionVersion request.receipt

/- The strings that the updates of a history hash. -/
def hashedReceipts
    (history : List (Event H)) : Set (List UInt8) :=
  {preimage | ∃ event : Event H,
    event ∈ history ∧ event.hashedReceipt = some preimage}

end Entros

------------------------------------------------------------
-- Preimages
------------------------------------------------------------

namespace Entros

open Foundations
open Anchor

/-
  A preimage determines what it is computed from, for the
  arguments that pass their check.
-/
theorem updateReceiptV4Bytes_inj
    {wallet wallet' : Pubkey}
    {commitmentNew commitmentNew' : Bytes 32}
    {projectionVersion projectionVersion' : UInt16}
    {receipt receipt' : UpdateReceiptArgs}
    (hCheck : receipt.check = .ok ())
    (hCheck' : receipt'.check = .ok ())
    (hBytes :
      updateReceiptV4Bytes wallet commitmentNew
          projectionVersion receipt =
        updateReceiptV4Bytes wallet' commitmentNew'
          projectionVersion' receipt') :
    wallet = wallet' ∧
      commitmentNew = commitmentNew' ∧
        projectionVersion = projectionVersion' ∧
          receipt = receipt' := by
  unfold updateReceiptV4Bytes at hBytes
  have hTier := List.append_inj' hBytes rfl
  have hSession := List.append_inj' hTier.1 (by simp)
  have hTime := List.append_inj' hSession.1 (by simp)
  have hCommitment := List.append_inj' hTime.1 (by simp)
  have hWallet := List.append_inj' hCommitment.1 (by simp)
  have hVersion := List.append_inj' hWallet.1 (by simp)
  refine ⟨Bytes.toList_injective hWallet.2,
    Bytes.toList_injective hCommitment.2,
    Packed.encode_injective hVersion.2, ?_⟩
  have hValidated := Packed.encode_injective hTime.2
  have hDigest := Bytes.toList_injective hSession.2
  simp only [UpdateReceiptArgs.check, bind_eq_ok,
    require_eq_ok] at hCheck hCheck'
  -- without a session the digest is zero, else it is not
  rcases receipt with ⟨validatedAt, tier, session⟩
  rcases receipt' with ⟨validatedAt', tier', session'⟩
  rcases hCheck with ⟨_, _, hNonzero⟩
  rcases hCheck' with ⟨_, _, hNonzero'⟩
  cases session with
  | none =>
      cases session' with
      | none => simp_all
      | some digest' =>
          exact absurd (congrArg some hDigest.symm) hNonzero'
  | some digest =>
      cases session' with
      | none => exact absurd (congrArg some hDigest) hNonzero
      | some digest' => simp_all

end Entros

------------------------------------------------------------
-- Accepted Digests
------------------------------------------------------------

namespace Entros

open Foundations
open Anchor

variable {H : Host} {w w' : World}
variable {history : List (Event H)}

/- The time of the last verification. -/
theorem stamps_lastVerification :
    Stamps H Instruction.updates
      IdentityState.lastVerificationTimestamp where
  rewrites := fun _ _ => Instruction.rewrites_of_updates
  acted := by
    intro config call wallet stored stored' hEvolution
      hUpdates
    cases hEvolution with
    | kept hOther =>
        exact absurd
          (Instruction.rewrites_of_updates hUpdates) hOther
    | authorized _ _ hInstruction =>
        rw [hInstruction] at hUpdates
        cases hUpdates
    | migrated _ hMotion =>
        have hStay := Instruction.motion_of_rewrites
          (Instruction.rewrites_of_updates hUpdates)
        rw [hMotion] at hStay
        cases hStay
    | updated _ _ _ _ _ _ hUpdated =>
        rcases updatedIdentity_eq_ok hUpdated with
          ⟨count, score, _, rfl⟩
        rfl
    | reset => rfl
    | rebaselined => rfl
  kept := by
    intro config call wallet stored stored' hEvolution
    cases hEvolution with
    | kept => exact .inl rfl
    | authorized => exact .inl rfl
    | migrated => exact .inl rfl
    | updated _ _ _ _ _ _ hUpdated =>
        rcases updatedIdentity_eq_ok hUpdated with
          ⟨count, score, _, rfl⟩
        exact .inr rfl
    | reset => exact .inr rfl
    | rebaselined => exact .inr rfl

/- What an update of a run has accepted. -/
structure Event.Accepts
    (event : Event H)
    (request : UpdateCall)
    (commitmentNew : Bytes 32)
    (identity : IdentityState)
    (preimage : List UInt8) : Prop where
  asks :
    event.Asks request commitmentNew
      identity.projectionVersion
  live :
    (event.source.ledger H).identity request.authority.key =
      some identity
  bytes :
    preimage =
      updateReceiptV4Bytes request.authority.key
        commitmentNew identity.projectionVersion
        request.receipt
  hashed : event.hashedReceipt = some preimage
  digest : event.AcceptsDigest (H.sha256 preimage)
  check : request.receipt.check = .ok ()
  unused :
    identity.lastVerificationTimestamp ≤
      request.receipt.validatedAt
  past : request.receipt.validatedAt ≤ event.now

/- Every update accepts the digest of what it asks for. -/
theorem exists_accepts
    {event : Event H}
    {request : UpdateCall}
    (hFresh : w.Fresh)
    (hRun : Run (Step H) w history event.source)
    (hRequest :
      event.instruction.defaultUpdate = some request) :
    ∃ commitmentNew identity preimage,
      event.Accepts request commitmentNew identity
        preimage := by
  rcases (run_step hFresh hRun).updateAccepted hRequest with
    ⟨key, result, identity, updated, config, hAccepted, _⟩
  have hLive := hAccepted.live
  rcases hAccepted.receipt with ⟨session, hReceipt⟩
  simp only [verifyUpdateReceiptDigest,
    computeUpdateReceiptV4Digest,
    buildUpdateReceiptV4Preimage, bind_eq_ok, require_eq_ok,
    pure_eq_ok] at hReceipt
  rcases hReceipt with
    ⟨_, hLoad, _, ⟨_, ⟨_, hCheck, rfl⟩, rfl⟩, _, rfl, _,
      hAge, _⟩
  simp only [checkReceiptAge, bind_eq_ok, require_eq_ok]
    at hAge
  rcases hAge with ⟨_, hPast, _⟩
  have hAsked :
      event.askedCommitment request =
        some result.commitmentNew := by
    rw [Event.askedCommitment, ← hAccepted.address]
    exact congrArg
      (Option.map VerificationResult.commitmentNew)
      hAccepted.stored
  refine ⟨result.commitmentNew, identity, _, {
    asks := ⟨hRequest, hAsked, by rw [hLive]; rfl⟩
    live := hLive
    bytes := rfl
    hashed := ?_
    digest := ?_
    check := hCheck
    unused := hAccepted.unused
    past := hPast }⟩
  · rw [Event.hashedReceipt, hRequest, Option.bind_eq_bind,
      Option.bind_some, hAsked, Option.bind_eq_bind,
      Option.bind_some, hLive]
    rfl
  · rw [Event.AcceptsDigest, Event.acceptedDigest, hRequest,
      Option.bind_eq_bind, Option.bind_some, hLive,
      Option.bind_eq_bind, Option.bind_some,
      toOption_eq_some.mpr hAccepted.config,
      Option.bind_eq_bind, Option.bind_some]
    exact toOption_eq_some.mpr hLoad

/- An event that accepts a digest is an update. -/
theorem exists_accepts_digest
    {event : Event H}
    {digest : Bytes 32}
    (hFresh : w.Fresh)
    (hRun : Run (Step H) w history event.source)
    (hAccepts : event.AcceptsDigest digest) :
    ∃ request commitmentNew identity preimage,
      event.Accepts request commitmentNew identity preimage ∧
        digest = H.sha256 preimage := by
  have hDigest := hAccepts
  rw [Event.AcceptsDigest, Event.acceptedDigest,
    Option.bind_eq_bind, Option.bind_eq_some_iff] at hDigest
  rcases hDigest with ⟨request, hRequest, _⟩
  rcases exists_accepts hFresh hRun hRequest with
    ⟨commitmentNew, identity, preimage, hAccepted⟩
  exact ⟨request, commitmentNew, identity, preimage,
    hAccepted,
    Bytes.toList_injective (Option.some.inj
      (hAccepts.symm.trans hAccepted.digest))⟩

end Entros

------------------------------------------------------------
-- Single Use
------------------------------------------------------------

namespace Entros

open Foundations
open Anchor

variable {H : Host} {w w' : World}
variable {history : List (Event H)}

/- A second use of a digest revisits its commitment. -/
theorem revisits_of_reuse
    {i j : ℕ}
    {earlier later : Event H}
    {lineage : ℕ}
    {digest : Bytes 32}
    (hFresh : w.Fresh)
    (hClock : Clocked history)
    (hCollision : Set.InjOn H.sha256 (hashedReceipts history))
    (hRun : Run (Step H) w history w')
    (hBefore : i < j)
    (hEarlier : history[i]? = some earlier)
    (hLater : history[j]? = some later)
    (hActs :
      earlier.ActsOn Instruction.updates (history.take i)
        lineage)
    (hActs' :
      later.ActsOn Instruction.updates (history.take j)
        lineage)
    (hAccepts : earlier.AcceptsDigest digest)
    (hAccepts' : later.AcceptsDigest digest) :
    later.Revisits (history.take j) := by
  rcases exists_accepts_digest hFresh (hRun.source hEarlier)
    hAccepts with
    ⟨request, commitment, identity, preimage, hFirst,
      hDigest⟩
  rcases exists_accepts_digest hFresh (hRun.source hLater)
    hAccepts' with
    ⟨request', commitment', identity', preimage', hSecond,
      hDigest'⟩
  -- equal digests are digests of one preimage
  have hPreimage := hCollision
    ⟨earlier, List.mem_of_getElem? hEarlier, hFirst.hashed⟩
    ⟨later, List.mem_of_getElem? hLater, hSecond.hashed⟩
    (hDigest.symm.trans hDigest')
  rw [hFirst.bytes, hSecond.bytes] at hPreimage
  rcases updateReceiptV4Bytes_inj hFirst.check hSecond.check
    hPreimage with ⟨hWallet, rfl, hVersion, hReceipt⟩
  -- the last verification is no earlier than the first use
  have hDated := dated_run stamps_lastVerification hFresh
    (hClock.take j) (hRun.source hLater)
  have hTaken := getElem?_take_of_before hBefore hEarlier
  rw [← take_take_of_before hBefore] at hActs
  have hHolder := hActs'
  rcases hHolder with ⟨wallet, hUpdates, hHolder⟩
  have hSame : request'.authority.key = wallet :=
    Option.some.inj
      ((Instruction.updates_of_defaultUpdate
        hSecond.asks.asked).symm.trans hUpdates)
  rw [← hSame] at hHolder
  have hStamp := hDated _ _ lineage hSecond.live hHolder i
    earlier hTaken hActs
  have hNow : earlier.now = request'.receipt.validatedAt := by
    apply Int64.le_antisymm
    · exact Int64.le_trans hStamp hSecond.unused
    · rw [← hReceipt]
      exact hFirst.past
  have hAsks := hFirst.asks
  rw [hVersion] at hAsks
  exact ⟨i, earlier, lineage, request, request', commitment,
    identity'.projectionVersion, hTaken, hActs, hActs',
    hAsks, hSecond.asks, hWallet, hReceipt, hNow⟩

/- An update that revisits uses a receipt once more. -/
theorem reuse_of_revisits
    {j : ℕ}
    {later : Event H}
    (hFresh : w.Fresh)
    (hRun : Run (Step H) w history w')
    (hLater : history[j]? = some later)
    (hRevisits : later.Revisits (history.take j)) :
    ¬ ReceiptsSingleUse history := by
  rcases hRevisits with
    ⟨k, earlier, lineage, request, request', commitmentNew,
      projectionVersion, hTaken, hActs, hActs', hAsks, hAsks',
      hWallet, hReceipt, _⟩
  have hEarlier := hTaken
  rw [List.getElem?_take] at hEarlier
  split_ifs at hEarlier with hBefore
  rw [take_take_of_before hBefore] at hActs
  rcases exists_accepts hFresh (hRun.source hEarlier)
    hAsks.asked with
    ⟨commitment, identity, preimage, hFirst⟩
  rcases exists_accepts hFresh (hRun.source hLater)
    hAsks'.asked with
    ⟨commitment', identity', preimage', hSecond⟩
  -- both updates hash the same arguments
  have hCommitment : commitment = commitment' :=
    Option.some.inj
      ((hFirst.asks.commitment.symm.trans
        hAsks.commitment).trans
        (hAsks'.commitment.symm.trans
          hSecond.asks.commitment))
  have hVersion :
      identity.projectionVersion =
        identity'.projectionVersion :=
    Option.some.inj
      ((hFirst.asks.version.symm.trans hAsks.version).trans
        (hAsks'.version.symm.trans hSecond.asks.version))
  have hPreimage : preimage = preimage' := by
    rw [hFirst.bytes, hSecond.bytes, hWallet,
      hCommitment, hVersion, hReceipt]
  have hAccepts := hFirst.digest
  rw [hPreimage] at hAccepts
  intro hSingle
  have hEq := hSingle k j earlier later lineage _ hEarlier
    hLater hActs hActs' hAccepts hSecond.digest
  exact absurd hEq (Nat.ne_of_lt hBefore)

/-
  In every run with a clock that does not go back and without
  a hash collision among the receipts it has hashed: every
  receipt is used at most once exactly when no update
  revisits.
-/
theorem receipts_singleUse
    (hFresh : w.Fresh)
    (hClock : Clocked history)
    (hCollision : Set.InjOn H.sha256 (hashedReceipts history))
    (hRun : Run (Step H) w history w') :
    ReceiptsSingleUse history ↔
      ∀ j (event : Event H),
        history[j]? = some event →
          ¬ event.Revisits (history.take j) := by
  constructor
  · intro hSingle j event hEvent hRevisits
    exact reuse_of_revisits hFresh hRun hEvent hRevisits
      hSingle
  · intro hNew i j earlier later lineage digest hEarlier
      hLater hActs hActs' hAccepts hAccepts'
    rcases Nat.lt_trichotomy i j with
      hBefore | hSame | hAfter
    · exact absurd
        (revisits_of_reuse hFresh hClock hCollision hRun
          hBefore hEarlier hLater hActs hActs' hAccepts
          hAccepts')
        (hNew j later hLater)
    · exact hSame
    · exact absurd
        (revisits_of_reuse hFresh hClock hCollision hRun
          hAfter hLater hEarlier hActs' hActs hAccepts'
          hAccepts)
        (hNew i earlier hEarlier)

end Entros

------------------------------------------------------------
-- One Receipt, Two Updates
------------------------------------------------------------

namespace Entros

open Foundations

open UpdateBacking

/- The lineage an event updates and the digest it accepts. -/
def updateAt
    {H : Host}
    (history : List (Event H))
    (i : ℕ) : Option (ℕ × List UInt8) := do
  let event ← history[i]?
  let wallet ← event.instruction.updates
  let lineage ←
    (lineages (history.take i)).holder wallet
  let digest ← event.acceptedDigest
  return (lineage, digest)

theorem updateAt_eq_some
    {H : Host}
    {history : List (Event H)}
    {i lineage : ℕ}
    {digest : Bytes 32}
    (hUpdate :
      updateAt history i = some (lineage, digest.toList)) :
    ∃ event : Event H,
      history[i]? = some event ∧
        event.ActsOn Instruction.updates (history.take i)
            lineage ∧
          event.AcceptsDigest digest := by
  unfold updateAt at hUpdate
  simp only [Option.bind_eq_bind, Option.bind_eq_some_iff,
    Option.pure_def, Option.some.injEq, Prod.mk.injEq]
    at hUpdate
  rcases hUpdate with
    ⟨event, hEvent, wallet, hWallet, holder, hHolder,
      accepted, hAccepted, rfl, rfl⟩
  exact ⟨event, hEvent, ⟨wallet, hWallet, hHolder⟩, hAccepted⟩

/- The reset between two updates brings the receipt back. -/
theorem receipts_reused :
    ∃ (history : List (Event tables.host)) (w' : World),
      Run (Step tables.host) .funded history w' ∧
        history.map Transition.label = repeated ∧
          Clocked history ∧ ¬ ReceiptsSingleUse history := by
  have hReplay :
      (replay .funded repeated).map (fun replayed =>
          (updateAt replayed.1 4, updateAt replayed.1 6)) =
        some (some (1, updateDigest.toList),
          some (1, updateDigest.toList)) := by
    decide +kernel
  rcases exists_run hReplay with
    ⟨history, w', hRun, hLabels, hUpdates⟩
  rcases Prod.mk.inj hUpdates with ⟨hFirst, hSecond⟩
  rcases updateAt_eq_some hFirst with
    ⟨earlier, hEarlier, hActs, hAccepts⟩
  rcases updateAt_eq_some hSecond with
    ⟨later, hLater, hActs', hAccepts'⟩
  refine ⟨history, w', hRun, hLabels,
    clocked_of_labels hLabels (by decide), ?_⟩
  intro hSingle
  have hSame := hSingle 4 6 earlier later 1 updateDigest
    hEarlier hLater hActs hActs' hAccepts hAccepts'
  cases hSame

end Entros

------------------------------------------------------------
-- Two Receipts, Two Updates
------------------------------------------------------------

namespace Entros

open Foundations
open Anchor

namespace UpdateReceipts

open Sample
open UpdateBacking (publicInputs aliceReset receiptAccount)

/- A receipt for the same update ten seconds later. -/
def receipt : UpdateReceiptArgs where
  validatedAt := 1700000040
  assuranceTier := 0
  sessionFinalDigest := none

/- The digest the validator signs for it. -/
def updateDigest : Bytes 32 :=
  Bytes.ofList 32
    [137, 176, 116, 134, 4, 138, 174, 149, 41, 171, 252, 59,
      186, 112, 161, 218, 42, 102, 95, 197, 65, 80, 64, 61,
      102, 70, 166, 191, 25, 103, 205, 114]

/- The validator's signature on it. -/
def aliceUpdate : Pubkey × Bytes 64 × List UInt8 :=
  (validator,
    Bytes.ofList 64
      [103, 81, 67, 159, 100, 74, 147, 158, 38, 189, 45, 119,
        24, 47, 141, 141, 55, 187, 74, 187, 75, 219, 66, 127,
        169, 18, 170, 91, 60, 198, 222, 243, 93, 201, 208,
        235, 103, 18, 97, 219, 207, 105, 72, 83, 86, 106, 85,
        46, 212, 94, 201, 16, 249, 193, 43, 86, 87, 244, 217,
        13, 46, 16, 1, 1],
    updateDigest.toList)

def tables : Tables where
  requestBound := false
  digests :=
    (updateReceiptV4Bytes alice.key commitmentNew 0
      UpdateBacking.receipt, UpdateBacking.updateDigest) ::
      (updateReceiptV4Bytes alice.key commitmentNew 0
        receipt, updateDigest) :: accountDigests
  addresses := addresses
  proofs := [(.default, proof, publicInputs.toList)]
  signatures :=
    [aliceMint, UpdateBacking.aliceUpdate, aliceReset,
      aliceUpdate]

/- The second of the two updates brings a new receipt. -/
def renewed : List (Call tables.host) :=
  [{ now := 1700000000
     tx := tables.alone
     instruction := configure },
    { now := 1700000010
      tx := tables.signed aliceMint (by simp [tables])
      instruction :=
        .anchor (.mintAnchor alice [] commitmentPrev) },
    { now := 1700000020
      tx := tables.alone
      instruction :=
        .verifier (.verifyProof alice proof.toList
          publicInputs.toList (nonce 1)) },
    { now := 1700000020
      tx := tables.alone
      instruction :=
        .verifier (.verifyProofCompact alice (nonce 2) proof
          commitmentNew commitmentPrev 30 3) },
    { now := 1700000030
      tx := tables.signed UpdateBacking.aliceUpdate
        (by simp [tables])
      instruction :=
        .anchor (.updateAnchor alice
          (.pda (.verification alice.key (nonce 1)) 255)
          commitmentNew UpdateBacking.receipt) },
    { now := 1700000030
      tx := tables.signed aliceReset (by simp [tables])
      instruction :=
        .anchor (.resetIdentityState alice [receiptAccount]
          commitmentPrev 0) },
    { now := 1700000040
      tx := tables.signed aliceUpdate (by simp [tables])
      instruction :=
        .anchor (.updateAnchorCompact alice
          (.pda (.verification alice.key (nonce 2)) 251)
          receipt) }]

end UpdateReceipts

open UpdateReceipts
open Sample (alice commitmentNew)

/- The time in the receipt of an update. -/
def Call.receiptTime
    {H : Host}
    (call : Call H) : Option Int64 :=
  call.instruction.defaultUpdate.map fun request =>
    request.receipt.validatedAt

/- Updates with receipts of different times do not revisit. -/
theorem revisits_false
    {H : Host}
    {history : List (Event H)}
    {calls : List (Call H)}
    {j : ℕ}
    {event : Event H}
    (hLabels : history.map Transition.label = calls)
    (hTimes :
      calls.Pairwise fun earlier later =>
        earlier.receiptTime ≠ later.receiptTime ∨
          later.receiptTime = none)
    (hEvent : history[j]? = some event) :
    ¬ event.Revisits (history.take j) := by
  rintro ⟨k, earlier, lineage, request, request',
    commitmentNew, projectionVersion, hEarlier, _, _, hAsks,
    hAsks', _, hArgs, _⟩
  rw [← hLabels, List.pairwise_map] at hTimes
  have hMem : earlier ∈ history.take j :=
    List.mem_of_getElem? hEarlier
  have hSplit : history.take j ++ history.drop j = history :=
    List.take_append_drop j history
  have hLater : event ∈ history.drop j := by
    apply List.mem_of_getElem?
    rw [List.getElem?_drop, Nat.add_zero]
    exact hEvent
  rw [← hSplit] at hTimes
  have hDiffer :=
    (List.pairwise_append.mp hTimes).2.2 earlier hMem event
      hLater
  have hReceipt :
      earlier.label.receiptTime =
        some request.receipt.validatedAt :=
    congrArg (Option.map _) hAsks.asked
  have hReceipt' :
      event.label.receiptTime =
        some request'.receipt.validatedAt :=
    congrArg (Option.map _) hAsks'.asked
  rw [hReceipt, hReceipt', hArgs] at hDiffer
  simp at hDiffer

/- Distinct digests of the hashed strings do not collide. -/
theorem injOn_of_nodup
    {H : Host}
    {history : List (Event H)}
    {preimages : List (List UInt8)}
    (hHashed :
      history.filterMap Event.hashedReceipt = preimages)
    (hDistinct : (preimages.map H.sha256).Nodup) :
    Set.InjOn H.sha256 (hashedReceipts history) := by
  have hMem (preimage : List UInt8)
      (hPreimage : preimage ∈ hashedReceipts history) :
      preimage ∈ preimages := by
    rw [← hHashed, List.mem_filterMap]
    exact hPreimage
  intro preimage hPreimage preimage' hPreimage' hDigest
  exact List.inj_on_of_nodup_map hDistinct
    (hMem preimage hPreimage) (hMem preimage' hPreimage')
    hDigest

theorem receipts_singleUse_renewed :
    ∃ (history : List (Event tables.host)) (w' : World),
      Run (Step tables.host) .funded history w' ∧
        history.map Transition.label = renewed ∧
          (ReceiptsSingleUse history ↔
            ∀ j (event : Event tables.host),
              history[j]? = some event →
                ¬ event.Revisits (history.take j)) ∧
            ReceiptsSingleUse history := by
  have hReplay :
      (replay .funded renewed).map (fun replayed =>
          replayed.1.filterMap Event.hashedReceipt) =
        some [updateReceiptV4Bytes alice.key commitmentNew 0
            UpdateBacking.receipt,
          updateReceiptV4Bytes alice.key commitmentNew 0
            receipt] := by
    decide +kernel
  rcases exists_run hReplay with
    ⟨history, w', hRun, hLabels, hHashed⟩
  have hCollision :
      Set.InjOn tables.host.sha256 (hashedReceipts history) :=
    injOn_of_nodup hHashed (by decide +kernel)
  have hSingle := receipts_singleUse funded_fresh
    (clocked_of_labels hLabels (by decide)) hCollision hRun
  exact ⟨history, w', hRun, hLabels, hSingle,
    hSingle.mpr fun j event hEvent =>
      revisits_false hLabels (by decide) hEvent⟩

end Entros
