import Entros.Foundations.Provenance
import Entros.Guarantees.MigrationConsent
import Entros.System.Replay
import Entros.System.Results
import Mathlib.Data.Set.Card

/-
  How often one signed mint receipt can be used.  No record
  of used receipts is kept: all that stands against a second
  use is the identity that the first has put at the wallet,
  and it does not help once that identity has moved on.

  Key definitions include:
    * `Instruction.mints`
    * `Event.presentedReceipt`
    * `MintReceiptsSingleUse`
    * `Event.Remints`

  Key theorems include:
    * `readReceiptFields_unique`
    * `exists_presented`
    * `left_between`
    * `mintReceipts_singleUse`
    * `mintReceipts_reused`
-/

------------------------------------------------------------
-- Receipts
------------------------------------------------------------

namespace Entros

open Foundations
open Anchor

variable {H : Host}

/- The wallet and the commitment that are minted. -/
def Instruction.mints :
    Instruction → Option (Pubkey × Bytes 32)
| .anchor (.mintAnchor user _ commitment) =>
    some (user.key, commitment)
| _ => none

/-
  The signed message in front of a mint, as the mint loads
  it, with the fields that it reads from the message.
-/
def Event.presentedReceipt
    (event : Event H) :
    Option (List UInt8 × ReceiptFields) := do
  let _ ← event.instruction.mints
  let lifecycle ←
    (readLifecycleConfig
      (protocolConfig H event.source)).toOption
  let message ←
    (loadPrecedingEd25519Receipt event.label.tx
      lifecycle.validatorKeys
      [receiptV1MessageLen, receiptV2MessageLen,
        receiptV3MessageLen] event.now).toOption
  let fields ←
    (readReceiptFields message .mint
      lifecycle.projectionPolicy.current).toOption
  return (message, fields)

/- A successful mint was let through by this message. -/
def Event.AcceptsReceipt
    (event : Event H)
    (message : List UInt8) : Prop :=
  event.presentedReceipt.map Prod.fst = some message

/- A successful mint. -/
def Event.IsMint (event : Event H) : Prop :=
  event.instruction.mints ≠ none

/-
  No message is accepted by two mints, and so there are no
  more identities than accepted messages: an identity is
  named by the position of its mint.
-/
structure MintReceiptsSingleUse
    (history : List (Event H)) : Prop where
  once :
    ∀ (i j : ℕ) (earlier later : Event H)
        (message : List UInt8),
      history[i]? = some earlier →
        history[j]? = some later →
          earlier.AcceptsReceipt message →
            later.AcceptsReceipt message → i = j
  created :
    ∀ signed : Finset (List UInt8),
      (∀ event : Event H,
        event ∈ history →
          ∀ message,
            event.AcceptsReceipt message →
              message ∈ signed) →
        (positions Event.IsMint history).ncard ≤ signed.card

/-
  The event mints again at a wallet from which an identity
  has been moved away, after the same wallet had minted for
  the same commitment at a time when the receipt that is now
  presented was already valid.
-/
def Event.Remints
    (past : List (Event H))
    (event : Event H) : Prop :=
  ∃ (i k : ℕ) (earlier leaving : Event H) (wallet : Pubkey)
    (commitment : Bytes 32) (message : List UInt8)
    (fields : ReceiptFields),
    i < k ∧ past[i]? = some earlier ∧
      past[k]? = some leaving ∧
        earlier.instruction.mints =
            some (wallet, commitment) ∧
          leaving.Leaves wallet ∧
            event.instruction.mints =
                some (wallet, commitment) ∧
              event.presentedReceipt =
                  some (message, fields) ∧
                fields.validatedAt ≤ earlier.now

end Entros

------------------------------------------------------------
-- Messages
------------------------------------------------------------

namespace Entros

open Foundations

namespace Anchor

/- The fields of a message do not depend on the policy. -/
theorem readReceiptFields_unique
    {message : List UInt8}
    {purpose purpose' : ReceiptPurpose}
    {version version' : UInt16}
    {fields fields' : ReceiptFields}
    (hRead :
      readReceiptFields message purpose version =
        .ok fields)
    (hRead' :
      readReceiptFields message purpose' version' =
        .ok fields') :
    fields = fields' := by
  unfold readReceiptFields at hRead hRead'
  by_cases hFirst : message.length = receiptV1MessageLen
  · rw [if_pos hFirst] at hRead hRead'
    simp only [readReceiptV1, bind_eq_ok, require_eq_ok,
      pure_eq_ok] at hRead hRead'
    rcases hRead with
      ⟨_, _, time, hTime, wallet, hWallet, commitment,
        hCommitment, rfl⟩
    rcases hRead' with
      ⟨_, _, time', hTime', wallet', hWallet', commitment',
        hCommitment', rfl⟩
    rw [hTime] at hTime'
    rw [hWallet] at hWallet'
    rw [hCommitment] at hCommitment'
    cases hTime'
    cases hWallet'
    cases hCommitment'
    rfl
  · rw [if_neg hFirst] at hRead hRead'
    split_ifs at hRead hRead' with hSecond
    simp only [readReceiptV2, bind_eq_ok, require_eq_ok,
      pure_eq_ok] at hRead hRead'
    rcases hRead with
      ⟨_, _, _, _, _, _, _, _, _, _, _, _, time, hTime,
        session, hSession, wallet, hWallet, commitment,
        hCommitment, rfl⟩
    rcases hRead' with
      ⟨_, _, _, _, _, _, _, _, _, _, _, _, time', hTime',
        session', hSession', wallet', hWallet', commitment',
        hCommitment', rfl⟩
    rw [hTime] at hTime'
    rw [hSession] at hSession'
    rw [hWallet] at hWallet'
    rw [hCommitment] at hCommitment'
    cases hTime'
    cases hSession'
    cases hWallet'
    cases hCommitment'
    rfl

end Anchor

end Entros

------------------------------------------------------------
-- One Mint
------------------------------------------------------------

namespace Entros

open Foundations
open Anchor

variable {H : Host} {w w' : World}
variable {history : List (Event H)}
variable {event : Event H}

/- What a mint has read from the receipt in front of it. -/
structure Event.Presents
    (event : Event H)
    (wallet : Pubkey)
    (commitment : Bytes 32)
    (message : List UInt8)
    (fields : ReceiptFields) : Prop where
  mints : event.instruction.mints = some (wallet, commitment)
  presented : event.presentedReceipt = some (message, fields)
  wallet : fields.wallet = wallet.toList
  commitment : fields.commitment = commitment.toList
  valid : fields.validatedAt ≤ event.now

theorem Instruction.mints_eq_some
    {instruction : Instruction}
    {wallet : Pubkey}
    {commitment : Bytes 32}
    (hMints : instruction.mints = some (wallet, commitment)) :
    ∃ user remainingAccounts,
      instruction =
          .anchor (.mintAnchor user remainingAccounts
            commitment) ∧
        user.key = wallet := by
  unfold Instruction.mints at hMints
  split at hMints
  · rcases Prod.mk.inj (Option.some.inj hMints) with
      ⟨hWallet, rfl⟩
    exact ⟨_, _, rfl, hWallet⟩
  · cases hMints

/- What a mint has checked, and the identity it leaves. -/
theorem LedgerStep.minted
    {config : Account}
    {call : Call H}
    {l l' : Ledger}
    {user : Signer}
    {remainingAccounts : List AccountMeta}
    {commitment : Bytes 32}
    (hStep : LedgerStep H config call l l')
    (hMint :
      call.instruction =
        .anchor (.mintAnchor user remainingAccounts
          commitment)) :
    MintAccepted H config call l l' user commitment := by
  have hFacts := hStep.facts
  rw [hMint] at hFacts
  exact hFacts

/- A successful mint has accepted a receipt. -/
theorem exists_presented
    {wallet : Pubkey}
    {commitment : Bytes 32}
    (hStep :
      LedgerStep H (protocolConfig H event.source)
        event.label (event.source.ledger H)
        (event.target.ledger H))
    (hMints :
      event.instruction.mints = some (wallet, commitment)) :
    ∃ message fields,
      event.Presents wallet commitment message fields := by
  rcases Instruction.mints_eq_some hMints with
    ⟨user, remainingAccounts, hUser, rfl⟩
  rcases (hStep.minted hUser).receipt with
    ⟨lifecycle, session, hConfig, hReceipt⟩
  simp only [verifyValidatorReceipt, verifyReceiptPayload,
    checkReceiptAge, bind_eq_ok, require_eq_ok, pure_eq_ok]
    at hReceipt
  rcases hReceipt with
    ⟨message, hLoad, fields, hFields, _, hWallet, _,
      hCommitment, _, ⟨_, hValid, _⟩, _⟩
  refine ⟨message, fields, hMints, ?_, hWallet, hCommitment,
    hValid⟩
  simp only [Event.presentedReceipt, Option.bind_eq_bind,
    Option.bind_eq_some_iff, Option.pure_def,
    Option.some.injEq, toOption_eq_some]
  exact ⟨_, hMints, lifecycle, hConfig, message, hLoad,
    fields, hFields, rfl⟩

/- A mint presents one receipt only. -/
theorem Event.Presents.unique
    {wallet wallet' : Pubkey}
    {commitment commitment' : Bytes 32}
    {message : List UInt8}
    {fields fields' : ReceiptFields}
    {later : Event H}
    (hFirst :
      event.Presents wallet commitment message fields)
    (hSecond :
      later.Presents wallet' commitment' message fields') :
    wallet = wallet' ∧ commitment = commitment' ∧
      fields = fields' := by
  have hSame : fields = fields' := by
    have hRead := hFirst.presented
    have hRead' := hSecond.presented
    simp only [Event.presentedReceipt, Option.bind_eq_bind,
      Option.bind_eq_some_iff, Option.pure_def,
      Option.some.injEq, Prod.mk.injEq, toOption_eq_some]
      at hRead hRead'
    rcases hRead with
      ⟨_, _, _, _, _, _, _, hFields, rfl, rfl⟩
    rcases hRead' with
      ⟨_, _, _, _, _, _, _, hFields', rfl, rfl⟩
    exact readReceiptFields_unique hFields hFields'
  subst hSame
  exact ⟨
    Bytes.toList_injective
      (hFirst.wallet.symm.trans hSecond.wallet),
    Bytes.toList_injective
      (hFirst.commitment.symm.trans hSecond.commitment),
    rfl⟩

end Entros

------------------------------------------------------------
-- Occupied Wallets
------------------------------------------------------------

namespace Entros

open Foundations
open Anchor

variable {H : Host} {w w' : World}
variable {history : List (Event H)}
variable {wallet : Pubkey}

/- Only a migration takes the identity of a wallet away. -/
theorem IdentityStep.leaves
    {event : Event H}
    {identity identity' : Pubkey → Option IdentityState}
    (hStep :
      IdentityStep H event.label identity identity')
    (hLive : identity wallet ≠ none)
    (hVacant : identity' wallet = none) :
    event.Leaves wallet := by
  have hKept
      {own : Pubkey}
      {stored : IdentityState}
      (hVacant :
        Function.update identity own (some stored) wallet =
          none) :
      False := by
    rw [Function.update_apply] at hVacant
    split_ifs at hVacant
    exact hLive hVacant
  cases hStep with
  | mint => exact absurd hVacant hKept
  | authorize => exact absurd hVacant hKept
  | migrate user walletOld _ _ hInstruction =>
      rw [Function.update_apply] at hVacant
      by_cases hWallet : wallet = walletOld
      · subst hWallet
        refine ⟨user.key, ?_⟩
        change event.label.instruction.motion = _
        rw [hInstruction]
        rfl
      · rw [if_neg hWallet] at hVacant
        exact absurd hVacant hKept
  | rewrite => exact absurd hVacant hKept
  | same => exact absurd hVacant hLive

/-
  Between a mint at a wallet and a state in which the wallet
  is vacant, the identity has been moved away.
-/
theorem left_between
    {i : ℕ}
    {event : Event H}
    (hFresh : w.Fresh)
    (hRun : Run (Step H) w history w')
    (hEvent : history[i]? = some event)
    (hLive : (event.target.ledger H).identity wallet ≠ none)
    (hVacant : (w'.ledger H).identity wallet = none) :
    ∃ (k : ℕ) (leaving : Event H),
      i < k ∧ history[k]? = some leaving ∧
        leaving.Leaves wallet := by
  refine hRun.preserves
    (fun history state =>
      ∀ (i : ℕ) (event : Event H),
        history[i]? = some event →
          (event.target.ledger H).identity wallet ≠ none →
            (state.ledger H).identity wallet = none →
              ∃ (k : ℕ) (leaving : Event H),
                i < k ∧ history[k]? = some leaving ∧
                  leaving.Leaves wallet)
    ?_ ?_ i event hEvent hLive hVacant
  · intro i event hEvent
    cases hEvent
  · intro history last hBefore hLeft i event hEvent hLive
      hVacant
    rcases getElem?_snoc_cases hEvent with hOld | ⟨_, rfl⟩
    · by_cases hSource :
          (last.source.ledger H).identity wallet = none
      · rcases hLeft i event hOld hLive hSource with
          ⟨k, leaving, hAfter, hLeaving, hLeaves⟩
        exact ⟨k, leaving, hAfter,
          getElem?_snoc_of_some hLeaving, hLeaves⟩
      · have hLeaves :=
          (run_identityStep hFresh hBefore).leaves hSource
            hVacant
        have hIndex :=
          (List.getElem?_eq_some_iff.mp hOld).1
        exact ⟨history.length, last, hIndex, by simp,
          hLeaves⟩
    · exact absurd hVacant hLive

end Entros

------------------------------------------------------------
-- Runs
------------------------------------------------------------

namespace Entros

open Foundations
open Anchor

variable {H : Host} {w w' : World}
variable {history : List (Event H)}

/- What lies behind an accepted message. -/
theorem presents_of_accepts
    {event : Event H}
    {message : List UInt8}
    (hFresh : w.Fresh)
    (hRun : Run (Step H) w history w')
    (hEvent : event ∈ history)
    (hAccepts : event.AcceptsReceipt message) :
    ∃ wallet commitment fields,
      event.Presents wallet commitment message fields ∧
        (event.source.ledger H).identity wallet = none ∧
          (event.target.ledger H).identity wallet ≠ none := by
  have hStep := event_step hFresh hRun hEvent
  rcases Option.map_eq_some_iff.mp hAccepts with
    ⟨⟨_, fields⟩, hPresented, rfl⟩
  rcases Option.bind_eq_some_iff.mp hPresented with
    ⟨⟨wallet, commitment⟩, hMints, _⟩
  rcases exists_presented hStep hMints with
    ⟨message', fields', hPresents⟩
  have hSame :=
    Option.some.inj
      (hPresents.presented.symm.trans hPresented)
  rcases Prod.mk.inj hSame with ⟨rfl, rfl⟩
  rcases Instruction.mints_eq_some hMints with
    ⟨user, _, hUser, rfl⟩
  have hMinted := hStep.minted hUser
  exact ⟨_, _, _, hPresents, hMinted.vacant,
    hMinted.stored.live⟩

/- A second use comes after the first identity has left. -/
theorem remints_of_reuse
    {i j : ℕ}
    {earlier later : Event H}
    {message : List UInt8}
    (hFresh : w.Fresh)
    (hRun : Run (Step H) w history w')
    (hBefore : i < j)
    (hEarlier : history[i]? = some earlier)
    (hLater : history[j]? = some later)
    (hAccepts : earlier.AcceptsReceipt message)
    (hAccepts' : later.AcceptsReceipt message) :
    later.Remints (history.take j) := by
  rcases presents_of_accepts hFresh hRun
    (List.mem_of_getElem? hEarlier) hAccepts with
    ⟨wallet, commitment, fields, hPresents, _, hLive⟩
  rcases presents_of_accepts hFresh hRun
    (List.mem_of_getElem? hLater) hAccepts' with
    ⟨wallet', commitment', fields', hPresents', hVacant, _⟩
  rcases hPresents.unique hPresents' with ⟨rfl, rfl, rfl⟩
  have hTaken : (history.take j)[i]? = some earlier := by
    rw [List.getElem?_take_of_lt hBefore]
    exact hEarlier
  rcases left_between hFresh (hRun.source hLater) hTaken
    hLive hVacant with
    ⟨k, leaving, hAfter, hLeaving, hLeaves⟩
  exact ⟨i, k, earlier, leaving, wallet, commitment, message,
    fields, hAfter, hTaken, hLeaving, hPresents.mints,
    hLeaves, hPresents'.mints, hPresents'.presented,
    hPresents.valid⟩

/- Different mints with different messages are counted. -/
theorem created_le
    (hFresh : w.Fresh)
    (hRun : Run (Step H) w history w')
    (hOnce :
      ∀ (i j : ℕ) (earlier later : Event H)
          (message : List UInt8),
        history[i]? = some earlier →
          history[j]? = some later →
            earlier.AcceptsReceipt message →
              later.AcceptsReceipt message → i = j)
    (signed : Finset (List UInt8))
    (hSigned :
      ∀ event : Event H,
        event ∈ history →
          ∀ message,
            event.AcceptsReceipt message →
              message ∈ signed) :
    (positions Event.IsMint history).ncard ≤
      signed.card := by
  have hAccepted (i : ℕ)
      (hMint : i ∈ positions Event.IsMint history) :
      ∃ (message : List UInt8) (event : Event H),
        history[i]? = some event ∧
          event.AcceptsReceipt message := by
    rcases hMint with ⟨event, hEvent, hIsMint⟩
    rcases Option.ne_none_iff_exists'.mp hIsMint with
      ⟨⟨wallet, commitment⟩, hMints⟩
    have hStep :=
      event_step hFresh hRun (List.mem_of_getElem? hEvent)
    rcases exists_presented hStep hMints with
      ⟨message, fields, hPresents⟩
    exact ⟨message, event, hEvent,
      congrArg (Option.map Prod.fst) hPresents.presented⟩
  choose! accepted hAccepted using hAccepted
  rw [← Set.ncard_coe_finset]
  refine Set.ncard_le_ncard_of_injOn accepted ?_ ?_
    signed.finite_toSet
  · intro i hMint
    rcases hAccepted i hMint with ⟨event, hEvent, hAccepts⟩
    exact hSigned event (List.mem_of_getElem? hEvent) _
      hAccepts
  · intro i hMint j hMint' hSame
    rcases hAccepted i hMint with ⟨event, hEvent, hAccepts⟩
    rcases hAccepted j hMint' with
      ⟨event', hEvent', hAccepts'⟩
    rw [← hSame] at hAccepts'
    exact hOnce i j event event' _ hEvent hEvent' hAccepts
      hAccepts'

/-
  In every run in which no wallet mints again under a receipt
  that was already valid when it minted an identity that has
  since moved away, every receipt is used once.
-/
theorem mintReceipts_singleUse
    (hFresh : w.Fresh)
    (hRun : Run (Step H) w history w')
    (hNew :
      ∀ (j : ℕ) (event : Event H),
        history[j]? = some event →
          ¬ event.Remints (history.take j)) :
    MintReceiptsSingleUse history := by
  have hOnce (i j : ℕ) (earlier later : Event H)
      (message : List UInt8)
      (hEarlier : history[i]? = some earlier)
      (hLater : history[j]? = some later)
      (hAccepts : earlier.AcceptsReceipt message)
      (hAccepts' : later.AcceptsReceipt message) :
      i = j := by
    rcases Nat.lt_trichotomy i j with
      hBefore | hSame | hAfter
    · exact absurd
        (remints_of_reuse hFresh hRun hBefore hEarlier hLater
          hAccepts hAccepts')
        (hNew j later hLater)
    · exact hSame
    · exact absurd
        (remints_of_reuse hFresh hRun hAfter hLater hEarlier
          hAccepts' hAccepts)
        (hNew i earlier hEarlier)
  exact ⟨hOnce, created_le hFresh hRun hOnce⟩

end Entros

------------------------------------------------------------
-- One Receipt, Two Identities
------------------------------------------------------------

namespace Entros

open Foundations
open Sample

/- The message accepted at a position of a history. -/
def acceptedAt
    {H : Host}
    (history : List (Event H))
    (i : ℕ) : Option (List UInt8) :=
  history[i]? >>= fun event =>
    event.presentedReceipt.map Prod.fst

theorem acceptedAt_eq_some
    {H : Host}
    {history : List (Event H)}
    {i : ℕ}
    {message : List UInt8}
    (hAccepted : acceptedAt history i = some message) :
    ∃ event : Event H,
      history[i]? = some event ∧
        event.AcceptsReceipt message :=
  Option.bind_eq_some_iff.mp hAccepted

/- `alice` moves her identity to `bob` and mints again. -/
def reminted : List (Call tables.host) :=
  [call 1700000000 configure,
    call 1700000010
      (.anchor (.mintAnchor alice [] commitmentPrev)),
    call 1700000020
      (.anchor (.authorizeNewWallet alice bob)),
    call 1700000030
      (.anchor (.migrateIdentity bob alice.key [])),
    call 1700000040 (.outside (.closeTokenAccount alice)),
    call 1700000050
      (.anchor (.mintAnchor alice [] commitmentPrev))]

theorem mintReceipts_reused :
    ∃ (history : List (Event tables.host)) (w' : World),
      Run (Step tables.host) .funded history w' ∧
        history.map Transition.label = reminted ∧
          Clocked history ∧
            ¬ MintReceiptsSingleUse history := by
  have hReplay :
      (replay .funded reminted).map (fun replayed =>
          (acceptedAt replayed.1 1,
            acceptedAt replayed.1 5)) =
        some (some aliceMint.2.2, some aliceMint.2.2) := by
    decide +kernel
  rcases exists_run hReplay with
    ⟨history, w', hRun, hLabels, hAccepted⟩
  rcases Prod.mk.inj hAccepted with ⟨hFirst, hSecond⟩
  rcases acceptedAt_eq_some hFirst with
    ⟨earlier, hEarlier, hAccepts⟩
  rcases acceptedAt_eq_some hSecond with
    ⟨later, hLater, hAccepts'⟩
  refine ⟨history, w', hRun, hLabels,
    clocked_of_labels hLabels (by decide), ?_⟩
  intro hSingle
  have hSame :=
    hSingle.once 1 5 earlier later aliceMint.2.2 hEarlier
      hLater hAccepts hAccepts'
  cases hSame

end Entros

------------------------------------------------------------
-- Two Receipts, Two Identities
------------------------------------------------------------

namespace Entros

open Foundations
open Anchor

namespace MintReceipts

open Sample

/- A receipt for the same mint that is issued afterwards. -/
def aliceMintAgain : Pubkey × Bytes 64 × List UInt8 :=
  (validator,
    Bytes.ofList 64
      [223, 7, 162, 49, 177, 113, 8, 19, 110, 179, 249, 83,
        217, 138, 222, 135, 92, 78, 236, 198, 231, 195, 145,
        210, 159, 130, 165, 199, 181, 68, 126, 135, 18, 79,
        177, 36, 108, 104, 218, 253, 46, 43, 84, 66, 113, 143,
        31, 170, 210, 30, 32, 249, 184, 144, 142, 109, 41, 63,
        242, 89, 19, 126, 62, 14],
    alice.key.toList ++ commitmentPrev.toList ++
      Packed.encode (1700000045 : Int64))

def tables : Tables where
  requestBound := false
  digests := accountDigests
  addresses := addresses
  proofs := []
  signatures := [aliceMint, aliceMintAgain]

def call
    (now : Int64)
    (instruction : Instruction) : Call tables.host where
  now := now
  tx := tables.signed aliceMint (.head _)
  instruction := instruction

/- The second mint has a receipt of its own. -/
def renewed : List (Call tables.host) :=
  [call 1700000000 configure,
    call 1700000010
      (.anchor (.mintAnchor alice [] commitmentPrev)),
    call 1700000020
      (.anchor (.authorizeNewWallet alice bob)),
    call 1700000030
      (.anchor (.migrateIdentity bob alice.key [])),
    call 1700000040 (.outside (.closeTokenAccount alice)),
    { now := 1700000050
      tx :=
        tables.signed aliceMintAgain (.tail _ (.head _))
      instruction :=
        .anchor (.mintAnchor alice [] commitmentPrev) }]

/- What is minted, when, and when its receipt was issued. -/
def profile
    {H : Host}
    (event : Event H) :
    Option (Pubkey × Bytes 32) × Int64 × Int64 :=
  (event.instruction.mints, event.now,
    (event.presentedReceipt.map fun presented =>
      presented.2.validatedAt).getD 0)

/- Receipts issued after the mints before are no reuse. -/
theorem remints_false
    {H : Host}
    {history : List (Event H)}
    {profiles :
      List (Option (Pubkey × Bytes 32) × Int64 × Int64)}
    {j : ℕ}
    {event : Event H}
    (hProfiles : history.map profile = profiles)
    (hIssued :
      profiles.Pairwise fun earlier later =>
        earlier.1 = none ∨ earlier.1 ≠ later.1 ∨
          ¬ later.2.2 ≤ earlier.2.1)
    (hEvent : history[j]? = some event) :
    ¬ event.Remints (history.take j) := by
  rintro ⟨i, k, earlier, leaving, wallet, commitment,
    message, fields, _, hEarlier, _, hMints, _, hMints',
    hPresented, hValid⟩
  rw [← hProfiles, List.pairwise_map] at hIssued
  have hSplit : history.take j ++ history.drop j = history :=
    List.take_append_drop j history
  have hLater : event ∈ history.drop j := by
    apply List.mem_of_getElem?
    rw [List.getElem?_drop, Nat.add_zero]
    exact hEvent
  rw [← hSplit] at hIssued
  have hDiffer :=
    (List.pairwise_append.mp hIssued).2.2 earlier
      (List.mem_of_getElem? hEarlier) event hLater
  simp only [profile, hMints, hMints', hPresented,
    Option.map_some, Option.getD_some] at hDiffer
  rcases hDiffer with hNone | hOther | hIssued
  · cases hNone
  · exact hOther rfl
  · exact hIssued hValid

end MintReceipts

open MintReceipts in
theorem mintReceipts_singleUse_renewed :
    ∃ (history : List (Event tables.host)) (w' : World),
      Run (Step tables.host) .funded history w' ∧
        history.map Transition.label = renewed ∧
          MintReceiptsSingleUse history := by
  have hReplay :
      (replay .funded renewed).map (fun replayed =>
          replayed.1.map profile) =
        some
          [(none, 1700000000, 0),
            (some (Sample.alice.key, Sample.commitmentPrev),
              1700000010, 1700000000),
            (none, 1700000020, 0),
            (none, 1700000030, 0),
            (none, 1700000040, 0),
            (some (Sample.alice.key, Sample.commitmentPrev),
              1700000050, 1700000045)] := by
    decide +kernel
  rcases exists_run hReplay with
    ⟨history, w', hRun, hLabels, hProfiles⟩
  exact ⟨history, w', hRun, hLabels,
    mintReceipts_singleUse funded_fresh hRun
      fun j event hEvent =>
        remints_false hProfiles (by decide) hEvent⟩

end Entros
