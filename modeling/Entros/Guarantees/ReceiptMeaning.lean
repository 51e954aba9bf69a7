import Entros.Anchor.ReceiptTexts
import Entros.Guarantees.UpdateReceipts
import Entros.Guarantees.SignedTransitions

/-
  What a signed receipt means.  The payload parser accepts
  exactly its grammar, and no message can be accepted for two
  meanings, whichever of the four handlers reads it.

  Key definitions include:
    * `ReceiptMeaning`
    * `Accepts`
    * `Carries`

  Key theorems include:
    * `receipt_payload_grammar`
    * `Accepts.stated`
    * `receipt_one_meaning`
-/

------------------------------------------------------------
-- The Payload Grammar
------------------------------------------------------------

namespace Entros

open Foundations

namespace Anchor

variable {message : List UInt8}
variable {purpose : ReceiptPurpose}
variable {projectionVersion : UInt16}

theorem readReceiptV1_inBounds
    (hLength : message.length = receiptV1MessageLen) :
    Avoids .panicked
      (readReceiptV1 message purpose projectionVersion) := by
  have hLong : 72 ≤ message.length := hLength.ge
  unfold readReceiptV1
  refine .bind (.require nofun) fun _ _ => ?_
  refine .bind (readField_inBounds hLong) fun _ _ => ?_
  refine .bind (.of_eq_ok (readSlice_of_le ?_))
    fun _ _ => ?_
  · exact le_trans (by decide) hLong
  refine .bind (.of_eq_ok (readSlice_of_le ?_))
    fun _ _ => ?_
  · exact le_trans (by decide) hLong
  exact .ok _

theorem readReceiptSession_inBounds :
    Avoids .panicked (readReceiptSession message) := by
  unfold readReceiptSession
  split_ifs with hLength
  · have hLong : 136 ≤ message.length := hLength.ge
    refine .bind (readField_inBounds hLong) fun _ _ => ?_
    refine .bind (.require ?_) fun _ _ => ?_
    · intro hEq
      cases hEq
    refine .bind (readField_inBounds ?_) fun _ _ => ?_
    · exact le_trans (by decide) hLong
    exact .ok _
  · exact .ok none

theorem readReceiptV2_inBounds
    (hLong : 103 ≤ message.length) :
    Avoids .panicked
      (readReceiptV2 message purpose projectionVersion) := by
  unfold readReceiptV2
  refine .bind (.of_eq_ok (readSlice_of_le ?_))
    fun _ _ => ?_
  · exact le_trans (by decide) hLong
  refine .bind (.require nofun) fun _ _ => ?_
  refine .bind (readField_inBounds ?_) fun _ _ => ?_
  · exact le_trans (by decide) hLong
  refine .bind (.require nofun) fun _ _ => ?_
  refine .bind (readField_inBounds ?_) fun _ _ => ?_
  · exact le_trans (by decide) hLong
  refine .bind (.require nofun) fun _ _ => ?_
  refine .bind (readField_inBounds hLong) fun _ _ => ?_
  refine .bind readReceiptSession_inBounds fun _ _ => ?_
  refine .bind (.of_eq_ok (readSlice_of_le ?_))
    fun _ _ => ?_
  · exact le_trans (by decide) hLong
  refine .bind (.of_eq_ok (readSlice_of_le ?_))
    fun _ _ => ?_
  · exact le_trans (by decide) hLong
  exact .ok _

/- The layout is chosen after its length has been checked. -/
theorem readReceiptFields_inBounds :
    Avoids .panicked
      (readReceiptFields message purpose
        projectionVersion) := by
  unfold readReceiptFields
  split_ifs with hV1 hLength
  · exact readReceiptV1_inBounds hV1
  · apply readReceiptV2_inBounds
    rcases hLength with hV2 | hV3
    · exact hV2.ge
    · exact le_trans (by decide) hV3.ge
  · exact .of_ne nofun

theorem verifyReceiptPayload_inBounds
    {wallet : Pubkey}
    {commitment : Bytes 32}
    {now : Int64} :
    Avoids .panicked
      (verifyReceiptPayload message wallet commitment
        purpose projectionVersion now) := by
  unfold verifyReceiptPayload checkReceiptAge
  refine .bind readReceiptFields_inBounds fun _ _ => ?_
  refine .bind (.require nofun) fun _ _ => ?_
  refine .bind (.require nofun) fun _ _ => ?_
  refine .bind ?_ fun _ _ => .ok _
  exact .bind (.require nofun) fun _ _ => .require nofun

end Anchor

open Anchor

/-
  The parser accepts version 1 for mints at projection zero,
  version 2 and version 3 for what they state, at the times
  at which they are fresh, and nothing else; and no message
  makes it read out of bounds.
-/
theorem receipt_payload_grammar
    (message : List UInt8)
    (wallet : Pubkey)
    (commitment : Bytes 32)
    (purpose : ReceiptPurpose)
    (projectionVersion : UInt16)
    (now : Int64) :
    (verifyReceiptPayload message wallet commitment purpose
          projectionVersion now = .ok none ↔
        ∃ validatedAt : Int64,
          (message =
              receiptV1Text wallet commitment validatedAt ∧
                purpose = .mint ∧ projectionVersion = 0 ∨
            message =
              receiptV2Text purpose projectionVersion wallet
                commitment validatedAt) ∧
            now.toInt - 300 ≤ validatedAt.toInt ∧
              validatedAt.toInt ≤ now.toInt) ∧
      (∀ session : ReceiptSession,
        verifyReceiptPayload message wallet commitment
            purpose projectionVersion now =
              .ok (some session) ↔
          ∃ validatedAt : Int64,
            (message =
                receiptV3Text purpose projectionVersion
                  wallet commitment validatedAt session ∧
              session.assuranceTier ≤ 2) ∧
              now.toInt - 300 ≤ validatedAt.toInt ∧
                validatedAt.toInt ≤ now.toInt) ∧
        verifyReceiptPayload message wallet commitment
          purpose projectionVersion now ≠
            .error .panicked := by
  refine ⟨?_, ?_, verifyReceiptPayload_inBounds⟩
  · rw [verifyReceiptPayload_states]
    constructor
    · rintro ⟨validatedAt, hStates, hFresh⟩
      refine ⟨validatedAt, ?_, hFresh⟩
      cases hStates with
      | v1 hPurpose hVersion =>
          exact .inl ⟨rfl, hPurpose, hVersion⟩
      | v2 => exact .inr rfl
    · rintro ⟨validatedAt, hText, hFresh⟩
      refine ⟨validatedAt, ?_, hFresh⟩
      rcases hText with ⟨rfl, hPurpose, hVersion⟩ | rfl
      · exact .v1 hPurpose hVersion
      · exact .v2
  · intro session
    rw [verifyReceiptPayload_states]
    constructor
    · rintro ⟨validatedAt, hStates, hFresh⟩
      cases hStates with
      | v3 _ hTier =>
          exact ⟨validatedAt, ⟨rfl, hTier⟩, hFresh⟩
    · rintro ⟨validatedAt, ⟨rfl, hTier⟩, hFresh⟩
      exact ⟨validatedAt, .v3 session hTier, hFresh⟩

end Entros

------------------------------------------------------------
-- Meanings
------------------------------------------------------------

namespace Entros

open Foundations
open Anchor

/-
  What a receipt authorises.  Versions 1 and 2 state no
  session, and an update may state a tier without one.
-/
structure ReceiptMeaning where
  purpose : ReceiptPurpose
  wallet : Pubkey
  commitment : Bytes 32
  projectionVersion : UInt16
  validatedAt : Int64
  finalDigest : Option (Bytes 32)
  assuranceTier : Option UInt8
deriving DecidableEq

namespace ReceiptMeaning

/- The meaning of a parsed receipt. -/
def ofSession
    (purpose : ReceiptPurpose)
    (wallet : Pubkey)
    (commitment : Bytes 32)
    (projectionVersion : UInt16)
    (validatedAt : Int64)
    (session : Option ReceiptSession) : ReceiptMeaning :=
  { purpose := purpose
    wallet := wallet
    commitment := commitment
    projectionVersion := projectionVersion
    validatedAt := validatedAt
    finalDigest := session.map ReceiptSession.finalDigest
    assuranceTier :=
      session.map ReceiptSession.assuranceTier }

/- The meaning of the arguments of an update. -/
def ofUpdate
    (wallet : Pubkey)
    (commitment : Bytes 32)
    (projectionVersion : UInt16)
    (receipt : UpdateReceiptArgs) : ReceiptMeaning :=
  { purpose := .update
    wallet := wallet
    commitment := commitment
    projectionVersion := projectionVersion
    validatedAt := receipt.validatedAt
    finalDigest := receipt.sessionFinalDigest
    assuranceTier := some receipt.assuranceTier }

/- The string whose hash an update compares. -/
def preimage (meaning : ReceiptMeaning) : List UInt8 :=
  updateReceiptV4Bytes meaning.wallet meaning.commitment
    meaning.projectionVersion
    { validatedAt := meaning.validatedAt
      assuranceTier := meaning.assuranceTier.getD 0
      sessionFinalDigest := meaning.finalDigest }

/- What an update hashes belongs to these strings. -/
def HashedIn
    (meaning : ReceiptMeaning)
    (hashed : Set (List UInt8)) : Prop :=
  meaning.purpose = .update → meaning.preimage ∈ hashed

end ReceiptMeaning

/-
  The receipt check of a handler accepts the message for a
  meaning: the first three handlers parse the message, and an
  update compares it with a hash of its arguments.
-/
inductive Accepts
    (H : Host)
    (now : Int64)
    (message : List UInt8) : ReceiptMeaning → Prop
| parsed
    (purpose : ReceiptPurpose)
    (wallet : Pubkey)
    (commitment : Bytes 32)
    (projectionVersion : UInt16)
    (fields : ReceiptFields)
    (session : Option ReceiptSession)
    (hPurpose : purpose ≠ .update)
    (hFields :
      readReceiptFields message purpose projectionVersion =
        .ok fields)
    (hMessage :
      verifyReceiptPayload message wallet commitment purpose
        projectionVersion now = .ok session) :
    Accepts H now message
      (.ofSession purpose wallet commitment projectionVersion
        fields.validatedAt session)
| update
    (wallet : Pubkey)
    (commitment digest : Bytes 32)
    (projectionVersion : UInt16)
    (receipt : UpdateReceiptArgs)
    (hDigest :
      computeUpdateReceiptV4Digest H wallet commitment
        projectionVersion receipt = .ok digest)
    (hMessage : message = digest.toList)
    (hAge :
      checkReceiptAge receipt.validatedAt now = .ok ()) :
    Accepts H now message
      (.ofUpdate wallet commitment projectionVersion receipt)

/- The message that a transaction carries to the handlers. -/
def Carries
    {H : Host}
    (tx : Transaction H)
    (message : List UInt8) : Prop :=
  ∃ keys sizes now,
    loadPrecedingEd25519Receipt tx keys sizes now =
      .ok message

/- The operation of a gated instruction. -/
def Instruction.receiptPurpose :
    Instruction → Option ReceiptPurpose
| .anchor (.mintAnchor ..) => some .mint
| .anchor (.rebaselineAnchor ..) => some .rebaseline
| .anchor (.resetIdentityState ..) => some .reset
| .anchor (.updateAnchor ..) => some .update
| .anchor (.updateAnchorCompact ..) => some .update
| .anchor (.updateAnchorBound ..) => some .update
| _ => none

end Entros

------------------------------------------------------------
-- One Text, One Meaning
------------------------------------------------------------

namespace Entros

open Foundations

namespace Anchor

theorem ReceiptPurpose.code_injective :
    Function.Injective ReceiptPurpose.code := by
  intro purpose purpose' hCode
  revert hCode
  cases purpose <;> cases purpose' <;> decide

variable {purpose purpose' : ReceiptPurpose}
variable {projectionVersion projectionVersion' : UInt16}
variable {wallet wallet' : Pubkey}
variable {commitment commitment' : Bytes 32}
variable {validatedAt validatedAt' : Int64}
variable {message : List UInt8}
variable {session session' : Option ReceiptSession}

/- The three versions have three lengths. -/
theorem States.length_mem
    (hStates :
      States purpose projectionVersion wallet commitment
        validatedAt message session) :
    message.length ∈
      [receiptV1MessageLen, receiptV2MessageLen,
        receiptV3MessageLen] := by
  cases hStates with
  | v1 =>
      rw [length_receiptV1Text]
      exact .head _
  | v2 =>
      rw [length_receiptV2Text]
      exact .tail _ (.head _)
  | v3 =>
      rw [length_receiptV3Text]
      exact .tail _ (.tail _ (.head _))

/- A text states one list of fields. -/
theorem States.unique
    (hStates :
      States purpose projectionVersion wallet commitment
        validatedAt message session)
    (hStates' :
      States purpose' projectionVersion' wallet' commitment'
        validatedAt' message session') :
    purpose = purpose' ∧
      projectionVersion = projectionVersion' ∧
        wallet = wallet' ∧ commitment = commitment' ∧
          validatedAt = validatedAt' ∧
            session = session' := by
  cases hStates with
  | v1 hPurpose hVersion =>
      generalize hText :
        receiptV1Text wallet commitment validatedAt = text
        at hStates'
      have hLength := congrArg List.length hText
      rw [length_receiptV1Text] at hLength
      cases hStates' with
      | v1 hPurpose' hVersion' =>
          rw [receiptV1Text_eq, receiptV1Text_eq] at hText
          have hFields := Packed.encode_injective hText
          simp only [Prod.mk.injEq] at hFields
          rcases hFields with ⟨rfl, rfl, rfl⟩
          exact ⟨hPurpose.trans hPurpose'.symm,
            hVersion.trans hVersion'.symm, rfl, rfl, rfl,
            rfl⟩
      | v2 =>
          rw [length_receiptV2Text] at hLength
          exact absurd hLength (by decide)
      | v3 =>
          rw [length_receiptV3Text] at hLength
          exact absurd hLength (by decide)
  | v2 =>
      generalize hText :
        receiptV2Text purpose projectionVersion wallet
          commitment validatedAt = text at hStates'
      have hLength := congrArg List.length hText
      rw [length_receiptV2Text] at hLength
      cases hStates' with
      | v1 =>
          rw [length_receiptV1Text] at hLength
          exact absurd hLength (by decide)
      | v2 =>
          rw [receiptV2Text_eq, receiptV2Text_eq] at hText
          have hFields := Packed.encode_injective hText
          simp only [Prod.mk.injEq] at hFields
          rcases hFields with
            ⟨_, hCode, rfl, rfl, rfl, rfl⟩
          exact ⟨ReceiptPurpose.code_injective hCode, rfl,
            rfl, rfl, rfl, rfl⟩
      | v3 =>
          rw [length_receiptV3Text] at hLength
          exact absurd hLength (by decide)
  | v3 session =>
      generalize hText :
        receiptV3Text purpose projectionVersion wallet
          commitment validatedAt session = text at hStates'
      have hLength := congrArg List.length hText
      rw [length_receiptV3Text] at hLength
      cases hStates' with
      | v1 =>
          rw [length_receiptV1Text] at hLength
          exact absurd hLength (by decide)
      | v2 =>
          rw [length_receiptV2Text] at hLength
          exact absurd hLength (by decide)
      | v3 session' =>
          rw [receiptV3Text_eq, receiptV3Text_eq] at hText
          have hFields := Packed.encode_injective hText
          simp only [Prod.mk.injEq] at hFields
          rcases hFields with
            ⟨_, hCode, rfl, rfl, rfl, rfl, hDigest, hTier⟩
          have hSession : session = session' := by
            cases session
            cases session'
            exact congrArg₂ ReceiptSession.mk hDigest hTier
          exact ⟨ReceiptPurpose.code_injective hCode, rfl,
            rfl, rfl, rfl, congrArg some hSession⟩

end Anchor

end Entros

------------------------------------------------------------
-- Update Preimages
------------------------------------------------------------

namespace Entros

open Foundations

namespace Anchor

variable {wallet wallet' : Pubkey}
variable {commitmentNew commitmentNew' : Bytes 32}
variable {projectionVersion projectionVersion' : UInt16}
variable {receipt receipt' : UpdateReceiptArgs}
variable {preimage : List UInt8}

theorem buildUpdateReceiptV4Preimage_eq_ok :
    buildUpdateReceiptV4Preimage wallet commitmentNew
        projectionVersion receipt = .ok preimage ↔
      receipt.check = .ok () ∧
        updateReceiptV4Bytes wallet commitmentNew
          projectionVersion receipt = preimage := by
  simp only [buildUpdateReceiptV4Preimage, bind_eq_ok,
    pure_eq_ok]
  constructor
  · rintro ⟨_, hCheck, hBytes⟩
    exact ⟨hCheck, hBytes⟩
  · rintro ⟨hCheck, hBytes⟩
    exact ⟨(), hCheck, hBytes⟩

theorem computeUpdateReceiptV4Digest_eq_ok
    {H : Host}
    {digest : Bytes 32} :
    computeUpdateReceiptV4Digest H wallet commitmentNew
        projectionVersion receipt = .ok digest ↔
      receipt.check = .ok () ∧
        H.sha256
          (updateReceiptV4Bytes wallet commitmentNew
            projectionVersion receipt) = digest := by
  simp only [computeUpdateReceiptV4Digest, bind_eq_ok,
    buildUpdateReceiptV4Preimage_eq_ok, pure_eq_ok]
  constructor
  · rintro ⟨_, ⟨hCheck, rfl⟩, hDigest⟩
    exact ⟨hCheck, hDigest⟩
  · rintro ⟨hCheck, hDigest⟩
    exact ⟨_, ⟨hCheck, rfl⟩, hDigest⟩

theorem buildUpdateReceiptV4Preimage_inj
    (hBuild :
      buildUpdateReceiptV4Preimage wallet commitmentNew
        projectionVersion receipt = .ok preimage)
    (hBuild' :
      buildUpdateReceiptV4Preimage wallet' commitmentNew'
        projectionVersion' receipt' = .ok preimage) :
    wallet = wallet' ∧ commitmentNew = commitmentNew' ∧
      projectionVersion = projectionVersion' ∧
        receipt = receipt' := by
  rcases buildUpdateReceiptV4Preimage_eq_ok.mp hBuild with
    ⟨hCheck, hBytes⟩
  rcases buildUpdateReceiptV4Preimage_eq_ok.mp hBuild' with
    ⟨hCheck', hBytes'⟩
  exact updateReceiptV4Bytes_inj hCheck hCheck'
    (hBytes.trans hBytes'.symm)

/- A version 4 preimage starts with its own domain. -/
theorem take_updateReceiptV4Bytes :
    (updateReceiptV4Bytes wallet commitmentNew
        projectionVersion receipt).take 28 =
      receiptV4Domain := by
  unfold updateReceiptV4Bytes
  simp only [List.append_assoc]
  exact List.take_left' (List.takeD_length 28 _ 0)

theorem take_receiptV2Text
    {purpose : ReceiptPurpose}
    {validatedAt : Int64} :
    (receiptV2Text purpose projectionVersion wallet
        commitmentNew validatedAt).take 28 =
      receiptV2Domain :=
  List.take_left' (List.takeD_length 28 _ 0)

theorem take_receiptV3Text
    {purpose : ReceiptPurpose}
    {validatedAt : Int64}
    {session : ReceiptSession} :
    (receiptV3Text purpose projectionVersion wallet
        commitmentNew validatedAt session).take 28 =
      receiptV3Domain := by
  unfold receiptV3Text
  simp only [List.append_assoc]
  exact List.take_left' (List.takeD_length 28 _ 0)

/- The domains of versions 2, 3 and 4 are different. -/
theorem updateReceiptV4Bytes_ne
    {purpose : ReceiptPurpose}
    {validatedAt : Int64} :
    updateReceiptV4Bytes wallet commitmentNew
          projectionVersion receipt ≠
        receiptV2Text purpose projectionVersion' wallet'
          commitmentNew' validatedAt ∧
      ∀ session,
        updateReceiptV4Bytes wallet commitmentNew
            projectionVersion receipt ≠
          receiptV3Text purpose projectionVersion' wallet'
            commitmentNew' validatedAt session := by
  constructor
  · intro hSame
    have hTake := congrArg (List.take 28) hSame
    rw [take_updateReceiptV4Bytes, take_receiptV2Text]
      at hTake
    exact absurd hTake (by decide)
  · intro session hSame
    have hTake := congrArg (List.take 28) hSame
    rw [take_updateReceiptV4Bytes, take_receiptV3Text]
      at hTake
    exact absurd hTake (by decide)

end Anchor

end Entros

------------------------------------------------------------
-- Carried Messages
------------------------------------------------------------

namespace Entros

open Foundations

namespace Anchor

variable {data message message' : List UInt8}
variable {keys keys' : ValidatorKeyPolicy}
variable {sizes sizes' : List ℕ}
variable {now now' : Int64}

/- The parser returns the declared window of the data. -/
theorem readEd25519Message_window
    (hRead :
      readEd25519Message data keys sizes now =
        .ok message) :
    ∃ messageOffset messageSize,
      readOffset data ed25519MsgOffsetOffset =
          .ok messageOffset ∧
        readOffset data ed25519MsgSizeOffset =
            .ok messageSize ∧
          messageSize ∈ sizes ∧
            readSlice data messageOffset messageSize =
              .ok message := by
  simp only [readEd25519Message, bind_eq_ok, require_eq_ok]
    at hRead
  rcases hRead with
    ⟨_, _, _, _, _, _, _, _, _, _, messageOffset, hOffset,
      messageSize, hSize, _, _, _, hAllowed, _, _, _, _,
      hSlice⟩
  exact ⟨messageOffset, messageSize, hOffset, hSize,
    hAllowed, hSlice⟩

/- The keys and the sizes do not choose the message. -/
theorem readEd25519Message_unique
    (hRead :
      readEd25519Message data keys sizes now = .ok message)
    (hRead' :
      readEd25519Message data keys' sizes' now' =
        .ok message') :
    message = message' := by
  rcases readEd25519Message_window hRead with
    ⟨offset, size, hOffset, hSize, _, hSlice⟩
  rcases readEd25519Message_window hRead' with
    ⟨offset', size', hOffset', hSize', _, hSlice'⟩
  have hSameOffset : offset = offset' :=
    Except.ok.inj (hOffset.symm.trans hOffset')
  have hSameSize : size = size' :=
    Except.ok.inj (hSize.symm.trans hSize')
  subst hSameOffset hSameSize
  exact Except.ok.inj (hSlice.symm.trans hSlice')

variable {H : Host} {tx : Transaction H}

theorem loadPrecedingEd25519Receipt_eq_ok
    (hLoad :
      loadPrecedingEd25519Receipt tx keys sizes now =
        .ok message) :
    ∃ previous,
      tx.precedingInstruction = .ok previous ∧
        readEd25519Message previous.data keys sizes now =
          .ok message := by
  simp only [loadPrecedingEd25519Receipt, bind_eq_ok,
    require_eq_ok] at hLoad
  rcases hLoad with
    ⟨_, _, _, _, previous, hPrevious, _, _, hRead⟩
  exact ⟨previous, hPrevious, hRead⟩

end Anchor

open Anchor

variable {H : Host} {tx : Transaction H}
variable {message message' : List UInt8}

/- A transaction carries one message. -/
theorem Carries.unique
    (hCarries : Carries tx message)
    (hCarries' : Carries tx message') :
    message = message' := by
  rcases hCarries with ⟨keys, sizes, now, hLoad⟩
  rcases hCarries' with ⟨keys', sizes', now', hLoad'⟩
  rcases loadPrecedingEd25519Receipt_eq_ok hLoad with
    ⟨previous, hPrevious, hRead⟩
  rcases loadPrecedingEd25519Receipt_eq_ok hLoad' with
    ⟨previous', hPrevious', hRead'⟩
  have hSame : previous = previous' :=
    Except.ok.inj (hPrevious.symm.trans hPrevious')
  subst hSame
  exact readEd25519Message_unique hRead hRead'

/- The parsing handlers reject the digest of an update. -/
theorem Carries.not_parsed
    (hCarries : Carries tx message)
    (hLength : message.length = receiptV4DigestLen)
    (keys : ValidatorKeyPolicy)
    (wallet : Pubkey)
    (commitment : Bytes 32)
    (purpose : ReceiptPurpose)
    (projectionVersion : UInt16)
    (now : Int64)
    (session : Option ReceiptSession) :
    verifyValidatorReceipt tx keys wallet commitment purpose
      projectionVersion now ≠ .ok session := by
  intro hReceipt
  simp only [verifyValidatorReceipt, bind_eq_ok] at hReceipt
  rcases hReceipt with ⟨loaded, hLoad, hMessage⟩
  have hSame : loaded = message :=
    Carries.unique ⟨_, _, _, hLoad⟩ hCarries
  subst hSame
  rcases verifyReceiptPayload_states.mp hMessage with
    ⟨_, hStates, _⟩
  have hMem := hStates.length_mem
  rw [hLength] at hMem
  exact absurd hMem (by decide)

end Entros

------------------------------------------------------------
-- One Message, One Meaning
------------------------------------------------------------

namespace Entros

open Foundations
open Anchor

variable {H : Host} {now now' : Int64}
variable {message : List UInt8}
variable {meaning meaning' : ReceiptMeaning}

/- A parsed receipt states its meaning. -/
theorem states_of_parsed
    {purpose : ReceiptPurpose}
    {wallet : Pubkey}
    {commitment : Bytes 32}
    {projectionVersion : UInt16}
    {fields : ReceiptFields}
    {session : Option ReceiptSession}
    (hFields :
      readReceiptFields message purpose projectionVersion =
        .ok fields)
    (hMessage :
      verifyReceiptPayload message wallet commitment purpose
        projectionVersion now = .ok session) :
    States purpose projectionVersion wallet commitment
      fields.validatedAt message session := by
  rcases verifyReceiptPayload_states.mp hMessage with
    ⟨validatedAt, hStates, _⟩
  have hSame := hFields.symm.trans
    (readReceiptFields_of_states hStates)
  rw [Except.ok.inj hSame]
  exact hStates

/-
  Two acceptances of one message agree, unless two of the
  hashed strings collide.
-/
theorem Accepts.unique
    {hashed : Set (List UInt8)}
    (hCollision : Set.InjOn H.sha256 hashed)
    (hAccepts : Accepts H now message meaning)
    (hAccepts' : Accepts H now' message meaning')
    (hHashed : meaning.HashedIn hashed)
    (hHashed' : meaning'.HashedIn hashed) :
    meaning = meaning' := by
  cases hAccepts with
  | parsed _ _ _ _ _ _ _ hFields hMessage =>
      have hStates := states_of_parsed hFields hMessage
      cases hAccepts' with
      | parsed _ _ _ _ _ _ _ hFields' hMessage' =>
          have hStates' :=
            states_of_parsed hFields' hMessage'
          rcases hStates.unique hStates' with
            ⟨rfl, rfl, rfl, rfl, hTime, rfl⟩
          rw [hTime]
      | update _ _ digest _ _ _ hDigest =>
          have hMem := hStates.length_mem
          rw [hDigest, digest.toList_length] at hMem
          exact absurd hMem (by decide)
  | update wallet commitment digest version receipt hDigest
      hMessage =>
      cases hAccepts' with
      | parsed _ _ _ _ _ _ _ hFields' hMessage' =>
          have hMem :=
            (states_of_parsed hFields' hMessage').length_mem
          rw [hMessage, digest.toList_length] at hMem
          exact absurd hMem (by decide)
      | update wallet' commitment' digest' version' receipt'
          hDigest' hMessage' =>
          rcases computeUpdateReceiptV4Digest_eq_ok.mp
            hDigest with ⟨hCheck, hHash⟩
          rcases computeUpdateReceiptV4Digest_eq_ok.mp
            hDigest' with ⟨hCheck', hHash'⟩
          have hSame : digest = digest' :=
            Bytes.toList_injective
              (hMessage.symm.trans hMessage')
          have hBytes := hCollision (hHashed rfl)
            (hHashed' rfl)
            ((hHash.trans hSame).trans hHash'.symm)
          rcases updateReceiptV4Bytes_inj hCheck hCheck'
            hBytes with ⟨rfl, rfl, rfl, rfl⟩
          rfl

/- An accepted payload has a meaning of its purpose. -/
theorem accepts_of_payload
    {purpose : ReceiptPurpose}
    {wallet : Pubkey}
    {commitment : Bytes 32}
    {projectionVersion : UInt16}
    {session : Option ReceiptSession}
    (hPurpose : purpose ≠ .update)
    (hMessage :
      verifyReceiptPayload message wallet commitment purpose
        projectionVersion now = .ok session) :
    ∃ meaning,
      Accepts H now message meaning ∧
        meaning.purpose = purpose ∧
          meaning.wallet = wallet ∧
            meaning.commitment = commitment ∧
              meaning.projectionVersion =
                projectionVersion := by
  rcases verifyReceiptPayload_states.mp hMessage with
    ⟨_, hStates, _⟩
  exact ⟨_,
    .parsed purpose wallet commitment projectionVersion _
      session hPurpose (readReceiptFields_of_states hStates)
      hMessage,
    rfl, rfl, rfl, rfl⟩

theorem receiptPurpose_of_updates
    {instruction : Instruction}
    {request : UpdateCall}
    (hUpdates : instruction.Updates request) :
    instruction.receiptPurpose = some .update := by
  cases hUpdates with
  | bound => rfl
  | default _ _ hDefault =>
      rcases Instruction.defaultUpdate_eq_some hDefault with
        ⟨_, rfl⟩ | rfl
      · rfl
      · rfl

/- What vouches for a transition is accepted for it. -/
theorem Vouches.accepts
    {instruction : Instruction}
    {wallet : Pubkey}
    {commitment : Bytes 32}
    {projectionVersion : UInt16}
    (hVouches :
      Vouches H now message instruction wallet commitment
        projectionVersion) :
    ∃ meaning,
      Accepts H now message meaning ∧
        instruction.receiptPurpose = some meaning.purpose ∧
          meaning.wallet = wallet ∧
            meaning.commitment = commitment ∧
              meaning.projectionVersion =
                projectionVersion := by
  cases hVouches with
  | mint _ _ _ _ _ hMessage =>
      have hPurpose : ReceiptPurpose.mint ≠ .update := nofun
      rcases accepts_of_payload hPurpose hMessage with
        ⟨meaning, hAccepts, hMint, hRest⟩
      exact ⟨meaning, hAccepts, congrArg some hMint.symm,
        hRest⟩
  | reset _ _ _ _ _ hMessage =>
      have hPurpose : ReceiptPurpose.reset ≠ .update := nofun
      rcases accepts_of_payload hPurpose hMessage with
        ⟨meaning, hAccepts, hReset, hRest⟩
      exact ⟨meaning, hAccepts, congrArg some hReset.symm,
        hRest⟩
  | rebaseline _ _ _ _ _ hMessage =>
      have hPurpose :
          ReceiptPurpose.rebaseline ≠ .update := nofun
      rcases accepts_of_payload hPurpose hMessage with
        ⟨meaning, hAccepts, hRebaseline, hRest⟩
      exact ⟨meaning, hAccepts,
        congrArg some hRebaseline.symm, hRest⟩
  | update _ request _ digest _ hUpdates hDigest hMessage
      hAge =>
      exact ⟨_,
        .update _ _ digest _ _ hDigest hMessage hAge,
        receiptPurpose_of_updates hUpdates, rfl, rfl, rfl⟩

/-
  A signed receipt has one meaning.  Every gated instruction
  that succeeds has accepted the message in front of it for
  the change it makes; no message is accepted for two
  meanings, provided that SHA-256 has no collision among the
  hashed strings; the preimages of updates determine their
  arguments and are no version 2 or version 3 receipts; and
  the digest of an update is no receipt for the handlers that
  parse.
-/
theorem receipt_one_meaning
    {H : Host}
    {hashed : Set (List UInt8)}
    (hCollision : Set.InjOn H.sha256 hashed) :
    (∀ (w w' : World) (call : Call H),
      call.instruction.Gated → Step H w call w' →
        ∃ message meaning identity,
          Carries call.tx message ∧
            Accepts H call.now message meaning ∧
              call.instruction.receiptPurpose =
                  some meaning.purpose ∧
                readIdentity H w' meaning.wallet =
                    .ok identity ∧
                  identity.currentCommitment =
                      meaning.commitment ∧
                    identity.projectionVersion =
                      meaning.projectionVersion) ∧
      (∀ (message : List UInt8) (now now' : Int64)
          (meaning meaning' : ReceiptMeaning),
        Accepts H now message meaning →
          Accepts H now' message meaning' →
            meaning.HashedIn hashed →
              meaning'.HashedIn hashed →
                meaning = meaning') ∧
        (∀ (wallet wallet' : Pubkey)
            (commitment commitment' : Bytes 32)
            (version version' : UInt16)
            (receipt receipt' : UpdateReceiptArgs)
            (preimage : List UInt8),
          buildUpdateReceiptV4Preimage wallet commitment
              version receipt = .ok preimage →
            buildUpdateReceiptV4Preimage wallet' commitment'
                version' receipt' = .ok preimage →
              wallet = wallet' ∧ commitment = commitment' ∧
                version = version' ∧ receipt = receipt') ∧
          (∀ (wallet wallet' : Pubkey)
              (commitment commitment' : Bytes 32)
              (version version' : UInt16)
              (receipt : UpdateReceiptArgs)
              (preimage : List UInt8)
              (purpose : ReceiptPurpose)
              (validatedAt : Int64),
            buildUpdateReceiptV4Preimage wallet commitment
                version receipt = .ok preimage →
              preimage ≠
                  receiptV2Text purpose version' wallet'
                    commitment' validatedAt ∧
                ∀ session,
                  preimage ≠
                    receiptV3Text purpose version' wallet'
                      commitment' validatedAt session) ∧
            ∀ (tx : Transaction H) (message : List UInt8),
              Carries tx message →
                message.length = receiptV4DigestLen →
                  ∀ keys wallet commitment purpose version
                      now session,
                    verifyValidatorReceipt tx keys wallet
                      commitment purpose version now ≠
                        .ok session := by
  refine ⟨?_, ?_, ?_, ?_, ?_⟩
  · intro w w' call hGated hStep
    rcases transition_vouched hGated hStep with
      ⟨keys, sizes, message, wallet, commitment, version,
        identity, _, hLoad, hVouches, hRead, hCommitment,
        hVersion⟩
    rcases hVouches.accepts with
      ⟨meaning, hAccepts, hPurpose, rfl, rfl, rfl⟩
    exact ⟨message, meaning, identity,
      ⟨keys, sizes, call.now, hLoad⟩, hAccepts, hPurpose,
      hRead, hCommitment, hVersion⟩
  · intro message now now' meaning meaning' hAccepts
      hAccepts' hHashed hHashed'
    exact hAccepts.unique hCollision hAccepts' hHashed
      hHashed'
  · intro _ _ _ _ _ _ _ _ _ hBuild hBuild'
    exact buildUpdateReceiptV4Preimage_inj hBuild hBuild'
  · intro _ _ _ _ _ _ _ _ _ _ hBuild
    rcases buildUpdateReceiptV4Preimage_eq_ok.mp hBuild with
      ⟨_, rfl⟩
    exact updateReceiptV4Bytes_ne
  · intro tx message hCarries hLength
    exact hCarries.not_parsed hLength

end Entros

------------------------------------------------------------
-- The Meaning of a Digest
------------------------------------------------------------

namespace Entros

open Foundations
open Anchor

namespace ReceiptMeaning

open Sample (alice commitmentNew)

/- The strings that two updates with new receipts hash. -/
def hashed : List (List UInt8) :=
  [updateReceiptV4Bytes alice.key commitmentNew 0
      UpdateBacking.receipt,
    updateReceiptV4Bytes alice.key commitmentNew 0
      UpdateReceipts.receipt]

end ReceiptMeaning

open ReceiptMeaning (hashed)
open Sample (alice commitmentNew)

/- The digest of the second update means that update. -/
theorem receipt_one_meaning_update :
    Accepts UpdateReceipts.tables.host 1700000040
        UpdateReceipts.updateDigest.toList
        (.ofUpdate alice.key commitmentNew 0
          UpdateReceipts.receipt) ∧
      ∀ now meaning,
        Accepts UpdateReceipts.tables.host now
            UpdateReceipts.updateDigest.toList meaning →
          meaning.HashedIn {text | text ∈ hashed} →
            meaning =
              .ofUpdate alice.key commitmentNew 0
                UpdateReceipts.receipt := by
  have hDistinct :
      (hashed.map UpdateReceipts.tables.host.sha256).Nodup := by
    decide +kernel
  have hCollision :
      Set.InjOn UpdateReceipts.tables.host.sha256
        {text | text ∈ hashed} :=
    fun _ hText _ hText' hDigest =>
      List.inj_on_of_nodup_map hDistinct hText hText' hDigest
  have hAccepts :
      Accepts UpdateReceipts.tables.host 1700000040
        UpdateReceipts.updateDigest.toList
        (.ofUpdate alice.key commitmentNew 0
          UpdateReceipts.receipt) :=
    .update _ _ UpdateReceipts.updateDigest _ _
      (by decide +kernel) rfl (by decide)
  have hHashed :
      (ReceiptMeaning.ofUpdate alice.key commitmentNew 0
        UpdateReceipts.receipt).HashedIn
          {text | text ∈ hashed} :=
    fun _ => .tail _ (.head _)
  refine ⟨hAccepts, ?_⟩
  intro now meaning hOther hIn
  exact (receipt_one_meaning hCollision).2.1 _ _ _ _ _ hOther
    hAccepts hIn hHashed

end Entros
