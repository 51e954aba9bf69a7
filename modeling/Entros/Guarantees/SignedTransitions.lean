import Entros.System.Frames
import Entros.System.Replay

/-
  No transition without a validator signature: what the
  Ed25519 precompile has verified whenever an identity is
  minted, reset, rebaselined or updated.

  Key definitions include:
    * `OneInline`
    * `DeclaredBy`
    * `PrecompileSound`
    * `VerifiedReceipt`
    * `Vouches`
    * `VouchedTransition`

  Key theorems include:
    * `readEd25519Message_inBounds`
    * `loadPrecedingEd25519Receipt_verified`
    * `transition_vouched`
    * `transition_signed`
-/

------------------------------------------------------------
-- The Precompile
------------------------------------------------------------

namespace Entros

open Foundations
open Anchor

/- A header of one signature that refers to itself only. -/
def OneInline (data : List UInt8) : Prop :=
  fieldAt UInt8 data 0 = some 1 ∧
    fieldAt UInt16 data 4 = some 0xFFFF ∧
      fieldAt UInt16 data 8 = some 0xFFFF ∧
        fieldAt UInt16 data 14 = some 0xFFFF

/-
  The key, the signature and the message that stand at the
  offsets declared by the header.
-/
def DeclaredBy
    (data : List UInt8)
    (key : Pubkey)
    (signature : Bytes 64)
    (message : List UInt8) : Prop :=
  ∃ sigOffset keyOffset messageOffset messageSize : UInt16,
    fieldAt UInt16 data 2 = some sigOffset ∧
      fieldAt UInt16 data 6 = some keyOffset ∧
        fieldAt UInt16 data 10 = some messageOffset ∧
          fieldAt UInt16 data 12 = some messageSize ∧
            fieldAt (Bytes 64) data sigOffset.toNat =
                some signature ∧
              fieldAt Pubkey data keyOffset.toNat =
                  some key ∧
                slice data messageOffset.toNat
                  messageSize.toNat = message

/-
  The precompile accepts a single inline signature only if it
  verifies for the declared key and message.
-/
def PrecompileSound (H : Host) : Prop :=
  ∀ data,
    H.precompile data = true → OneInline data →
      ∃ key signature message,
        DeclaredBy data key signature message ∧
          H.ed25519 key signature message = true

/- The non-zero primary key, or the secondary one in time. -/
def TrustedKey
    (keys : ValidatorKeyPolicy)
    (key : Pubkey)
    (now : Int64) : Prop :=
  key ≠ Pubkey.default ∧
    (key = keys.primary ∨
      key = keys.secondary ∧
        now ≤ keys.secondaryValidUntil)

/-
  The preceding instruction is an Ed25519 instruction in which
  a trusted key has signed the message.
-/
def VerifiedReceipt
    {H : Host}
    (tx : Transaction H)
    (keys : ValidatorKeyPolicy)
    (now : Int64)
    (message : List UInt8) : Prop :=
  ∃ previous key signature,
    tx.currentIndex ≠ 0 ∧
      tx.instructions[tx.currentIndex - 1]? =
          some previous ∧
        previous.program = .ed25519 ∧
          DeclaredBy previous.data key signature message ∧
            H.ed25519 key signature message = true ∧
              TrustedKey keys key now

end Entros

------------------------------------------------------------
-- The Header Parser
------------------------------------------------------------

namespace Entros

open Foundations

namespace Anchor

/- Reading a total field inside the data never panics. -/
theorem readField_inBounds
    {A : Type}
    [Packed A]
    [Packed.Total A]
    {data : List UInt8}
    {offset : ℕ}
    (hBound : offset + Packed.width A ≤ data.length) :
    Avoids .panicked (readField A data offset) := by
  rcases readField_of_le (A := A) hBound with
    ⟨value, hValue⟩
  exact .of_eq_ok hValue

theorem readOffset_inBounds
    {data : List UInt8}
    {offset : ℕ}
    (hBound : offset + 2 ≤ data.length) :
    Avoids .panicked (readOffset data offset) := by
  unfold readOffset
  exact .bind (readField_inBounds hBound)
    fun value _ => .ok value.toNat

theorem checkInstructionIndices_inBounds
    {data : List UInt8}
    (hHeader : ed25519HeaderLen ≤ data.length) :
    Avoids .panicked (checkInstructionIndices data) := by
  have hLong : 16 ≤ data.length := hHeader
  unfold checkInstructionIndices
  refine .bind (readField_inBounds ?_) fun _ _ => ?_
  · exact le_trans (by decide) hLong
  refine .bind (readField_inBounds ?_) fun _ _ => ?_
  · exact le_trans (by decide) hLong
  refine .bind (readField_inBounds ?_) fun _ _ => ?_
  · exact hLong
  exact .require nofun

/-
  Whatever the data, the sizes and the policy, the parser
  reads nothing outside the data.
-/
theorem readEd25519Message_inBounds
    (data : List UInt8)
    (validatorKeys : ValidatorKeyPolicy)
    (allowedSizes : List ℕ)
    (now : Int64) :
    Avoids .panicked
      (readEd25519Message data validatorKeys allowedSizes
        now) := by
  unfold readEd25519Message
  refine .bind (.require nofun) fun _ hRequire => ?_
  have hLong : 16 ≤ data.length :=
    require_eq_ok.mp hRequire
  refine .bind (readField_inBounds ?_) fun _ _ => ?_
  · exact le_trans (by decide) hLong
  refine .bind (.require nofun) fun _ _ => ?_
  refine .bind (checkInstructionIndices_inBounds hLong)
    fun _ _ => ?_
  refine .bind (readOffset_inBounds ?_)
    fun pubkeyOffset _ => ?_
  · exact le_trans (by decide) hLong
  refine .bind (readOffset_inBounds ?_)
    fun messageOffset _ => ?_
  · exact le_trans (by decide) hLong
  refine .bind (readOffset_inBounds ?_)
    fun messageSize _ => ?_
  · exact le_trans (by decide) hLong
  refine .bind (.require nofun) fun _ hOffsets => ?_
  rcases require_eq_ok.mp hOffsets with ⟨hKey, hMessage⟩
  refine .bind (.require nofun) fun _ _ => ?_
  refine .bind (.of_eq_ok (readSlice_of_le hKey))
    fun _ _ => ?_
  refine .bind (.require nofun) fun _ _ => ?_
  exact .of_eq_ok (readSlice_of_le hMessage)

theorem loadPrecedingEd25519Receipt_inBounds
    {H : Host}
    (tx : Transaction H)
    (validatorKeys : ValidatorKeyPolicy)
    (allowedSizes : List ℕ)
    (now : Int64) :
    Avoids .panicked
      (loadPrecedingEd25519Receipt tx validatorKeys
        allowedSizes now) := by
  unfold loadPrecedingEd25519Receipt
  refine .bind (.require nofun) fun _ _ => ?_
  refine .bind (.require nofun) fun _ _ => ?_
  refine .bind (.okOr nofun) fun previous _ => ?_
  refine .bind (.require nofun) fun _ _ => ?_
  exact readEd25519Message_inBounds previous.data _ _ _

theorem readOffset_eq_ok
    {data : List UInt8}
    {offset value : ℕ} :
    readOffset data offset = .ok value ↔
      ∃ field : UInt16,
        fieldAt UInt16 data offset = some field ∧
          field.toNat = value := by
  simp only [readOffset, bind_eq_ok, readField_eq_ok,
    pure_eq_ok]

/- An accepted key is trusted once a primary key is set. -/
theorem trusted_of_accepts
    {keys : ValidatorKeyPolicy}
    {key : Pubkey}
    {now : Int64}
    (hConfigured : keys.isConfigured)
    (hAccepts : keys.accepts key.toList now) :
    TrustedKey keys key now := by
  rcases hAccepts with
    hPrimary | ⟨hSecondary, hUntil, hKey⟩
  · have hEq : key = keys.primary :=
      Bytes.toList_injective hPrimary
    exact ⟨hEq ▸ hConfigured, .inl hEq⟩
  · have hEq : key = keys.secondary :=
      Bytes.toList_injective hKey
    exact ⟨hEq ▸ hSecondary, .inr ⟨hEq, hUntil⟩⟩

/-
  The parser returns the message, and accepts the key, that
  the precompile has verified.
-/
theorem readEd25519Message_declared
    {data message message' : List UInt8}
    {validatorKeys : ValidatorKeyPolicy}
    {allowedSizes : List ℕ}
    {now : Int64}
    {key : Pubkey}
    {signature : Bytes 64}
    (hRead :
      readEd25519Message data validatorKeys allowedSizes
        now = .ok message)
    (hDeclared :
      DeclaredBy data key signature message') :
    message = message' ∧
      validatorKeys.accepts key.toList now := by
  simp only [readEd25519Message, bind_eq_ok, require_eq_ok,
    readOffset_eq_ok, readSlice_eq_ok] at hRead
  rcases hRead with
    ⟨_, _, _, _, _, _, ⟨⟩, _, _, ⟨keyField, hKeyField, rfl⟩,
      _, ⟨messageField, hMessageField, rfl⟩, _,
      ⟨sizeField, hSizeField, rfl⟩, _, _, _, _, signedPubkey,
      ⟨_, hSigned⟩, _, hAccepts, _, rfl⟩
  rcases hDeclared with
    ⟨_, keyOffset, messageOffset, messageSize, _,
      hKeyOffset, hMessageOffset, hMessageSize, _, hKey,
      rfl⟩
  have hKeySame : keyField = keyOffset :=
    Option.some.inj (hKeyField.symm.trans hKeyOffset)
  have hMessageSame : messageField = messageOffset :=
    Option.some.inj
      (hMessageField.symm.trans hMessageOffset)
  have hSizeSame : sizeField = messageSize :=
    Option.some.inj (hSizeField.symm.trans hMessageSize)
  subst hKeySame hMessageSame hSizeSame
  have hSignedKey : signedPubkey = key.toList :=
    hSigned.symm.trans (fieldAt_eq_some_iff.mp hKey)
  exact ⟨rfl, hSignedKey ▸ hAccepts⟩

/- The parser only looks at single inline signatures. -/
theorem readEd25519Message_oneInline
    {data message : List UInt8}
    {validatorKeys : ValidatorKeyPolicy}
    {allowedSizes : List ℕ}
    {now : Int64}
    (hRead :
      readEd25519Message data validatorKeys allowedSizes
        now = .ok message) :
    OneInline data := by
  simp only [readEd25519Message, checkInstructionIndices,
    bind_eq_ok, require_eq_ok, readField_eq_ok] at hRead
  rcases hRead with
    ⟨_, _, _, hCount, _, rfl, _,
      ⟨_, hSig, _, hKey, _, hMessage, rfl, rfl, rfl⟩, _⟩
  exact ⟨hCount, hSig, hKey, hMessage⟩

/-
  A message that the parser returns has been signed by a
  trusted key in the preceding instruction.
-/
theorem loadPrecedingEd25519Receipt_verified
    {H : Host}
    {tx : Transaction H}
    {validatorKeys : ValidatorKeyPolicy}
    {allowedSizes : List ℕ}
    {now : Int64}
    {message : List UInt8}
    (hPrecompile : PrecompileSound H)
    (hLoad :
      loadPrecedingEd25519Receipt tx validatorKeys
        allowedSizes now = .ok message) :
    VerifiedReceipt tx validatorKeys now message := by
  simp only [loadPrecedingEd25519Receipt, bind_eq_ok,
    require_eq_ok] at hLoad
  rcases hLoad with
    ⟨_, hConfigured, _, hIndex, previous, hPrevious, _,
      hProgram, hRead⟩
  rcases hPrecompile previous.data
      (Transaction.precompile_of_preceding hPrevious
        hProgram)
      (readEd25519Message_oneInline hRead) with
    ⟨key, signature, message', hDeclared, hSignature⟩
  rcases readEd25519Message_declared hRead hDeclared with
    ⟨rfl, hAccepts⟩
  exact ⟨previous, key, signature, hIndex,
    okOr_eq_ok.mp hPrevious, hProgram, hDeclared, hSignature,
    trusted_of_accepts hConfigured hAccepts⟩

end Anchor

end Entros

------------------------------------------------------------
-- Gated Transitions
------------------------------------------------------------

namespace Entros

open Foundations
open Anchor

/- The updates of either build. -/
inductive Instruction.Updates :
    Instruction → UpdateCall → Prop
| default
    (instruction : Instruction)
    (request : UpdateCall)
    (hInstruction : instruction.defaultUpdate = some request) :
    Updates instruction request
| bound (request : UpdateCall) :
    Updates
      (.anchor (.updateAnchorBound request.authority
        request.verificationResult request.receipt))
      request

/- The instructions that need a receipt. -/
inductive Instruction.Gated : Instruction → Prop
| mint
    (user : Signer)
    (remainingAccounts : List AccountMeta)
    (commitment : Bytes 32) :
    Gated
      (.anchor (.mintAnchor user remainingAccounts
        commitment))
| reset
    (authority : Signer)
    (remainingAccounts : List AccountMeta)
    (commitment : Bytes 32)
    (projectionVersion : UInt16) :
    Gated
      (.anchor (.resetIdentityState authority
        remainingAccounts commitment projectionVersion))
| rebaseline
    (authority : Signer)
    (remainingAccounts : List AccountMeta)
    (commitment : Bytes 32)
    (projectionVersion : UInt16) :
    Gated
      (.anchor (.rebaselineAnchor authority
        remainingAccounts commitment projectionVersion))
| update
    (instruction : Instruction)
    (request : UpdateCall)
    (hUpdates : instruction.Updates request) :
    Gated instruction

/-
  What the handler of an instruction finds in the message: its
  wallet, its commitment, its purpose and the projection
  version, at an acceptable time.
-/
inductive Vouches
    (H : Host)
    (now : Int64)
    (message : List UInt8) :
    Instruction → Pubkey → Bytes 32 → UInt16 → Prop
| mint
    (user : Signer)
    (remainingAccounts : List AccountMeta)
    (commitment : Bytes 32)
    (projectionVersion : UInt16)
    (session : Option ReceiptSession)
    (hMessage :
      verifyReceiptPayload message user.key commitment .mint
        projectionVersion now = .ok session) :
    Vouches H now message
      (.anchor (.mintAnchor user remainingAccounts
        commitment))
      user.key commitment projectionVersion
| reset
    (authority : Signer)
    (remainingAccounts : List AccountMeta)
    (commitment : Bytes 32)
    (projectionVersion : UInt16)
    (session : Option ReceiptSession)
    (hMessage :
      verifyReceiptPayload message authority.key commitment
        .reset projectionVersion now = .ok session) :
    Vouches H now message
      (.anchor (.resetIdentityState authority
        remainingAccounts commitment projectionVersion))
      authority.key commitment projectionVersion
| rebaseline
    (authority : Signer)
    (remainingAccounts : List AccountMeta)
    (commitment : Bytes 32)
    (projectionVersion : UInt16)
    (session : Option ReceiptSession)
    (hMessage :
      verifyReceiptPayload message authority.key commitment
        .rebaseline projectionVersion now = .ok session) :
    Vouches H now message
      (.anchor (.rebaselineAnchor authority
        remainingAccounts commitment projectionVersion))
      authority.key commitment projectionVersion
| update
    (instruction : Instruction)
    (request : UpdateCall)
    (commitment digest : Bytes 32)
    (projectionVersion : UInt16)
    (hUpdates : instruction.Updates request)
    (hDigest :
      computeUpdateReceiptV4Digest H request.authority.key
        commitment projectionVersion request.receipt =
          .ok digest)
    (hMessage : message = digest.toList)
    (hAge :
      checkReceiptAge request.receipt.validatedAt now =
        .ok ()) :
    Vouches H now message instruction request.authority.key
      commitment projectionVersion

/-
  The new commitment and projection version of a wallet are
  those that a verified message vouches for.
-/
def SignedTransition
    {H : Host}
    (w : World)
    (call : Call H)
    (w' : World) : Prop :=
  ∃ keys message wallet commitment projectionVersion identity,
    readValidatorKeyPolicy (protocolConfig H w).data =
        .ok keys ∧
      VerifiedReceipt call.tx keys call.now message ∧
        Vouches H call.now message call.instruction wallet
            commitment projectionVersion ∧
          readIdentity H w' wallet = .ok identity ∧
            identity.currentCommitment = commitment ∧
              identity.projectionVersion =
                projectionVersion

/-
  The same of a message that the handler has loaded, before
  anything is known of its signature.
-/
def VouchedTransition
    {H : Host}
    (w : World)
    (call : Call H)
    (w' : World) : Prop :=
  ∃ keys sizes message wallet commitment projectionVersion
      identity,
    readValidatorKeyPolicy (protocolConfig H w).data =
        .ok keys ∧
      loadPrecedingEd25519Receipt call.tx keys sizes
          call.now = .ok message ∧
        Vouches H call.now message call.instruction wallet
            commitment projectionVersion ∧
          readIdentity H w' wallet = .ok identity ∧
            identity.currentCommitment = commitment ∧
              identity.projectionVersion =
                projectionVersion

/- A sound precompile has verified the loaded message. -/
theorem VouchedTransition.signed
    {H : Host}
    {w w' : World}
    {call : Call H}
    (hPrecompile : PrecompileSound H)
    (hVouched : VouchedTransition w call w') :
    SignedTransition w call w' := by
  rcases hVouched with
    ⟨keys, sizes, message, wallet, commitment, version,
      identity, hKeys, hLoad, hVouches⟩
  exact ⟨keys, message, wallet, commitment, version,
    identity, hKeys,
    loadPrecedingEd25519Receipt_verified hPrecompile hLoad,
    hVouches⟩

namespace Anchor

variable {H : Host} {w w' : World} {call : Call H}

theorem validatorKeys_of_lifecycle
    {config : Account}
    {lifecycle : LifecycleConfig}
    (hConfig : readLifecycleConfig config = .ok lifecycle) :
    readValidatorKeyPolicy config.data =
      .ok lifecycle.validatorKeys := by
  simp only [readLifecycleConfig, bind_eq_ok, pure_eq_ok]
    at hConfig
  rcases hConfig with ⟨_, _, _, _, _, _, keys, hKeys, rfl⟩
  exact hKeys

theorem validatorKeys_of_update
    {config : Account}
    {projectionVersion : UInt16}
    {updateConfig : UpdateConfig}
    (hConfig :
      readUpdateConfig config projectionVersion =
        .ok updateConfig) :
    readValidatorKeyPolicy config.data =
      .ok updateConfig.validatorKeys := by
  simp only [readUpdateConfig, bind_eq_ok, pure_eq_ok]
    at hConfig
  rcases hConfig with
    ⟨_, _, _, _, _, _, _, _, _, _, _, _, _, _, keys, hKeys,
      rfl⟩
  exact hKeys

/- A receipt that the lifecycle instructions accept. -/
theorem verifyValidatorReceipt_loaded
    {tx : Transaction H}
    {keys : ValidatorKeyPolicy}
    {wallet : Pubkey}
    {commitment : Bytes 32}
    {purpose : ReceiptPurpose}
    {projectionVersion : UInt16}
    {now : Int64}
    {session : Option ReceiptSession}
    (hReceipt :
      verifyValidatorReceipt tx keys wallet commitment
        purpose projectionVersion now = .ok session) :
    ∃ sizes message,
      loadPrecedingEd25519Receipt tx keys sizes now =
          .ok message ∧
        verifyReceiptPayload message wallet commitment
          purpose projectionVersion now = .ok session := by
  simp only [verifyValidatorReceipt, bind_eq_ok]
    at hReceipt
  rcases hReceipt with ⟨message, hLoad, hMessage⟩
  exact ⟨_, message, hLoad, hMessage⟩

/- A receipt that the updates accept. -/
theorem verifyUpdateReceiptDigest_loaded
    {tx : Transaction H}
    {keys : ValidatorKeyPolicy}
    {wallet : Pubkey}
    {commitment : Bytes 32}
    {projectionVersion : UInt16}
    {receipt : UpdateReceiptArgs}
    {now : Int64}
    {session : Option ReceiptSession}
    (hReceipt :
      verifyUpdateReceiptDigest tx keys wallet commitment
        projectionVersion receipt now = .ok session) :
    ∃ sizes digest,
      computeUpdateReceiptV4Digest H wallet commitment
          projectionVersion receipt = .ok digest ∧
        loadPrecedingEd25519Receipt tx keys sizes now =
            .ok digest.toList ∧
          checkReceiptAge receipt.validatedAt now =
            .ok () := by
  simp only [verifyUpdateReceiptDigest, bind_eq_ok,
    require_eq_ok] at hReceipt
  rcases hReceipt with
    ⟨message, hLoad, digest, hDigest, _, rfl, ⟨⟩, hAge, _⟩
  exact ⟨_, digest, hDigest, hLoad, hAge⟩

theorem readIdentity_of_write
    {wallet : Pubkey}
    {identity : IdentityState}
    (hWrite :
      writeIdentity H w wallet identity = .ok w') :
    readIdentity H w' wallet = .ok identity :=
  remapError_eq_ok.mpr
    (World.tryDeserialize_of_save
      (remapError_eq_ok.mp hWrite))

theorem readIdentity_of_accounts
    {wallet : Pubkey}
    (hSame : w'.accounts = w.accounts) :
    readIdentity H w' wallet = readIdentity H w wallet := by
  unfold readIdentity
  rw [hSame]

theorem mintAnchor_vouched
    {user : Signer}
    {remainingAccounts : List AccountMeta}
    {commitment : Bytes 32}
    (hInstruction :
      call.instruction =
        .anchor (.mintAnchor user remainingAccounts
          commitment))
    (hMint :
      mintAnchor call.tx w call.now user remainingAccounts
        commitment = .ok w') :
    VouchedTransition w call w' := by
  simp only [mintAnchor, bind_eq_ok, require_eq_ok] at hMint
  rcases hMint with
    ⟨created, hInit, advanced, hAdvanced, _, _, issued,
      hIssued, config, hConfig, session, hReceipt, paid,
      hPaid, hSave⟩
  have hKept : KeepsConfig H w issued :=
    (((Spares.of_create Seeds.ofRegistry_config hInit
      not_false).trans
        (advanceOnly_spares Seeds.ofRegistry_config
          hAdvanced)).trans
            (issueToken_spares hIssued)).keepsConfig
  rw [hKept] at hConfig
  rcases verifyValidatorReceipt_loaded hReceipt with
    ⟨sizes, message, hLoad, hMessage⟩
  refine ⟨config.validatorKeys, sizes, message, user.key,
    commitment, config.projectionPolicy.current, _,
    validatorKeys_of_lifecycle hConfig, hLoad, ?_,
    remapError_eq_ok.mpr
      (World.tryDeserialize_of_save hSave), rfl, rfl⟩
  rw [hInstruction]
  exact .mint _ _ _ _ session hMessage

theorem resetIdentityState_vouched
    {authority : Signer}
    {remainingAccounts : List AccountMeta}
    {commitment : Bytes 32}
    {projectionVersion : UInt16}
    (hInstruction :
      call.instruction =
        .anchor (.resetIdentityState authority
          remainingAccounts commitment projectionVersion))
    (hReset :
      resetIdentityState call.tx w call.now authority
        remainingAccounts commitment projectionVersion =
          .ok w') :
    VouchedTransition w call w' := by
  simp only [resetIdentityState, validateRequestedProjection,
    bind_eq_ok, require_eq_ok] at hReset
  rcases hReset with
    ⟨split, hSplit, _, _, opened, hOpen, _, _, config,
      hConfig, _, rfl, _, _, session, hReceipt, written,
      hWrite, hPay⟩
  have hKept : KeepsConfig H w opened.1 :=
    ((splitResetAccounts_spares Seeds.ofRegistry_config
      hSplit).trans
        (openIdentity_spares Seeds.ofRegistry_config
          hOpen)).keepsConfig
  rw [hKept] at hConfig
  rcases verifyValidatorReceipt_loaded hReceipt with
    ⟨sizes, message, hLoad, hMessage⟩
  refine ⟨config.validatorKeys, sizes, message, authority.key,
    commitment, config.projectionPolicy.current, _,
    validatorKeys_of_lifecycle hConfig, hLoad, ?_,
    (readIdentity_of_accounts (payFee_accounts hPay)).trans
      (readIdentity_of_write hWrite), rfl, rfl⟩
  rw [hInstruction]
  exact .reset _ _ _ _ session hMessage

theorem rebaselineAnchor_vouched
    {authority : Signer}
    {remainingAccounts : List AccountMeta}
    {commitment : Bytes 32}
    {projectionVersion : UInt16}
    (hInstruction :
      call.instruction =
        .anchor (.rebaselineAnchor authority
          remainingAccounts commitment projectionVersion))
    (hRebaseline :
      rebaselineAnchor call.tx w call.now authority
        remainingAccounts commitment projectionVersion =
          .ok w') :
    VouchedTransition w call w' := by
  simp only [rebaselineAnchor, validateRequestedProjection,
    bind_eq_ok, require_eq_ok] at hRebaseline
  rcases hRebaseline with
    ⟨advanced, hAdvanced, _, _, opened, hOpen, config,
      hConfig, _, rfl, _, _, _, _, session, hReceipt,
      written, hWrite, hPay⟩
  have hKept : KeepsConfig H w opened.1 :=
    ((advanceOnly_spares Seeds.ofRegistry_config
      hAdvanced).trans
        (openIdentity_spares Seeds.ofRegistry_config
          hOpen)).keepsConfig
  rw [hKept] at hConfig
  rcases verifyValidatorReceipt_loaded hReceipt with
    ⟨sizes, message, hLoad, hMessage⟩
  refine ⟨config.validatorKeys, sizes, message, authority.key,
    commitment, config.projectionPolicy.current, _,
    validatorKeys_of_lifecycle hConfig, hLoad, ?_,
    (readIdentity_of_accounts (payFee_accounts hPay)).trans
      (readIdentity_of_write hWrite), rfl, rfl⟩
  rw [hInstruction]
  exact .rebaseline _ _ _ _ session hMessage

theorem processAnchorUpdate_vouched
    {request : UpdateCall}
    {expected : Option (Bytes 32)}
    {bound : Bool}
    (hUpdates : call.instruction.Updates request)
    (hUpdate :
      processAnchorUpdate call.tx w call.now
        request.authority request.verificationResult
        request.receipt expected bound = .ok w') :
    VouchedTransition w call w' := by
  simp only [processAnchorUpdate, bind_eq_ok,
    require_eq_ok] at hUpdate
  rcases hUpdate with
    ⟨_, _, opened, hOpen, _, _, config, hConfig, consumed,
      hConsume, _, _, session, hReceipt, _, _, closed,
      hClose, updated, hUpdated, written, hWrite, hPay⟩
  have hKept : KeepsConfig H w opened.1 :=
    (openIdentity_spares Seeds.ofRegistry_config
      hOpen).keepsConfig
  rw [hKept] at hConfig
  rcases verifyUpdateReceiptDigest_loaded hReceipt with
    ⟨sizes, digest, hDigest, hLoad, hAge⟩
  rcases updatedIdentity_eq_ok hUpdated with
    ⟨count, score, _, rfl⟩
  exact ⟨config.validatorKeys, sizes, digest.toList,
    request.authority.key, consumed.2.commitmentNew,
    opened.2.projectionVersion, _,
    validatorKeys_of_update hConfig, hLoad,
    .update _ request _ digest _ hUpdates hDigest rfl hAge,
    (readIdentity_of_accounts (payFee_accounts hPay)).trans
      (readIdentity_of_write hWrite), rfl, rfl⟩

end Anchor

/- Every gated instruction loads a message for its change. -/
theorem transition_vouched
    {H : Host}
    {w w' : World}
    {call : Call H}
    (hGated : call.instruction.Gated)
    (hStep : Step H w call w') :
    VouchedTransition w call w' := by
  unfold Step execute at hStep
  generalize hInstruction : call.instruction = instruction
    at hGated hStep
  cases hGated with
  | mint => exact mintAnchor_vouched hInstruction hStep
  | reset =>
      exact resetIdentityState_vouched hInstruction hStep
  | rebaseline =>
      exact rebaselineAnchor_vouched hInstruction hStep
  | update _ request hUpdates =>
      have hUpdates' : call.instruction.Updates request :=
        hInstruction ▸ hUpdates
      cases hUpdates with
      | bound =>
          simp only [AnchorInstruction.execute,
            updateAnchorBound, bind_eq_ok, require_eq_ok]
            at hStep
          rcases hStep with ⟨_, _, hUpdate⟩
          exact processAnchorUpdate_vouched hUpdates' hUpdate
      | default _ _ hDefault =>
          rcases Instruction.defaultUpdate_eq_some hDefault
            with ⟨commitment, rfl⟩ | rfl
          · simp only [AnchorInstruction.execute,
              updateAnchor, bind_eq_ok, require_eq_ok]
              at hStep
            rcases hStep with ⟨_, _, hUpdate⟩
            exact processAnchorUpdate_vouched hUpdates'
              hUpdate
          · exact processAnchorUpdate_vouched hUpdates'
              hStep

/-
  Every mint, reset, rebaseline and update that succeeds has
  been signed for by a trusted key in the instruction before
  it, and no data of that instruction makes the parser read
  out of bounds.
-/
theorem transition_signed
    {H : Host}
    (hPrecompile : PrecompileSound H) :
    (∀ (w w' : World) (call : Call H),
      call.instruction.Gated → Step H w call w' →
        SignedTransition w call w') ∧
      ∀ (tx : Transaction H) (keys : ValidatorKeyPolicy)
        (allowedSizes : List ℕ) (now : Int64),
        Avoids .panicked
          (loadPrecedingEd25519Receipt tx keys allowedSizes
            now) := by
  refine ⟨?_, loadPrecedingEd25519Receipt_inBounds⟩
  intro w w' call hGated hStep
  exact (transition_vouched hGated hStep).signed hPrecompile

end Entros

------------------------------------------------------------
-- A Signed Mint
------------------------------------------------------------

namespace Entros

open Foundations
open Anchor

/- The usual layout declares its own parts. -/
theorem declaredBy_signedInstruction
    {key : Pubkey}
    {signature : Bytes 64}
    {message : List UInt8}
    (hSize : message.length < 2 ^ 16) :
    DeclaredBy (signedInstruction key signature message) key
      signature message := by
  have hMessageSize :
      (UInt16.ofNat message.length).toNat =
        message.length := by
    rw [UInt16.toNat_ofNat', Nat.mod_eq_of_lt hSize]
  have hParts :
      signedInstruction key signature message =
        signedHeader key signature
          (UInt16.ofNat message.length) ++ message := rfl
  have hField
      {A : Type}
      [Packed A]
      {offset : ℕ}
      (hBound : offset + Packed.width A ≤ 112) :
      fieldAt A (signedInstruction key signature message)
          offset =
        fieldAt A
          (signedHeader key signature
            (UInt16.ofNat message.length)) offset := by
    rw [hParts]
    apply fieldAt_append
    rw [length_signedHeader]
    exact hBound
  refine ⟨48, 16, 112, UInt16.ofNat message.length,
    ?_, ?_, ?_, ?_, ?_, ?_, ?_⟩
  · rw [hField (by decide)]
    simp [signedHeader]
  · rw [hField (by decide)]
    simp [signedHeader]
  · rw [hField (by decide)]
    simp [signedHeader]
  · rw [hField (by decide)]
    simp [signedHeader]
  · rw [hField (by decide)]
    simp [signedHeader]
  · rw [hField (by decide)]
    simp [signedHeader]
  · rw [hParts, slice_append_right, hMessageSize,
      length_signedHeader]
    · exact slice_all le_rfl
    · rw [length_signedHeader]
      decide

theorem Tables.precompileSound
    {t : Tables}
    (hSizes :
      ∀ entry ∈ t.signatures, entry.2.2.length < 2 ^ 16) :
    PrecompileSound t.host := by
  intro data hAccepted _
  rcases List.any_eq_true.mp hAccepted with
    ⟨entry, hEntry, hData⟩
  refine ⟨entry.1, entry.2.1, entry.2.2, ?_,
    decide_eq_true hEntry⟩
  rw [← of_decide_eq_true hData]
  exact declaredBy_signedInstruction (hSizes entry hEntry)

namespace SignedTransitions

/- The first wallet mints with a receipt of the validator. -/
def mint : List (Call Sample.tables.host) :=
  [Sample.call 1700000000 Sample.configure,
    Sample.call 1700000010
      (.anchor (.mintAnchor Sample.alice []
        Sample.commitmentPrev))]

end SignedTransitions

open SignedTransitions

theorem transition_signed_mint :
    ∃ (history : List (Event Sample.tables.host)) (w' : World)
      (event : Event Sample.tables.host),
      Run (Step Sample.tables.host) .funded history w' ∧
        history.map Transition.label = mint ∧
          history[1]? = some event ∧
            SignedTransition event.source event.label
              event.target := by
  have hReplay :
      (replay .funded mint).map (fun _ => ()) =
        some () := by
    decide +kernel
  rcases exists_run hReplay with
    ⟨history, w', hRun, hLabels, _⟩
  rcases event_of_label (i := 1) hLabels rfl with
    ⟨event, hIndex, hLabel⟩
  have hPrecompile : PrecompileSound Sample.tables.host :=
    Tables.precompileSound (by decide)
  have hGated : event.label.instruction.Gated := by
    rw [hLabel]
    exact .mint _ _ _
  exact ⟨history, w', event, hRun, hLabels, hIndex,
    (transition_signed hPrecompile).1 _ _ _ hGated
      event.valid⟩

end Entros
