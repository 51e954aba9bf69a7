import Entros.Anchor.Receipt

/-
  The texts of versions 1, 2 and 3 of a validator receipt,
  and that the parser of entros-anchor accepts these texts
  and no others.

  Key definitions include:
    * `receiptV1Text`
    * `receiptV2Text`
    * `receiptV3Text`
    * `States`
    * `Fresh`

  Key theorems include:
    * `checkReceiptAge_eq_ok`
    * `states_of_readReceiptFields`
    * `readReceiptFields_of_states`
    * `verifyReceiptPayload_states`
-/

------------------------------------------------------------
-- Texts
------------------------------------------------------------

namespace Entros

open Foundations

namespace Anchor

/- Version 1: wallet, commitment and time. -/
def receiptV1Text
    (wallet : Pubkey)
    (commitment : Bytes 32)
    (validatedAt : Int64) : List UInt8 :=
  wallet.toList ++ commitment.toList ++
    Packed.encode validatedAt

/- What versions 2 and 3 write after their domain. -/
def receiptBody
    (purpose : ReceiptPurpose)
    (projectionVersion : UInt16)
    (wallet : Pubkey)
    (commitment : Bytes 32)
    (validatedAt : Int64) : List UInt8 :=
  [purpose.code] ++ Packed.encode projectionVersion ++
    wallet.toList ++ commitment.toList ++
    Packed.encode validatedAt

/- Version 2. -/
def receiptV2Text
    (purpose : ReceiptPurpose)
    (projectionVersion : UInt16)
    (wallet : Pubkey)
    (commitment : Bytes 32)
    (validatedAt : Int64) : List UInt8 :=
  receiptV2Domain ++
    receiptBody purpose projectionVersion wallet commitment
      validatedAt

/- Version 3 appends the session. -/
def receiptV3Text
    (purpose : ReceiptPurpose)
    (projectionVersion : UInt16)
    (wallet : Pubkey)
    (commitment : Bytes 32)
    (validatedAt : Int64)
    (session : ReceiptSession) : List UInt8 :=
  receiptV3Domain ++
    receiptBody purpose projectionVersion wallet commitment
      validatedAt ++
    session.finalDigest.toList ++ [session.assuranceTier]

/-
  The message states these fields in one of the versions that
  may state them.
-/
inductive States
    (purpose : ReceiptPurpose)
    (projectionVersion : UInt16)
    (wallet : Pubkey)
    (commitment : Bytes 32)
    (validatedAt : Int64) :
    List UInt8 → Option ReceiptSession → Prop
| v1
    (hPurpose : purpose = .mint)
    (hVersion : projectionVersion = 0) :
    States purpose projectionVersion wallet commitment
      validatedAt
      (receiptV1Text wallet commitment validatedAt) none
| v2 :
    States purpose projectionVersion wallet commitment
      validatedAt
      (receiptV2Text purpose projectionVersion wallet
        commitment validatedAt) none
| v3
    (session : ReceiptSession)
    (hTier : session.assuranceTier ≤ maxAssuranceTier) :
    States purpose projectionVersion wallet commitment
      validatedAt
      (receiptV3Text purpose projectionVersion wallet
        commitment validatedAt session) (some session)

/- The time is at most five minutes old, and not ahead. -/
def Fresh (validatedAt now : Int64) : Prop :=
  now.toInt - 300 ≤ validatedAt.toInt ∧
    validatedAt.toInt ≤ now.toInt

/- The saturating difference is compared exactly. -/
theorem checkReceiptAge_eq_ok
    {validatedAt now : Int64} :
    checkReceiptAge validatedAt now = .ok () ↔
      Fresh validatedAt now := by
  have hAge : maxReceiptAgeSecs.toInt = 300 := rfl
  have hBound : maxReceiptAgeSecs.toInt < 2 ^ 63 - 1 := by
    rw [hAge]
    decide
  simp only [checkReceiptAge, bind_eq_ok, require_eq_ok,
    exists_const, Fresh]
  rw [saturatingSub_le_iff hBound, hAge,
    Int64.le_iff_toInt_le]
  omega

end Anchor

end Entros

------------------------------------------------------------
-- Layouts
------------------------------------------------------------

namespace Entros

open Foundations

namespace Anchor

/- The fields of version 1 in their order. -/
abbrev ReceiptV1Layout :=
  Bytes 32 × Bytes 32 × Int64

/- The fields of version 2 in their order. -/
abbrev ReceiptV2Layout :=
  Bytes 28 × UInt8 × UInt16 × Bytes 32 × Bytes 32 × Int64

/- The fields of version 3 in their order. -/
abbrev ReceiptV3Layout :=
  Bytes 28 × UInt8 × UInt16 × Bytes 32 × Bytes 32 ×
    Int64 × Bytes 32 × UInt8

def receiptV2Tag : Bytes 28 :=
  Bytes.ofList 28 receiptV2Domain

def receiptV3Tag : Bytes 28 :=
  Bytes.ofList 28 receiptV3Domain

theorem receiptV2Tag_toList :
    receiptV2Tag.toList = receiptV2Domain :=
  Bytes.toList_ofList (List.takeD_length 28 _ 0)

theorem receiptV3Tag_toList :
    receiptV3Tag.toList = receiptV3Domain :=
  Bytes.toList_ofList (List.takeD_length 28 _ 0)

variable {purpose : ReceiptPurpose}
variable {projectionVersion : UInt16}
variable {wallet : Pubkey} {commitment : Bytes 32}
variable {validatedAt : Int64} {session : ReceiptSession}

theorem receiptV1Text_eq :
    receiptV1Text wallet commitment validatedAt =
      Packed.encode
        ((wallet, commitment, validatedAt) :
          ReceiptV1Layout) := by
  unfold receiptV1Text
  rw [List.append_assoc]
  rfl

theorem receiptV2Text_eq :
    receiptV2Text purpose projectionVersion wallet
        commitment validatedAt =
      Packed.encode
        ((receiptV2Tag, purpose.code, projectionVersion,
          wallet, commitment, validatedAt) :
          ReceiptV2Layout) := by
  unfold receiptV2Text receiptBody
  rw [← receiptV2Tag_toList, ← Packed.encode_uint8]
  simp only [List.append_assoc]
  rfl

theorem receiptV3Text_eq :
    receiptV3Text purpose projectionVersion wallet
        commitment validatedAt session =
      Packed.encode
        ((receiptV3Tag, purpose.code, projectionVersion,
          wallet, commitment, validatedAt,
          session.finalDigest, session.assuranceTier) :
          ReceiptV3Layout) := by
  unfold receiptV3Text receiptBody
  rw [← receiptV3Tag_toList, ← Packed.encode_uint8,
    ← Packed.encode_uint8]
  simp only [List.append_assoc]
  rfl

theorem length_receiptV1Text :
    (receiptV1Text wallet commitment validatedAt).length =
      receiptV1MessageLen := by
  rw [receiptV1Text_eq]
  exact Packed.length_encode _

theorem length_receiptV2Text :
    (receiptV2Text purpose projectionVersion wallet
      commitment validatedAt).length =
        receiptV2MessageLen := by
  rw [receiptV2Text_eq]
  exact Packed.length_encode _

theorem length_receiptV3Text :
    (receiptV3Text purpose projectionVersion wallet
      commitment validatedAt session).length =
        receiptV3MessageLen := by
  rw [receiptV3Text_eq]
  exact Packed.length_encode _

end Anchor

end Entros

------------------------------------------------------------
-- The Parser
------------------------------------------------------------

namespace Entros

open Foundations

namespace Anchor

variable {purpose : ReceiptPurpose}
variable {projectionVersion : UInt16}
variable {fields : ReceiptFields}
variable {tag : Bytes 28} {code : UInt8} {version : UInt16}
variable {wallet : Pubkey} {commitment : Bytes 32}
variable {validatedAt : Int64}
variable {finalDigest : Bytes 32} {tier : UInt8}

/- Version 1 is read in one way. -/
theorem readReceiptV1_eq_ok :
    readReceiptV1
        (Packed.encode
          ((wallet, commitment, validatedAt) :
            ReceiptV1Layout))
        purpose projectionVersion = .ok fields ↔
      (purpose = .mint ∧ projectionVersion = 0) ∧
        { wallet := wallet.toList
          commitment := commitment.toList
          validatedAt := validatedAt
          session := none } = fields := by
  simp only [readReceiptV1, bind_eq_ok, require_eq_ok,
    readField_eq_ok, readSlice_eq_ok, pure_eq_ok]
  simp

/- Version 2 is read in one way. -/
theorem readReceiptV2_short :
    readReceiptV2
        (Packed.encode
          ((tag, code, version, wallet, commitment,
            validatedAt) : ReceiptV2Layout))
        purpose projectionVersion = .ok fields ↔
      tag.toList = receiptV2Domain ∧ code = purpose.code ∧
        version = projectionVersion ∧
          { wallet := wallet.toList
            commitment := commitment.toList
            validatedAt := validatedAt
            session := none } = fields := by
  simp only [readReceiptV2, receiptDomain,
    readReceiptSession, receiptV3MessageLen, bind_eq_ok,
    require_eq_ok, readField_eq_ok, readSlice_eq_ok,
    pure_eq_ok]
  simp

/- The session of version 3, whose tier is checked. -/
theorem readReceiptSession_long
    {session : Option ReceiptSession} :
    readReceiptSession
        (Packed.encode
          ((tag, code, version, wallet, commitment,
            validatedAt, finalDigest, tier) :
            ReceiptV3Layout)) = .ok session ↔
      tier ≤ maxAssuranceTier ∧
        some { finalDigest := finalDigest
               assuranceTier := tier } = session := by
  unfold readReceiptSession
  rw [if_pos (by simp [receiptV3MessageLen])]
  simp only [bind_eq_ok, require_eq_ok, readField_eq_ok,
    pure_eq_ok]
  simp

/- So is version 3. -/
theorem readReceiptV2_long :
    readReceiptV2
        (Packed.encode
          ((tag, code, version, wallet, commitment,
            validatedAt, finalDigest, tier) :
            ReceiptV3Layout))
        purpose projectionVersion = .ok fields ↔
      tag.toList = receiptV3Domain ∧ code = purpose.code ∧
        version = projectionVersion ∧
          tier ≤ maxAssuranceTier ∧
            { wallet := wallet.toList
              commitment := commitment.toList
              validatedAt := validatedAt
              session := some
                { finalDigest := finalDigest
                  assuranceTier := tier } } = fields := by
  simp only [readReceiptV2, receiptDomain,
    receiptV3MessageLen, bind_eq_ok, require_eq_ok,
    readField_eq_ok, readSlice_eq_ok, pure_eq_ok,
    readReceiptSession_long]
  simp

/- Every message the parser accepts is a known text. -/
theorem states_of_readReceiptFields
    {message : List UInt8}
    (hFields :
      readReceiptFields message purpose projectionVersion =
        .ok fields) :
    ∃ (wallet : Pubkey) (commitment : Bytes 32),
      fields.wallet = wallet.toList ∧
        fields.commitment = commitment.toList ∧
          States purpose projectionVersion wallet commitment
            fields.validatedAt message fields.session := by
  unfold readReceiptFields at hFields
  by_cases hV1 : message.length = receiptV1MessageLen
  · rw [if_pos hV1] at hFields
    rcases Packed.Total.exists_encode
        (A := ReceiptV1Layout) message hV1 with
      ⟨⟨wallet, commitment, validatedAt⟩, rfl⟩
    rcases readReceiptV1_eq_ok.mp hFields with
      ⟨⟨hPurpose, hVersion⟩, rfl⟩
    refine ⟨wallet, commitment, rfl, rfl, ?_⟩
    rw [← receiptV1Text_eq]
    exact .v1 hPurpose hVersion
  rw [if_neg hV1] at hFields
  split_ifs at hFields with hLength
  rcases hLength with hV2 | hV3
  · rcases Packed.Total.exists_encode
        (A := ReceiptV2Layout) message hV2 with
      ⟨⟨tag, code, version, wallet, commitment,
        validatedAt⟩, rfl⟩
    rcases readReceiptV2_short.mp hFields with
      ⟨hTag, rfl, rfl, rfl⟩
    refine ⟨wallet, commitment, rfl, rfl, ?_⟩
    have hSame : tag = receiptV2Tag :=
      Bytes.toList_injective
        (hTag.trans receiptV2Tag_toList.symm)
    rw [hSame, ← receiptV2Text_eq]
    exact .v2
  · rcases Packed.Total.exists_encode
        (A := ReceiptV3Layout) message hV3 with
      ⟨⟨tag, code, version, wallet, commitment,
        validatedAt, finalDigest, tier⟩, rfl⟩
    rcases readReceiptV2_long.mp hFields with
      ⟨hTag, rfl, rfl, hTier, rfl⟩
    refine ⟨wallet, commitment, rfl, rfl, ?_⟩
    have hSame : tag = receiptV3Tag :=
      Bytes.toList_injective
        (hTag.trans receiptV3Tag_toList.symm)
    have hText :
        receiptV3Text purpose version wallet commitment
            validatedAt ⟨finalDigest, tier⟩ =
          Packed.encode
            ((receiptV3Tag, purpose.code, version, wallet,
              commitment, validatedAt, finalDigest, tier) :
              ReceiptV3Layout) :=
      receiptV3Text_eq
    rw [hSame, ← hText]
    exact .v3 ⟨finalDigest, tier⟩ hTier

/- Every known text is accepted, with its own fields. -/
theorem readReceiptFields_of_states
    {message : List UInt8}
    {session : Option ReceiptSession}
    (hStates :
      States purpose projectionVersion wallet commitment
        validatedAt message session) :
    readReceiptFields message purpose projectionVersion =
      .ok { wallet := wallet.toList
            commitment := commitment.toList
            validatedAt := validatedAt
            session := session } := by
  unfold readReceiptFields
  cases hStates with
  | v1 hPurpose hVersion =>
      rw [if_pos length_receiptV1Text, receiptV1Text_eq]
      exact readReceiptV1_eq_ok.mpr
        ⟨⟨hPurpose, hVersion⟩, rfl⟩
  | v2 =>
      rw [if_neg (by rw [length_receiptV2Text]; decide),
        if_pos (.inl length_receiptV2Text),
        receiptV2Text_eq]
      exact readReceiptV2_short.mpr
        ⟨receiptV2Tag_toList, rfl, rfl, rfl⟩
  | v3 session hTier =>
      rw [if_neg (by rw [length_receiptV3Text]; decide),
        if_pos (.inr length_receiptV3Text),
        receiptV3Text_eq]
      exact readReceiptV2_long.mpr
        ⟨receiptV3Tag_toList, rfl, rfl, hTier, rfl⟩

/-
  A message is accepted for what it states, at the times at
  which that is fresh.
-/
theorem verifyReceiptPayload_states
    {message : List UInt8}
    {now : Int64}
    {session : Option ReceiptSession} :
    verifyReceiptPayload message wallet commitment purpose
        projectionVersion now = .ok session ↔
      ∃ validatedAt,
        States purpose projectionVersion wallet commitment
            validatedAt message session ∧
          Fresh validatedAt now := by
  simp only [verifyReceiptPayload, bind_eq_ok,
    require_eq_ok, pure_eq_ok]
  constructor
  · rintro ⟨fields, hFields, _, hWallet, _, hCommitment,
      ⟨⟩, hAge, rfl⟩
    rcases states_of_readReceiptFields hFields with
      ⟨wallet', commitment', hWallet', hCommitment',
        hStates⟩
    have hSameWallet : wallet' = wallet :=
      Bytes.toList_injective (hWallet'.symm.trans hWallet)
    have hSameCommitment : commitment' = commitment :=
      Bytes.toList_injective
        (hCommitment'.symm.trans hCommitment)
    subst hSameWallet hSameCommitment
    exact ⟨fields.validatedAt, hStates,
      checkReceiptAge_eq_ok.mp hAge⟩
  · rintro ⟨validatedAt, hStates, hFresh⟩
    exact ⟨_, readReceiptFields_of_states hStates, (), rfl,
      (), rfl, (), checkReceiptAge_eq_ok.mpr hFresh, rfl⟩

end Anchor

end Entros
