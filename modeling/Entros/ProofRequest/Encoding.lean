import Entros.ProofRequest.Request

/-
  What the encodings of a request determine: an action is
  recovered from its bytes, a request from the bytes around
  the digest of its action, and a digest from its two limbs;
  and which actions have an encoding.

  Key definitions include:
    * `scalarOrder`

  Key theorems include:
    * `Action.bytes_injective`
    * `requestBytes_injective`
    * `digestLimbs_injective`
    * `canonicalScalar_iff`
    * `requestDigest_eq_some`
-/

------------------------------------------------------------
-- Encodings
------------------------------------------------------------

namespace Entros

open Foundations

/- Two texts that end in values of the same width. -/
theorem append_bytes_inj
    {n : ℕ}
    {front front' : List UInt8}
    {value value' : Bytes n}
    (hEq : front ++ value.toList = front' ++ value'.toList) :
    front = front' ∧ value = value' := by
  have hLength :
      value.toList.length = value'.toList.length := by
    rw [value.toList_length, value'.toList_length]
  rcases List.append_inj' hEq hLength with ⟨hFront, hValue⟩
  exact ⟨hFront, Bytes.toList_injective hValue⟩

theorem append_beBytes_inj
    {width value value' : ℕ}
    {front front' : List UInt8}
    (hEq :
      front ++ beBytes width value =
        front' ++ beBytes width value')
    (hValue : value < 256 ^ width)
    (hValue' : value' < 256 ^ width) :
    front = front' ∧ value = value' := by
  have hLength :
      (beBytes width value).length =
        (beBytes width value').length := by
    rw [length_beBytes, length_beBytes]
  rcases List.append_inj' hEq hLength with ⟨hFront, hLast⟩
  exact ⟨hFront, beBytes_inj hValue hValue' hLast⟩

namespace Action

variable {action action' : Action}

/- An action is recovered from its encoding. -/
theorem bytes_injective
    (hBytes : action.bytes = action'.bytes) :
    action = action' := by
  have hWide (value : UInt64) : value.toNat < 256 ^ 8 :=
    value.toNat_lt
  have hNarrow (value : UInt16) : value.toNat < 256 ^ 2 :=
    value.toNat_lt
  unfold bytes at hBytes
  rcases append_beBytes_inj hBytes (hWide _) (hWide _) with
    ⟨hBytes, hUntil⟩
  rcases append_beBytes_inj hBytes (hNarrow _) (hNarrow _)
    with ⟨hBytes, hDistance⟩
  rcases append_beBytes_inj hBytes (hNarrow _) (hNarrow _)
    with ⟨hBytes, hThreshold⟩
  rcases append_bytes_inj hBytes with ⟨hBytes, hPrev⟩
  rcases append_bytes_inj hBytes with ⟨hBytes, hNew⟩
  rcases append_beBytes_inj hBytes (hNarrow _) (hNarrow _)
    with ⟨hBytes, hProjection⟩
  rcases append_beBytes_inj hBytes (hWide _) (hWide _) with
    ⟨hBytes, hCounter⟩
  rcases append_bytes_inj hBytes with ⟨hBytes, hMint⟩
  rcases append_bytes_inj hBytes with ⟨_, hIdentity⟩
  cases action
  cases action'
  simp only [Action.mk.injEq]
  exact ⟨hIdentity, hMint, UInt64.toNat_inj.mp hCounter,
    UInt16.toNat_inj.mp hProjection, hNew, hPrev,
    UInt16.toNat_inj.mp hThreshold,
    UInt16.toNat_inj.mp hDistance,
    UInt64.toNat_inj.mp hUntil⟩

end Action

/- A request is recovered from its bytes. -/
theorem requestBytes_injective
    {deployment deployment' : Bytes 32}
    {verifier verifier' consumer consumer' : Pubkey}
    {wallet wallet' : Pubkey}
    {nonce nonce' digest digest' : Bytes 32}
    (hBytes :
      requestBytes deployment verifier consumer wallet nonce
          digest =
        requestBytes deployment' verifier' consumer' wallet'
          nonce' digest') :
    deployment = deployment' ∧ verifier = verifier' ∧
      consumer = consumer' ∧ wallet = wallet' ∧
        nonce = nonce' ∧ digest = digest' := by
  unfold requestBytes at hBytes
  rcases append_bytes_inj hBytes with ⟨hBytes, hDigest⟩
  have hFront := List.append_cancel_right hBytes
  rcases append_bytes_inj hFront with ⟨hFront, hNonce⟩
  rcases append_bytes_inj hFront with ⟨hFront, hWallet⟩
  rcases append_bytes_inj hFront with ⟨hFront, hConsumer⟩
  rcases append_bytes_inj hFront with ⟨hFront, hVerifier⟩
  rcases append_bytes_inj hFront with ⟨_, hDeployment⟩
  exact ⟨hDeployment, hVerifier, hConsumer, hWallet, hNonce,
    hDigest⟩

/- A request ends in the hash of its action. -/
theorem drop_requestBytes
    (deployment : Bytes 32)
    (verifier consumer wallet : Pubkey)
    (nonce digest : Bytes 32) :
    (requestBytes deployment verifier consumer wallet nonce
        digest).drop 193 = digest.toList := by
  have hDomain : requestDomain.length = 32 :=
    List.takeD_length 32 _ 0
  unfold requestBytes
  apply List.drop_left'
  simp only [List.length_append, hDomain,
    List.Vector.toList_length, List.length_singleton]

/- The two limbs hold all of a digest. -/
theorem digestLimbs_injective :
    Function.Injective digestLimbs := by
  intro digest digest' hLimbs
  have hLength (value : Bytes 32) (start : ℕ)
      (hStart : start + 16 ≤ 32) :
      (slice value.toList start 16).length = 16 :=
    length_slice (by rw [value.toList_length]; exact hStart)
  have hHalf
      {half half' : List UInt8}
      (hHalf : half.length = 16)
      (hHalf' : half'.length = 16)
      (hEq : limb half = limb half') :
      half = half' := by
    have hLists := congrArg List.Vector.toList hEq
    unfold limb at hLists
    rw [Bytes.toList_ofList (by simp [hHalf]),
      Bytes.toList_ofList (by simp [hHalf'])] at hLists
    exact List.append_cancel_left hLists
  have hSplit (value : Bytes 32) :
      value.toList =
        slice value.toList 0 16 ++
          slice value.toList 16 16 := by
    have hRest : (value.toList.drop 16).length ≤ 16 := by
      rw [List.length_drop, value.toList_length]
    rw [slice, slice, List.drop_zero,
      List.take_of_length_le hRest, List.take_append_drop]
  simp only [digestLimbs, List.cons.injEq] at hLimbs
  rcases hLimbs with ⟨hFirst, hSecond, _⟩
  apply Bytes.toList_injective
  rw [hSplit digest, hSplit digest',
    hHalf (hLength _ 0 (by decide)) (hLength _ 0 (by decide))
      hFirst,
    hHalf (hLength _ 16 (by decide))
      (hLength _ 16 (by decide)) hSecond]

end Entros

------------------------------------------------------------
-- Canonical Scalars
------------------------------------------------------------

namespace Entros

open Foundations

/- The order of the BN254 scalar field. -/
def scalarOrder : ℕ :=
  21888242871839275222246405745257275088548364400416034343698204186575808495617

theorem beNat_scalarModulus :
    beNat scalarModulus = scalarOrder := by
  decide +kernel

/- Bytes compare as the numbers they denote. -/
theorem canonicalScalar_iff {value : Bytes 32} :
    canonicalScalar value ↔
      beNat value.toList < scalarOrder := by
  have hLength :
      value.toList.length = scalarModulus.length :=
    value.toList_length
  unfold canonicalScalar
  rw [lt_iff_beNat_lt hLength, beNat_scalarModulus]

/- Only zero bytes denote zero. -/
theorem ne_zero_iff_beNat_pos {value : Bytes 32} :
    value ≠ Bytes.zero 32 ↔ 0 < beNat value.toList := by
  rw [Nat.pos_iff_ne_zero, not_iff_not]
  constructor
  · rintro rfl
    rfl
  · intro hZero
    have hBytes := beBytes_beNat value.toList
    rw [hZero, value.toList_length] at hBytes
    apply Bytes.toList_injective
    rw [← hBytes]
    rfl

/- What `Action::encode` demands, in terms of numbers. -/
theorem Action.encodable_iff {action : Action} :
    action.Encodable ↔
      (0 < beNat action.commitmentNew.toList ∧
        beNat action.commitmentNew.toList < scalarOrder) ∧
      (0 < beNat action.commitmentPrev.toList ∧
        beNat action.commitmentPrev.toList < scalarOrder) ∧
      0 < action.validUntil.toNat ∧
      action.threshold.toNat ≤ 256 ∧
      action.minDistance.toNat ≤ action.threshold.toNat := by
  have hUntil :
      action.validUntil ≠ 0 ↔ 0 < action.validUntil.toNat := by
    rw [Nat.pos_iff_ne_zero, ne_eq, ← UInt64.toNat_inj]
    rfl
  have hThreshold :
      action.threshold ≤ 256 ↔
        action.threshold.toNat ≤ 256 :=
    UInt16.le_iff_toNat_le
  have hDistance :
      action.minDistance ≤ action.threshold ↔
        action.minDistance.toNat ≤ action.threshold.toNat :=
    UInt16.le_iff_toNat_le
  unfold Action.Encodable
  rw [canonicalScalar_iff, canonicalScalar_iff,
    ne_zero_iff_beNat_pos, ne_zero_iff_beNat_pos, hUntil,
    hThreshold, hDistance]
  constructor
  · rintro ⟨hNew, hPrev, hNew', hPrev', hRest⟩
    exact ⟨⟨hNew', hNew⟩, ⟨hPrev', hPrev⟩, hRest⟩
  · rintro ⟨⟨hNew', hNew⟩, ⟨hPrev', hPrev⟩, hRest⟩
    exact ⟨hNew, hPrev, hNew', hPrev', hRest⟩

/- A limb of a digest is below 2 ^ 128. -/
theorem beNat_limb_lt
    {half : List UInt8}
    (hHalf : half.length = 16) :
    beNat (limb half).toList < scalarOrder := by
  have hBound := beNat_lt half
  rw [hHalf] at hBound
  rw [limb, Bytes.toList_ofList (by simp [hHalf]),
    beNat_zeros]
  exact hBound.trans (by decide +kernel)

theorem digestLimbs_canonical
    {digest element : Bytes 32}
    (hElement : element ∈ digestLimbs digest) :
    beNat element.toList < scalarOrder := by
  have hLength (start : ℕ) (hStart : start + 16 ≤ 32) :
      (slice digest.toList start 16).length = 16 :=
    length_slice (by rw [digest.toList_length]; exact hStart)
  simp only [digestLimbs, List.mem_cons, List.not_mem_nil,
    or_false] at hElement
  rcases hElement with rfl | rfl
  · exact beNat_limb_lt (hLength 0 (by decide))
  · exact beNat_limb_lt (hLength 16 (by decide))

/- A digest exists when the action can be encoded. -/
theorem requestDigest_eq_some
    {H : Host}
    {deployment : Bytes 32}
    {verifier consumer wallet : Pubkey}
    {nonce digest : Bytes 32}
    {action : Action} :
    requestDigest H deployment verifier consumer wallet nonce
        action = some digest ↔
      action.Encodable ∧
        H.sha256
          (requestBytes deployment verifier consumer wallet
            nonce (H.sha256 action.bytes)) = digest := by
  unfold requestDigest Action.encode
  by_cases hEncodable : action.Encodable
  · simp [hEncodable]
  · simp [hEncodable]

end Entros
