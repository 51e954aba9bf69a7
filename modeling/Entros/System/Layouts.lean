import Entros.System.VerifierSteps

/-
  The byte positions that one program declares inside the
  accounts of another: on every serialised value the raw
  reads return the fields, and the raw write of the counter
  changes nothing but the counter.

  Key definitions include:
    * `ResultLayout`
    * `IdentityLayout`
    * `CounterLayout`
    * `ResultAgrees`
    * `IdentityAgrees`

  Key theorems include:
    * `readVerificationResult_iff`
    * `readIdentityFields_iff`
    * `checkIdentityLayout_iff`
    * `layouts_agree`
-/

------------------------------------------------------------
-- Proof Results
------------------------------------------------------------

namespace Entros

open Foundations
open Anchor

/- What the offsets of `process_anchor_update` point at. -/
structure ResultLayout
    (H : Host)
    (result : VerificationResult)
    (data : List UInt8) : Prop where
  length : data.length = verificationResultLenV2
  tag :
    slice data 0 8 =
      (discriminator H VerificationResult.accountName).toList
  verifier :
    fieldAt Pubkey data vrOffsetVerifier =
      some result.verifier
  verifiedAt :
    fieldAt Int64 data vrOffsetVerifiedAt =
      some result.verifiedAt
  nonce :
    fieldAt (Bytes 32) data vrOffsetNonce =
      some result.challengeNonce
  bump : fieldAt UInt8 data vrOffsetBump = some result.bump
  commitmentNew :
    fieldAt (Bytes 32) data vrOffsetCommitmentNew =
      some result.commitmentNew
  commitmentPrev :
    fieldAt (Bytes 32) data vrOffsetCommitmentPrev =
      some result.commitmentPrev

variable {H : Host}

theorem resultLayout_serialized (result : VerificationResult) :
    ResultLayout H result
      (serialized H VerificationResult.accountName
        result) where
  length := length_serialized result
  tag := by
    simp [VerificationResult.serialized_eq]
  verifier := by
    simp [VerificationResult.serialized_eq,
      VerificationResult.fields, vrOffsetVerifier]
  verifiedAt := by
    simp [VerificationResult.serialized_eq,
      VerificationResult.fields, vrOffsetVerifiedAt]
  nonce := by
    simp [VerificationResult.serialized_eq,
      VerificationResult.fields, vrOffsetNonce]
  bump := by
    simp [VerificationResult.serialized_eq,
      VerificationResult.fields, vrOffsetBump]
  commitmentNew := by
    simp [VerificationResult.serialized_eq,
      VerificationResult.fields, vrOffsetCommitmentNew]
  commitmentPrev := by
    simp [VerificationResult.serialized_eq,
      VerificationResult.fields, vrOffsetCommitmentPrev]

/- What an update demands of a result it reads. -/
structure ResultReadable
    (H : Host)
    (now : Int64)
    (authority : Signer)
    (address : Address)
    (result : VerificationResult) : Prop where
  build : H.requestBound = false
  tag :
    (discriminator H VerificationResult.accountName).toList =
      verificationResultDiscriminator
  verifier : result.verifier = authority.key
  nonce : result.challengeNonce ≠ Bytes.zero 32
  address :
    H.createProgramAddress
        (.verification authority.key result.challengeNonce)
        result.bump = some address
  past : result.verifiedAt ≤ now
  fresh :
    saturatingSub now result.verifiedAt ≤ maxProofAgeSecs

/- The update reads a stored result field by field. -/
theorem readVerificationResult_iff
    {w : World}
    {now : Int64}
    {authority : Signer}
    {addr : Address}
    {result : VerificationResult}
    {transition : ProofTransition}
    (hAccount :
      w.accounts addr =
        { owner := .verifier
          data :=
            serialized H VerificationResult.accountName
              result }) :
    readVerificationResult H w now authority addr =
        .ok transition ↔
      ResultReadable H now authority addr result ∧
        transition =
          { commitmentNew := result.commitmentNew
            commitmentPrev := result.commitmentPrev
            boundNonce := none } := by
  have hLayout := resultLayout_serialized (H := H) result
  simp only [readVerificationResult, bind_eq_ok,
    require_eq_ok, readField_eq_ok, readSlice_eq_ok,
    pure_eq_ok, hAccount, hLayout.verifier, hLayout.nonce,
    hLayout.bump, hLayout.verifiedAt, hLayout.commitmentNew,
    hLayout.commitmentPrev, hLayout.length,
    Option.some.injEq, exists_eq_left']
  constructor
  · rintro ⟨_, hBuild, _, _, _, _, tag, ⟨_, hTag⟩, _, hSame,
      _, hVerifier, _, hNonce, _, hAddress, _, hPast, _,
      hFresh, rfl⟩
    refine ⟨⟨hBuild, ?_, hVerifier, hNonce, hAddress, hPast,
      hFresh⟩, rfl⟩
    rw [← hLayout.tag, ← hSame, ← hTag]
  · rintro ⟨hRead, rfl⟩
    refine ⟨(), hRead.build, (), trivial, (), by decide, _,
      ⟨by decide, hLayout.tag⟩, (), hRead.tag, (),
      hRead.verifier, (), hRead.nonce, (), hRead.address, (),
      hRead.past, (), hRead.fresh, rfl⟩

end Entros

------------------------------------------------------------
-- Identities
------------------------------------------------------------

namespace Entros

open Foundations
open Anchor
open Verifier

/-
  What `verify_proof_bound` and `upgrade_identity_layout`
  point at inside an identity.
-/
structure IdentityLayout
    (H : Host)
    (identity : IdentityState)
    (data : List UInt8) : Prop where
  length : data.length = 593
  tag :
    slice data 0 8 =
      (discriminator H IdentityState.accountName).toList
  owner : fieldAt Pubkey data 8 = some identity.owner
  commitment :
    fieldAt (Bytes 32) data 62 =
      some identity.currentCommitment
  mint : fieldAt Pubkey data 94 = some identity.mint
  bump : fieldAt UInt8 data 126 = some identity.bump
  projection :
    fieldAt UInt16 data 583 =
      some identity.projectionVersion

variable {H : Host} {identity : IdentityState}
variable {wallet : Pubkey}

theorem identityLayout_serialized (identity : IdentityState) :
    IdentityLayout H identity
      (serialized H IdentityState.accountName identity) where
  length := length_serialized identity
  tag := by
    simp [IdentityState.serialized_eq]
  owner := by
    simp [IdentityState.serialized_eq, IdentityState.fields]
  commitment := by
    simp [IdentityState.serialized_eq, IdentityState.fields]
  mint := by
    simp [IdentityState.serialized_eq, IdentityState.fields]
  bump := by
    simp [IdentityState.serialized_eq, IdentityState.fields]
  projection := by
    simp [IdentityState.serialized_eq, IdentityState.fields]

/- The verifier reads a stored identity field by field. -/
theorem readIdentityFields_iff
    {prev : Bytes 32}
    {fields : IdentityFields} :
    readIdentityFields H
          (serialized H IdentityState.accountName identity)
          wallet prev = .ok fields ↔
      identity.owner = wallet ∧
        identity.currentCommitment = prev ∧
          identity.bump = H.canonicalBump (.identity wallet) ∧
            identity.mint = mintKey H wallet ∧
              fields =
                { mint := identity.mint
                  projection :=
                    identity.projectionVersion } := by
  have hLayout := identityLayout_serialized (H := H) identity
  simp only [readIdentityFields, bind_eq_ok, require_eq_ok,
    readField_eq_ok, pure_eq_ok, hLayout.length, hLayout.tag,
    hLayout.owner, hLayout.commitment, hLayout.mint,
    hLayout.bump, hLayout.projection, Option.some.injEq,
    exists_eq_left', true_and]
  constructor
  · rintro ⟨_, ⟨_, hOwner, hPrev, hBump⟩, _, hMint, rfl⟩
    exact ⟨hOwner, hPrev, hBump, hMint, rfl⟩
  · rintro ⟨hOwner, hPrev, hBump, hMint, rfl⟩
    exact ⟨(), ⟨rfl, hOwner, hPrev, hBump⟩, (), hMint, rfl⟩

/- So does the layout upgrade. -/
theorem checkIdentityLayout_iff :
    checkIdentityLayout H
          (serialized H IdentityState.accountName identity)
          wallet = .ok () ↔
      identity.owner = wallet ∧
        identity.bump = H.canonicalBump (.identity wallet) ∧
          identity.mint = mintKey H wallet := by
  have hLayout := identityLayout_serialized (H := H) identity
  simp only [checkIdentityLayout, bind_eq_ok, require_eq_ok,
    hLayout.length, hLayout.tag, hLayout.owner, hLayout.mint,
    hLayout.bump, Option.some.injEq, true_and]
  constructor
  · rintro ⟨_, _, _, ⟨hOwner, hBump⟩, hMint⟩
    exact ⟨hOwner, hBump, hMint⟩
  · rintro ⟨hOwner, hBump, hMint⟩
    exact ⟨(), by decide, (), ⟨hOwner, hBump⟩, hMint⟩

end Entros

------------------------------------------------------------
-- Counters
------------------------------------------------------------

namespace Entros

open Foundations
open Anchor

/- How both programs read a counter, and how it is bumped. -/
structure CounterLayout
    (H : Host)
    (state : ProofRequestState)
    (data : List UInt8) : Prop where
  counter :
    fieldAt UInt64 data ProofRequestState.offsetCounter =
      some state.counter
  read :
    ∀ wallet bump,
      readCounter H data wallet bump =
        if state.version = generation ∧
            state.wallet = wallet ∧ state.bump = bump then
          some state.counter
        else
          none
  overwrite :
    ∀ next : UInt64,
      writeField data ProofRequestState.offsetCounter next =
        .ok (serialized H ProofRequestState.accountName
          { state with counter := next })

variable {H : Host}

theorem counterLayout_serialized (state : ProofRequestState) :
    CounterLayout H state
      (serialized H ProofRequestState.accountName state) where
  counter := by
    simp [ProofRequestState.serialized_eq,
      ProofRequestState.fields,
      ProofRequestState.offsetCounter]
  read := readCounter_serialized state
  overwrite := by
    intro next
    rw [writeField_eq_ok, splice_counter_serialized,
      length_serialized]
    exact ⟨by decide, rfl⟩

end Entros

------------------------------------------------------------
-- Agreement
------------------------------------------------------------

namespace Entros

open Foundations
open Anchor
open Verifier

/- The update reads a result where the verifier wrote it. -/
structure ResultAgrees
    (H : Host)
    (result : VerificationResult)
    (data : List UInt8) : Prop
    extends ResultLayout H result data where
  read :
    ∀ w now authority addr transition,
      w.accounts addr =
          { owner := .verifier
            data := data } →
        (readVerificationResult H w now authority addr =
            .ok transition ↔
          ResultReadable H now authority addr result ∧
            transition =
              { commitmentNew := result.commitmentNew
                commitmentPrev := result.commitmentPrev
                boundNonce := none })

/-
  The verifier and the layout upgrade read an identity where
  the anchor program wrote it.
-/
structure IdentityAgrees
    (H : Host)
    (identity : IdentityState)
    (data : List UInt8) : Prop
    extends IdentityLayout H identity data where
  read :
    ∀ wallet prev fields,
      readIdentityFields H data wallet prev = .ok fields ↔
        identity.owner = wallet ∧
          identity.currentCommitment = prev ∧
            identity.bump =
                H.canonicalBump (.identity wallet) ∧
              identity.mint = mintKey H wallet ∧
                fields =
                  { mint := identity.mint
                    projection :=
                      identity.projectionVersion }
  check :
    ∀ wallet,
      checkIdentityLayout H data wallet = .ok () ↔
        identity.owner = wallet ∧
          identity.bump =
              H.canonicalBump (.identity wallet) ∧
            identity.mint = mintKey H wallet

/-
  The layouts that the programs declare for each other's
  accounts agree with the layouts they are written in.
-/
theorem layouts_agree
    (H : Host)
    (result : VerificationResult)
    (identity : IdentityState)
    (state : ProofRequestState) :
    ResultAgrees H result
        (serialized H VerificationResult.accountName
          result) ∧
      IdentityAgrees H identity
          (serialized H IdentityState.accountName
            identity) ∧
        CounterLayout H state
          (serialized H ProofRequestState.accountName
            state) := by
  refine ⟨⟨resultLayout_serialized result, ?_⟩,
    ⟨identityLayout_serialized identity, ?_, ?_⟩,
    counterLayout_serialized state⟩
  · intro w now authority addr transition hAccount
    exact readVerificationResult_iff hAccount
  · intro wallet prev fields
    exact readIdentityFields_iff
  · intro wallet
    exact checkIdentityLayout_iff

end Entros
