import Entros.Chain.World

/-
  The account types of entros-verifier.

  Key definitions include:
    * `Challenge`
    * `VerificationResult`
-/

------------------------------------------------------------
-- Challenges
------------------------------------------------------------

namespace Entros

open Foundations

/- `Challenge` of programs/entros-verifier/src/state.rs. -/
structure Challenge where
  challenger : Pubkey
  nonce : Bytes 32
  createdAt : Int64
  expiresAt : Int64
  used : Bool
  bump : UInt8
deriving DecidableEq

namespace Challenge

/- The fields in declaration order. -/
def fields :
    Challenge ≃
      Pubkey × Bytes 32 × Int64 × Int64 × Bool × UInt8 where
  toFun c :=
    (c.challenger, c.nonce, c.createdAt, c.expiresAt,
      c.used, c.bump)
  invFun := fun
    ⟨challenger, nonce, createdAt, expiresAt, used, bump⟩ =>
    { challenger := challenger
      nonce := nonce
      createdAt := createdAt
      expiresAt := expiresAt
      used := used
      bump := bump }
  left_inv _ := rfl
  right_inv _ := rfl

instance packed : Packed Challenge :=
  Packed.ofEquiv fields

/- The name Anchor derives the discriminator from. -/
def accountName : String := "Challenge"

def len : ℕ := 90

/- The typed record fills the allocated space exactly. -/
theorem width_eq :
    8 + Packed.width Challenge = len := rfl

end Challenge

end Entros

------------------------------------------------------------
-- Verification Results
------------------------------------------------------------

namespace Entros

open Foundations

/- `VerificationResult` of the same file. -/
structure VerificationResult where
  verifier : Pubkey
  proofHash : Bytes 32
  verifiedAt : Int64
  isValid : Bool
  challengeNonce : Bytes 32
  bump : UInt8
  commitmentNew : Bytes 32
  commitmentPrev : Bytes 32
  threshold : UInt16
  minDistance : UInt16
deriving DecidableEq

namespace VerificationResult

/- The fields in declaration order. -/
def fields :
    VerificationResult ≃
      Pubkey × Bytes 32 × Int64 × Bool × Bytes 32 × UInt8 ×
        Bytes 32 × Bytes 32 × UInt16 × UInt16 where
  toFun r :=
    (r.verifier, r.proofHash, r.verifiedAt, r.isValid,
      r.challengeNonce, r.bump, r.commitmentNew,
      r.commitmentPrev, r.threshold, r.minDistance)
  invFun := fun
    ⟨verifier, proofHash, verifiedAt, isValid,
      challengeNonce, bump, commitmentNew, commitmentPrev,
      threshold, minDistance⟩ =>
    { verifier := verifier
      proofHash := proofHash
      verifiedAt := verifiedAt
      isValid := isValid
      challengeNonce := challengeNonce
      bump := bump
      commitmentNew := commitmentNew
      commitmentPrev := commitmentPrev
      threshold := threshold
      minDistance := minDistance }
  left_inv _ := rfl
  right_inv _ := rfl

instance packed : Packed VerificationResult :=
  Packed.ofEquiv fields

/- The name Anchor derives the discriminator from. -/
def accountName : String := "VerificationResult"

def len : ℕ := 182

/- The typed record fills the allocated space exactly. -/
theorem width_eq :
    8 + Packed.width VerificationResult = len := rfl

theorem serialized_eq
    {H : Host}
    (result : VerificationResult) :
    serialized H accountName result =
      Packed.encode
        (discriminator H accountName, result.fields) := rfl

end VerificationResult

end Entros
