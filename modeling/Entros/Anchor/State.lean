import Entros.Chain.World

/-
  The account types of entros-anchor.

  Key definitions include:
    * `IdentityState`
    * `EncryptedBaseline`
-/

------------------------------------------------------------
-- Identities
------------------------------------------------------------

namespace Entros

open Foundations

/- The activity ring, newest entry first. -/
abbrev ActivityRing := List.Vector Int64 52

/- `IdentityState` of programs/entros-anchor/src/state.rs. -/
structure IdentityState where
  owner : Pubkey
  creationTimestamp : Int64
  lastVerificationTimestamp : Int64
  verificationCount : UInt32
  trustScore : UInt16
  currentCommitment : Bytes 32
  mint : Pubkey
  bump : UInt8
  recentTimestamps : ActivityRing
  lastResetTimestamp : Int64
  newWallet : Pubkey
  projectionVersion : UInt16
  lastRebaselineTimestamp : Int64
deriving DecidableEq

namespace IdentityState

/- The fields in declaration order. -/
def fields :
    IdentityState ≃
      Pubkey × Int64 × Int64 × UInt32 × UInt16 × Bytes 32 ×
        Pubkey × UInt8 × ActivityRing × Int64 × Pubkey ×
          UInt16 × Int64 where
  toFun s :=
    (s.owner, s.creationTimestamp,
      s.lastVerificationTimestamp, s.verificationCount,
      s.trustScore, s.currentCommitment, s.mint, s.bump,
      s.recentTimestamps, s.lastResetTimestamp, s.newWallet,
      s.projectionVersion, s.lastRebaselineTimestamp)
  invFun := fun
    ⟨owner, creationTimestamp, lastVerificationTimestamp,
      verificationCount, trustScore, currentCommitment, mint,
      bump, recentTimestamps, lastResetTimestamp, newWallet,
      projectionVersion, lastRebaselineTimestamp⟩ =>
    { owner := owner
      creationTimestamp := creationTimestamp
      lastVerificationTimestamp := lastVerificationTimestamp
      verificationCount := verificationCount
      trustScore := trustScore
      currentCommitment := currentCommitment
      mint := mint
      bump := bump
      recentTimestamps := recentTimestamps
      lastResetTimestamp := lastResetTimestamp
      newWallet := newWallet
      projectionVersion := projectionVersion
      lastRebaselineTimestamp := lastRebaselineTimestamp }
  left_inv _ := rfl
  right_inv _ := rfl

instance packed : Packed IdentityState :=
  Packed.ofEquiv fields

/- The name Anchor derives the discriminator from. -/
def accountName : String := "IdentityState"

def len : ℕ := 593

def emptyRing : ActivityRing := List.Vector.replicate 52 0

/- What a freshly allocated account deserialises to. -/
def zero : IdentityState where
  owner := Pubkey.default
  creationTimestamp := 0
  lastVerificationTimestamp := 0
  verificationCount := 0
  trustScore := 0
  currentCommitment := Bytes.zero 32
  mint := Pubkey.default
  bump := 0
  recentTimestamps := emptyRing
  lastResetTimestamp := 0
  newWallet := Pubkey.default
  projectionVersion := 0
  lastRebaselineTimestamp := 0

/- The typed record fills the current layout exactly. -/
theorem width_eq :
    8 + Packed.width IdentityState = len := rfl

theorem serialized_eq
    {H : Host}
    (identity : IdentityState) :
    serialized H accountName identity =
      Packed.encode
        (discriminator H accountName, identity.fields) := rfl

end IdentityState

end Entros

------------------------------------------------------------
-- Encrypted Baselines
------------------------------------------------------------

namespace Entros

open Foundations

/- `EncryptedBaseline` of the same file. -/
structure EncryptedBaseline where
  blob : Bytes 96
  bump : UInt8
deriving DecidableEq

namespace EncryptedBaseline

/- The fields in declaration order. -/
def fields : EncryptedBaseline ≃ Bytes 96 × UInt8 where
  toFun b := (b.blob, b.bump)
  invFun := fun ⟨blob, bump⟩ => { blob := blob, bump := bump }
  left_inv _ := rfl
  right_inv _ := rfl

instance packed : Packed EncryptedBaseline :=
  Packed.ofEquiv fields

/- The name Anchor derives the discriminator from. -/
def accountName : String := "EncryptedBaseline"

def len : ℕ := 105

/- The typed record fills the allocated space exactly. -/
theorem width_eq :
    8 + Packed.width EncryptedBaseline = len := rfl

end EncryptedBaseline

end Entros
