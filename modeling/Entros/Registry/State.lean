import Entros.Chain.World

/-
  The account types of entros-registry and the byte offsets
  at which their fields are stored.

  Key definitions include:
    * `ProtocolConfig`
    * `ProtocolConfig.len`
    * `ValidatorState`
-/

------------------------------------------------------------
-- Protocol Configuration
------------------------------------------------------------

namespace Entros

open Foundations

/- `ProtocolConfig` of programs/entros-registry/src/state.rs. -/
structure ProtocolConfig where
  admin : Pubkey
  minStake : UInt64
  challengeExpiry : Int64
  maxTrustScore : UInt16
  baseTrustIncrement : UInt16
  bump : UInt8
  verificationFee : UInt64
  migrationFee : UInt64
  validatorPubkey : Pubkey
  currentProjectionVersion : UInt16
  minimumSupportedProjectionVersion : UInt16
  pendingAuthority : Pubkey
  secondaryValidatorPubkey : Pubkey
  secondaryValidatorValidUntil : Int64
deriving DecidableEq

namespace ProtocolConfig

/- The fields in declaration order. -/
def fields :
    ProtocolConfig ≃
      Pubkey × UInt64 × Int64 × UInt16 × UInt16 × UInt8 ×
        UInt64 × UInt64 × Pubkey × UInt16 × UInt16 ×
          Pubkey × Pubkey × Int64 where
  toFun c :=
    (c.admin, c.minStake, c.challengeExpiry,
      c.maxTrustScore, c.baseTrustIncrement, c.bump,
      c.verificationFee, c.migrationFee, c.validatorPubkey,
      c.currentProjectionVersion,
      c.minimumSupportedProjectionVersion,
      c.pendingAuthority, c.secondaryValidatorPubkey,
      c.secondaryValidatorValidUntil)
  invFun := fun
    ⟨admin, minStake, challengeExpiry, maxTrustScore,
      baseTrustIncrement, bump, verificationFee,
      migrationFee, validatorPubkey, current, minimum,
      pendingAuthority, secondary, validUntil⟩ =>
    { admin := admin
      minStake := minStake
      challengeExpiry := challengeExpiry
      maxTrustScore := maxTrustScore
      baseTrustIncrement := baseTrustIncrement
      bump := bump
      verificationFee := verificationFee
      migrationFee := migrationFee
      validatorPubkey := validatorPubkey
      currentProjectionVersion := current
      minimumSupportedProjectionVersion := minimum
      pendingAuthority := pendingAuthority
      secondaryValidatorPubkey := secondary
      secondaryValidatorValidUntil := validUntil }
  left_inv _ := rfl
  right_inv _ := rfl

instance packed : Packed ProtocolConfig :=
  Packed.ofEquiv fields

/- The name Anchor derives the discriminator from. -/
def accountName : String := "ProtocolConfig"

def lenPreRollover : ℕ := 113
def len : ℕ := 185
def offsetAdmin : ℕ := 8
def offsetValidatorPubkey : ℕ := 77
def offsetCurrentProjectionVersion : ℕ := 109
def offsetMinimumSupportedProjectionVersion : ℕ := 111
def offsetPendingAuthority : ℕ := 113
def offsetSecondaryValidatorPubkey : ℕ := 145
def offsetSecondaryValidatorValidUntil : ℕ := 177
def maxValidatorGracePeriodSecs : Int64 := 86400

/- What a freshly allocated account deserialises to. -/
def zero : ProtocolConfig where
  admin := Pubkey.default
  minStake := 0
  challengeExpiry := 0
  maxTrustScore := 0
  baseTrustIncrement := 0
  bump := 0
  verificationFee := 0
  migrationFee := 0
  validatorPubkey := Pubkey.default
  currentProjectionVersion := 0
  minimumSupportedProjectionVersion := 0
  pendingAuthority := Pubkey.default
  secondaryValidatorPubkey := Pubkey.default
  secondaryValidatorValidUntil := 0

/- The typed record fills the current layout exactly. -/
theorem width_eq :
    8 + Packed.width ProtocolConfig = len := rfl

end ProtocolConfig

end Entros

------------------------------------------------------------
-- Validator Registration
------------------------------------------------------------

namespace Entros

open Foundations

/- `ValidatorState` of programs/entros-registry/src/state.rs. -/
structure ValidatorState where
  authority : Pubkey
  stake : UInt64
  registrationTime : Int64
  isActive : Bool
  verificationsPerformed : UInt64
  bump : UInt8
deriving DecidableEq

namespace ValidatorState

/- The fields in declaration order. -/
def fields :
    ValidatorState ≃
      Pubkey × UInt64 × Int64 × Bool × UInt64 × UInt8 where
  toFun v :=
    (v.authority, v.stake, v.registrationTime, v.isActive,
      v.verificationsPerformed, v.bump)
  invFun := fun
    ⟨authority, stake, registrationTime, isActive,
      verificationsPerformed, bump⟩ =>
    { authority := authority
      stake := stake
      registrationTime := registrationTime
      isActive := isActive
      verificationsPerformed := verificationsPerformed
      bump := bump }
  left_inv _ := rfl
  right_inv _ := rfl

instance packed : Packed ValidatorState :=
  Packed.ofEquiv fields

/- The name Anchor derives the discriminator from. -/
def accountName : String := "ValidatorState"

def len : ℕ := 66

/- The typed record fills the allocated space exactly. -/
theorem width_eq :
    8 + Packed.width ValidatorState = len := rfl

end ValidatorState

end Entros
