import Entros.Foundations.Checked

/-
  The errors of the three programs, of the Anchor framework
  and of the runtime.

  Key definitions include:
    * `EntrosAnchorError`
    * `RegistryError`
    * `VerifierError`
    * `FrameworkError`
    * `RuntimeError`
    * `Fault`
-/

------------------------------------------------------------
-- Program Errors
------------------------------------------------------------

namespace Entros

/- The error codes of entros-anchor, in declaration order. -/
inductive EntrosAnchorError where
| invalidCommitment
| unauthorized
| arithmeticOverflow
| invalidProtocolConfig
| invalidIdentityState
| identitySerializationFailed
| verificationResultWrongOwner
| staleVerificationResult
| verifierMismatch
| proofExpired
| commitmentMismatch
| prevCommitmentMismatch
| resetCooldownActive
| rebaselineCooldownActive
| unauthorizedNewWallet
| proofFromFuture
| missingValidatorReceipt
| receiptValidatorMismatch
| receiptCommitmentMismatch
| receiptWalletMismatch
| receiptExpired
| receiptFromFuture
| malformedReceiptMessage
| identityStateNotFound
| validatorNotConfigured
| verificationIntervalTooShort
| projectionVersionTooOld
| projectionVersionTooNew
| projectionVersionNotAdvanced
| receiptVersionMismatch
| receiptPurposeMismatch
| receiptProjectionVersionMismatch
| projectionVersionMismatch
| invalidResetReceiptAccounts
| unsupportedProofGeneration
| invalidRequestContext
| invalidAssuranceTier
| commitmentUnchanged
| invalidVerificationResultPda
| invalidVerifierProgram
| receiptAlreadyUsed
deriving DecidableEq

/- The error codes of entros-registry, in order. -/
inductive RegistryError where
| insufficientStake
| validatorAlreadyRegistered
| validatorNotActive
| unauthorized
| arithmeticOverflow
| insufficientTreasuryBalance
| programDataBytes
| wrongUpgradeAuthority
| invalidProtocolConfig
| invalidValidatorPubkey
| invalidProjectionVersionRange
| projectionVersionRollback
| minimumProjectionVersionRollback
| invalidPendingAuthority
| noPendingAuthority
| invalidValidatorGracePeriod
deriving DecidableEq

/- The error codes of entros-verifier, in order. -/
inductive VerifierError where
| invalidProofFormat
| proofVerificationFailed
| challengeExpired
| challengeAlreadyUsed
| invalidPublicInputs
| challengeNotUsed
| invalidNonce
| arithmeticOverflow
| unsupportedProofGeneration
| invalidRequestContext
deriving DecidableEq

end Entros

------------------------------------------------------------
-- Framework and Runtime Errors
------------------------------------------------------------

namespace Entros

/- Account validation errors raised by Anchor. -/
inductive FrameworkError where
| accountNotInitialized
| accountOwnedByWrongProgram
| accountDiscriminatorNotFound
| accountDiscriminatorMismatch
| accountDidNotDeserialize
| accountDidNotSerialize
| constraintMut
| constraintRaw
| constraintSeeds
| constraintSpace
| constraintOwner
| constraintAddress
deriving DecidableEq

/- Errors of the runtime and of the programs it provides. -/
inductive RuntimeError where
| insufficientFunds
| accountAlreadyInUse
| missingInstruction
| tokenAccountMissing
| tokenOwnerMismatch
| tokenBalanceTooLow
| mintHasSupply
deriving DecidableEq

/-
  Why an instruction fails.  `panicked` is a Rust panic: an
  index out of bounds or a checked overflow.
-/
inductive Fault where
| anchor (error : EntrosAnchorError)
| registry (error : RegistryError)
| verifier (error : VerifierError)
| framework (error : FrameworkError)
| runtime (error : RuntimeError)
| panicked
deriving DecidableEq

/- A computation that succeeds or fails with a fault. -/
abbrev Result (A : Type) := Except Fault A

end Entros
