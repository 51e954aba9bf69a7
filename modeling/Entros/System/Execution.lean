import Entros.Anchor.Instructions
import Entros.Foundations.Runs
import Entros.Registry.Instructions
import Entros.Registry.Preview

/-
  The whole deployment as one transition system: the
  instructions of the three programs, what wallets and other
  programs can do around them, and runs of all of these in
  any order.

  Key definitions include:
    * `Instruction`
    * `Call`
    * `execute`
    * `Step`
    * `Event`
    * `Clocked`
-/

------------------------------------------------------------
-- Instructions
------------------------------------------------------------

namespace Entros

open Foundations

/- The instructions of entros-registry with their arguments. -/
inductive RegistryInstruction where
| initializeProtocol
    (admin : Signer)
    (minStake : UInt64)
    (challengeExpiry : Int64)
    (maxTrustScore baseTrustIncrement : UInt16)
    (verificationFee : UInt64)
    (validatorPubkey : Pubkey)
| updateProtocolConfig
    (admin : Signer)
    (verificationFee : UInt64)
| setValidatorPubkey
    (admin : Signer)
    (validatorPubkey : Pubkey)
| rotateValidatorPubkey
    (admin : Signer)
    (newValidatorPubkey : Pubkey)
    (gracePeriodSecs : Int64)
| setProjectionVersions
    (admin : Signer)
    (currentProjectionVersion
      minimumSupportedProjectionVersion : UInt16)
| proposeAuthority
    (admin : Signer)
    (newAuthority : Pubkey)
| acceptAuthority (pendingAuthority : Signer)
| migrateAdmin (newAdmin : Signer)
| withdrawTreasury
    (admin : Signer)
    (amount : UInt64)
| registerValidator
    (validator : Signer)
    (stakeAmount : UInt64)
| computeTrustScore
    (verificationCount : UInt32)
    (creationTimestamp : Int64)
    (recentTimestamps : List.Vector Int64 10)
| unstakeValidator (validator : Signer)

/- The instructions of entros-verifier. -/
inductive VerifierInstruction where
| createChallenge
    (challenger : Signer)
    (nonce : Bytes 32)
| closeChallenge
    (challenger : Signer)
    (address : Address)
| verifyProof
    (verifier : Signer)
    (proofBytes : List UInt8)
    (publicInputs : List (Bytes 32))
    (nonce : Bytes 32)
| verifyProofCompact
    (verifier : Signer)
    (nonce : Bytes 32)
    (proofBytes : Bytes 256)
    (commitmentNew commitmentPrev : Bytes 32)
    (threshold minDistance : UInt16)
| verifyProofBound
    (verifier : Signer)
    (nonce : Bytes 32)
    (proof : Bytes 256)
    (commitmentNew commitmentPrev : Bytes 32)
    (threshold minDistance : UInt16)
    (validUntil : UInt64)
| closeVerificationResult
    (verifier : Signer)
    (address : Address)
| closeBoundVerificationResult
    (verifier : Signer)
    (nonce : Bytes 32)
    (address : Address)

/- The instructions of entros-anchor. -/
inductive AnchorInstruction where
| prepareProofRequest (authority : Signer)
| upgradeIdentityLayout (authority : Signer)
| mintAnchor
    (user : Signer)
    (remainingAccounts : List AccountMeta)
    (initialCommitment : Bytes 32)
| authorizeNewWallet (signer signerNew : Signer)
| migrateIdentity
    (user : Signer)
    (walletOld : Pubkey)
    (remainingAccounts : List AccountMeta)
| updateAnchor
    (authority : Signer)
    (verificationResult : Address)
    (newCommitment : Bytes 32)
    (receipt : Anchor.UpdateReceiptArgs)
| updateAnchorCompact
    (authority : Signer)
    (verificationResult : Address)
    (receipt : Anchor.UpdateReceiptArgs)
| updateAnchorBound
    (authority : Signer)
    (verificationResult : Address)
    (receipt : Anchor.UpdateReceiptArgs)
| resetIdentityState
    (authority : Signer)
    (remainingAccounts : List AccountMeta)
    (newCommitment : Bytes 32)
    (projectionVersion : UInt16)
| rebaselineAnchor
    (authority : Signer)
    (remainingAccounts : List AccountMeta)
    (newCommitment : Bytes 32)
    (projectionVersion : UInt16)
| setEncryptedBaseline
    (authority : Signer)
    (blob : Bytes 96)

/-
  What happens around the three programs: wallets use their
  identity tokens and lamports, anybody pays for the token
  account of a wallet or creates zero-filled accounts at keys
  of their own, and the loader rewrites the registry's
  programdata account.
-/
inductive OutsideInstruction where
| approve
    (owner : Signer)
    (delegate : Pubkey)
    (amount : ℕ)
| revoke
    (wallet : Pubkey)
    (authority : Signer)
| burn
    (wallet : Pubkey)
    (authority : Signer)
    (amount : ℕ)
| openTokenAccount
    (payer : Signer)
    (wallet : Pubkey)
| closeTokenAccount (owner : Signer)
| transfer
    (source : Signer)
    (destination : Address)
    (amount : ℕ)
| createAccount
    (payer : Signer)
    (key : Pubkey)
    (size : ℕ)
    (owner : ProgramId)
| writeProgramData (data : List UInt8)

/- Everything that can be executed on the ledger. -/
inductive Instruction where
| registry (instruction : RegistryInstruction)
| verifier (instruction : VerifierInstruction)
| anchor (instruction : AnchorInstruction)
| outside (instruction : OutsideInstruction)

/- One execution: the instruction, its transaction, the clock. -/
structure Call (H : Host) where
  now : Int64
  tx : Transaction H
  instruction : Instruction

end Entros

------------------------------------------------------------
-- Execution
------------------------------------------------------------

namespace Entros

open Foundations

def RegistryInstruction.execute
    (H : Host)
    (now : Int64)
    (w : World) :
    RegistryInstruction → Result World
| .initializeProtocol admin minStake challengeExpiry
    maxTrustScore baseTrustIncrement verificationFee
    validatorPubkey =>
    Registry.initializeProtocol H w admin minStake
      challengeExpiry maxTrustScore baseTrustIncrement
      verificationFee validatorPubkey
| .updateProtocolConfig admin verificationFee =>
    Registry.updateProtocolConfig H w admin verificationFee
| .setValidatorPubkey admin validatorPubkey =>
    Registry.setValidatorPubkey H w admin validatorPubkey
| .rotateValidatorPubkey admin newValidatorPubkey
    gracePeriodSecs =>
    Registry.rotateValidatorPubkey H w now admin
      newValidatorPubkey gracePeriodSecs
| .setProjectionVersions admin currentProjectionVersion
    minimumSupportedProjectionVersion =>
    Registry.setProjectionVersions H w admin
      currentProjectionVersion
      minimumSupportedProjectionVersion
| .proposeAuthority admin newAuthority =>
    Registry.proposeAuthority H w admin newAuthority
| .acceptAuthority pendingAuthority =>
    Registry.acceptAuthority H w pendingAuthority
| .migrateAdmin newAdmin =>
    Registry.migrateAdmin H w newAdmin
| .withdrawTreasury admin amount =>
    Registry.withdrawTreasury H w admin amount
| .registerValidator validator stakeAmount =>
    Registry.registerValidator H w now validator stakeAmount
| .computeTrustScore verificationCount creationTimestamp
    recentTimestamps => do
    let _ ← Registry.computeTrustScore H w now
      verificationCount creationTimestamp recentTimestamps
    return w
| .unstakeValidator validator =>
    Registry.unstakeValidator H w validator

def VerifierInstruction.execute
    (H : Host)
    (now : Int64)
    (w : World) :
    VerifierInstruction → Result World
| .createChallenge challenger nonce =>
    Verifier.createChallenge H w now challenger nonce
| .closeChallenge challenger address =>
    Verifier.closeChallenge H w challenger address
| .verifyProof verifier proofBytes publicInputs nonce =>
    Verifier.verifyProof H w now verifier proofBytes
      publicInputs nonce
| .verifyProofCompact verifier nonce proofBytes
    commitmentNew commitmentPrev threshold minDistance =>
    Verifier.verifyProofCompact H w now verifier nonce
      proofBytes commitmentNew commitmentPrev threshold
      minDistance
| .verifyProofBound verifier nonce proof commitmentNew
    commitmentPrev threshold minDistance validUntil =>
    Verifier.verifyProofBound H w now verifier nonce proof
      commitmentNew commitmentPrev threshold minDistance
      validUntil
| .closeVerificationResult verifier address =>
    Verifier.closeVerificationResult H w verifier address
| .closeBoundVerificationResult verifier nonce address =>
    Verifier.closeBoundVerificationResult H w verifier nonce
      address

def AnchorInstruction.execute
    {H : Host}
    (now : Int64)
    (tx : Transaction H)
    (w : World) :
    AnchorInstruction → Result World
| .prepareProofRequest authority =>
    Anchor.prepareProofRequest H w authority
| .upgradeIdentityLayout authority =>
    Anchor.upgradeIdentityLayout H w authority
| .mintAnchor user remainingAccounts initialCommitment =>
    Anchor.mintAnchor tx w now user remainingAccounts
      initialCommitment
| .authorizeNewWallet signer signerNew =>
    Anchor.authorizeNewWallet H w signer signerNew
| .migrateIdentity user walletOld remainingAccounts =>
    Anchor.migrateIdentity H w user walletOld
      remainingAccounts
| .updateAnchor authority verificationResult newCommitment
    receipt =>
    Anchor.updateAnchor tx w now authority
      verificationResult newCommitment receipt
| .updateAnchorCompact authority verificationResult
    receipt =>
    Anchor.updateAnchorCompact tx w now authority
      verificationResult receipt
| .updateAnchorBound authority verificationResult receipt =>
    Anchor.updateAnchorBound tx w now authority
      verificationResult receipt
| .resetIdentityState authority remainingAccounts
    newCommitment projectionVersion =>
    Anchor.resetIdentityState tx w now authority
      remainingAccounts newCommitment projectionVersion
| .rebaselineAnchor authority remainingAccounts
    newCommitment projectionVersion =>
    Anchor.rebaselineAnchor tx w now authority
      remainingAccounts newCommitment projectionVersion
| .setEncryptedBaseline authority blob =>
    Anchor.setEncryptedBaseline H w authority blob

def OutsideInstruction.execute
    (H : Host)
    (w : World) :
    OutsideInstruction → Result World
| .approve owner delegate amount =>
    w.approve owner delegate amount
| .revoke wallet authority => w.revoke wallet authority
| .burn wallet authority amount =>
    w.burn wallet authority amount
| .openTokenAccount payer wallet => do
    require (w.mints wallet ≠ none)
      (.runtime .tokenAccountMissing)
    w.createTokenAccount H payer wallet true
| .closeTokenAccount owner => w.closeTokenAccount H owner
| .transfer source destination amount =>
    w.transfer (walletAddress source) destination amount
| .createAccount payer key size owner =>
    w.createAccount H (walletAddress payer) (.key key) size
      owner
| .writeProgramData data =>
    .ok { w with programData := data }

/- Execute one call. -/
def execute
    {H : Host}
    (w : World)
    (call : Call H) : Result World :=
  match call.instruction with
  | .registry instruction =>
      instruction.execute H call.now w
  | .verifier instruction =>
      instruction.execute H call.now w
  | .anchor instruction =>
      instruction.execute call.now call.tx w
  | .outside instruction => instruction.execute H w

/- A preview of the score only computes. -/
theorem computeTrustScore_unchanged
    {H : Host}
    {w w' : World}
    {now creationTimestamp : Int64}
    {verificationCount : UInt32}
    {recentTimestamps : List.Vector Int64 10}
    (hExecute :
      (RegistryInstruction.computeTrustScore
          verificationCount creationTimestamp
          recentTimestamps).execute H now w = .ok w') :
    w' = w := by
  rcases bind_eq_ok.mp hExecute with ⟨_, _, hSame⟩
  exact (Except.ok.inj hSame).symm

end Entros

------------------------------------------------------------
-- Runs
------------------------------------------------------------

namespace Entros

open Foundations

/- A call that succeeds; a failed one leaves no trace. -/
def Step
    (H : Host)
    (w : World)
    (call : Call H)
    (w' : World) : Prop :=
  execute w call = .ok w'

/- One successful call of a run, with its two states. -/
abbrev Event (H : Host) := Transition (Step H)

namespace Event

variable {H : Host}

def now (event : Event H) : Int64 := event.label.now

def instruction (event : Event H) : Instruction :=
  event.label.instruction

end Event

/- The clock never goes back during a history. -/
def Clocked
    {H : Host}
    (history : List (Event H)) : Prop :=
  history.Pairwise fun earlier later =>
    earlier.now ≤ later.now

end Entros
