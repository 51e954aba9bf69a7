import Entros.Chain.Tracking
import Entros.System.Execution

/-
  The account contexts of the instructions, each account with
  its use: without `mut`, with `mut`, or with `mut` and only
  paid into.  Accounts of programs and of sysvars other than
  the instructions sysvar hold no state of the ledger and are
  left out.

  Key definitions include:
    * `RegistryInstruction.locks`
    * `VerifierInstruction.locks`
    * `AnchorInstruction.locks`
    * `OutsideInstruction.locks`
    * `Instruction.locks`
    * `Instruction.zone`
-/

------------------------------------------------------------
-- Registry
------------------------------------------------------------

namespace Entros

open Foundations

namespace Registry

/- The accounts `InitializeProtocol` and its like declare. -/
def configContext
    (H : Host)
    (admin : Signer) : List Lock :=
  [.mutable (walletAddress admin),
    .mutable (configAddress H)]

/- `WithdrawTreasury`. -/
def withdrawTreasuryContext
    (H : Host)
    (admin : Signer) : List Lock :=
  [.mutable (walletAddress admin),
    .shared (configAddress H),
    .mutable (H.findProgramAddress .protocolTreasury)]

/- `MigrateAdmin`. -/
def migrateAdminContext
    (H : Host)
    (newAdmin : Signer) : List Lock :=
  [.mutable (walletAddress newAdmin),
    .mutable (configAddress H),
    { location := .programData
      access := .shared }]

/- `RegisterValidator`. -/
def registerValidatorContext
    (H : Host)
    (validator : Signer) : List Lock :=
  [.mutable (walletAddress validator),
    .shared (configAddress H),
    .mutable
      (H.findProgramAddress (.validator validator.key)),
    .credited (H.findProgramAddress .vault)]

/- `ComputeTrustScore`, which nobody signs. -/
def computeTrustScoreContext (H : Host) : List Lock :=
  [.shared (configAddress H)]

/- `UnstakeValidator`. -/
def unstakeValidatorContext
    (H : Host)
    (validator : Signer) : List Lock :=
  [.mutable (walletAddress validator),
    .mutable
      (H.findProgramAddress (.validator validator.key)),
    .mutable (H.findProgramAddress .vault)]

end Registry

open Registry

def RegistryInstruction.locks (H : Host) :
    RegistryInstruction → List Lock
| .initializeProtocol admin _ _ _ _ _ _ =>
    configContext H admin
| .updateProtocolConfig admin _ => configContext H admin
| .setValidatorPubkey admin _ => configContext H admin
| .rotateValidatorPubkey admin _ _ => configContext H admin
| .setProjectionVersions admin _ _ => configContext H admin
| .proposeAuthority admin _ => configContext H admin
| .acceptAuthority pendingAuthority =>
    configContext H pendingAuthority
| .migrateAdmin newAdmin => migrateAdminContext H newAdmin
| .withdrawTreasury admin _ =>
    withdrawTreasuryContext H admin
| .registerValidator validator _ =>
    registerValidatorContext H validator
| .computeTrustScore _ _ _ => computeTrustScoreContext H
| .unstakeValidator validator =>
    unstakeValidatorContext H validator

end Entros

------------------------------------------------------------
-- Verifier
------------------------------------------------------------

namespace Entros

open Foundations

namespace Verifier

/-
  The accounts of the instructions that create or close one
  account of their signer.
-/
def ownContext
    (signer : Signer)
    (address : Address) : List Lock :=
  [.mutable (walletAddress signer), .mutable address]

/- `VerifyProofBound`. -/
def verifyProofBoundContext
    (H : Host)
    (verifier : Signer)
    (nonce : Bytes 32) : List Lock :=
  [.mutable (walletAddress verifier),
    .mutable (boundResultAddress H verifier.key nonce),
    .shared
      (H.findProgramAddress (.identity verifier.key)),
    .shared
      (H.findProgramAddress
        (.proofRequestState verifier.key))]

end Verifier

open Verifier

def VerifierInstruction.locks (H : Host) :
    VerifierInstruction → List Lock
| .createChallenge challenger nonce =>
    ownContext challenger
      (H.findProgramAddress (.challenge challenger.key nonce))
| .closeChallenge challenger address =>
    ownContext challenger address
| .verifyProof verifier _ _ nonce =>
    ownContext verifier (resultAddress H verifier.key nonce)
| .verifyProofCompact verifier nonce _ _ _ _ _ =>
    ownContext verifier (resultAddress H verifier.key nonce)
| .verifyProofBound verifier nonce _ _ _ _ _ _ =>
    verifyProofBoundContext H verifier nonce
| .closeVerificationResult verifier address =>
    ownContext verifier address
| .closeBoundVerificationResult verifier _ address =>
    ownContext verifier address

end Entros

------------------------------------------------------------
-- Anchor
------------------------------------------------------------

namespace Entros

open Foundations

namespace Anchor

/- The configuration and the treasury of the registry. -/
def feeContext (H : Host) : List Lock :=
  [.shared (H.findProgramAddress .protocolConfig),
    .credited (H.findProgramAddress .protocolTreasury)]

/- `PrepareProofRequest`. -/
def prepareProofRequestContext
    (H : Host)
    (authority : Signer) : List Lock :=
  [.mutable (walletAddress authority),
    .mutable (requestAddress H authority.key)]

/- `UpgradeIdentityLayout`. -/
def upgradeIdentityLayoutContext
    (H : Host)
    (authority : Signer) : List Lock :=
  [.mutable (walletAddress authority),
    .mutable (identityAddress H authority.key)]

/- `MintAnchor`. -/
def mintAnchorContext
    (H : Host)
    (user : Signer) : List Lock :=
  [.mutable (walletAddress user),
    .mutable (identityAddress H user.key),
    .mutable (H.findProgramAddress (.mint user.key)),
    .shared (H.findProgramAddress .mintAuthority),
    .mutable
      (H.findProgramAddress (.associatedToken user.key)),
    .shared .instructionsSysvar] ++ feeContext H

/- `AuthorizeNewWallet`. -/
def authorizeNewWalletContext
    (H : Host)
    (signer signerNew : Signer) : List Lock :=
  [.mutable (walletAddress signer),
    .mutable (identityAddress H signer.key),
    .mutable (walletAddress signerNew),
    .mutable (H.findProgramAddress (.mint signer.key)),
    .mutable
      (H.findProgramAddress (.associatedToken signer.key))]

/- `MigrateIdentity`. -/
def migrateIdentityContext
    (H : Host)
    (user : Signer)
    (walletOld : Pubkey) : List Lock :=
  [.mutable (walletAddress user),
    .mutable (identityAddress H user.key),
    .mutable (H.findProgramAddress (.mint user.key)),
    .shared (H.findProgramAddress .mintAuthority),
    .mutable
      (H.findProgramAddress (.associatedToken user.key)),
    .credited (.key walletOld),
    .mutable (identityAddress H walletOld),
    .mutable (H.findProgramAddress (.mint walletOld)),
    .mutable
      (H.findProgramAddress
        (.associatedToken walletOld))] ++ feeContext H

/- `UpdateAnchor` and `UpdateAnchorCompact`. -/
def updateAnchorContext
    (H : Host)
    (authority : Signer)
    (verificationResult : Address) : List Lock :=
  [.mutable (walletAddress authority),
    .mutable (identityAddress H authority.key),
    .mutable verificationResult,
    .shared .instructionsSysvar] ++ feeContext H

/- `UpdateAnchorBound`. -/
def updateAnchorBoundContext
    (H : Host)
    (authority : Signer)
    (verificationResult : Address) : List Lock :=
  .mutable (requestAddress H authority.key) ::
    updateAnchorContext H authority verificationResult

/- `ResetIdentityState`; the sysvar is a remaining account. -/
def resetIdentityStateContext
    (H : Host)
    (authority : Signer) : List Lock :=
  [.mutable (walletAddress authority),
    .mutable (identityAddress H authority.key)] ++
    feeContext H

/- `RebaselineAnchor`. -/
def rebaselineAnchorContext
    (H : Host)
    (authority : Signer) : List Lock :=
  .shared .instructionsSysvar ::
    resetIdentityStateContext H authority

/- `SetEncryptedBaseline`. -/
def setEncryptedBaselineContext
    (H : Host)
    (authority : Signer) : List Lock :=
  [.mutable (walletAddress authority),
    .shared (identityAddress H authority.key),
    .mutable (baselineAddress H authority.key)]

end Anchor

open Anchor

/- The context, and the accounts passed beyond it. -/
def AnchorInstruction.locks (H : Host) :
    AnchorInstruction → List Lock
| .prepareProofRequest authority =>
    prepareProofRequestContext H authority
| .upgradeIdentityLayout authority =>
    upgradeIdentityLayoutContext H authority
| .mintAnchor user remainingAccounts _ =>
    mintAnchorContext H user ++
      remainingAccounts.map .ofMeta
| .authorizeNewWallet signer signerNew =>
    authorizeNewWalletContext H signer signerNew
| .migrateIdentity user walletOld remainingAccounts =>
    migrateIdentityContext H user walletOld ++
      remainingAccounts.map .ofMeta
| .updateAnchor authority verificationResult _ _ =>
    updateAnchorContext H authority verificationResult
| .updateAnchorCompact authority verificationResult _ =>
    updateAnchorContext H authority verificationResult
| .updateAnchorBound authority verificationResult _ =>
    updateAnchorBoundContext H authority verificationResult
| .resetIdentityState authority remainingAccounts _ _ =>
    resetIdentityStateContext H authority ++
      remainingAccounts.map .ofMeta
| .rebaselineAnchor authority remainingAccounts _ _ =>
    rebaselineAnchorContext H authority ++
      remainingAccounts.map .ofMeta
| .setEncryptedBaseline authority _ =>
    setEncryptedBaselineContext H authority

end Entros

------------------------------------------------------------
-- All Instructions
------------------------------------------------------------

namespace Entros

open Foundations

/- What the other programs are given by the wallets. -/
def OutsideInstruction.locks (H : Host) :
    OutsideInstruction → List Lock
| .approve owner _ _ =>
    [.mutable
      (H.findProgramAddress (.associatedToken owner.key))]
| .revoke wallet _ =>
    [.mutable
      (H.findProgramAddress (.associatedToken wallet))]
| .burn wallet _ _ =>
    [.mutable (H.findProgramAddress (.mint wallet)),
      .mutable
        (H.findProgramAddress (.associatedToken wallet))]
| .openTokenAccount payer wallet =>
    [.mutable (walletAddress payer),
      .shared (H.findProgramAddress (.mint wallet)),
      .mutable
        (H.findProgramAddress (.associatedToken wallet))]
| .closeTokenAccount owner =>
    [.mutable (walletAddress owner),
      .mutable
        (H.findProgramAddress (.associatedToken owner.key))]
| .transfer source destination _ =>
    [.mutable (walletAddress source), .credited destination]
| .createAccount payer key _ _ =>
    [.mutable (walletAddress payer), .mutable (.key key)]
| .writeProgramData _ =>
    [{ location := .programData
       access := .mutable }]

def Instruction.locks (H : Host) : Instruction → List Lock
| .registry instruction => instruction.locks H
| .verifier instruction => instruction.locks H
| .anchor instruction => instruction.locks H
| .outside instruction => instruction.locks H

/- The cells an instruction may read, write and pay into. -/
def Instruction.zone
    (H : Host)
    (instruction : Instruction) : Zone Resource :=
  lockZone H (instruction.locks H)

end Entros
