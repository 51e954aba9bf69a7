import Entros.System.Contexts

/-
  The instructions of entros-registry stay inside their
  contexts: what they do on a ledger they also do on any copy
  that agrees on the declared accounts.

  Key theorems include:
    * `ensureProtocolConfigLen_tracks`
    * `rewriteConfig_tracks`
    * `migrateAdmin_tracks`
    * `registerValidator_tracks`
    * `registry_tracks`
-/

------------------------------------------------------------
-- Configuration and Authority
------------------------------------------------------------

namespace Entros

open Foundations

namespace Registry

variable {H : Host} {Z : Zone Resource} {base w : World}
variable {admin : Signer}
variable (hFaithful : Z.Faithful base w)

include hFaithful

theorem loadProtocolConfig_copy
    (hConfig : .account (configAddress H) ∈ Z.reads) :
    loadProtocolConfig H (Z.copy base w) =
      loadProtocolConfig H w := by
  unfold loadProtocolConfig
  rw [loadAccount_copy hFaithful hConfig]

theorem computeTrustScore_copy
    (hConfig : .account (configAddress H) ∈ Z.reads)
    (now : Int64)
    (verificationCount : UInt32)
    (creationTimestamp : Int64)
    (recentTimestamps : List.Vector Int64 10) :
    computeTrustScore H (Z.copy base w) now verificationCount
        creationTimestamp recentTimestamps =
      computeTrustScore H w now verificationCount
        creationTimestamp recentTimestamps := by
  unfold computeTrustScore
  rw [loadProtocolConfig_copy hFaithful hConfig]

theorem checkConfigOwner_copy
    (hConfig : Zone.Opens Z (configAddress H)) :
    checkConfigOwner H (Z.copy base w) =
      checkConfigOwner H w := by
  unfold checkConfigOwner
  rw [hConfig.account hFaithful]

variable (hAdmin : Zone.Opens Z (walletAddress admin))
variable (hConfig : Zone.Opens Z (configAddress H))

include hAdmin hConfig

theorem ensureProtocolConfigLen_tracks :
    Tracks Z base (ensureProtocolConfigLen H w admin)
      (ensureProtocolConfigLen H (Z.copy base w)
        admin) := by
  unfold ensureProtocolConfigLen
  rw [hConfig.account hFaithful]
  apply Mirrors.ite Iff.rfl
  · intro _
    exact growAccount_tracks hFaithful hAdmin hConfig
  · intro _
    exact .ok hFaithful

/-
  The end of the raw-byte instructions: grow the account, and
  rewrite the bytes it then has.
-/
theorem rewriteConfig_tracks
    (rewrite : List UInt8 → Result (List UInt8)) :
    Tracks Z base
      (do
        let grown ← ensureProtocolConfigLen H w admin
        let data ← rewrite
          (grown.accounts (configAddress H)).data
        return grown.setData (configAddress H) data)
      (do
        let grown ← ensureProtocolConfigLen H
          (Z.copy base w) admin
        let data ← rewrite
          (grown.accounts (configAddress H)).data
        return grown.setData (configAddress H) data) := by
  apply Mirrors.bind
    (ensureProtocolConfigLen_tracks hFaithful hAdmin hConfig)
  intro grown _ hGrown
  rw [hConfig.account hGrown]
  apply Mirrors.value rfl
  intro data _
  exact setData_tracks hGrown data hConfig

theorem initializeProtocol_tracks
    (minStake : UInt64)
    (challengeExpiry : Int64)
    (maxTrustScore baseTrustIncrement : UInt16)
    (verificationFee : UInt64)
    (validatorPubkey : Pubkey) :
    Tracks Z base
      (initializeProtocol H w admin minStake challengeExpiry
        maxTrustScore baseTrustIncrement verificationFee
        validatorPubkey)
      (initializeProtocol H (Z.copy base w) admin minStake
        challengeExpiry maxTrustScore baseTrustIncrement
        verificationFee validatorPubkey) := by
  unfold initializeProtocol
  apply Mirrors.bind
    (createAccount_tracks hFaithful hAdmin hConfig)
  intro created _ hCreated
  apply Mirrors.value rfl
  intro _ _
  exact saveAccount_tracks hCreated _ hConfig

theorem updateProtocolConfig_tracks
    (verificationFee : UInt64) :
    Tracks Z base
      (updateProtocolConfig H w admin verificationFee)
      (updateProtocolConfig H (Z.copy base w) admin
        verificationFee) := by
  unfold updateProtocolConfig
  apply Mirrors.value
    (loadProtocolConfig_copy hFaithful
      (Z.writes_subset hConfig))
  intro config _
  apply Mirrors.bind
    (growAccount_tracks hFaithful hAdmin hConfig)
  intro grown _ hGrown
  apply Mirrors.value rfl
  intro _ _
  exact saveAccount_tracks hGrown _ hConfig

theorem setValidatorPubkey_tracks
    (validatorPubkey : Pubkey) :
    Tracks Z base
      (setValidatorPubkey H w admin validatorPubkey)
      (setValidatorPubkey H (Z.copy base w) admin
        validatorPubkey) := by
  unfold setValidatorPubkey
  rw [hConfig.account hFaithful]
  apply Mirrors.value rfl
  intro _ _
  apply Mirrors.value rfl
  intro _ _
  exact rewriteConfig_tracks hFaithful hAdmin hConfig
    fun data =>
      writeValidatorKeys data validatorPubkey Pubkey.default 0

theorem rotateValidatorPubkey_tracks
    (now : Int64)
    (newValidatorPubkey : Pubkey)
    (gracePeriodSecs : Int64) :
    Tracks Z base
      (rotateValidatorPubkey H w now admin
        newValidatorPubkey gracePeriodSecs)
      (rotateValidatorPubkey H (Z.copy base w) now admin
        newValidatorPubkey gracePeriodSecs) := by
  unfold rotateValidatorPubkey
  rw [hConfig.account hFaithful]
  apply Mirrors.value rfl
  intro _ _
  apply Mirrors.value rfl
  intro _ _
  apply Mirrors.value
    (checkConfigOwner_copy hFaithful hConfig)
  intro _ _
  apply Mirrors.value rfl
  intro _ _
  apply Mirrors.value rfl
  intro old _
  apply Mirrors.bind
    (ensureProtocolConfigLen_tracks hFaithful hAdmin hConfig)
  intro grown _ hGrown
  apply Mirrors.value rfl
  intro secondary _
  rw [hConfig.account hGrown]
  apply Mirrors.value rfl
  intro data _
  exact setData_tracks hGrown data hConfig

theorem setProjectionVersions_tracks
    (current minimum : UInt16) :
    Tracks Z base
      (setProjectionVersions H w admin current minimum)
      (setProjectionVersions H (Z.copy base w) admin current
        minimum) := by
  unfold setProjectionVersions
  rw [hConfig.account hFaithful]
  apply Mirrors.value
    (checkConfigOwner_copy hFaithful hConfig)
  intro _ _
  iterate 3
    apply Mirrors.value rfl
    intro _ _
  apply Mirrors.bind
    (ensureProtocolConfigLen_tracks hFaithful hAdmin hConfig)
  intro grown _ hGrown
  rw [hConfig.account hGrown]
  apply Mirrors.value rfl
  intro _ _
  apply Mirrors.value rfl
  intro data _
  exact setData_tracks hGrown data hConfig

theorem proposeAuthority_tracks (newAuthority : Pubkey) :
    Tracks Z base (proposeAuthority H w admin newAuthority)
      (proposeAuthority H (Z.copy base w) admin
        newAuthority) := by
  unfold proposeAuthority
  rw [hConfig.account hFaithful]
  apply Mirrors.value rfl
  intro _ _
  apply Mirrors.value
    (checkConfigOwner_copy hFaithful hConfig)
  intro _ _
  apply Mirrors.value rfl
  intro _ _
  exact rewriteConfig_tracks hFaithful hAdmin hConfig
    fun data =>
      writeField data ProtocolConfig.offsetPendingAuthority
        newAuthority

omit hAdmin in
theorem acceptAuthority_tracks :
    Tracks Z base (acceptAuthority H w admin)
      (acceptAuthority H (Z.copy base w) admin) := by
  unfold acceptAuthority
  dsimp only
  rw [hConfig.account hFaithful]
  apply Mirrors.value
    (checkConfigOwner_copy hFaithful hConfig)
  intro _ _
  iterate 5
    apply Mirrors.value rfl
    intro _ _
  apply Mirrors.value rfl
  intro data _
  exact setData_tracks hFaithful data hConfig

theorem migrateAdmin_tracks
    (hProgram : .programData ∈ Z.reads) :
    Tracks Z base (migrateAdmin H w admin)
      (migrateAdmin H (Z.copy base w) admin) := by
  unfold migrateAdmin
  dsimp only
  rw [Faithful.programData hFaithful hProgram,
    hConfig.account hFaithful]
  iterate 3
    apply Mirrors.value rfl
    intro _ _
  apply Mirrors.value rfl
  intro data _
  rcases Tracks.copy_eq
    (setData_tracks hFaithful data hConfig) with
    ⟨hCopy, hWritten⟩
  rw [hCopy]
  exact topUp_tracks hWritten hAdmin hConfig

end Registry

end Entros

------------------------------------------------------------
-- Treasury and Validators
------------------------------------------------------------

namespace Entros

open Foundations

namespace Registry

variable {H : Host} {Z : Zone Resource} {base w : World}
variable {signer : Signer}
variable (hFaithful : Z.Faithful base w)
variable (hSigner : Zone.Opens Z (walletAddress signer))

include hFaithful hSigner

theorem withdrawTreasury_tracks
    (hConfig : .account (configAddress H) ∈ Z.reads)
    (hTreasury :
      Zone.Opens Z (H.findProgramAddress .protocolTreasury))
    (amount : UInt64) :
    Tracks Z base (withdrawTreasury H w signer amount)
      (withdrawTreasury H (Z.copy base w) signer
        amount) := by
  unfold withdrawTreasury
  dsimp only
  rw [hTreasury.lamports hFaithful]
  apply Mirrors.value
    (loadProtocolConfig_copy hFaithful hConfig)
  intro config _
  apply Mirrors.value rfl
  intro _ _
  apply Mirrors.value rfl
  intro _ _
  exact transfer_tracks hFaithful hTreasury hSigner.accepts

theorem registerValidator_tracks
    (hConfig : .account (configAddress H) ∈ Z.reads)
    (hState :
      Zone.Opens Z
        (H.findProgramAddress (.validator signer.key)))
    (hVault : Zone.Accepts Z (H.findProgramAddress .vault))
    (now : Int64)
    (stakeAmount : UInt64) :
    Tracks Z base
      (registerValidator H w now signer stakeAmount)
      (registerValidator H (Z.copy base w) now signer
        stakeAmount) := by
  unfold registerValidator
  apply Mirrors.value
    (loadProtocolConfig_copy hFaithful hConfig)
  intro config _
  apply Mirrors.bind
    (createAccount_tracks hFaithful hSigner hState)
  intro created _ hCreated
  apply Mirrors.value rfl
  intro _ _
  apply Mirrors.bind
    (transfer_tracks hCreated hSigner hVault)
  intro staked _ hStaked
  exact saveAccount_tracks hStaked _ hState

theorem unstakeValidator_tracks
    (hState :
      Zone.Opens Z
        (H.findProgramAddress (.validator signer.key)))
    (hVault : Zone.Opens Z (H.findProgramAddress .vault)) :
    Tracks Z base (unstakeValidator H w signer)
      (unstakeValidator H (Z.copy base w) signer) := by
  unfold unstakeValidator
  apply Mirrors.value
    (loadAccount_copy hFaithful (Z.writes_subset hState))
  intro state _
  apply Mirrors.value rfl
  intro _ _
  apply Mirrors.value rfl
  intro _ _
  apply Mirrors.bind
    (transfer_tracks hFaithful hVault hSigner.accepts)
  intro paid _ hPaid
  exact closeAccount_tracks hPaid hState hSigner.accepts

end Registry

open Registry

/- Every instruction of the registry tracks its context. -/
theorem registry_tracks
    {H : Host}
    {base w : World}
    (now : Int64)
    (instruction : RegistryInstruction)
    (hFaithful :
      (lockZone H (instruction.locks H)).Faithful base w) :
    Tracks (lockZone H (instruction.locks H)) base
      (instruction.execute H now w)
      (instruction.execute H now
        ((lockZone H (instruction.locks H)).copy base
          w)) := by
  have hAdmin {admin : Signer} :
      Lock.mutable (walletAddress admin) ∈
        configContext H admin := .head _
  have hConfig {admin : Signer} :
      Lock.mutable (configAddress H) ∈
        configContext H admin := .tail _ (.head _)
  cases instruction with
  | initializeProtocol =>
      exact initializeProtocol_tracks hFaithful
        (opens_of_mem hAdmin) (opens_of_mem hConfig) ..
  | updateProtocolConfig =>
      exact updateProtocolConfig_tracks hFaithful
        (opens_of_mem hAdmin) (opens_of_mem hConfig) _
  | setValidatorPubkey =>
      exact setValidatorPubkey_tracks hFaithful
        (opens_of_mem hAdmin) (opens_of_mem hConfig) _
  | rotateValidatorPubkey =>
      exact rotateValidatorPubkey_tracks hFaithful
        (opens_of_mem hAdmin) (opens_of_mem hConfig) ..
  | setProjectionVersions =>
      exact setProjectionVersions_tracks hFaithful
        (opens_of_mem hAdmin) (opens_of_mem hConfig) ..
  | proposeAuthority =>
      exact proposeAuthority_tracks hFaithful
        (opens_of_mem hAdmin) (opens_of_mem hConfig) _
  | acceptAuthority =>
      exact acceptAuthority_tracks hFaithful
        (opens_of_mem hConfig)
  | migrateAdmin =>
      exact migrateAdmin_tracks hFaithful
        (opens_of_mem (.head _))
        (opens_of_mem (.tail _ (.head _)))
        ⟨_, .tail _ (.tail _ (.head _)), Access.noConfusion, rfl⟩
  | withdrawTreasury =>
      exact withdrawTreasury_tracks hFaithful
        (opens_of_mem (.head _))
        (reads_of_mem (.tail _ (.head _)))
        (opens_of_mem (.tail _ (.tail _ (.head _)))) _
  | registerValidator =>
      exact registerValidator_tracks hFaithful
        (opens_of_mem (.head _))
        (reads_of_mem (.tail _ (.head _)))
        (opens_of_mem (.tail _ (.tail _ (.head _))))
        (accepts_of_mem
          (.tail _ (.tail _ (.tail _ (.head _))))) ..
  | computeTrustScore =>
      apply Mirrors.value
        (computeTrustScore_copy hFaithful
          (reads_of_mem (.head _)) ..)
      intro _ _
      exact .ok hFaithful
  | unstakeValidator =>
      exact unstakeValidator_tracks hFaithful
        (opens_of_mem (.head _))
        (opens_of_mem (.tail _ (.head _)))
        (opens_of_mem (.tail _ (.tail _ (.head _))))

end Entros
