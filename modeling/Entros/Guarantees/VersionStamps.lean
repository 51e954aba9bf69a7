import Entros.Anchor.Bins
import Entros.Foundations.Provenance
import Entros.Foundations.Stamps
import Entros.System.Counters
import Entros.System.Replay
import Entros.System.Results
import Entros.System.UpdateFaults
import Entros.Guarantees.RequestCounters

/-
  In the request-bound build the counter is a version stamp:
  as long as a stored result carries the counter of its
  wallet, the identity is the one that was verified.

  Key definitions include:
    * `RequestView`
    * `World.versionAt`
    * `World.viewAt`
    * `HashedFor`
    * `VersionStamped`

  Key theorems include:
    * `LedgerStep.view_same`
    * `event_versioned`
    * `stamped_run`
    * `current_of_stamp`
    * `versions_stamped`
-/

------------------------------------------------------------
-- Views
------------------------------------------------------------

namespace Entros

open Foundations
open Anchor

variable {H : Host} {config : Account} {call : Call H}
variable {l l' : Ledger} {w w' : World}
variable {wallet : Pubkey}

/- What a request says about an identity. -/
@[ext] structure RequestView where
  mint : Pubkey
  projectionVersion : UInt16
  commitment : Bytes 32

def IdentityState.requestView
    (identity : IdentityState) : RequestView where
  mint := identity.mint
  projectionVersion := identity.projectionVersion
  commitment := identity.currentCommitment

/- The view of a wallet's identity, and its version. -/
def World.viewAt
    (H : Host)
    (w : World)
    (wallet : Pubkey) : Option RequestView :=
  ((w.ledger H).identity wallet).map
    IdentityState.requestView

def World.versionAt
    (H : Host)
    (w : World)
    (wallet : Pubkey) : ℕ :=
  (((w.ledger H).counter wallet).getD 0).toNat

/- The digest depends on the identity through its view. -/
theorem recomputedDigest_congr
    {identity identity' : IdentityState}
    (hView : identity.requestView = identity'.requestView)
    (wallet : Pubkey)
    (counter : UInt64)
    (result : BoundVerificationResult) :
    recomputedDigest H wallet identity counter result =
      recomputedDigest H wallet identity' counter
        result := by
  have hMint : identity.mint = identity'.mint :=
    congrArg RequestView.mint hView
  have hProjection :
      identity.projectionVersion =
        identity'.projectionVersion :=
    congrArg RequestView.projectionVersion hView
  rw [recomputedDigest, recomputedDigest, boundAction,
    boundAction, hMint, hProjection]

/- Writing an identity that looks the same. -/
theorem Ledger.setIdentity_view
    {l : Ledger}
    {own : Pubkey}
    {identity updated : IdentityState}
    (hIdentity : l.identity own = some identity)
    (hView : updated.requestView = identity.requestView)
    (wallet : Pubkey) :
    ((l.setIdentity own (some updated)).identity wallet).map
        IdentityState.requestView =
      (l.identity wallet).map IdentityState.requestView := by
  rw [setIdentity_identity]
  by_cases hWallet : wallet = own
  · rw [if_pos hWallet, hWallet, hIdentity, Option.map_some,
      Option.map_some, hView]
  · rw [if_neg hWallet]

/- Only lifecycle steps of a wallet change its view. -/
theorem LedgerStep.view_same
    (hBuild : H.requestBound = true)
    (hStep : LedgerStep H config call l l')
    (hKeeps : wallet ∉ call.instruction.advances) :
    (l'.identity wallet).map IdentityState.requestView =
      (l.identity wallet).map IdentityState.requestView := by
  have hOther
      {own : Pubkey}
      (hOwn : own ∈ call.instruction.advances) :
      wallet ≠ own := by
    intro hSame
    exact hKeeps (hSame ▸ hOwn)
  cases hStep with
  | mint user _ _ _ _ hInstruction =>
      have hUser : wallet ≠ user.key :=
        hOther (by rw [hInstruction]; exact .head _)
      rw [Ledger.setIdentity_identity, if_neg hUser,
        Ledger.advanceIf_identity]
  | authorize signer _ _ _ hIdentity =>
      refine Ledger.setIdentity_view hIdentity ?_ wallet
      rfl
  | migrate user walletOld _ _ hInstruction =>
      have hOld : wallet ≠ walletOld :=
        hOther (by rw [hInstruction]; exact .head _)
      have hNew : wallet ≠ user.key :=
        hOther (by
          rw [hInstruction]
          exact .tail _ (.head _))
      rw [Ledger.setIdentity_identity, if_neg hOld,
        Ledger.setIdentity_identity, if_neg hNew,
        Ledger.advanceIf_identity,
        Ledger.advanceIf_identity]
  | update _ _ _ _ _ _ _ _ hDefault =>
      rw [hBuild] at hDefault
      cases hDefault
  | updateBound request _ _ _ _ _ _ _ hInstruction =>
      have hOwn : wallet ≠ request.authority.key :=
        hOther (by rw [hInstruction]; exact .head _)
      rw [Ledger.setIdentity_identity, if_neg hOwn,
        Ledger.closeAt_identity, Ledger.advance_identity]
  | reset authority _ _ _ _ _ _ hInstruction =>
      have hOwn : wallet ≠ authority.key :=
        hOther (by rw [hInstruction]; exact .head _)
      rw [Ledger.setIdentity_identity, if_neg hOwn,
        Ledger.advanceIf_identity]
  | rebaseline authority _ _ _ _ _ _ hInstruction =>
      have hOwn : wallet ≠ authority.key :=
        hOther (by rw [hInstruction]; exact .head _)
      rw [Ledger.setIdentity_identity, if_neg hOwn,
        Ledger.advanceIf_identity]
  | prepare => rfl
  | verify => rfl
  | verifyBound => rfl
  | close => rfl
  | idle => rfl

/- Every event of a run keeps views under their versions. -/
theorem event_versioned
    {history : List (Event H)}
    {event : Event H}
    (hBuild : H.requestBound = true)
    (hFresh : w.Fresh)
    (hRun : Run (Step H) w history w')
    (hEvent : event ∈ history) :
    Versioned (World.versionAt H) (World.viewAt H)
      event where
  le := by
    intro owner
    have hStep := event_step hFresh hRun hEvent
    have hCount := (hStep.counterMove hBuild owner).toNat_getD
    unfold World.versionAt
    rw [hCount]
    exact Nat.le_add_right _ _
  same := by
    intro owner hVersion
    have hStep := event_step hFresh hRun hEvent
    have hCount := (hStep.counterMove hBuild owner).toNat_getD
    refine hStep.view_same hBuild ?_
    intro hAdvances
    rw [if_pos hAdvances] at hCount
    unfold World.versionAt at hVersion
    omega

end Entros

------------------------------------------------------------
-- Stored Results
------------------------------------------------------------

namespace Entros

open Foundations
open Anchor

variable {H : Host} {w w' : World}
variable {history : List (Event H)}

/- The bound results of a state. -/
def boundResults
    (H : Host)
    (w : World) :
    ResultKey → Option BoundVerificationResult :=
  (w.ledger H).bound

/-
  The stored result comes from a verification in this history
  that has read, and hashed, the given identity.
-/
def HashedFor
    (history : List (Event H))
    (key : ResultKey)
    (result : BoundVerificationResult)
    (hashed : IdentityState) : Prop :=
  ∃ check : Event H,
    check ∈ history ∧
      ∃ proof counter digest,
        RequestChecked H check.label (check.source.ledger H)
            proof hashed counter digest ∧
          key = proof.key H ∧
            result =
              proof.record H check.now counter digest

/-
  The identity is live and still the one for which the result
  was verified.
-/
structure StillCurrent
    (history : List (Event H))
    (w' : World)
    (key : ResultKey)
    (result : BoundVerificationResult)
    (identity : IdentityState) : Prop where
  live :
    (w'.ledger H).identity result.wallet = some identity
  commitment :
    identity.currentCommitment = result.commitmentPrev
  hashed :
    ∃ hashed,
      HashedFor history key result hashed ∧
        identity.mint = hashed.mint ∧
          identity.projectionVersion =
            hashed.projectionVersion
  digest :
    recomputedDigest H result.wallet identity result.counter
      result = some result.requestDigest

/- What a stored result was verified for. -/
theorem hashedFor_run
    {key : ResultKey}
    {result : BoundVerificationResult}
    (hFresh : w.Fresh)
    (hRun : Run (Step H) w history w')
    (hResult : (w'.ledger H).bound key = some result) :
    ∃ (i : ℕ) (check : Event H) (proof : BoundProof)
        (hashed : IdentityState) (counter : UInt64)
        (digest : Bytes 32),
      history[i]? = some check ∧
        RequestChecked H check.label (check.source.ledger H)
            proof hashed counter digest ∧
          key = proof.key H ∧
            result =
              proof.record H check.now counter digest := by
  have hStart : boundResults H w key = none := by
    rw [boundResults, hFresh.ledger_eq]
    rfl
  rcases hRun.exists_origin hStart hResult with
    ⟨i, check, hLatest, hFills⟩
  have hStep :=
    event_step hFresh hRun (List.mem_of_getElem? hLatest.1)
  rcases hStep.fills_bound hFills.before hFills.after with
    ⟨proof, hashed, counter, digest, hChecked, hKey,
      hRecord⟩
  exact ⟨i, check, proof, hashed, counter, digest,
    hLatest.1, hChecked, hKey, hRecord⟩

/- A result that carries the current counter is current. -/
theorem stamped_run
    {key : ResultKey}
    {result : BoundVerificationResult}
    (hBuild : H.requestBound = true)
    (hFresh : w.Fresh)
    (hRun : Run (Step H) w history w')
    (hResult : (w'.ledger H).bound key = some result)
    (hStamp :
      (w'.ledger H).counter result.wallet =
        some result.counter) :
    ∃ identity,
      StillCurrent history w' key result identity := by
  rcases hashedFor_run hFresh hRun hResult with
    ⟨i, check, proof, hashed, counter, digest, hEvent,
      hChecked, hKey, rfl⟩
  have hVersion :
      check.source.versionAt H proof.verifier.key =
        w'.versionAt H proof.verifier.key := by
    have hStamp' :
        (w'.ledger H).counter proof.verifier.key =
          some counter := hStamp
    unfold World.versionAt
    rw [hChecked.stamped, hStamp']
  have hSteps (event : Event H) (hEvent : event ∈ history) :
      Versioned (World.versionAt H) (World.viewAt H) event :=
    event_versioned hBuild hFresh hRun hEvent
  have hView := hRun.view_eq hSteps hEvent hVersion
  unfold World.viewAt at hView
  rw [hChecked.live] at hView
  rcases Option.map_eq_some_iff.mp hView.symm with
    ⟨identity, hIdentity, hSame⟩
  have hMember := List.mem_of_getElem? hEvent
  refine ⟨identity, hIdentity, ?_, ⟨hashed, ?_, ?_, ?_⟩, ?_⟩
  · exact (congrArg RequestView.commitment hSame).trans
      hChecked.chained
  · exact ⟨check, hMember, proof, counter, digest, hChecked,
      hKey, rfl⟩
  · exact congrArg RequestView.mint hSame
  · exact congrArg RequestView.projectionVersion hSame
  · exact (recomputedDigest_congr hSame _ _ _).trans
      hChecked.hashed

end Entros

------------------------------------------------------------
-- Updates
------------------------------------------------------------

namespace Entros

open Foundations
open Anchor

variable {H : Host} {w w' : World}
variable {history : List (Event H)}

/-
  What `process_anchor_update` has checked of a bound result
  before it compares digests: the counter, and then that the
  account is where such a result is stored.
-/
structure PassesCounterCheck
    (H : Host)
    (w : World)
    (authority : Signer)
    (address : Address)
    (result : BoundVerificationResult) : Prop where
  loaded : loadBoundResult H w address = .ok result
  stateOwner :
    (w.accounts (requestAddress H authority.key)).owner =
      .anchor
  version : result.version = generation
  wallet : result.wallet = authority.key
  counter :
    w.counterAt H authority.key = some result.counter
  nonce : result.nonce ≠ Bytes.zero 32
  derived :
    H.createProgramAddress
      (.verificationBound authority.key result.nonce)
      result.bump = some address

/- What the counter promises in every reachable state. -/
structure VersionStamped
    (history : List (Event H))
    (w' : World) : Prop where
  stamped :
    ∀ key result,
      (w'.ledger H).bound key = some result →
        w'.counterAt H result.wallet = some result.counter →
          ∃ identity,
            StillCurrent history w' key result identity
  matched :
    ∀ authority address result opened,
      openIdentity H w' authority = .ok opened →
        PassesCounterCheck H opened.1 authority address
            result →
          recomputedDigest H authority.key opened.2
                result.counter result =
              some result.requestDigest ∧
            result.commitmentPrev =
              opened.2.currentCommitment
  linked :
    ∀ (call : Call H) (request : UpdateCall),
      call.instruction.boundUpdate = some request →
        execute w' call ≠ .error prevMismatch

/- The identity that an update opens is the stored one. -/
theorem openIdentity_run
    {authority : Signer}
    {opened : World × IdentityState}
    (hFresh : w.Fresh)
    (hRun : Run (Step H) w history w')
    (hOpen : openIdentity H w' authority = .ok opened) :
    opened.1 = w' ∧
      (w'.ledger H).identity authority.key =
        some opened.2 := by
  have hRep := run_represents hFresh hRun
  rcases openIdentity_spec hOpen
    (hRep.identity authority.key) with ⟨hSame, hIdentity, _⟩
  exact ⟨hSame, hIdentity⟩

/- What a current result says of the identity it is about. -/
theorem current_of_stamp
    {key : ResultKey}
    {result : BoundVerificationResult}
    {wallet : Pubkey}
    {identity : IdentityState}
    (hBuild : H.requestBound = true)
    (hFresh : w.Fresh)
    (hRun : Run (Step H) w history w')
    (hResult : (w'.ledger H).bound key = some result)
    (hWallet : result.wallet = wallet)
    (hCounter :
      (w'.ledger H).counter wallet = some result.counter)
    (hIdentity :
      (w'.ledger H).identity wallet = some identity) :
    StillCurrent history w' key result identity := by
  subst hWallet
  rcases stamped_run hBuild hFresh hRun hResult hCounter with
    ⟨current, hCurrent⟩
  have hSame : current = identity :=
    Option.some.inj (hCurrent.live.symm.trans hIdentity)
  exact hSame ▸ hCurrent

/-
  In every reachable state of the request-bound build, the
  counter stamps what has been verified.
-/
theorem versions_stamped
    (hBuild : H.requestBound = true)
    (hFresh : w.Fresh)
    (hRun : Run (Step H) w history w') :
    VersionStamped history w' where
  stamped := by
    intro key result hResult hStamp
    have hRep := run_represents hFresh hRun
    rw [counterAt_ledger hRep] at hStamp
    exact stamped_run hBuild hFresh hRun hResult hStamp
  matched := by
    intro authority address result opened hOpen hPasses
    have hRep := run_represents hFresh hRun
    rcases openIdentity_run hFresh hRun hOpen with
      ⟨hSame, hIdentity⟩
    rw [hSame] at hPasses
    have hAddress := hPasses.derived
    have hKey :
        address =
          ResultKey.boundAddress
            { verifier := authority.key
              nonce := result.nonce
              bump := result.bump } :=
      Host.createProgramAddress_eq_some H hAddress
    have hLoaded := hPasses.loaded
    rw [hKey] at hLoaded
    have hCounter := hPasses.counter
    rw [counterAt_ledger hRep] at hCounter
    have hCurrent :=
      current_of_stamp hBuild hFresh hRun
        (loadBoundResult_spec hRep hLoaded) hPasses.wallet
        hCounter hIdentity
    exact ⟨hPasses.wallet ▸ hCurrent.digest,
      hCurrent.commitment.symm⟩
  linked := by
    intro call request hUpdate
    have hRep := run_represents hFresh hRun
    unfold execute
    rw [Instruction.boundUpdate_eq_some hUpdate]
    refine updateAnchorBound_avoids call.tx request.receipt ?_
    intro opened consumed hOpen hConsume
    rcases openIdentity_run hFresh hRun hOpen with
      ⟨hSame, hIdentity⟩
    rw [hSame] at hConsume
    rcases consumeBoundResult_spec hRep hConsume with
      ⟨key, result, counter, _, hResult, hCounter, hWallet,
        hStamp, _, _, _, _, hTransition⟩
    rw [← hStamp] at hCounter
    have hCurrent :=
      current_of_stamp hBuild hFresh hRun hResult hWallet
        hCounter hIdentity
    rw [hTransition]
    exact hCurrent.commitment.symm

end Entros

------------------------------------------------------------
-- Competing Requests
------------------------------------------------------------

namespace Entros

open Foundations
open Anchor

namespace VersionStamps

open Sample

/- The request-bound build, before any request is hashed. -/
def build : Tables where
  requestBound := true
  digests := accountDigests
  addresses := addresses
  proofs := []
  signatures := [aliceMint]

/- A transition that `alice` asks for at a counter. -/
def action
    (counter : UInt64)
    (new prev : Bytes 32) : Action where
  identity := build.host.toPubkey
    (identityAddress build.host alice.key)
  mint := mintKey build.host alice.key
  counter := counter
  projection := 0
  commitmentNew := new
  commitmentPrev := prev
  threshold := 30
  minDistance := 3
  validUntil := 1700000200

/- The bytes of her request, under a nonce. -/
def request
    (i : UInt8)
    (actionDigest : Bytes 32) : List UInt8 :=
  requestBytes build.host.deploymentDomain
    build.host.verifierId build.host.anchorId alice.key
    (nonce i) actionDigest

def actionDigest : Bytes 32 :=
  Bytes.ofList 32
    [246, 189, 238, 175, 38, 214, 189, 67, 118, 25, 107, 76,
      170, 32, 214, 88, 255, 176, 225, 175, 83, 180, 106, 161,
      168, 62, 214, 5, 126, 225, 164, 213]

def firstDigest : Bytes 32 :=
  Bytes.ofList 32
    [75, 170, 131, 37, 147, 214, 238, 90, 250, 12, 175, 83,
      49, 95, 53, 38, 77, 64, 255, 127, 154, 166, 83, 177,
      130, 241, 28, 65, 86, 121, 138, 108]

def secondDigest : Bytes 32 :=
  Bytes.ofList 32
    [48, 3, 28, 78, 80, 60, 236, 7, 47, 106, 153, 9, 221, 48,
      151, 21, 59, 196, 217, 57, 12, 27, 223, 23, 166, 123,
      199, 59, 204, 236, 252, 158]

/-
  The proofs of the two requests, made for a verifying key of
  which the secret scalars are known.
-/
def firstProof : Bytes 256 :=
  Bytes.ofList 256
    [36, 47, 60, 131, 253, 184, 127, 33, 197, 169, 120, 151,
      216, 153, 133, 221, 165, 205, 161, 239, 247, 240, 76,
      209, 174, 137, 126, 21, 75, 142, 201, 94, 27, 105, 28,
      68, 107, 216, 237, 43, 10, 224, 115, 10, 196, 3, 174,
      68, 188, 159, 88, 217, 139, 124, 213, 219, 112, 113,
      78, 65, 237, 207, 119, 114, 29, 244, 247, 33, 223,
      104, 27, 180, 80, 158, 221, 231, 198, 7, 226, 235, 25,
      189, 17, 149, 44, 31, 154, 29, 7, 103, 247, 240, 167,
      154, 97, 230, 44, 40, 24, 11, 81, 187, 133, 79, 69,
      87, 249, 231, 69, 36, 65, 110, 58, 27, 27, 187, 204,
      183, 130, 13, 87, 171, 210, 31, 130, 122, 188, 174, 8,
      187, 31, 11, 24, 45, 255, 253, 116, 93, 176, 254, 96,
      157, 103, 192, 140, 136, 105, 98, 174, 219, 232, 116,
      29, 177, 71, 222, 64, 38, 217, 142, 27, 23, 14, 33,
      193, 53, 112, 231, 79, 36, 113, 246, 72, 105, 68, 96,
      23, 18, 124, 35, 28, 69, 125, 185, 84, 134, 105, 94,
      57, 246, 54, 253, 44, 90, 34, 170, 249, 241, 60, 170,
      60, 5, 100, 62, 56, 53, 137, 221, 204, 1, 103, 212,
      47, 82, 127, 213, 212, 203, 77, 48, 42, 157, 218, 238,
      25, 141, 105, 172, 216, 134, 249, 82, 9, 121, 153, 27,
      95, 136, 118, 172, 199, 9, 130, 121, 170, 16, 53, 183,
      222, 123, 151, 198, 23, 89, 108, 41]

def secondProof : Bytes 256 :=
  Bytes.ofList 256
    [41, 130, 205, 148, 218, 219, 15, 69, 250, 37, 5, 136,
      107, 43, 81, 153, 35, 181, 94, 105, 240, 88, 164, 177,
      18, 83, 157, 11, 106, 131, 170, 253, 11, 162, 130,
      249, 171, 18, 24, 180, 148, 83, 233, 154, 2, 165, 53,
      144, 52, 242, 9, 49, 141, 41, 122, 133, 84, 23, 10,
      154, 211, 242, 125, 32, 34, 7, 221, 34, 63, 151, 191,
      0, 196, 8, 71, 78, 10, 110, 48, 42, 99, 80, 28, 71,
      248, 70, 190, 155, 89, 164, 21, 229, 208, 101, 132,
      13, 11, 218, 250, 117, 137, 170, 60, 82, 87, 220, 20,
      245, 6, 66, 28, 205, 249, 3, 215, 195, 241, 137, 203,
      222, 57, 218, 80, 131, 131, 204, 98, 154, 3, 245, 183,
      30, 52, 77, 234, 10, 1, 43, 250, 2, 164, 96, 139, 123,
      114, 201, 170, 117, 27, 6, 81, 153, 242, 183, 131, 23,
      126, 180, 112, 80, 0, 22, 68, 159, 70, 70, 157, 48, 3,
      205, 133, 50, 213, 54, 9, 244, 40, 81, 122, 144, 16,
      227, 19, 17, 112, 233, 26, 212, 71, 212, 111, 140, 5,
      39, 184, 133, 116, 20, 150, 17, 19, 78, 32, 191, 231,
      126, 179, 129, 140, 69, 140, 123, 1, 1, 165, 135, 175,
      154, 91, 168, 247, 243, 187, 59, 8, 32, 140, 27, 252,
      55, 152, 65, 60, 12, 202, 112, 241, 224, 141, 186,
      243, 60, 42, 67, 210, 53, 252, 21, 14, 91, 96, 47,
      231, 118, 159, 43]

/- What the verifier checks the proof of a request on. -/
def inputs
    (new prev : Bytes 32)
    (digest : Bytes 32) : List (Bytes 32) :=
  Verifier.boundInputs new prev 30 3 digest

def tables : Tables where
  requestBound := true
  digests :=
    [((action 1 commitmentNew commitmentPrev).bytes,
        actionDigest),
      (request 1 actionDigest, firstDigest),
      (request 2 actionDigest, secondDigest)] ++
    accountDigests
  addresses := addresses
  proofs :=
    [(.bound, firstProof,
        inputs commitmentNew commitmentPrev firstDigest),
      (.bound, secondProof,
        inputs commitmentNew commitmentPrev secondDigest)]
  signatures := [aliceMint]

/- The receipt of the mint is among the signatures. -/
theorem aliceMint_signed :
    aliceMint ∈ tables.signatures :=
  List.mem_singleton_self aliceMint

def call
    (now : Int64)
    (instruction : Instruction) : Call tables.host where
  now := now
  tx := tables.signed aliceMint aliceMint_signed
  instruction := instruction

/- The verification of a request for the first transition. -/
def verify (i : UInt8) (proof : Bytes 256) : Instruction :=
  .verifier (.verifyProofBound alice (nonce i) proof
    commitmentNew commitmentPrev 30 3 1700000200)

/-
  After the mint two requests are verified for one counter,
  and the new wallet is authorised in between.
-/
def competing : List (Call tables.host) :=
  [call 1700000000 Sample.configure,
    call 1700000010
      (.anchor (.mintAnchor alice
        [{ address := requestAddress tables.host alice.key
           writable := true }]
        commitmentPrev)),
    call 1700000020 (verify 1 firstProof),
    call 1700000025
      (.anchor (.authorizeNewWallet alice bob)),
    call 1700000030 (verify 2 secondProof)]

/- Where the second result is stored. -/
def secondKey : ResultKey where
  verifier := alice.key
  nonce := nonce 2
  bump := 255

end VersionStamps

open VersionStamps in
theorem versions_stamped_competing :
    ∃ (history : List (Event tables.host)) (w' : World),
      Run (Step tables.host) .funded history w' ∧
        history.map Transition.label = competing ∧
          ((boundResults tables.host w' secondKey).map
              BoundVerificationResult.counter,
              w'.counterAt tables.host Sample.alice.key) =
            (some 1, some 1) ∧
            VersionStamped history w' := by
  have hReplay :
      (replay .funded competing).map (fun replayed =>
        ((boundResults tables.host replayed.2
              secondKey).map
            BoundVerificationResult.counter,
          replayed.2.counterAt tables.host
            Sample.alice.key)) =
        some (some 1, some 1) := by
    decide +kernel
  rcases exists_run hReplay with
    ⟨history, w', hRun, hLabels, hValue⟩
  exact ⟨history, w', hRun, hLabels, hValue,
    versions_stamped rfl funded_fresh hRun⟩

end Entros
