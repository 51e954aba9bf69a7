import Entros.Anchor.State
import Entros.Chain.Transaction
import Entros.ProofRequest.Request

/-
  The request counter of a wallet, and the explicit upgrade
  of an identity's layout.

  Key definitions include:
    * `ensureProofRequestState`
    * `advance`
    * `prepareProofRequest`
    * `upgradeIdentityLayout`
-/

------------------------------------------------------------
-- Addresses
------------------------------------------------------------

namespace Entros

open Foundations

namespace Anchor

/- The address of a wallet's identity. -/
def identityAddress (H : Host) (wallet : Pubkey) : Address :=
  H.findProgramAddress (.identity wallet)

/- The address of a wallet's request counter. -/
def requestAddress (H : Host) (wallet : Pubkey) : Address :=
  H.findProgramAddress (.proofRequestState wallet)

/- The 32 bytes of a wallet's mint address. -/
def mintKey (H : Host) (wallet : Pubkey) : Pubkey :=
  H.toPubkey (H.findProgramAddress (.mint wallet))

end Anchor

end Entros

------------------------------------------------------------
-- Request Counter
------------------------------------------------------------

namespace Entros

open Foundations

namespace Anchor

/- The bump of a wallet's request counter. -/
def requestBump (H : Host) (wallet : Pubkey) : UInt8 :=
  H.canonicalBump (.proofRequestState wallet)

/- Create the counter at zero unless it already exists. -/
def ensureProofRequestState
    (H : Host)
    (w : World)
    (wallet : Pubkey)
    (payer : Signer) : Result World :=
  if w.accounts (requestAddress H wallet) = .vacant then do
    let created ← w.createAccount H (walletAddress payer)
      (requestAddress H wallet) ProofRequestState.len .anchor
    created.saveAccount H ProofRequestState.accountName
      (requestAddress H wallet)
      ({ version := generation
         wallet := wallet
         counter := 0
         bump := requestBump H wallet } : ProofRequestState)
  else
    .ok w

/- `advance`. -/
def advance
    (H : Host)
    (w : World)
    (account : AccountMeta)
    (wallet : Pubkey)
    (payer : Signer) : Result World := do
  require (account.writable = true)
    (.anchor .invalidRequestContext)
  require (account.address = requestAddress H wallet)
    (.anchor .invalidRequestContext)
  let created ← ensureProofRequestState H w wallet payer
  let state := created.accounts (requestAddress H wallet)
  require (state.owner = .anchor)
    (.anchor .invalidRequestContext)
  let counter ← okOr
    (readCounter H state.data wallet (requestBump H wallet))
    (.anchor .invalidRequestContext)
  let next ← okOr (checkedAdd64 counter 1)
    (.anchor .arithmeticOverflow)
  let data ← writeField state.data
    ProofRequestState.offsetCounter next
  return created.setData (requestAddress H wallet) data

/- What a freshly created counter deserialises to. -/
def zeroProofRequestState : ProofRequestState where
  version := 0
  wallet := Pubkey.default
  counter := 0
  bump := 0

/-
  The `init_if_needed` constraint: create the account, or
  read the existing one and check its size.
-/
def openProofRequestState
    (H : Host)
    (w : World)
    (authority : Signer) :
    Result (World × ProofRequestState) :=
  let address := requestAddress H authority.key
  if (w.accounts address).owner = .system then do
    let created ← w.createAccount H
      (walletAddress authority) address
      ProofRequestState.len .anchor
    return (created, zeroProofRequestState)
  else do
    let state ← w.loadAccount ProofRequestState H
      ProofRequestState.accountName .anchor address
    require
      ((w.accounts address).data.length =
        ProofRequestState.len)
      (.framework .constraintSpace)
    return (w, state)

/- The fields `prepare` writes into a fresh counter. -/
def initialiseProofRequestState
    (H : Host)
    (wallet : Pubkey)
    (state : ProofRequestState) :
    Result ProofRequestState :=
  if state.version = 0 then do
    require
      (state.wallet = Pubkey.default ∧ state.counter = 0)
      (.anchor .invalidRequestContext)
    return { state with
      version := generation
      wallet := wallet
      bump := requestBump H wallet }
  else
    .ok state

/- `prepare_proof_request`. -/
def prepareProofRequest
    (H : Host)
    (w : World)
    (authority : Signer) : Result World := do
  let opened ← openProofRequestState H w authority
  require (H.requestBound = true)
    (.anchor .unsupportedProofGeneration)
  let state ← initialiseProofRequestState H authority.key
    opened.2
  require
    (state.version = generation ∧
      state.wallet = authority.key ∧
        state.bump = requestBump H authority.key)
    (.anchor .invalidRequestContext)
  opened.1.saveAccount H ProofRequestState.accountName
    (requestAddress H authority.key) state

end Anchor

end Entros

------------------------------------------------------------
-- Identity Layout
------------------------------------------------------------

namespace Entros

open Foundations

namespace Anchor

/- The checks on the old bytes before they are extended. -/
def checkIdentityLayout
    (H : Host)
    (data : List UInt8)
    (wallet : Pubkey) : Result Unit := do
  require (data.length ∈ [543, 551, 583, 593])
    (.anchor .invalidIdentityState)
  require
    (slice data 0 8 =
        (discriminator H IdentityState.accountName).toList ∧
      fieldAt Pubkey data 8 = some wallet ∧
      fieldAt UInt8 data 126 =
        some (H.canonicalBump (.identity wallet)))
    (.anchor .invalidIdentityState)
  require (fieldAt Pubkey data 94 = some (mintKey H wallet))
    (.anchor .invalidIdentityState)

/- Top up the rent, extend the account and clear its tail. -/
def extendIdentity
    (H : Host)
    (w : World)
    (authority : Signer) : Result World :=
  let address := identityAddress H authority.key
  let data := (w.accounts address).data
  if data.length = IdentityState.len then
    .ok w
  else do
    let funded ← w.topUp H (walletAddress authority) address
      IdentityState.len
    return funded.setData address
      (resize data IdentityState.len)

/- `upgrade_identity_layout`. -/
def upgradeIdentityLayout
    (H : Host)
    (w : World)
    (authority : Signer) : Result World := do
  let account := w.accounts (identityAddress H authority.key)
  require (account.owner = .anchor)
    (.framework .constraintOwner)
  require (H.requestBound = true)
    (.anchor .unsupportedProofGeneration)
  checkIdentityLayout H account.data authority.key
  extendIdentity H w authority

end Anchor

end Entros
