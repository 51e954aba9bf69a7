import Entros.System.Execution

/-
  What the accounts of entros-anchor and entros-verifier
  stand for: identities and request counters by wallet, and
  proof results by their address.

  Key definitions include:
    * `storedAccount`
    * `Ledger`
    * `World.ledger`
    * `Represents`

  Key theorems include:
    * `decodeAccount_storedAccount`
    * `Represents.ledger_eq`
    * `Represents.setIdentity`
    * `Represents.setCounter`
    * `Represents.setResult`
    * `Represents.setBound`
    * `Represents.closeAt`
-/

------------------------------------------------------------
-- Stored Values
------------------------------------------------------------

namespace Entros

open Foundations

section

variable {A : Type} [Packed A]

/- The account that holds a value, vacant without one. -/
def storedAccount
    (H : Host)
    (owner : ProgramId)
    (name : String) :
    Option A → Account
| none => .vacant
| some value =>
    { owner := owner
      data := serialized H name value }

/- The value an account holds, if it holds one. -/
def decodeAccount
    (A : Type)
    [Packed A]
    (H : Host)
    (owner : ProgramId)
    (name : String)
    (account : Account) : Option A :=
  if account.owner = owner then
    (tryDeserialize A H name account.data).toOption
  else
    none

variable {H : Host} {owner : ProgramId} {name : String}

theorem tryDeserialize_serialized_exact (value : A) :
    tryDeserialize A H name (serialized H name value) =
      .ok value := by
  have hRead :
      tryDeserialize A H name
          (serialized H name value ++ []) = .ok value :=
    tryDeserialize_serialized value []
  rwa [List.append_nil] at hRead

/- Reading a stored value back returns it. -/
theorem eq_of_tryDeserialize_stored
    {value read : A}
    (hRead :
      tryDeserialize A H name
          (storedAccount H owner name (some value)).data =
        .ok read) :
    value = read :=
  Except.ok.inj
    ((tryDeserialize_serialized_exact value).symm.trans
      hRead)

theorem decodeAccount_storedAccount
    (hOwner : owner ≠ .system)
    (value : Option A) :
    decodeAccount A H owner name
        (storedAccount H owner name value) = value := by
  cases value with
  | none =>
      rw [decodeAccount, storedAccount, Account.vacant,
        if_neg (Ne.symm hOwner)]
  | some a =>
      rw [decodeAccount, storedAccount, if_pos rfl,
        tryDeserialize_serialized_exact]
      rfl

/- Only the absence of a value leaves the address vacant. -/
theorem storedAccount_eq_vacant_iff
    (hOwner : owner ≠ .system)
    {value : Option A} :
    storedAccount H owner name value = .vacant ↔
      value = none := by
  cases value with
  | none => simp [storedAccount]
  | some a =>
      simp [storedAccount, Account.vacant, hOwner]

/- An account of the owner holds some value. -/
theorem exists_of_owner
    (hOwner : owner ≠ .system)
    {value : Option A}
    (hStored :
      (storedAccount H owner name value).owner = owner) :
    ∃ a, value = some a := by
  cases value with
  | none => exact absurd hStored.symm hOwner
  | some a => exact ⟨a, rfl⟩

end

end Entros

------------------------------------------------------------
-- Ledgers
------------------------------------------------------------

namespace Entros

open Foundations
open Anchor

/- The seeds and the bump a proof result is stored under. -/
@[ext] structure ResultKey where
  verifier : Pubkey
  nonce : Bytes 32
  bump : UInt8
deriving DecidableEq

namespace ResultKey

/- Where the default build stores a result. -/
def address (key : ResultKey) : Address :=
  .pda (.verification key.verifier key.nonce) key.bump

/- Where the request-bound build stores a result. -/
def boundAddress (key : ResultKey) : Address :=
  .pda (.verificationBound key.verifier key.nonce) key.bump

theorem address_injective :
    Function.Injective ResultKey.address := by
  intro key key' hEq
  rcases Address.pda.inj hEq with ⟨hSeeds, hBump⟩
  rcases Seeds.verification.inj hSeeds with
    ⟨hVerifier, hNonce⟩
  exact ResultKey.ext hVerifier hNonce hBump

theorem boundAddress_injective :
    Function.Injective ResultKey.boundAddress := by
  intro key key' hEq
  rcases Address.pda.inj hEq with ⟨hSeeds, hBump⟩
  rcases Seeds.verificationBound.inj hSeeds with
    ⟨hVerifier, hNonce⟩
  exact ResultKey.ext hVerifier hNonce hBump

end ResultKey

/- The typed contents of the accounts. -/
@[ext] structure Ledger where
  identity : Pubkey → Option IdentityState
  counter : Pubkey → Option UInt64
  result : ResultKey → Option VerificationResult
  bound : ResultKey → Option BoundVerificationResult

namespace Ledger

def setIdentity
    (l : Ledger)
    (wallet : Pubkey)
    (identity : Option IdentityState) : Ledger :=
  { l with
    identity := Function.update l.identity wallet identity }

def setCounter
    (l : Ledger)
    (wallet : Pubkey)
    (counter : UInt64) : Ledger :=
  { l with
    counter :=
      Function.update l.counter wallet (some counter) }

def setResult
    (l : Ledger)
    (key : ResultKey)
    (result : VerificationResult) : Ledger :=
  { l with
    result := Function.update l.result key (some result) }

def setBound
    (l : Ledger)
    (key : ResultKey)
    (result : BoundVerificationResult) : Ledger :=
  { l with
    bound := Function.update l.bound key (some result) }

/- Free the address of a proof result. -/
def closeAt
    (l : Ledger)
    (address : Address) : Ledger :=
  { l with
    result := fun key =>
      if key.address = address then none else l.result key
    bound := fun key =>
      if key.boundAddress = address then
        none
      else
        l.bound key }

section

variable (l : Ledger)

@[simp] theorem setIdentity_counter
    (wallet : Pubkey)
    (identity : Option IdentityState) :
    (l.setIdentity wallet identity).counter = l.counter := rfl

@[simp] theorem setIdentity_result
    (wallet : Pubkey)
    (identity : Option IdentityState) :
    (l.setIdentity wallet identity).result = l.result := rfl

@[simp] theorem setIdentity_bound
    (wallet : Pubkey)
    (identity : Option IdentityState) :
    (l.setIdentity wallet identity).bound = l.bound := rfl

theorem setIdentity_identity
    (wallet wallet' : Pubkey)
    (identity : Option IdentityState) :
    (l.setIdentity wallet identity).identity wallet' =
      if wallet' = wallet then identity
      else l.identity wallet' :=
  Function.update_apply l.identity wallet identity wallet'

@[simp] theorem setIdentity_identity_same
    (wallet : Pubkey)
    (identity : Option IdentityState) :
    (l.setIdentity wallet identity).identity wallet =
      identity := by
  simp [setIdentity]

@[simp] theorem setCounter_identity
    (wallet : Pubkey)
    (counter : UInt64) :
    (l.setCounter wallet counter).identity = l.identity := rfl

@[simp] theorem setCounter_result
    (wallet : Pubkey)
    (counter : UInt64) :
    (l.setCounter wallet counter).result = l.result := rfl

@[simp] theorem setCounter_bound
    (wallet : Pubkey)
    (counter : UInt64) :
    (l.setCounter wallet counter).bound = l.bound := rfl

theorem setCounter_counter
    (wallet wallet' : Pubkey)
    (counter : UInt64) :
    (l.setCounter wallet counter).counter wallet' =
      if wallet' = wallet then some counter
      else l.counter wallet' :=
  Function.update_apply l.counter wallet (some counter)
    wallet'

@[simp] theorem setCounter_counter_same
    (wallet : Pubkey)
    (counter : UInt64) :
    (l.setCounter wallet counter).counter wallet =
      some counter := by
  simp [setCounter]

@[simp] theorem setResult_identity
    (key : ResultKey)
    (result : VerificationResult) :
    (l.setResult key result).identity = l.identity := rfl

@[simp] theorem setResult_counter
    (key : ResultKey)
    (result : VerificationResult) :
    (l.setResult key result).counter = l.counter := rfl

@[simp] theorem setResult_bound
    (key : ResultKey)
    (result : VerificationResult) :
    (l.setResult key result).bound = l.bound := rfl

theorem setResult_result
    (key key' : ResultKey)
    (result : VerificationResult) :
    (l.setResult key result).result key' =
      if key' = key then some result else l.result key' :=
  Function.update_apply l.result key (some result) key'

@[simp] theorem setBound_identity
    (key : ResultKey)
    (result : BoundVerificationResult) :
    (l.setBound key result).identity = l.identity := rfl

@[simp] theorem setBound_counter
    (key : ResultKey)
    (result : BoundVerificationResult) :
    (l.setBound key result).counter = l.counter := rfl

@[simp] theorem setBound_result
    (key : ResultKey)
    (result : BoundVerificationResult) :
    (l.setBound key result).result = l.result := rfl

theorem setBound_bound
    (key key' : ResultKey)
    (result : BoundVerificationResult) :
    (l.setBound key result).bound key' =
      if key' = key then some result else l.bound key' :=
  Function.update_apply l.bound key (some result) key'

@[simp] theorem closeAt_identity (address : Address) :
    (l.closeAt address).identity = l.identity := rfl

@[simp] theorem closeAt_counter (address : Address) :
    (l.closeAt address).counter = l.counter := rfl

theorem closeAt_result
    (address : Address)
    (key : ResultKey) :
    (l.closeAt address).result key =
      if key.address = address then none
      else l.result key := rfl

theorem closeAt_bound
    (address : Address)
    (key : ResultKey) :
    (l.closeAt address).bound key =
      if key.boundAddress = address then none
      else l.bound key := rfl

end

end Ledger

end Entros

------------------------------------------------------------
-- Representation
------------------------------------------------------------

namespace Entros

open Foundations
open Anchor

/- The record of a wallet whose counter is given. -/
def requestState
    (H : Host)
    (wallet : Pubkey)
    (counter : UInt64) : ProofRequestState where
  version := generation
  wallet := wallet
  counter := counter
  bump := requestBump H wallet

/- The account that stores an identity, a counter or a result. -/
def identityAccount
    (H : Host)
    (identity : Option IdentityState) : Account :=
  storedAccount H .anchor IdentityState.accountName identity

def requestAccount
    (H : Host)
    (wallet : Pubkey)
    (counter : Option UInt64) : Account :=
  storedAccount H .anchor ProofRequestState.accountName
    (counter.map (requestState H wallet))

def resultAccount
    (H : Host)
    (result : Option VerificationResult) : Account :=
  storedAccount H .verifier VerificationResult.accountName
    result

def boundAccount
    (H : Host)
    (result : Option BoundVerificationResult) : Account :=
  storedAccount H .verifier
    BoundVerificationResult.accountName result

/- The ledger that can be read off the accounts. -/
def World.ledger (H : Host) (w : World) : Ledger where
  identity wallet :=
    decodeAccount IdentityState H .anchor
      IdentityState.accountName
      (w.accounts (identityAddress H wallet))
  counter wallet :=
    (decodeAccount ProofRequestState H .anchor
      ProofRequestState.accountName
      (w.accounts (requestAddress H wallet))).map
        ProofRequestState.counter
  result key :=
    decodeAccount VerificationResult H .verifier
      VerificationResult.accountName (w.accounts key.address)
  bound key :=
    decodeAccount BoundVerificationResult H .verifier
      BoundVerificationResult.accountName
      (w.accounts key.boundAddress)

/- The accounts hold exactly the values of the ledger. -/
structure Represents
    (H : Host)
    (accounts : Address → Account)
    (l : Ledger) : Prop where
  identity :
    ∀ wallet,
      accounts (identityAddress H wallet) =
        identityAccount H (l.identity wallet)
  counter :
    ∀ wallet,
      accounts (requestAddress H wallet) =
        requestAccount H wallet (l.counter wallet)
  result :
    ∀ key : ResultKey,
      accounts key.address = resultAccount H (l.result key)
  bound :
    ∀ key : ResultKey,
      accounts key.boundAddress =
        boundAccount H (l.bound key)

/- The seeds of the accounts that a ledger describes. -/
inductive Seeds.Described : Seeds → Prop
| identity (wallet : Pubkey) :
    Described (.identity wallet)
| counter (wallet : Pubkey) :
    Described (.proofRequestState wallet)
| result (verifier : Pubkey) (nonce : Bytes 32) :
    Described (.verification verifier nonce)
| bound (verifier : Pubkey) (nonce : Bytes 32) :
    Described (.verificationBound verifier nonce)

namespace Represents

variable {H : Host} {accounts : Address → Account}
variable {l : Ledger}

/- A represented ledger is the one that is read off. -/
theorem ledger_eq
    {w : World}
    (hRep : Represents H w.accounts l) :
    w.ledger H = l := by
  ext1
  · funext wallet
    exact (congrArg _ (hRep.identity wallet)).trans
      (decodeAccount_storedAccount (by decide) _)
  · funext wallet
    have hDecode :
        decodeAccount ProofRequestState H .anchor
            ProofRequestState.accountName
            (w.accounts (requestAddress H wallet)) =
          (l.counter wallet).map (requestState H wallet) :=
      (congrArg _ (hRep.counter wallet)).trans
        (decodeAccount_storedAccount (by decide) _)
    change Option.map _ (decodeAccount _ _ _ _ _) = _
    rw [hDecode]
    cases l.counter wallet <;> rfl
  · funext key
    exact (congrArg _ (hRep.result key)).trans
      (decodeAccount_storedAccount (by decide) _)
  · funext key
    exact (congrArg _ (hRep.bound key)).trans
      (decodeAccount_storedAccount (by decide) _)

/- Accounts elsewhere do not matter. -/
theorem congr
    {accounts' : Address → Account}
    (hRep : Represents H accounts l)
    (hSame :
      ∀ seeds bump, seeds.Described →
        accounts' (.pda seeds bump) =
          accounts (.pda seeds bump)) :
    Represents H accounts' l where
  identity wallet :=
    (hSame _ _ (.identity wallet)).trans
      (hRep.identity wallet)
  counter wallet :=
    (hSame _ _ (.counter wallet)).trans (hRep.counter wallet)
  result key :=
    (hSame _ _ (.result _ _)).trans (hRep.result key)
  bound key :=
    (hSame _ _ (.bound _ _)).trans (hRep.bound key)

/- Writing an account elsewhere changes nothing. -/
theorem update_other
    {address : Address}
    {account : Account}
    (hRep : Represents H accounts l)
    (hOther :
      ∀ seeds bump, seeds.Described →
        Address.pda seeds bump ≠ address) :
    Represents H (Function.update accounts address account)
      l :=
  hRep.congr fun seeds bump hDescribed =>
    Function.update_of_ne (hOther seeds bump hDescribed) _ _

theorem setIdentity
    (hRep : Represents H accounts l)
    (wallet : Pubkey)
    (identity : Option IdentityState) :
    Represents H
      (Function.update accounts (identityAddress H wallet)
        (identityAccount H identity))
      (l.setIdentity wallet identity) where
  identity wallet' := by
    rw [Ledger.setIdentity_identity]
    by_cases hWallet : wallet' = wallet
    · rw [hWallet, Function.update_self, if_pos rfl]
    · have hAddress :
          identityAddress H wallet' ≠
            identityAddress H wallet := fun hEq =>
        hWallet (Seeds.identity.inj
          (H.findProgramAddress_inj.mp hEq))
      rw [Function.update_of_ne hAddress, if_neg hWallet]
      exact hRep.identity wallet'
  counter wallet' := by
    rw [Function.update_of_ne (by
      simp [requestAddress, identityAddress,
        H.findProgramAddress_inj])]
    exact hRep.counter wallet'
  result key := by
    rw [Function.update_of_ne (by
      simp [ResultKey.address, identityAddress,
        Host.findProgramAddress])]
    exact hRep.result key
  bound key := by
    rw [Function.update_of_ne (by
      simp [ResultKey.boundAddress, identityAddress,
        Host.findProgramAddress])]
    exact hRep.bound key

theorem setCounter
    (hRep : Represents H accounts l)
    (wallet : Pubkey)
    (counter : UInt64) :
    Represents H
      (Function.update accounts (requestAddress H wallet)
        (requestAccount H wallet (some counter)))
      (l.setCounter wallet counter) where
  identity wallet' := by
    rw [Function.update_of_ne (by
      simp [requestAddress, identityAddress,
        H.findProgramAddress_inj])]
    exact hRep.identity wallet'
  counter wallet' := by
    rw [Ledger.setCounter_counter]
    by_cases hWallet : wallet' = wallet
    · rw [hWallet, Function.update_self, if_pos rfl]
    · have hAddress :
          requestAddress H wallet' ≠
            requestAddress H wallet := fun hEq =>
        hWallet (Seeds.proofRequestState.inj
          (H.findProgramAddress_inj.mp hEq))
      rw [Function.update_of_ne hAddress, if_neg hWallet]
      exact hRep.counter wallet'
  result key := by
    rw [Function.update_of_ne (by
      simp [ResultKey.address, requestAddress,
        Host.findProgramAddress])]
    exact hRep.result key
  bound key := by
    rw [Function.update_of_ne (by
      simp [ResultKey.boundAddress, requestAddress,
        Host.findProgramAddress])]
    exact hRep.bound key

theorem setResult
    (hRep : Represents H accounts l)
    (key : ResultKey)
    (result : VerificationResult) :
    Represents H
      (Function.update accounts key.address
        (resultAccount H (some result)))
      (l.setResult key result) where
  identity wallet := by
    rw [Function.update_of_ne (by
      simp [ResultKey.address, identityAddress,
        Host.findProgramAddress])]
    exact hRep.identity wallet
  counter wallet := by
    rw [Function.update_of_ne (by
      simp [ResultKey.address, requestAddress,
        Host.findProgramAddress])]
    exact hRep.counter wallet
  result key' := by
    rw [Ledger.setResult_result]
    by_cases hKey : key' = key
    · rw [hKey, Function.update_self, if_pos rfl]
    · rw [Function.update_of_ne fun hEq =>
          hKey (ResultKey.address_injective hEq),
        if_neg hKey]
      exact hRep.result key'
  bound key' := by
    rw [Function.update_of_ne (by
      simp [ResultKey.boundAddress, ResultKey.address])]
    exact hRep.bound key'

theorem setBound
    (hRep : Represents H accounts l)
    (key : ResultKey)
    (result : BoundVerificationResult) :
    Represents H
      (Function.update accounts key.boundAddress
        (boundAccount H (some result)))
      (l.setBound key result) where
  identity wallet := by
    rw [Function.update_of_ne (by
      simp [ResultKey.boundAddress, identityAddress,
        Host.findProgramAddress])]
    exact hRep.identity wallet
  counter wallet := by
    rw [Function.update_of_ne (by
      simp [ResultKey.boundAddress, requestAddress,
        Host.findProgramAddress])]
    exact hRep.counter wallet
  result key' := by
    rw [Function.update_of_ne (by
      simp [ResultKey.boundAddress, ResultKey.address])]
    exact hRep.result key'
  bound key' := by
    rw [Ledger.setBound_bound]
    by_cases hKey : key' = key
    · rw [hKey, Function.update_self, if_pos rfl]
    · rw [Function.update_of_ne fun hEq =>
          hKey (ResultKey.boundAddress_injective hEq),
        if_neg hKey]
      exact hRep.bound key'

/-
  Closing an account of the verifier program: identities and
  counters belong to entros-anchor, so only a result goes.
-/
theorem closeAt
    (hRep : Represents H accounts l)
    {address : Address}
    (hOwner : (accounts address).owner = .verifier) :
    Represents H (Function.update accounts address .vacant)
      (l.closeAt address) where
  identity wallet := by
    have hAddress : identityAddress H wallet ≠ address := by
      rintro rfl
      rw [hRep.identity] at hOwner
      cases hIdentity : l.identity wallet with
      | none => simp [hIdentity, identityAccount,
          storedAccount, Account.vacant] at hOwner
      | some identity => simp [hIdentity, identityAccount,
          storedAccount] at hOwner
    rw [Function.update_of_ne hAddress]
    exact hRep.identity wallet
  counter wallet := by
    have hAddress : requestAddress H wallet ≠ address := by
      rintro rfl
      rw [hRep.counter] at hOwner
      cases hCounter : l.counter wallet with
      | none => simp [hCounter, requestAccount,
          storedAccount, Account.vacant] at hOwner
      | some counter => simp [hCounter, requestAccount,
          storedAccount] at hOwner
    rw [Function.update_of_ne hAddress]
    exact hRep.counter wallet
  result key := by
    rw [Ledger.closeAt_result]
    by_cases hAddress : key.address = address
    · rw [hAddress, Function.update_self, if_pos rfl]
      rfl
    · rw [Function.update_of_ne hAddress, if_neg hAddress]
      exact hRep.result key
  bound key := by
    rw [Ledger.closeAt_bound]
    by_cases hAddress : key.boundAddress = address
    · rw [hAddress, Function.update_self, if_pos rfl]
      rfl
    · rw [Function.update_of_ne hAddress, if_neg hAddress]
      exact hRep.bound key

end Represents

end Entros
