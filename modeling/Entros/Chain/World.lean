import Entros.Chain.Fault
import Entros.Chain.Keys
import Entros.Foundations.Machine
import Mathlib.Logic.Function.Basic

/-
  The accounts of the ledger, the System Program, and the
  typed accounts of the Anchor framework.

  Key definitions include:
    * `Account`
    * `World`
    * `World.transfer`
    * `World.createAccount`
    * `World.closeAccount`
    * `tryDeserialize`
    * `trySerialize`
    * `World.loadAccount`
    * `World.saveAccount`

  Key theorems include:
    * `World.transfer_sameState`
    * `World.createAccount_eq_ok`
    * `tryDeserialize_serialized`
    * `eq_of_tryDeserialize`
    * `World.saveAccount_accounts`
-/

------------------------------------------------------------
-- Accounts
------------------------------------------------------------

namespace Entros

open Foundations

/- An account's owner and data; lamports are kept apart. -/
structure Account where
  owner : ProgramId
  data : List UInt8
deriving DecidableEq

/- An address that nothing has been created at. -/
def Account.vacant : Account :=
  { owner := .system
    data := [] }

/- What Token-2022 stores for a mint. -/
structure TokenMint where
  supply : ℕ
deriving DecidableEq

/- What Token-2022 stores for a token account. -/
structure TokenAccount where
  amount : ℕ
  delegate : Option Pubkey
  delegatedAmount : ℕ
deriving DecidableEq

/-
  The ledger state.  Mints and associated token accounts
  belong to Token-2022 and are kept by wallet; `programData`
  is the registry's programdata account, which belongs to the
  loader.
-/
structure World where
  accounts : Address → Account
  lamports : Address → ℕ
  mints : Pubkey → Option TokenMint
  tokenAccounts : Pubkey → Option TokenAccount
  programData : List UInt8

namespace World

/- Replace the account at an address. -/
def setAccount
    (w : World)
    (address : Address)
    (account : Account) : World :=
  { w with accounts := Function.update w.accounts address account }

/- Replace the data of the account at an address. -/
def setData
    (w : World)
    (address : Address)
    (data : List UInt8) : World :=
  w.setAccount address
    { owner := (w.accounts address).owner
      data := data }

@[simp] theorem setAccount_accounts
    (w : World)
    (address : Address)
    (account : Account) :
    (w.setAccount address account).accounts =
      Function.update w.accounts address account := rfl

@[simp] theorem setAccount_mints
    (w : World)
    (address : Address)
    (account : Account) :
    (w.setAccount address account).mints = w.mints := rfl

@[simp] theorem setAccount_programData
    (w : World)
    (address : Address)
    (account : Account) :
    (w.setAccount address account).programData =
      w.programData := rfl

@[simp] theorem setData_accounts
    (w : World)
    (address : Address)
    (data : List UInt8) :
    (w.setData address data).accounts =
      Function.update w.accounts address
        { owner := (w.accounts address).owner
          data := data } := rfl

@[simp] theorem setData_mints
    (w : World)
    (address : Address)
    (data : List UInt8) :
    (w.setData address data).mints = w.mints := rfl

end World

end Entros

------------------------------------------------------------
-- System Program
------------------------------------------------------------

namespace Entros

open Foundations

namespace World

/- Move lamports; the balance of the source must cover them. -/
def transfer
    (w : World)
    (source destination : Address)
    (amount : ℕ) : Result World := do
  require (amount ≤ w.lamports source)
    (.runtime .insufficientFunds)
  let debited := Function.update w.lamports source
    (w.lamports source - amount)
  return { w with
    lamports := Function.update debited destination
      (debited destination + amount) }

/- Top an account up to the rent-exempt balance of a size. -/
def topUp
    (H : Host)
    (w : World)
    (payer account : Address)
    (size : ℕ) : Result World :=
  if w.lamports account < H.minimumBalance size then
    w.transfer payer account
      (H.minimumBalance size - w.lamports account)
  else
    .ok w

/- `allocate` and `assign`: only a vacant address is free. -/
def allocate
    (w : World)
    (address : Address)
    (size : ℕ)
    (owner : ProgramId) : Result World := do
  require (w.accounts address = Account.vacant)
    (.runtime .accountAlreadyInUse)
  return w.setAccount address
    { owner := owner
      data := List.replicate size 0 }

/-
  Account creation by Anchor's `init`: fund the address, which
  may already hold lamports, then allocate and assign it.
-/
def createAccount
    (H : Host)
    (w : World)
    (payer address : Address)
    (size : ℕ)
    (owner : ProgramId) : Result World := do
  let funded ← w.topUp H payer address size
  funded.allocate address size owner

/- Anchor's `close`: refund the lamports and free the address. -/
def closeAccount
    (w : World)
    (address destination : Address) : World :=
  let refunded := Function.update w.lamports destination
    (w.lamports destination + w.lamports address)
  { w with
    accounts := Function.update w.accounts address .vacant
    lamports := Function.update refunded address 0 }

/- `AccountInfo::resize` followed by a top-up of the rent. -/
def growAccount
    (H : Host)
    (w : World)
    (payer address : Address)
    (size : ℕ) : Result World :=
  (w.setData address
      (resize (w.accounts address).data size)).topUp H
    payer address size

@[simp] theorem closeAccount_accounts
    (w : World)
    (address destination : Address) :
    (w.closeAccount address destination).accounts =
      Function.update w.accounts address .vacant := rfl

@[simp] theorem closeAccount_mints
    (w : World)
    (address destination : Address) :
    (w.closeAccount address destination).mints = w.mints := rfl

/- Everything but the balances. -/
def SameState (w w' : World) : Prop :=
  w'.accounts = w.accounts ∧ w'.mints = w.mints ∧
    w'.tokenAccounts = w.tokenAccounts ∧
      w'.programData = w.programData

theorem transfer_sameState
    {w w' : World}
    {source destination : Address}
    {amount : ℕ}
    (hTransfer : w.transfer source destination amount = .ok w') :
    w.SameState w' := by
  unfold transfer at hTransfer
  simp only [bind_eq_ok, require_eq_ok, pure_eq_ok]
    at hTransfer
  rcases hTransfer with ⟨_, _, rfl⟩
  exact ⟨rfl, rfl, rfl, rfl⟩

theorem topUp_sameState
    {H : Host}
    {w w' : World}
    {payer account : Address}
    {size : ℕ}
    (hTopUp : w.topUp H payer account size = .ok w') :
    w.SameState w' := by
  unfold topUp at hTopUp
  split_ifs at hTopUp
  · exact transfer_sameState hTopUp
  · rw [Except.ok.inj hTopUp]
    exact ⟨rfl, rfl, rfl, rfl⟩

/- Creation succeeds only on a vacant address, and fills it. -/
theorem createAccount_eq_ok
    {H : Host}
    {w w' : World}
    {payer address : Address}
    {size : ℕ}
    {owner : ProgramId}
    (hCreate :
      w.createAccount H payer address size owner = .ok w') :
    w.accounts address = .vacant ∧
      (w.setAccount address
        { owner := owner
          data := List.replicate size 0 }).SameState w' := by
  simp only [createAccount, allocate, bind_eq_ok,
    require_eq_ok, pure_eq_ok] at hCreate
  rcases hCreate with ⟨funded, hFunded, _, hVacant, rfl⟩
  rcases topUp_sameState hFunded with
    ⟨hAccounts, hMints, hTokens, hProgram⟩
  rw [hAccounts] at hVacant
  refine ⟨hVacant, ?_, hMints, hTokens, hProgram⟩
  simp [hAccounts]

theorem growAccount_sameState
    {H : Host}
    {w w' : World}
    {payer address : Address}
    {size : ℕ}
    (hGrow : w.growAccount H payer address size = .ok w') :
    (w.setData address
      (resize (w.accounts address).data size)).SameState w' :=
  topUp_sameState hGrow

end World

end Entros

------------------------------------------------------------
-- Typed Accounts
------------------------------------------------------------

namespace Entros

open Foundations

/- The bytes of an ASCII string literal. -/
def ascii (text : String) : List UInt8 :=
  text.toList.map fun c => UInt8.ofNat c.toNat

/- The discriminator Anchor gives to an account type. -/
def discriminator
    (H : Host)
    (name : String) : Bytes 8 :=
  Bytes.ofList 8
    (slice (H.sha256 (ascii ("account:" ++ name))).toList 0 8)

/- `AccountDeserialize::try_deserialize`. -/
def tryDeserialize
    (A : Type)
    [Packed A]
    (H : Host)
    (name : String)
    (data : List UInt8) : Result A := do
  require (8 ≤ data.length)
    (.framework .accountDiscriminatorNotFound)
  require (slice data 0 8 = (discriminator H name).toList)
    (.framework .accountDiscriminatorMismatch)
  okOr ((Packed.decode (data.drop 8)).map Prod.fst)
    (.framework .accountDidNotDeserialize)

/- The bytes `AccountSerialize::try_serialize` writes. -/
def serialized
    {A : Type}
    [Packed A]
    (H : Host)
    (name : String)
    (value : A) : List UInt8 :=
  Packed.encode (discriminator H name, value)

/- `try_serialize` over the front of a buffer. -/
def trySerialize
    {A : Type}
    [Packed A]
    (H : Host)
    (name : String)
    (value : A)
    (buffer : List UInt8) : Result (List UInt8) := do
  require ((serialized H name value).length ≤ buffer.length)
    (.framework .accountDidNotSerialize)
  return splice buffer 0 (serialized H name value)

section

variable {A : Type} [Packed A]
variable {H : Host} {name : String}

@[simp] theorem length_serialized (value : A) :
    (serialized H name value).length =
      8 + Packed.width A :=
  Packed.length_encode (discriminator H name, value)

/- What is written is read back, whatever follows it. -/
theorem tryDeserialize_serialized
    (value : A)
    (rest : List UInt8) :
    tryDeserialize A H name
        (serialized H name value ++ rest) = .ok value := by
  have hSplit :
      serialized H name value ++ rest =
        (discriminator H name).toList ++
          (Packed.encode value ++ rest) :=
    List.append_assoc _ _ _
  have hLength : (discriminator H name).toList.length = 8 :=
    (discriminator H name).toList_length
  rw [hSplit, tryDeserialize, slice_append_left hLength,
    List.drop_left' hLength, Packed.decode_encode]
  simp [okOr]

/- What is read back is the front of the data. -/
theorem eq_of_tryDeserialize
    {data : List UInt8}
    {value : A}
    (hRead : tryDeserialize A H name data = .ok value) :
    ∃ rest, data = serialized H name value ++ rest := by
  simp only [tryDeserialize, bind_eq_ok, require_eq_ok,
    okOr_eq_ok, Option.map_eq_some_iff] at hRead
  rcases hRead with
    ⟨_, hLength, _, hName, ⟨read, rest⟩, hDecode, rfl⟩
  refine ⟨rest, ?_⟩
  have hTake : data.take 8 = (discriminator H name).toList :=
    hName
  have hDrop := Packed.eq_of_decode _ _ _ hDecode
  calc data
      = data.take 8 ++ data.drop 8 :=
        (List.take_append_drop 8 data).symm
    _ = (discriminator H name).toList ++
          (Packed.encode read ++ rest) := by
        rw [hTake, hDrop]
    _ = serialized H name read ++ rest :=
        (List.append_assoc _ _ _).symm

/- A buffer of the exact size is overwritten completely. -/
theorem trySerialize_exact
    {value : A}
    {buffer written : List UInt8}
    (hWrite :
      trySerialize H name value buffer = .ok written)
    (hSize : buffer.length = 8 + Packed.width A) :
    written = serialized H name value := by
  simp only [trySerialize, bind_eq_ok, require_eq_ok,
    pure_eq_ok] at hWrite
  rcases hWrite with ⟨_, _, rfl⟩
  have hLength :
      (serialized H name value).length = buffer.length := by
    rw [length_serialized, hSize]
  simp [splice, List.drop_eq_nil_of_le, hLength]

end

namespace World

/- `Account::try_from`: check the owner, then deserialise. -/
def loadAccount
    (A : Type)
    [Packed A]
    (H : Host)
    (w : World)
    (name : String)
    (owner : ProgramId)
    (address : Address) : Result A := do
  require
    (¬ ((w.accounts address).owner = .system ∧
      w.lamports address = 0))
    (.framework .accountNotInitialized)
  require ((w.accounts address).owner = owner)
    (.framework .accountOwnedByWrongProgram)
  tryDeserialize A H name (w.accounts address).data

/- Write a typed account back to its address. -/
def saveAccount
    {A : Type}
    [Packed A]
    (H : Host)
    (w : World)
    (name : String)
    (address : Address)
    (value : A) : Result World := do
  let data ← trySerialize H name value
    (w.accounts address).data
  return w.setData address data

theorem loadAccount_eq_ok
    {A : Type}
    [Packed A]
    {H : Host}
    {w : World}
    {name : String}
    {owner : ProgramId}
    {address : Address}
    {value : A}
    (hLoad :
      w.loadAccount A H name owner address = .ok value) :
    (w.accounts address).owner = owner ∧
      tryDeserialize A H name (w.accounts address).data =
        .ok value := by
  simp only [loadAccount, bind_eq_ok, require_eq_ok] at hLoad
  rcases hLoad with ⟨_, _, _, hOwner, hRead⟩
  exact ⟨hOwner, hRead⟩

/- What has been saved can be read back. -/
theorem tryDeserialize_of_save
    {A : Type}
    [Packed A]
    {H : Host}
    {w w' : World}
    {name : String}
    {address : Address}
    {value : A}
    (hSave : w.saveAccount H name address value = .ok w') :
    tryDeserialize A H name (w'.accounts address).data =
      .ok value := by
  simp only [saveAccount, trySerialize, bind_eq_ok,
    require_eq_ok, pure_eq_ok] at hSave
  rcases hSave with ⟨data, ⟨_, _, rfl⟩, rfl⟩
  rw [setData_accounts, Function.update_self, splice,
    List.take_zero, List.nil_append]
  exact tryDeserialize_serialized value _

/- Saving over an account of the exact size replaces it. -/
theorem saveAccount_exact
    {A : Type}
    [Packed A]
    {H : Host}
    {w w' : World}
    {name : String}
    {address : Address}
    {value : A}
    (hSave : w.saveAccount H name address value = .ok w')
    (hSize :
      (w.accounts address).data.length =
        8 + Packed.width A) :
    w' = w.setData address (serialized H name value) := by
  simp only [saveAccount, bind_eq_ok, pure_eq_ok] at hSave
  rcases hSave with ⟨data, hWrite, rfl⟩
  rw [trySerialize_exact hWrite hSize]

/- The same, as an effect on the accounts. -/
theorem saveAccount_accounts
    {A : Type}
    [Packed A]
    {H : Host}
    {w w' : World}
    {name : String}
    {address : Address}
    {account : Account}
    {value : A}
    (hSave : w.saveAccount H name address value = .ok w')
    (hAccount : w.accounts address = account)
    (hSize : account.data.length = 8 + Packed.width A) :
    w'.accounts =
      Function.update w.accounts address
        { owner := account.owner
          data := serialized H name value } := by
  subst hAccount
  rw [saveAccount_exact hSave hSize]
  rfl

end World

end Entros

------------------------------------------------------------
-- Raw Account Data
------------------------------------------------------------

namespace Entros

open Foundations

/- The account of a wallet, which pays and is paid. -/
def walletAddress (wallet : Signer) : Address :=
  .key wallet.key

/- A field read by index; a missing byte is a panic. -/
def readField
    (A : Type)
    [Packed A]
    (data : List UInt8)
    (offset : ℕ) : Result A :=
  okOr (fieldAt A data offset) .panicked

/-
  `copy_from_slice` into a window of the data; a window that
  does not fit is a panic.
-/
def writeField
    {A : Type}
    [Packed A]
    (data : List UInt8)
    (offset : ℕ)
    (value : A) : Result (List UInt8) := do
  require (offset + Packed.width A ≤ data.length) .panicked
  return splice data offset (Packed.encode value)

theorem readField_eq_ok
    {A : Type}
    [Packed A]
    {data : List UInt8}
    {offset : ℕ}
    {value : A} :
    readField A data offset = .ok value ↔
      fieldAt A data offset = some value :=
  okOr_eq_ok

theorem writeField_eq_ok
    {A : Type}
    [Packed A]
    {data written : List UInt8}
    {offset : ℕ}
    {value : A} :
    writeField data offset value = .ok written ↔
      offset + Packed.width A ≤ data.length ∧
        splice data offset (Packed.encode value) =
          written := by
  simp only [writeField, bind_eq_ok, require_eq_ok,
    pure_eq_ok, exists_const]

/- A write keeps the length of the data. -/
theorem length_writeField
    {A : Type}
    [Packed A]
    {data written : List UInt8}
    {offset : ℕ}
    {value : A}
    (hWrite : writeField data offset value = .ok written) :
    written.length = data.length := by
  rcases writeField_eq_ok.mp hWrite with ⟨hBound, rfl⟩
  apply length_splice
  rw [Packed.length_encode]
  exact hBound

end Entros
