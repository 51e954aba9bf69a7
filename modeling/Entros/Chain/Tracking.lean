import Entros.Chain.Locks

/-
  The operations of the runtime stay inside the accounts that
  they are given: what they do on a ledger they also do on any
  copy of it that agrees on these accounts.

  Key theorems include:
    * `transfer_tracks`
    * `createAccount_tracks`
    * `growAccount_tracks`
    * `loadAccount_copy`
    * `saveAccount_tracks`
    * `burn_tracks`
-/

------------------------------------------------------------
-- Accounts and Lamports
------------------------------------------------------------

namespace Entros

open Foundations

variable {H : Host} {Z : Zone Resource} {base w : World}
variable {payer address source destination : Address}
variable {amount size : ℕ} {owner : ProgramId}

/-
  An account that is open for writing, and one that can at
  least be paid into.
-/
def Zone.Opens (Z : Zone Resource) (address : Address) :
    Prop :=
  .account address ∈ Z.writes

def Zone.Accepts (Z : Zone Resource) (address : Address) :
    Prop :=
  .account address ∈ Z.writes ∨ .account address ∈ Z.pots

namespace Zone.Opens

theorem account
    (hOpen : Zone.Opens Z address)
    (hFaithful : Z.Faithful base w) :
    (Z.copy base w).accounts address =
      w.accounts address :=
  Faithful.account hFaithful (Z.writes_subset hOpen)

theorem lamports
    (hOpen : Zone.Opens Z address)
    (hFaithful : Z.Faithful base w) :
    (Z.copy base w).lamports address =
      w.lamports address :=
  Faithful.lamports hFaithful (Z.writes_subset hOpen)

theorem accepts (hOpen : Zone.Opens Z address) :
    Zone.Accepts Z address := .inl hOpen

end Zone.Opens

section

variable (hFaithful : Z.Faithful base w)

include hFaithful

theorem transfer_tracks
    (hSource : Zone.Opens Z source)
    (hDestination : Zone.Accepts Z destination) :
    Tracks Z base (w.transfer source destination amount)
      ((Z.copy base w).transfer source destination
        amount) := by
  unfold World.transfer
  rw [hSource.lamports hFaithful]
  apply Mirrors.value rfl
  intro _ _
  exact ((setLamports_tame (w.lamports source - amount)
    hSource).comp
      (addLamports_tame amount hDestination)).tracks
        hFaithful

theorem topUp_tracks
    (hPayer : Zone.Opens Z payer)
    (hAddress : Zone.Opens Z address) :
    Tracks Z base (w.topUp H payer address size)
      ((Z.copy base w).topUp H payer address size) := by
  unfold World.topUp
  rw [hAddress.lamports hFaithful]
  apply Mirrors.ite Iff.rfl
  · intro _
    exact transfer_tracks hFaithful hPayer hAddress.accepts
  · intro _
    exact .ok hFaithful

theorem setAccount_tracks
    (account : Account)
    (hAddress : Zone.Opens Z address) :
    Tracks Z base
      (.ok (w.setAccount address account) : Result World)
      (.ok ((Z.copy base w).setAccount address account)) :=
  (setAccount_tame account hAddress).tracks hFaithful

theorem setData_tracks
    (data : List UInt8)
    (hAddress : Zone.Opens Z address) :
    Tracks Z base
      (.ok (w.setData address data) : Result World)
      (.ok ((Z.copy base w).setData address data)) := by
  unfold World.setData
  rw [hAddress.account hFaithful]
  exact setAccount_tracks hFaithful _ hAddress

theorem allocate_tracks (hAddress : Zone.Opens Z address) :
    Tracks Z base (w.allocate address size owner)
      ((Z.copy base w).allocate address size owner) := by
  unfold World.allocate
  rw [hAddress.account hFaithful]
  apply Mirrors.value rfl
  intro _ _
  exact setAccount_tracks hFaithful _ hAddress

theorem createAccount_tracks
    (hPayer : Zone.Opens Z payer)
    (hAddress : Zone.Opens Z address) :
    Tracks Z base
      (w.createAccount H payer address size owner)
      ((Z.copy base w).createAccount H payer address size
        owner) := by
  unfold World.createAccount
  apply Mirrors.bind (topUp_tracks hFaithful hPayer hAddress)
  intro funded _ hFunded
  exact allocate_tracks hFunded hAddress

theorem closeAccount_tracks
    (hAddress : Zone.Opens Z address)
    (hDestination : Zone.Accepts Z destination) :
    Tracks Z base
      (.ok (w.closeAccount address destination) :
        Result World)
      (.ok ((Z.copy base w).closeAccount address
        destination)) := by
  unfold World.closeAccount
  rw [hAddress.lamports hFaithful]
  exact (((setAccount_tame .vacant hAddress).comp
    (addLamports_tame (w.lamports address)
      hDestination)).comp
        (setLamports_tame 0 hAddress)).tracks hFaithful

theorem growAccount_tracks
    (hPayer : Zone.Opens Z payer)
    (hAddress : Zone.Opens Z address) :
    Tracks Z base (w.growAccount H payer address size)
      ((Z.copy base w).growAccount H payer address
        size) := by
  unfold World.growAccount World.setData
  rw [hAddress.account hFaithful]
  have hTame :
      Tame Z base fun state =>
        state.setAccount address
          { owner := (w.accounts address).owner
            data := resize (w.accounts address).data size } :=
    setAccount_tame _ hAddress
  rw [← hTame.copy]
  exact topUp_tracks (hTame.faithful w hFaithful) hPayer
    hAddress

end

end Entros

------------------------------------------------------------
-- Typed Accounts
------------------------------------------------------------

namespace Entros

open Foundations

variable {H : Host} {Z : Zone Resource} {base w : World}
variable {A : Type} [Packed A] {name : String}
variable {owner : ProgramId} {address : Address}

/- A typed account is read from its own cell. -/
theorem loadAccount_copy
    (hFaithful : Z.Faithful base w)
    (hRead : .account address ∈ Z.reads) :
    (Z.copy base w).loadAccount A H name owner address =
      w.loadAccount A H name owner address := by
  unfold World.loadAccount
  rw [Faithful.account hFaithful hRead,
    Faithful.lamports hFaithful hRead]

theorem saveAccount_tracks
    (hFaithful : Z.Faithful base w)
    (value : A)
    (hAddress : Zone.Opens Z address) :
    Tracks Z base (w.saveAccount H name address value)
      ((Z.copy base w).saveAccount H name address
        value) := by
  unfold World.saveAccount
  rw [hAddress.account hFaithful]
  apply Mirrors.value rfl
  intro data _
  exact setData_tracks hFaithful data hAddress

end Entros

------------------------------------------------------------
-- Tokens
------------------------------------------------------------

namespace Entros

open Foundations

variable {H : Host} {Z : Zone Resource} {base w : World}
variable {wallet : Pubkey} {amount : ℕ}

/- The cells of a wallet's mint and token account are open. -/
structure Zone.OpensMint
    (H : Host)
    (Z : Zone Resource)
    (wallet : Pubkey) : Prop where
  mint : .mint wallet ∈ Z.writes
  account :
    Zone.Opens Z (H.findProgramAddress (.mint wallet))

structure Zone.OpensToken
    (H : Host)
    (Z : Zone Resource)
    (wallet : Pubkey) : Prop where
  token : .token wallet ∈ Z.writes
  account :
    Zone.Opens Z
      (H.findProgramAddress (.associatedToken wallet))

namespace Zone

theorem OpensMint.read
    (hMint : Zone.OpensMint H Z wallet)
    (hFaithful : Z.Faithful base w) :
    (Z.copy base w).mints wallet = w.mints wallet :=
  Faithful.mint hFaithful (Z.writes_subset hMint.mint)

theorem OpensToken.read
    (hToken : Zone.OpensToken H Z wallet)
    (hFaithful : Z.Faithful base w) :
    (Z.copy base w).tokenAccounts wallet =
      w.tokenAccounts wallet :=
  Faithful.token hFaithful (Z.writes_subset hToken.token)

end Zone

section

variable (hFaithful : Z.Faithful base w)

include hFaithful

theorem createMint_tracks
    {user : Signer}
    (hPayer : Zone.Opens Z (.key user.key))
    (hMint : Zone.OpensMint H Z user.key) :
    Tracks Z base (w.createMint H user)
      ((Z.copy base w).createMint H user) := by
  unfold World.createMint
  dsimp only
  rw [hMint.read hFaithful, hMint.account.lamports hFaithful]
  apply Mirrors.value rfl
  intro _ _
  apply Mirrors.bind
    (transfer_tracks hFaithful hPayer hMint.account.accepts)
  intro funded _ hFunded
  exact (setMint_tame _ hMint.mint).tracks hFunded

theorem createTokenAccount_tracks
    {payer : Signer}
    {idempotent : Bool}
    (hPayer : Zone.Opens Z (.key payer.key))
    (hToken : Zone.OpensToken H Z wallet) :
    Tracks Z base
      (w.createTokenAccount H payer wallet idempotent)
      ((Z.copy base w).createTokenAccount H payer wallet
        idempotent) := by
  unfold World.createTokenAccount
  rw [hToken.read hFaithful]
  cases w.tokenAccounts wallet with
  | none =>
      apply Mirrors.bind
        (topUp_tracks hFaithful hPayer hToken.account)
      intro funded _ hFunded
      exact (setToken_tame _ hToken.token).tracks hFunded
  | some token =>
      cases idempotent with
      | false => exact .error _
      | true => exact .ok hFaithful

theorem mintOne_tracks
    (hMint : Zone.OpensMint H Z wallet)
    (hToken : Zone.OpensToken H Z wallet) :
    Tracks Z base (w.mintOne wallet)
      ((Z.copy base w).mintOne wallet) := by
  unfold World.mintOne
  rw [hMint.read hFaithful, hToken.read hFaithful]
  apply Mirrors.value rfl
  intro mint _
  apply Mirrors.value rfl
  intro token _
  exact ((setMint_tame _ hMint.mint).comp
    (setToken_tame _ hToken.token)).tracks hFaithful

theorem approve_tracks
    {owner : Signer}
    {delegate : Pubkey}
    (hToken : Zone.OpensToken H Z owner.key) :
    Tracks Z base (w.approve owner delegate amount)
      ((Z.copy base w).approve owner delegate amount) := by
  unfold World.approve
  rw [hToken.read hFaithful]
  apply Mirrors.value rfl
  intro token _
  exact (setToken_tame _ hToken.token).tracks hFaithful

theorem revoke_tracks
    {authority : Signer}
    (hToken : Zone.OpensToken H Z wallet) :
    Tracks Z base (w.revoke wallet authority)
      ((Z.copy base w).revoke wallet authority) := by
  unfold World.revoke
  rw [hToken.read hFaithful]
  apply Mirrors.value rfl
  intro token _
  apply Mirrors.value rfl
  intro _ _
  exact (setToken_tame _ hToken.token).tracks hFaithful

theorem burn_tracks
    {authority : Signer}
    (hMint : Zone.OpensMint H Z wallet)
    (hToken : Zone.OpensToken H Z wallet) :
    Tracks Z base (w.burn wallet authority amount)
      ((Z.copy base w).burn wallet authority amount) := by
  unfold World.burn
  rw [hMint.read hFaithful, hToken.read hFaithful]
  apply Mirrors.value rfl
  intro mint _
  apply Mirrors.value rfl
  intro token _
  apply Mirrors.value rfl
  intro _ _
  apply Mirrors.value rfl
  intro spent _
  exact ((setMint_tame _ hMint.mint).comp
    (setToken_tame _ hToken.token)).tracks hFaithful

theorem closeMint_tracks
    {destination : Signer}
    (hMint : Zone.OpensMint H Z wallet)
    (hDestination :
      Zone.Opens Z (.key destination.key)) :
    Tracks Z base (w.closeMint H wallet destination)
      ((Z.copy base w).closeMint H wallet
        destination) := by
  unfold World.closeMint
  rw [hMint.read hFaithful]
  apply Mirrors.value rfl
  intro mint _
  apply Mirrors.value rfl
  intro _ _
  rcases Tracks.copy_eq
    (closeAccount_tracks hFaithful hMint.account
      hDestination.accepts) with ⟨hCopy, hClosed⟩
  dsimp only
  rw [hCopy]
  exact (setMint_tame none hMint.mint).tracks hClosed

theorem closeTokenAccount_tracks
    {owner : Signer}
    (hToken : Zone.OpensToken H Z owner.key)
    (hOwner : Zone.Opens Z (.key owner.key)) :
    Tracks Z base (w.closeTokenAccount H owner)
      ((Z.copy base w).closeTokenAccount H owner) := by
  unfold World.closeTokenAccount
  rw [hToken.read hFaithful]
  apply Mirrors.value rfl
  intro token _
  apply Mirrors.value rfl
  intro _ _
  rcases Tracks.copy_eq
    (closeAccount_tracks hFaithful hToken.account
      hOwner.accepts) with ⟨hCopy, hClosed⟩
  dsimp only
  rw [hCopy]
  exact (setToken_tame none hToken.token).tracks hClosed

end

end Entros

------------------------------------------------------------
-- Locked Accounts
------------------------------------------------------------

namespace Entros

open Foundations

variable {H : Host} {locks : List Lock}
variable {address : Address} {wallet : Pubkey}

/- A mutable account of a context is open for writing. -/
theorem writes_of_mem
    {lock : Lock}
    {resource : Resource}
    (hMem : lock ∈ locks)
    (hAccess : lock.access = .mutable)
    (hLocation : lock.location = resource.location H) :
    resource ∈ (lockZone H locks).writes := by
  constructor
  · refine ⟨lock, hMem, ?_, hLocation⟩
    rw [hAccess]
    decide
  · refine ⟨lock, hMem, ?_, hLocation⟩
    rw [hAccess]
    decide

theorem opens_of_mem (hMem : Lock.mutable address ∈ locks) :
    Zone.Opens (lockZone H locks) address :=
  writes_of_mem hMem rfl rfl

theorem reads_of_mem (hMem : Lock.shared address ∈ locks) :
    .account address ∈ (lockZone H locks).reads :=
  ⟨_, hMem, Access.noConfusion, rfl⟩

/- A credited account accepts lamports. -/
theorem accepts_of_mem
    (hMem : Lock.credited address ∈ locks) :
    Zone.Accepts (lockZone H locks) address := by
  by_cases hRead :
      Locked H locks (· ≠ .credited) (.account address)
  · left
    exact ⟨hRead, _, hMem, Access.noConfusion, rfl⟩
  · right
    exact ⟨⟨_, hMem, rfl, rfl⟩, hRead⟩

theorem opensMint_of_mem
    (hMem :
      Lock.mutable (H.findProgramAddress (.mint wallet)) ∈
        locks) :
    Zone.OpensMint H (lockZone H locks) wallet :=
  ⟨writes_of_mem hMem rfl rfl, opens_of_mem hMem⟩

theorem opensToken_of_mem
    (hMem :
      Lock.mutable
          (H.findProgramAddress (.associatedToken wallet)) ∈
        locks) :
    Zone.OpensToken H (lockZone H locks) wallet :=
  ⟨writes_of_mem hMem rfl rfl, opens_of_mem hMem⟩

/- A writable remaining account is open for writing. -/
theorem opens_of_meta
    {accounts : List AccountMeta}
    {account : AccountMeta}
    (hMem : account ∈ accounts)
    (hWritable : account.writable = true) :
    Zone.Opens
      (lockZone H (locks ++ accounts.map Lock.ofMeta))
      account.address := by
  have hLock :
      Lock.ofMeta account = .mutable account.address :=
    if_pos hWritable
  apply opens_of_mem
  rw [← hLock]
  apply List.mem_append_right
  exact List.mem_map_of_mem hMem

end Entros
