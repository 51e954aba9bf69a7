import Entros.Chain.Token
import Entros.Chain.Transaction
import Entros.Foundations.Zones

/-
  The ledger as a store of cells, and the locks of a call: the
  accounts that its context declares, and what the call does
  with each of them.

  Key definitions include:
    * `Resource`
    * `Cell`
    * `World.cell`
    * `Location`
    * `Access`
    * `Lock`
    * `lockZone`
    * `Lock.Conflicts`

  Key theorems include:
    * `World.cell_ext`
    * `setAccount_tame`
    * `addLamports_tame`
    * `lockZone_apart`
-/

------------------------------------------------------------
-- Cells
------------------------------------------------------------

namespace Entros

open Foundations

/- What the ledger keeps separately. -/
inductive Resource where
| account (address : Address)
| mint (wallet : Pubkey)
| token (wallet : Pubkey)
| programData
deriving DecidableEq

/- What a cell of the ledger holds. -/
inductive Cell where
| account (account : Account) (lamports : ℕ)
| mint (mint : Option TokenMint)
| token (token : Option TokenAccount)
| programData (data : List UInt8)

/- Pay lamports into a cell. -/
def Cell.credit (amount : ℕ) : Cell → Cell
| .account stored lamports =>
    .account stored (lamports + amount)
| cell => cell

/- Only lamports can be added to a cell. -/
def Cell.add : Cell → Cell → Cell
| .account _ lamports, .account stored balance =>
    .account stored (lamports + balance)
| _, content => content

instance : Content Cell where
  add := Cell.add
  add_left_comm := by
    intro first second content
    cases first <;> cases second <;> cases content <;>
      simp [Cell.add, Nat.add_left_comm]

namespace Cell

/- The lamports of a cell. -/
def lamports : Cell → ℕ
| .account _ balance => balance
| .mint _ => 0
| .token _ => 0
| .programData _ => 0

/- What is added to a cell is a payment. -/
theorem add_eq_credit (added content : Cell) :
    added.add content = content.credit added.lamports := by
  cases added with
  | account _ lamports =>
      cases content with
      | account stored balance =>
          exact congrArg (Cell.account stored)
            (Nat.add_comm ..)
      | mint _ => rfl
      | token _ => rfl
      | programData _ => rfl
  | mint _ => cases content <;> rfl
  | token _ => cases content <;> rfl
  | programData _ => cases content <;> rfl

/- Payments into an account add up. -/
theorem lamports_foldl
    (additions : List Cell)
    (stored : Account)
    (balance : ℕ) :
    (additions.foldl (fun content added => Cell.add added content)
        (.account stored balance)).lamports =
      balance + (additions.map lamports).sum := by
  induction additions generalizing balance with
  | nil => rfl
  | cons added rest ih =>
      rw [List.foldl_cons, add_eq_credit, List.map_cons,
        List.sum_cons, ← Nat.add_assoc]
      exact ih (balance + added.lamports)

end Cell

namespace World

def cell (w : World) : Resource → Cell
| .account address =>
    .account (w.accounts address) (w.lamports address)
| .mint wallet => .mint (w.mints wallet)
| .token wallet => .token (w.tokenAccounts wallet)
| .programData => .programData w.programData

open Classical in
/-
  Some cells of one ledger on top of another, and some
  balances of both together.
-/
noncomputable def blend
    (taken added : Set Resource)
    (w base : World) : World where
  accounts address :=
    if .account address ∈ taken then
      w.accounts address
    else
      base.accounts address
  lamports address :=
    if .account address ∈ taken then
      w.lamports address
    else if .account address ∈ added then
      w.lamports address + base.lamports address
    else
      base.lamports address
  mints wallet :=
    if .mint wallet ∈ taken then
      w.mints wallet
    else
      base.mints wallet
  tokenAccounts wallet :=
    if .token wallet ∈ taken then
      w.tokenAccounts wallet
    else
      base.tokenAccounts wallet
  programData :=
    if .programData ∈ taken then
      w.programData
    else
      base.programData

/- The ledger without accounts and lamports. -/
def empty : World where
  accounts _ := .vacant
  lamports _ := 0
  mints _ := none
  tokenAccounts _ := none
  programData := []

/- The cells determine the ledger. -/
theorem cell_ext
    {w w' : World}
    (hCells : ∀ resource, w.cell resource = w'.cell resource) :
    w = w' := by
  have hAccount (address : Address) :
      w.accounts address = w'.accounts address ∧
        w.lamports address = w'.lamports address :=
    Cell.account.inj (hCells (.account address))
  have hMint (wallet : Pubkey) :
      w.mints wallet = w'.mints wallet :=
    Cell.mint.inj (hCells (.mint wallet))
  have hToken (wallet : Pubkey) :
      w.tokenAccounts wallet = w'.tokenAccounts wallet :=
    Cell.token.inj (hCells (.token wallet))
  have hProgram : w.programData = w'.programData :=
    Cell.programData.inj (hCells .programData)
  cases w
  cases w'
  congr
  · funext address
    exact (hAccount address).1
  · funext address
    exact (hAccount address).2
  · funext wallet
    exact hMint wallet
  · funext wallet
    exact hToken wallet

noncomputable instance : Store World Resource Cell where
  read := cell
  zero := empty
  blend := blend
  ext := cell_ext
  fill_zero := by
    intro resource content
    cases resource <;> cases content <;>
      simp [cell, empty, Content.add, Cell.add]
  read_blend_taken := by
    intro taken added resource w base hTaken
    cases resource <;> simp [cell, blend, hTaken]
  read_blend_added := by
    intro taken added resource w base hTaken hAdded
    cases resource <;>
      simp [cell, blend, hTaken, hAdded, Content.add,
        Cell.add]
  read_blend_rest := by
    intro taken added resource w base hTaken hAdded
    cases resource <;> simp [cell, blend, hTaken, hAdded]

end World

end Entros

------------------------------------------------------------
-- Reading a Copy
------------------------------------------------------------

namespace Entros

open Foundations

variable {Z : Zone Resource} {base w w' : World}

namespace Faithful

variable {address : Address} {wallet : Pubkey}

theorem account
    (hFaithful : Z.Faithful base w)
    (hRead : .account address ∈ Z.reads) :
    (Z.copy base w).accounts address =
      w.accounts address :=
  (Cell.account.inj (hFaithful _ hRead)).1.symm

theorem lamports
    (hFaithful : Z.Faithful base w)
    (hRead : .account address ∈ Z.reads) :
    (Z.copy base w).lamports address =
      w.lamports address :=
  (Cell.account.inj (hFaithful _ hRead)).2.symm

theorem mint
    (hFaithful : Z.Faithful base w)
    (hRead : .mint wallet ∈ Z.reads) :
    (Z.copy base w).mints wallet = w.mints wallet :=
  (Cell.mint.inj (hFaithful _ hRead)).symm

theorem token
    (hFaithful : Z.Faithful base w)
    (hRead : .token wallet ∈ Z.reads) :
    (Z.copy base w).tokenAccounts wallet =
      w.tokenAccounts wallet :=
  (Cell.token.inj (hFaithful _ hRead)).symm

theorem programData
    (hFaithful : Z.Faithful base w)
    (hRead : .programData ∈ Z.reads) :
    (Z.copy base w).programData = w.programData :=
  (Cell.programData.inj (hFaithful _ hRead)).symm

end Faithful

end Entros

------------------------------------------------------------
-- Writing One Cell
------------------------------------------------------------

namespace Entros

open Foundations

namespace World

/- The single-cell updates that the instructions consist of. -/
def setLamports
    (w : World)
    (address : Address)
    (amount : ℕ) : World :=
  { w with
    lamports := Function.update w.lamports address amount }

def addLamports
    (w : World)
    (address : Address)
    (amount : ℕ) : World :=
  w.setLamports address (w.lamports address + amount)

def setMint
    (w : World)
    (wallet : Pubkey)
    (mint : Option TokenMint) : World :=
  { w with mints := Function.update w.mints wallet mint }

def setToken
    (w : World)
    (wallet : Pubkey)
    (token : Option TokenAccount) : World :=
  { w with
    tokenAccounts :=
      Function.update w.tokenAccounts wallet token }

end World

variable {Z : Zone Resource} {base : World}
variable {address : Address} {wallet : Pubkey}

theorem setAccount_tame
    (account : Account)
    (hWrite : .account address ∈ Z.writes) :
    Tame Z base (fun w => w.setAccount address account) := by
  apply Tame.of_cell (.account address)
    (fun | .account _ lamports => .account account lamports
         | cell => cell) hWrite
  · intro w
    exact congrArg (Cell.account · _)
      (Function.update_self ..)
  · intro w resource hOther
    cases resource with
    | account other =>
        have hNe : other ≠ address :=
          fun hSame => hOther (congrArg _ hSame)
        exact congrArg (Cell.account · _)
          (Function.update_of_ne hNe ..)
    | mint _ => rfl
    | token _ => rfl
    | programData => rfl

theorem setLamports_cell_of_ne
    {w : World}
    {resource : Resource}
    {amount : ℕ}
    (hNe : resource ≠ .account address) :
    (w.setLamports address amount).cell resource =
      w.cell resource := by
  cases resource with
  | account other =>
      have hOther : other ≠ address :=
        fun hSame => hNe (congrArg _ hSame)
      exact congrArg (Cell.account _)
        (Function.update_of_ne hOther ..)
  | mint _ => rfl
  | token _ => rfl
  | programData => rfl

theorem setLamports_tame
    (amount : ℕ)
    (hWrite : .account address ∈ Z.writes) :
    Tame Z base
      (fun w => w.setLamports address amount) := by
  apply Tame.of_cell (.account address)
    (fun | .account account _ => .account account amount
         | cell => cell) hWrite
  · intro w
    exact congrArg (Cell.account _)
      (Function.update_self ..)
  · intro w resource hNe
    exact setLamports_cell_of_ne hNe

/- A credit, whether the account is open or a pot. -/
theorem addLamports_tame
    (amount : ℕ)
    (hAccepts :
      .account address ∈ Z.writes ∨
        .account address ∈ Z.pots) :
    Tame Z base
      (fun w => w.addLamports address amount) := by
  have hSelf (w : World) :
      (w.addLamports address amount).cell
          (.account address) =
        (w.cell (.account address)).credit amount :=
    congrArg (Cell.account _) (Function.update_self ..)
  have hOther
      (w : World)
      (resource : Resource)
      (hNe : resource ≠ .account address) :
      (w.addLamports address amount).cell resource =
        w.cell resource :=
    setLamports_cell_of_ne hNe
  rcases hAccepts with hWrite | hPot
  · exact Tame.of_cell _ _ hWrite hSelf hOther
  · apply Tame.of_pot _ _ hPot ?_ hSelf hOther
    intro w
    exact congrArg (Cell.account _)
      (Nat.add_right_comm ..)

theorem setMint_tame
    (mint : Option TokenMint)
    (hWrite : .mint wallet ∈ Z.writes) :
    Tame Z base (fun w => w.setMint wallet mint) := by
  apply Tame.of_cell (.mint wallet) (fun _ => .mint mint)
    hWrite
  · intro w
    exact congrArg Cell.mint (Function.update_self ..)
  · intro w resource hOther
    cases resource with
    | account _ => rfl
    | mint other =>
        have hNe : other ≠ wallet :=
          fun hSame => hOther (congrArg _ hSame)
        exact congrArg Cell.mint
          (Function.update_of_ne hNe ..)
    | token _ => rfl
    | programData => rfl

theorem setToken_tame
    (token : Option TokenAccount)
    (hWrite : .token wallet ∈ Z.writes) :
    Tame Z base (fun w => w.setToken wallet token) := by
  apply Tame.of_cell (.token wallet) (fun _ => .token token)
    hWrite
  · intro w
    exact congrArg Cell.token (Function.update_self ..)
  · intro w resource hOther
    cases resource with
    | account _ => rfl
    | mint _ => rfl
    | token other =>
        have hNe : other ≠ wallet :=
          fun hSame => hOther (congrArg _ hSame)
        exact congrArg Cell.token
          (Function.update_of_ne hNe ..)
    | programData => rfl

theorem setProgramData_tame
    (data : List UInt8)
    (hWrite : .programData ∈ Z.writes) :
    Tame Z base
      (fun w => { w with programData := data }) := by
  apply Tame.of_cell .programData
    (fun _ => .programData data) hWrite
  · intro w
    rfl
  · intro w resource hOther
    cases resource with
    | account _ => rfl
    | mint _ => rfl
    | token _ => rfl
    | programData => exact absurd rfl hOther

end Entros

------------------------------------------------------------
-- Locks
------------------------------------------------------------

namespace Entros

open Foundations

/-
  The accounts of the ledger; the registry's programdata
  account is kept apart from the others.
-/
inductive Location where
| address (address : Address)
| programData
deriving DecidableEq

/-
  The account that keeps a cell: a wallet's mint and its
  token account are accounts at derived addresses.
-/
def Resource.location (H : Host) : Resource → Location
| .account address => .address address
| .mint wallet =>
    .address (H.findProgramAddress (.mint wallet))
| .token wallet =>
    .address (H.findProgramAddress (.associatedToken wallet))
| .programData => .programData

/-
  What a call does with an account of its context: the
  account is declared without `mut`, or with it, or with it
  and the call only pays into it.
-/
inductive Access where
| shared
| mutable
| credited
deriving DecidableEq

structure Lock where
  location : Location
  access : Access
deriving DecidableEq

namespace Lock

def shared (address : Address) : Lock :=
  { location := .address address
    access := .shared }

def mutable (address : Address) : Lock :=
  { location := .address address
    access := .mutable }

def credited (address : Address) : Lock :=
  { location := .address address
    access := .credited }

/- A remaining account carries the flag of its meta. -/
def ofMeta (account : AccountMeta) : Lock :=
  if account.writable then
    .mutable account.address
  else
    .shared account.address

/- Two calls may share what both read or both pay into. -/
def Conflicts (lock lock' : Lock) : Prop :=
  lock.location = lock'.location ∧
    ¬ (lock.access = lock'.access ∧
      lock.access ≠ .mutable)

theorem Conflicts.symm
    {lock lock' : Lock}
    (hConflicts : lock.Conflicts lock') :
    lock'.Conflicts lock := by
  refine ⟨hConflicts.1.symm, ?_⟩
  rintro ⟨hAccess, hMutable⟩
  exact hConflicts.2 ⟨hAccess.symm, hAccess ▸ hMutable⟩

instance (lock lock' : Lock) :
    Decidable (lock.Conflicts lock') :=
  inferInstanceAs (Decidable (_ ∧ _))

end Lock

/- Some lock of the list is at the place and is as described. -/
def Locked
    (H : Host)
    (locks : List Lock)
    (accessed : Access → Prop)
    (resource : Resource) : Prop :=
  ∃ lock ∈ locks,
    accessed lock.access ∧
      lock.location = resource.location H

/-
  The cells of the locked accounts.  An account that is
  passed again for another use is not a pot.
-/
def lockZone
    (H : Host)
    (locks : List Lock) : Zone Resource where
  reads :=
    { resource | Locked H locks (· ≠ .credited) resource }
  writes :=
    { resource |
      Locked H locks (· ≠ .credited) resource ∧
        Locked H locks (· ≠ .shared) resource }
  pots :=
    { resource |
      Locked H locks (· = .credited) resource ∧
        ¬ Locked H locks (· ≠ .credited) resource }
  writes_subset := fun _ hMem => hMem.1
  pots_disjoint := by
    apply Set.disjoint_left.mpr
    intro resource hPot hRead
    exact hPot.2 hRead

section

variable {H : Host} {locks locks' : List Lock}

/- What is paid into is changed. -/
theorem locked_of_credited
    {resource : Resource}
    (hPot : Locked H locks (· = .credited) resource) :
    Locked H locks (· ≠ .shared) resource := by
  rcases hPot with ⟨lock, hMem, hAccess, hLocation⟩
  refine ⟨lock, hMem, ?_, hLocation⟩
  rw [hAccess]
  decide

/- A cell that the one changes and the other reads. -/
theorem exists_conflict
    {resource : Resource}
    (hChanged : Locked H locks (· ≠ .shared) resource)
    (hRead : Locked H locks' (· ≠ .credited) resource) :
    ∃ lock ∈ locks, ∃ lock' ∈ locks',
      lock.Conflicts lock' := by
  rcases hChanged with ⟨lock, hMem, hAccess, hLocation⟩
  rcases hRead with ⟨lock', hMem', hAccess', hLocation'⟩
  refine ⟨lock, hMem, lock', hMem',
    hLocation.trans hLocation'.symm, ?_⟩
  rintro ⟨hSame, hMutable⟩
  cases hKind : lock.access with
  | shared => exact hAccess hKind
  | mutable => exact hMutable hKind
  | credited => exact hAccess' (hSame ▸ hKind)

/- Locks without conflicts keep their zones apart. -/
theorem lockZone_apart
    (hFree :
      ∀ lock ∈ locks, ∀ lock' ∈ locks',
        ¬ lock.Conflicts lock') :
    (lockZone H locks).Apart (lockZone H locks') := by
  have hNever
      {resource : Resource}
      (hChanged : Locked H locks (· ≠ .shared) resource)
      (hRead :
        Locked H locks' (· ≠ .credited) resource) :
      False := by
    rcases exists_conflict hChanged hRead with
      ⟨lock, hMem, lock', hMem', hConflicts⟩
    exact hFree lock hMem lock' hMem' hConflicts
  have hNever'
      {resource : Resource}
      (hChanged : Locked H locks' (· ≠ .shared) resource)
      (hRead : Locked H locks (· ≠ .credited) resource) :
      False := by
    rcases exists_conflict hChanged hRead with
      ⟨lock', hMem', lock, hMem, hConflicts⟩
    exact hFree lock hMem lock' hMem' hConflicts.symm
  constructor
  · apply Set.disjoint_left.mpr
    intro resource hWrite hRead
    exact hNever hWrite.2 hRead
  · apply Set.disjoint_left.mpr
    intro resource hPot hRead
    exact hNever (locked_of_credited hPot.1) hRead
  · apply Set.disjoint_left.mpr
    intro resource hWrite hRead
    exact hNever' hWrite.2 hRead
  · apply Set.disjoint_left.mpr
    intro resource hPot hRead
    exact hNever' (locked_of_credited hPot.1) hRead

end

end Entros
