import Entros.Foundations.Books
import Entros.System.Vault

/-
  Journals of lamports: what an operation moves, from where,
  to where and why.

  Key definitions include:
    * `Reason`
    * `Incidental`
    * `Pays`
    * `Anchor.storedFee`

  Key theorems include:
    * `Pays.trans`
    * `transfer_pays`
    * `createPda_pays`
    * `closeAccount_pays`
    * `Anchor.payFee_pays`
    * `Anchor.issueToken_pays`
-/

------------------------------------------------------------
-- Reasons
------------------------------------------------------------

namespace Entros

open Foundations

/- Why lamports are moved. -/
inductive Reason where
| rent
| refund
| fee
| stake
| unstake
| withdrawal
| gift
deriving DecidableEq

/- Everything but rent and its refund is a due of the call. -/
def Reason.isDue : Reason → Bool
| .rent => false
| .refund => false
| .fee => true
| .stake => true
| .unstake => true
| .withdrawal => true
| .gift => true

abbrev Posting := Entry Address Reason

def treasuryAddress (H : Host) : Address :=
  H.findProgramAddress .protocolTreasury

/- The treasury and the stake vault. -/
def Reserved (H : Host) (address : Address) : Prop :=
  address = treasuryAddress H ∨ address = vaultAddress H

/-
  The entries about rent: a signer funds an account, or a
  closed account of a program is refunded to a party of the
  call.  A signer's own account that is closed in its own
  favour is lost.
-/
inductive Incidental
    (H : Host)
    (signers : List Signer)
    (payees : List Pubkey)
    (w : World) : Posting → Prop
| rent
    {signer : Signer}
    {account : Address}
    (amount : ℕ)
    (hSigner : signer ∈ signers)
    (hAccount : ¬ Reserved H account) :
    Incidental H signers payees w
      { source := walletAddress signer
        destination := some account
        amount := amount
        reason := .rent }
| refund
    {closed : Address}
    {payee : Pubkey}
    (amount : ℕ)
    (hPayee : payee ∈ payees)
    (hClosed : ¬ Reserved H closed)
    (hOwner :
      ∀ key, closed = .key key →
        (w.accounts closed).owner ≠ .system) :
    Incidental H signers payees w
      { source := closed
        destination := some (.key payee)
        amount := amount
        reason := .refund }
| swept
    {signer : Signer}
    (amount : ℕ)
    (hSigner : signer ∈ signers)
    (hOwner :
      (w.accounts (walletAddress signer)).owner ≠ .system) :
    Incidental H signers payees w
      { source := walletAddress signer
        destination := none
        amount := amount
        reason := .refund }

/-
  The lamports were moved by a journal that consists of the
  dues and of entries about rent, and no wallet of the System
  Program has been taken over.
-/
structure Pays
    (H : Host)
    (signers : List Signer)
    (payees : List Pubkey)
    (dues : List Posting)
    (w w' : World) : Prop where
  journal :
    ∃ entries,
      Posts w.lamports entries w'.lamports ∧
        entries.filter (fun entry => entry.reason.isDue) =
            dues ∧
          ∀ entry ∈ entries,
            entry.reason.isDue = false →
              Incidental H signers payees w entry
  wallets :
    ∀ key,
      (w.accounts (.key key)).owner = .system →
        (w'.accounts (.key key)).owner = .system

namespace Pays

variable {H : Host} {w w' w'' : World}
variable {signers : List Signer} {payees : List Pubkey}
variable {dues dues' : List Posting}
variable {signer : Signer} {seeds : Seeds}

theorem of_lamports_eq
    (hLamports : w'.lamports = w.lamports)
    (hWallets :
      ∀ key,
        (w.accounts (.key key)).owner = .system →
          (w'.accounts (.key key)).owner = .system) :
    Pays H signers payees [] w w' where
  journal := by
    refine ⟨[], ?_, rfl, ?_⟩
    · rw [hLamports]
      exact .nil _
    · intro entry hMem
      cases hMem
  wallets := hWallets

/- A step that touches neither accounts nor lamports. -/
theorem of_eq
    (hAccounts : w'.accounts = w.accounts)
    (hLamports : w'.lamports = w.lamports) :
    Pays H signers payees [] w w' := by
  apply of_lamports_eq hLamports
  intro key hOwner
  rw [hAccounts]
  exact hOwner

theorem refl (w : World) : Pays H signers payees [] w w :=
  of_eq rfl rfl

/- What was owned by a program later was so before. -/
theorem incidental_of_later
    {entry : Posting}
    (hWallets :
      ∀ key,
        (w.accounts (.key key)).owner = .system →
          (w'.accounts (.key key)).owner = .system)
    (hEntry : Incidental H signers payees w' entry) :
    Incidental H signers payees w entry := by
  cases hEntry with
  | rent amount hSigner hAccount =>
      exact .rent amount hSigner hAccount
  | refund amount hPayee hClosed hOwner =>
      refine .refund amount hPayee hClosed ?_
      rintro key rfl hSystem
      exact hOwner key rfl (hWallets key hSystem)
  | swept amount hSigner hOwner =>
      refine .swept amount hSigner ?_
      intro hSystem
      exact hOwner (hWallets _ hSystem)

theorem trans
    (hFirst : Pays H signers payees dues w w')
    (hSecond : Pays H signers payees dues' w' w'') :
    Pays H signers payees (dues ++ dues') w w'' where
  journal := by
    rcases hFirst.journal with
      ⟨entries, hPosts, hDues, hOthers⟩
    rcases hSecond.journal with
      ⟨entries', hPosts', hDues', hOthers'⟩
    refine ⟨entries ++ entries', hPosts.append hPosts', ?_,
      ?_⟩
    · rw [List.filter_append, hDues, hDues']
    · intro entry hMem hKind
      rcases List.mem_append.mp hMem with hLeft | hRight
      · exact hOthers entry hLeft hKind
      · exact incidental_of_later hFirst.wallets
          (hOthers' entry hRight hKind)
  wallets key hOwner :=
    hSecond.wallets key (hFirst.wallets key hOwner)

/- Steps before and after without dues of their own. -/
theorem before
    (hFirst : Pays H signers payees [] w w')
    (hSecond : Pays H signers payees dues w' w'') :
    Pays H signers payees dues w w'' :=
  hFirst.trans hSecond

theorem after
    (hFirst : Pays H signers payees dues w w')
    (hSecond : Pays H signers payees [] w' w'') :
    Pays H signers payees dues w w'' := by
  have hBoth := hFirst.trans hSecond
  rw [List.append_nil] at hBoth
  exact hBoth

end Pays

end Entros

------------------------------------------------------------
-- Single Operations
------------------------------------------------------------

namespace Entros

open Foundations

variable {H : Host} {w w' : World}
variable {signers : List Signer} {payees : List Pubkey}
variable {signer : Signer} {seeds : Seeds}
variable {address source destination : Address}
variable {amount size : ℕ}

/- The seeds of all accounts but the treasury and the vault. -/
def Seeds.Plain : Seeds → Prop
| .protocolTreasury => False
| .vault => False
| _ => True

theorem not_reserved_of_plain
    (seeds : Seeds)
    (hPlain : seeds.Plain) :
    ¬ Reserved H (H.findProgramAddress seeds) := by
  rintro (hTreasury | hVault)
  · rw [H.findProgramAddress_inj.mp hTreasury] at hPlain
    exact hPlain
  · rw [H.findProgramAddress_inj.mp hVault] at hPlain
    exact hPlain

theorem not_reserved_key (key : Pubkey) :
    ¬ Reserved H (.key key) := by
  rintro (hTreasury | hVault)
  · cases hTreasury
  · cases hVault

/- A transfer is one entry. -/
theorem transfer_posts
    (reason : Reason)
    (hTransfer :
      w.transfer source destination amount = .ok w') :
    Posts w.lamports
        [{ source := source
           destination := some destination
           amount := amount
           reason := reason }]
        w'.lamports ∧
      w'.accounts = w.accounts := by
  have hSame := (World.transfer_sameState hTransfer).1
  simp only [World.transfer, bind_eq_ok, require_eq_ok,
    pure_eq_ok] at hTransfer
  rcases hTransfer with ⟨_, hCovered, rfl⟩
  exact ⟨.single hCovered, hSame⟩

/- A transfer that is due. -/
theorem transfer_pays
    {reason : Reason}
    (hDue : reason.isDue = true)
    (hTransfer :
      w.transfer source destination amount = .ok w') :
    Pays H signers payees
      [{ source := source
         destination := some destination
         amount := amount
         reason := reason }] w w' := by
  rcases transfer_posts reason hTransfer with
    ⟨hPosts, hAccounts⟩
  refine ⟨⟨_, hPosts, ?_, ?_⟩, ?_⟩
  · exact List.filter_cons_of_pos hDue
  · intro entry hMem hKind
    rw [List.mem_singleton.mp hMem] at hKind
    exact absurd (hKind.symm.trans hDue) Bool.false_ne_true
  · intro key hOwner
    rw [hAccounts]
    exact hOwner

/- A transfer of a signer that funds an account. -/
theorem rent_pays
    (hSigner : signer ∈ signers)
    (hAddress : ¬ Reserved H address)
    (hTransfer :
      w.transfer (walletAddress signer) address amount =
        .ok w') :
    Pays H signers payees [] w w' := by
  rcases transfer_posts .rent hTransfer with
    ⟨hPosts, hAccounts⟩
  refine ⟨⟨_, hPosts, rfl, ?_⟩, ?_⟩
  · intro entry hMem _
    rw [List.mem_singleton.mp hMem]
    exact .rent amount hSigner hAddress
  · intro key hOwner
    rw [hAccounts]
    exact hOwner

theorem topUp_pays
    (hSigner : signer ∈ signers)
    (hAddress : ¬ Reserved H address)
    (hTopUp :
      w.topUp H (walletAddress signer) address size =
        .ok w') :
    Pays H signers payees [] w w' := by
  unfold World.topUp at hTopUp
  split_ifs at hTopUp
  · exact rent_pays hSigner hAddress hTopUp
  · rw [Except.ok.inj hTopUp]
    exact .refl w'

theorem setAccount_pays
    (account : Account)
    (hAddress : ∀ key, address ≠ .key key) :
    Pays H signers payees [] w
      (w.setAccount address account) := by
  refine Pays.of_lamports_eq rfl ?_
  intro key hOwner
  have hSame :
      (w.setAccount address account).accounts (.key key) =
        w.accounts (.key key) :=
    Function.update_of_ne (Ne.symm (hAddress key)) _ _
  rw [hSame]
  exact hOwner

theorem setPda_pays (account : Account) :
    Pays H signers payees [] w
      (w.setAccount (H.findProgramAddress seeds) account) :=
  setAccount_pays account fun _ => Address.noConfusion

theorem createPda_pays
    {owner : ProgramId}
    (hSigner : signer ∈ signers)
    (hCreate :
      w.createAccount H (walletAddress signer)
        (H.findProgramAddress seeds) size owner = .ok w')
    (hPlain : seeds.Plain) :
    Pays H signers payees [] w w' := by
  simp only [World.createAccount, World.allocate, bind_eq_ok,
    require_eq_ok, pure_eq_ok] at hCreate
  rcases hCreate with ⟨funded, hFunded, _, _, rfl⟩
  exact (topUp_pays hSigner
    (not_reserved_of_plain seeds hPlain) hFunded).before
      (setPda_pays _)

theorem savePda_pays
    {A : Type}
    [Packed A]
    {name : String}
    {value : A}
    (hSave :
      w.saveAccount H name (H.findProgramAddress seeds)
        value = .ok w') :
    Pays H signers payees [] w w' := by
  simp only [World.saveAccount, bind_eq_ok, pure_eq_ok]
    at hSave
  rcases hSave with ⟨data, _, rfl⟩
  exact setPda_pays _

theorem growPda_pays
    (hSigner : signer ∈ signers)
    (hGrow :
      w.growAccount H (walletAddress signer)
        (H.findProgramAddress seeds) size = .ok w')
    (hPlain : seeds.Plain) :
    Pays H signers payees [] w w' :=
  (setPda_pays _).before
    (topUp_pays hSigner (not_reserved_of_plain seeds hPlain)
      hGrow)

/- A closed account gives back all that it holds. -/
theorem closeAccount_posts
    (reason : Reason)
    (hNe : destination ≠ address) :
    Posts w.lamports
      [{ source := address
         destination := some destination
         amount := w.lamports address
         reason := reason }]
      (w.closeAccount address destination).lamports := by
  let entry : Posting :=
    { source := address
      destination := some destination
      amount := w.lamports address
      reason := reason }
  have hKept :
      entry.debit w.lamports destination =
        w.lamports destination :=
    Function.update_of_ne hNe _ _
  have hLamports :
      (w.closeAccount address destination).lamports =
        entry.post w.lamports := by
    change Function.update (Function.update _ _ _) _ _ =
      Function.update (entry.debit w.lamports) _
        (entry.debit w.lamports destination + _)
    rw [hKept, Function.update_comm hNe]
    unfold Entry.debit
    rw [Nat.sub_self]
  rw [hLamports]
  exact .single (Nat.le_refl _)

/- Closed in its own favour, it loses them. -/
theorem closeAccount_posts_self (reason : Reason) :
    Posts w.lamports
      [{ source := address
         destination := none
         amount := w.lamports address
         reason := reason }]
      (w.closeAccount address address).lamports := by
  let entry : Posting :=
    { source := address
      destination := none
      amount := w.lamports address
      reason := reason }
  have hLamports :
      (w.closeAccount address address).lamports =
        entry.post w.lamports := by
    change Function.update (Function.update _ _ _) _ _ =
      Function.update _ _ _
    rw [Function.update_idem, Nat.sub_self]
  rw [hLamports]
  exact .single (Nat.le_refl _)

theorem closeAccount_wallets
    (key : Pubkey)
    (hSystem : (w.accounts (.key key)).owner = .system) :
    ((w.closeAccount address destination).accounts
        (.key key)).owner = .system := by
  rw [World.closeAccount_accounts]
  by_cases hKey : Address.key key = address
  · rw [hKey, Function.update_self]
    rfl
  · rw [Function.update_of_ne hKey]
    exact hSystem

/- Closing an account of a program, for a party of the call. -/
theorem closeAccount_pays
    (hSigner : signer ∈ signers)
    (hPayee : signer.key ∈ payees)
    (hAddress : ¬ Reserved H address)
    (hOwner : (w.accounts address).owner ≠ .system) :
    Pays H signers payees [] w
      (w.closeAccount address (walletAddress signer)) := by
  refine ⟨?_, closeAccount_wallets⟩
  by_cases hSelf : walletAddress signer = address
  · subst hSelf
    refine ⟨_, closeAccount_posts_self .refund, rfl, ?_⟩
    intro entry hMem _
    rw [List.mem_singleton.mp hMem]
    exact .swept _ hSigner hOwner
  · refine ⟨_, closeAccount_posts .refund hSelf, rfl, ?_⟩
    intro entry hMem _
    rw [List.mem_singleton.mp hMem]
    exact .refund _ hPayee hAddress fun _ _ => hOwner

/- Closing the account of a derived address. -/
theorem closePda_pays
    {payee : Pubkey}
    (seeds : Seeds)
    (hPayee : payee ∈ payees)
    (hPlain : seeds.Plain) :
    Pays H signers payees [] w
      (w.closeAccount (H.findProgramAddress seeds)
        (.key payee)) := by
  refine ⟨?_, closeAccount_wallets⟩
  refine ⟨_,
    closeAccount_posts .refund Address.noConfusion, rfl, ?_⟩
  intro entry hMem _
  rw [List.mem_singleton.mp hMem]
  exact .refund _ hPayee
    (not_reserved_of_plain seeds hPlain)
    fun _ => Address.noConfusion

end Entros

------------------------------------------------------------
-- Fees and Tokens
------------------------------------------------------------

namespace Entros

open Foundations

namespace Anchor

/- A fee of a payer, due to the treasury. -/
def feeDue (H : Host) (payer : Signer) (fee : ℕ) : Posting :=
  { source := walletAddress payer
    destination := some (treasuryAddress H)
    amount := fee
    reason := .fee }

/- The fee at an offset of the stored configuration. -/
def storedFee (H : Host) (w : World) (offset : ℕ) : ℕ :=
  match readFee (protocolConfig H w).data offset with
  | .ok fee => fee.toNat
  | .error _ => 0

variable {H : Host} {w w' : World}
variable {signers : List Signer} {payees : List Pubkey}
variable {user : Signer}

theorem storedFee_eq
    {fee : UInt64}
    {offset : ℕ}
    (hConfig : protocolConfig H w' = protocolConfig H w)
    (hRead :
      readFee (protocolConfig H w').data offset = .ok fee) :
    storedFee H w offset = fee.toNat := by
  unfold storedFee
  rw [← hConfig, hRead]

theorem lifecycleFee
    {config : Account}
    {read : LifecycleConfig}
    (hRead : readLifecycleConfig config = .ok read) :
    readFee config.data 61 = .ok read.verificationFee := by
  simp only [readLifecycleConfig, bind_eq_ok, require_eq_ok,
    pure_eq_ok] at hRead
  rcases hRead with ⟨_, _, _, _, fee, hFee, _, _, rfl⟩
  exact hFee

theorem updateFee
    {config : Account}
    {version : UInt16}
    {read : UpdateConfig}
    (hRead : readUpdateConfig config version = .ok read) :
    readFee config.data 61 = .ok read.verificationFee := by
  simp only [readUpdateConfig, bind_eq_ok, require_eq_ok,
    pure_eq_ok] at hRead
  rcases hRead with
    ⟨_, _, _, hLength, _, _, _, _, _, _, _, _, fee, hFee, _,
      _, rfl⟩
  unfold readFee
  rw [if_pos (by omega)]
  exact hFee

theorem payFee_pays
    {fee : UInt64}
    (hPay : payFee H w user fee = .ok w') :
    Pays H signers payees [feeDue H user fee.toNat] w w' := by
  unfold payFee at hPay
  split_ifs at hPay with hFee
  · exact transfer_pays rfl hPay
  · have hZero : fee.toNat = 0 := by
      by_contra hPositive
      apply hFee
      rw [UInt64.lt_iff_toNat_lt]
      exact Nat.pos_of_ne_zero hPositive
    rw [Except.ok.inj hPay]
    refine ⟨⟨[feeDue H user fee.toNat], ?_, rfl, ?_⟩,
      fun _ hOwner => hOwner⟩
    · have hPosts :
          Posts w'.lamports [feeDue H user fee.toNat]
            ((feeDue H user fee.toNat).post w'.lamports) :=
        .single (by rw [feeDue, hZero]; exact Nat.zero_le _)
      rw [Entry.post_zero hZero] at hPosts
      exact hPosts
    · intro entry hMem hKind
      rw [List.mem_singleton.mp hMem] at hKind
      cases hKind

theorem createTokenAccount_pays
    {wallet : Pubkey}
    {idempotent : Bool}
    (hUser : user ∈ signers)
    (hOpen :
      w.createTokenAccount H user wallet idempotent =
        .ok w') :
    Pays H signers payees [] w w' := by
  unfold World.createTokenAccount at hOpen
  cases hToken : w.tokenAccounts wallet with
  | none =>
      simp only [hToken, bind_eq_ok, pure_eq_ok] at hOpen
      rcases hOpen with ⟨funded, hFunded, rfl⟩
      exact (topUp_pays hUser
        (not_reserved_of_plain (.associatedToken wallet)
          trivial) hFunded).before (.of_eq rfl rfl)
  | some token =>
      simp only [hToken] at hOpen
      split_ifs at hOpen
      rw [Except.ok.inj hOpen]
      exact .refl w'

theorem createMint_pays
    (hUser : user ∈ signers)
    (hMint : w.createMint H user = .ok w') :
    Pays H signers payees [] w w' := by
  simp only [World.createMint, bind_eq_ok, require_eq_ok,
    pure_eq_ok] at hMint
  rcases hMint with ⟨_, _, funded, hFunded, rfl⟩
  exact (rent_pays hUser
    (not_reserved_of_plain (.mint user.key) trivial)
    hFunded).before (.of_eq rfl rfl)

theorem mintOne_pays
    {wallet : Pubkey}
    (hMint : w.mintOne wallet = .ok w') :
    Pays H signers payees [] w w' := by
  simp only [World.mintOne, bind_eq_ok, pure_eq_ok] at hMint
  rcases hMint with ⟨_, _, _, _, rfl⟩
  exact .of_eq rfl rfl

theorem issueToken_pays
    (hUser : user ∈ signers)
    (hIssue : issueToken H w user = .ok w') :
    Pays H signers payees [] w w' := by
  simp only [issueToken, bind_eq_ok] at hIssue
  rcases hIssue with
    ⟨minted, hMinted, opened, hOpened, hIssued⟩
  exact ((createMint_pays hUser hMinted).before
    (createTokenAccount_pays hUser hOpened)).before
      (mintOne_pays hIssued)

theorem approve_pays
    {owner : Signer}
    {delegate : Pubkey}
    {amount : ℕ}
    (hApprove : w.approve owner delegate amount = .ok w') :
    Pays H signers payees [] w w' := by
  simp only [World.approve, bind_eq_ok, pure_eq_ok]
    at hApprove
  rcases hApprove with ⟨_, _, rfl⟩
  exact .of_eq rfl rfl

theorem burn_pays
    {wallet : Pubkey}
    {authority : Signer}
    {amount : ℕ}
    (hBurn : w.burn wallet authority amount = .ok w') :
    Pays H signers payees [] w w' := by
  simp only [World.burn, bind_eq_ok, pure_eq_ok] at hBurn
  rcases hBurn with ⟨_, _, _, _, _, _, _, _, rfl⟩
  exact .of_eq rfl rfl

theorem closeMint_pays
    {wallet : Pubkey}
    {destination : Signer}
    (hPayee : destination.key ∈ payees)
    (hClose : w.closeMint H wallet destination = .ok w') :
    Pays H signers payees [] w w' := by
  simp only [World.closeMint, bind_eq_ok, pure_eq_ok]
    at hClose
  rcases hClose with ⟨_, _, _, _, rfl⟩
  exact (closePda_pays (.mint wallet) hPayee trivial).before
    (.of_eq rfl rfl)

theorem closeTokenAccount_pays
    {owner : Signer}
    (hPayee : owner.key ∈ payees)
    (hClose : w.closeTokenAccount H owner = .ok w') :
    Pays H signers payees [] w w' := by
  simp only [World.closeTokenAccount, bind_eq_ok,
    require_eq_ok, pure_eq_ok] at hClose
  rcases hClose with ⟨_, _, _, _, rfl⟩
  exact (closePda_pays (.associatedToken owner.key) hPayee
    trivial).before (.of_eq rfl rfl)

end Anchor

end Entros
