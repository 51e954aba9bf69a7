import Entros.Guarantees.VaultSolvency
import Entros.System.CallJournals

/-
  Where lamports go over whole runs: nobody pays but those who
  sign, nothing is created, and the treasury and the vault
  hold exactly what fees, stakes and gifts have brought in.

  Key definitions include:
    * `World.Reserves`
    * `Instruction.SignedBy`
    * `Due`
    * `duesOf`
    * `ReservesAccounted`

  Key theorems include:
    * `run_reserves`
    * `step_books`
    * `unsigned_wallet_keeps`
    * `lamports_conserved`
    * `reserves_accounted`
-/

------------------------------------------------------------
-- Reserves
------------------------------------------------------------

namespace Entros

open Foundations

variable {H : Host} {w w' : World}
variable {history : List (Event H)} {call : Call H}

/- The reserved addresses are no accounts of the verifier. -/
def World.Reserves (H : Host) (w : World) : Prop :=
  ∀ reserve, Reserved H reserve →
    (w.accounts reserve).owner ≠ .verifier

/- No call writes the account of a reserve. -/
theorem reserve_account
    {reserve : Address}
    (hReserves : w.Reserves H)
    (hReserved : Reserved H reserve)
    (hStep : Step H w call w') :
    w'.accounts reserve = w.accounts reserve := by
  have hSeeds :
      ∃ seeds : Seeds,
        reserve = H.findProgramAddress seeds ∧
          seeds.OfRegistry ∧ seeds ≠ .protocolConfig ∧
            ∀ authority, seeds ≠ .validator authority := by
    rcases hReserved with rfl | rfl
    · exact ⟨.protocolTreasury, rfl, trivial, by simp,
        by simp⟩
    · exact ⟨.vault, rfl, trivial, by simp, by simp⟩
  have hOwner := hReserves reserve hReserved
  rcases hSeeds with
    ⟨seeds, rfl, hRegistry, hConfig, hValidator⟩
  rcases call with ⟨now, tx, instruction⟩
  cases instruction with
  | registry instruction =>
      apply Registry.registry_frame hStep
      · intro hEq
        exact hConfig (H.findProgramAddress_inj.mp hEq)
      · intro authority hEq
        exact hValidator authority
          (H.findProgramAddress_inj.mp hEq)
  | verifier instruction =>
      exact (verifier_spares hRegistry hStep hOwner).account
  | anchor instruction =>
      exact (anchor_spares hRegistry hStep hOwner).account
  | outside instruction =>
      exact (outside_spares hRegistry hStep).account

theorem World.Reserves.step
    (hReserves : w.Reserves H)
    (hStep : Step H w call w') :
    w'.Reserves H := by
  intro reserve hReserved
  rw [reserve_account hReserves hReserved hStep]
  exact hReserves reserve hReserved

theorem run_reserves
    (hReserves : w.Reserves H)
    (hRun : Run (Step H) w history w') :
    w'.Reserves H := by
  refine hRun.preserves
    (fun _ state => state.Reserves H) hReserves ?_
  intro _ last _ hBefore
  exact hBefore.step last.valid

end Entros

------------------------------------------------------------
-- Dues
------------------------------------------------------------

namespace Entros

open Foundations
open Anchor Registry

/-
  The shapes of a due.  Signers pay fees, stakes and gifts;
  the vault and the treasury pay signers only.
-/
inductive Due
    (H : Host)
    (signers : List Signer) : Posting → Prop
| fee
    {payer : Signer}
    (amount : ℕ)
    (hSigner : payer ∈ signers) :
    Due H signers (feeDue H payer amount)
| stake
    {validator : Signer}
    (amount : ℕ)
    (hSigner : validator ∈ signers) :
    Due H signers (stakeDue H validator amount)
| unstake
    {validator : Signer}
    (amount : ℕ)
    (hSigner : validator ∈ signers) :
    Due H signers (unstakeDue H validator amount)
| withdrawal
    {admin : Signer}
    (amount : ℕ)
    (hSigner : admin ∈ signers) :
    Due H signers (withdrawalDue H admin amount)
| gift
    {source : Signer}
    (destination : Address)
    (amount : ℕ)
    (hSigner : source ∈ signers) :
    Due H signers (giftDue source destination amount)

variable {H : Host} {w w' : World}
variable {signers : List Signer}
variable {call : Call H} {entry : Posting}

theorem Instruction.due
    {instruction : Instruction}
    (hMem : entry ∈ instruction.dues H w) :
    Due H instruction.signers entry := by
  cases instruction with
  | registry instruction =>
      cases instruction with
      | withdrawTreasury admin amount =>
          rw [List.mem_singleton.mp hMem]
          exact .withdrawal _ (.head _)
      | registerValidator validator stakeAmount =>
          rw [List.mem_singleton.mp hMem]
          exact .stake _ (.head _)
      | unstakeValidator validator =>
          rw [List.mem_singleton.mp hMem]
          exact .unstake _ (.head _)
      | _ => cases hMem
  | verifier instruction => cases hMem
  | anchor instruction =>
      cases instruction with
      | mintAnchor user remainingAccounts commitment =>
          rw [List.mem_singleton.mp hMem]
          exact .fee _ (.head _)
      | migrateIdentity user walletOld remainingAccounts =>
          rw [List.mem_singleton.mp hMem]
          exact .fee _ (.head _)
      | updateAnchor authority verificationResult
          newCommitment receipt =>
          rw [List.mem_singleton.mp hMem]
          exact .fee _ (.head _)
      | updateAnchorCompact authority verificationResult
          receipt =>
          rw [List.mem_singleton.mp hMem]
          exact .fee _ (.head _)
      | updateAnchorBound authority verificationResult
          receipt =>
          rw [List.mem_singleton.mp hMem]
          exact .fee _ (.head _)
      | resetIdentityState authority remainingAccounts
          commitment projectionVersion =>
          rw [List.mem_singleton.mp hMem]
          exact .fee _ (.head _)
      | rebaselineAnchor authority remainingAccounts
          commitment projectionVersion =>
          rw [List.mem_singleton.mp hMem]
          exact .fee _ (.head _)
      | _ => cases hMem
  | outside instruction =>
      cases instruction with
      | transfer source destination amount =>
          rw [List.mem_singleton.mp hMem]
          exact .gift _ _ (.head _)
      | _ => cases hMem

/- Signers or reserves pay. -/
theorem Due.source
    (hDue : Due H signers entry) :
    Reserved H entry.source ∨
      ∃ signer ∈ signers, entry.source = walletAddress signer := by
  cases hDue with
  | fee amount hSigner => exact .inr ⟨_, hSigner, rfl⟩
  | stake amount hSigner => exact .inr ⟨_, hSigner, rfl⟩
  | unstake amount hSigner => exact .inl (.inr rfl)
  | withdrawal amount hSigner => exact .inl (.inl rfl)
  | gift destination amount hSigner =>
      exact .inr ⟨_, hSigner, rfl⟩

/- And somebody is paid. -/
theorem Due.destination
    (hDue : Due H signers entry) :
    entry.destination ≠ none := by
  cases hDue <;> exact Option.some_ne_none _

/- The books of one call. -/
structure Books
    (H : Host)
    (call : Call H)
    (w w' : World)
    (entries : List Posting) : Prop where
  posts : Posts w.lamports entries w'.lamports
  dues :
    entries.filter (fun entry => entry.reason.isDue) =
      call.instruction.dues H w
  kinds :
    ∀ entry ∈ entries,
      Due H call.instruction.signers entry ∨
        Incidental H call.instruction.signers
          call.instruction.payees w entry

theorem step_books
    (hReserves : w.Reserves H)
    (hStep : Step H w call w') :
    ∃ entries, Books H call w w' entries := by
  rcases step_journal hReserves hStep with
    ⟨entries, hPosts, hDues, hOthers⟩
  refine ⟨entries, hPosts, hDues, ?_⟩
  intro entry hMem
  cases hKind : entry.reason.isDue with
  | true =>
      left
      apply Instruction.due (w := w)
      rw [← hDues]
      exact List.mem_filter.mpr ⟨hMem, hKind⟩
  | false =>
      right
      exact hOthers entry hMem hKind

end Entros

------------------------------------------------------------
-- A Sample History
------------------------------------------------------------

namespace Entros

open Foundations

/- Fees, stakes, gifts and a withdrawal. -/
namespace MoneyFlow

open Sample

def tables : Tables where
  requestBound := false
  digests := VaultSolvency.tables.digests
  addresses :=
    (.protocolTreasury, Bytes.ofList 32
        [147, 178, 179, 65, 97, 3, 179, 128, 1, 58, 132, 81,
          192, 100, 201, 154, 245, 85, 24, 127, 239, 38, 149,
          248, 251, 126, 57, 181, 128, 50, 36, 181],
        255) ::
      VaultSolvency.tables.addresses
  proofs := []
  signatures := [aliceMint]

theorem aliceMint_signed :
    aliceMint ∈ tables.signatures := .head _

def call
    (now : Int64)
    (instruction : Instruction) : Call tables.host where
  now := now
  tx := tables.signed aliceMint aliceMint_signed
  instruction := instruction

def payments : List (Call tables.host) :=
  [call 1700000000
      (.registry (.initializeProtocol admin 1000000 300 10000
        100 5000 validator)),
    call 1700000010
      (.anchor (.mintAnchor alice [] commitmentPrev)),
    call 1700000020
      (.registry (.registerValidator bob 7000000)),
    call 1700000030
      (.outside (.transfer bob
        (treasuryAddress tables.host) 2000000)),
    call 1700000040
      (.outside (.transfer bob (.key validator) 300)),
    call 1700000050
      (.registry (.withdrawTreasury admin 600000)),
    call 1700000060 (.registry (.unstakeValidator bob))]

theorem funded_reserves :
    World.funded.Reserves tables.host := by
  intro reserve _
  change ProgramId.system ≠ .verifier
  decide

end MoneyFlow

end Entros

------------------------------------------------------------
-- Wallets
------------------------------------------------------------

namespace Entros

open Foundations

variable {H : Host} {w w' : World} {key : Pubkey}
variable {history : List (Event H)} {call : Call H}

/-
  The key signs the call: for a party of it, or for the
  account that is created at the key.
-/
def Instruction.SignedBy
    (key : Pubkey)
    (instruction : Instruction) : Prop :=
  (∃ signer ∈ instruction.signers, signer.key = key) ∨
    ∃ payer size owner,
      instruction =
        .outside (.createAccount payer key size owner)

theorem outside_keys
    {instruction : OutsideInstruction}
    (hExecute : instruction.execute H w = .ok w') :
    w'.accounts (.key key) = w.accounts (.key key) ∨
      ∃ payer size owner,
        instruction = .createAccount payer key size owner := by
  cases instruction with
  | approve owner delegate amount =>
      exact .inl (congrFun (World.approve_accounts hExecute) _)
  | revoke wallet authority =>
      exact .inl (congrFun (World.revoke_accounts hExecute) _)
  | burn wallet authority amount =>
      exact .inl (congrFun (World.burn_accounts hExecute) _)
  | openTokenAccount payer wallet =>
      simp only [OutsideInstruction.execute, bind_eq_ok,
        require_eq_ok] at hExecute
      rcases hExecute with ⟨_, _, hCreate⟩
      exact .inl
        (congrFun (World.createTokenAccount_accounts hCreate)
          _)
  | closeTokenAccount owner =>
      left
      rw [World.closeTokenAccount_accounts hExecute]
      exact Function.update_of_ne Address.noConfusion _ _
  | transfer source destination amount =>
      exact .inl
        (congrFun (World.transfer_sameState hExecute).1 _)
  | createAccount payer created size owner =>
      by_cases hKey : created = key
      · subst hKey
        exact .inr ⟨payer, size, owner, rfl⟩
      · left
        rw [(World.createAccount_eq_ok hExecute).2.1]
        apply Function.update_of_ne
        intro hSame
        exact hKey (Address.key.inj hSame).symm
  | writeProgramData data =>
      rw [← Except.ok.inj hExecute]
      exact .inl rfl

/- A wallet that does not sign stays a wallet. -/
theorem step_wallet
    (hReserves : w.Reserves H)
    (hWallet : (w.accounts (.key key)).owner = .system)
    (hUnsigned : ¬ call.instruction.SignedBy key)
    (hStep : Step H w call w') :
    (w'.accounts (.key key)).owner = .system := by
  rcases call with ⟨now, tx, instruction⟩
  cases instruction with
  | registry instruction =>
      exact (registry_pays hStep).wallets key hWallet
  | verifier instruction =>
      exact (verifier_pays hReserves hStep).wallets key
        hWallet
  | anchor instruction =>
      exact (anchor_pays hReserves hStep).wallets key hWallet
  | outside instruction =>
      rcases outside_keys hStep with
        hSame | ⟨payer, size, owner, hCreates⟩
      · rw [hSame]
        exact hWallet
      · refine absurd (.inr ⟨payer, size, owner, ?_⟩) hUnsigned
        exact congrArg Instruction.outside hCreates

/- And nothing is taken from it. -/
theorem step_wallet_lamports
    (hReserves : w.Reserves H)
    (hWallet : (w.accounts (.key key)).owner = .system)
    (hUnsigned : ¬ call.instruction.SignedBy key)
    (hStep : Step H w call w') :
    w.lamports (.key key) ≤ w'.lamports (.key key) := by
  have hOther :
      ∀ signer ∈ call.instruction.signers,
        walletAddress signer ≠ .key key := by
    intro signer hSigner hSame
    exact hUnsigned
      (.inl ⟨signer, hSigner, Address.key.inj hSame⟩)
  rcases step_books hReserves hStep with ⟨entries, hBooks⟩
  apply hBooks.posts.le_of_unspent
  intro entry hMem hSource
  rcases hBooks.kinds entry hMem with hDue | hIncidental
  · rcases hDue.source with
      hReserved | ⟨signer, hSigner, hPayer⟩
    · rw [hSource] at hReserved
      exact not_reserved_key key hReserved
    · exact hOther signer hSigner (hPayer.symm.trans hSource)
  · cases hIncidental with
    | rent amount hSigner hAccount =>
        exact hOther _ hSigner hSource
    | refund amount hPayee hClosed hOwner =>
        rw [← show _ = Address.key key from hSource] at hWallet
        exact hOwner key hSource hWallet
    | swept amount hSigner hOwner =>
        exact hOther _ hSigner hSource

/-
  In whatever order the programs are called, a wallet that
  signs nothing never loses a lamport, and stays a wallet of
  the System Program.
-/
theorem unsigned_wallet_keeps
    (hReserves : w.Reserves H)
    (hRun : Run (Step H) w history w')
    (hWallet : (w.accounts (.key key)).owner = .system)
    (hUnsigned :
      ∀ event ∈ history, ¬ event.instruction.SignedBy key) :
    w.lamports (.key key) ≤ w'.lamports (.key key) ∧
      (w'.accounts (.key key)).owner = .system := by
  refine hRun.preserves
    (fun (history : List (Event H)) state =>
      (∀ event ∈ history, ¬ event.instruction.SignedBy key) →
        w.lamports (.key key) ≤ state.lamports (.key key) ∧
          (state.accounts (.key key)).owner = .system)
    ?_ ?_ hUnsigned
  · intro _
    exact ⟨Nat.le_refl _, hWallet⟩
  · intro history last hBefore hKept hUnsigned
    have hSound := run_reserves hReserves hBefore
    have hLast : ¬ last.label.instruction.SignedBy key :=
      hUnsigned last (by simp)
    rcases hKept fun event hMem =>
        hUnsigned event (List.mem_append_left _ hMem) with
      ⟨hLamports, hSystem⟩
    constructor
    · exact hLamports.trans
        (step_wallet_lamports hSound hSystem hLast last.valid)
    · exact step_wallet hSound hSystem hLast last.valid

open MoneyFlow

theorem unsigned_wallet_keeps_payments :
    ∃ (history : List (Event tables.host)) (w' : World),
      Run (Step tables.host) .funded history w' ∧
        history.map Transition.label = payments ∧
          w'.lamports (.key Sample.validator) = 1000000300 ∧
            World.funded.lamports (.key Sample.validator) ≤
                w'.lamports (.key Sample.validator) ∧
              (w'.accounts (.key Sample.validator)).owner =
                .system := by
  have hReplay :
      (replay .funded payments).map (fun replayed =>
          replayed.2.lamports (.key Sample.validator)) =
        some 1000000300 := by
    decide +kernel
  rcases exists_run hReplay with
    ⟨history, w', hRun, hLabels, hValue⟩
  have hUnsigned :
      ∀ event : Event tables.host, event ∈ history →
        ¬ event.instruction.SignedBy Sample.validator := by
    intro event hMem
    have hCall : event.label ∈ payments := by
      rw [← hLabels]
      exact List.mem_map_of_mem hMem
    have hOthers :
        ∀ call ∈ payments,
          ∀ signer ∈ call.instruction.signers,
            signer.key ≠ Sample.validator := by
      decide +kernel
    rintro (⟨signer, hSigner, hKey⟩ | hCreates)
    · exact hOthers event.label hCall signer hSigner hKey
    · rcases hCreates with ⟨payer, size, owner, hCreates⟩
      change event.label.instruction = _ at hCreates
      simp only [payments, List.mem_cons, List.not_mem_nil,
        or_false] at hCall
      rcases hCall with
        hCall | hCall | hCall | hCall | hCall | hCall |
          hCall <;>
        (rw [hCall] at hCreates; cases hCreates)
  exact ⟨history, w', hRun, hLabels, hValue,
    unsigned_wallet_keeps funded_reserves hRun rfl hUnsigned⟩

end Entros

------------------------------------------------------------
-- Conservation
------------------------------------------------------------

namespace Entros

open Foundations

variable {H : Host} {w w' : World}
variable {history : List (Event H)} {call : Call H}
variable {entries : List Posting}

/- Every signer of the call is a wallet. -/
def Wallets (w : World) (instruction : Instruction) : Prop :=
  ∀ signer ∈ instruction.signers,
    (w.accounts (walletAddress signer)).owner = .system

/- Among wallets nothing is lost. -/
theorem Books.nothing_lost
    (hBooks : Books H call w w' entries)
    (hWallets : Wallets w call.instruction) :
    lost entries = 0 := by
  apply lost_eq_zero
  intro entry hMem
  rcases hBooks.kinds entry hMem with hDue | hIncidental
  · exact hDue.destination
  · cases hIncidental with
    | rent amount hSigner hAccount =>
        exact Option.some_ne_none _
    | refund amount hPayee hClosed hOwner =>
        exact Option.some_ne_none _
    | swept amount hSigner hOwner =>
        exact absurd (hWallets _ hSigner) hOwner

/-
  A history concerns finitely many accounts.  Together they
  never get richer, and as long as wallets sign they never
  get poorer either.
-/
theorem lamports_conserved
    (hReserves : w.Reserves H)
    (hRun : Run (Step H) w history w') :
    ∃ touched : Finset Address,
      (∀ address, address ∉ touched →
        w'.lamports address = w.lamports address) ∧
        ∀ accounts, touched ⊆ accounts →
          ∑ address ∈ accounts, w'.lamports address ≤
              ∑ address ∈ accounts, w.lamports address ∧
            ((∀ event ∈ history,
                Wallets event.source event.instruction) →
              ∑ address ∈ accounts, w'.lamports address =
                ∑ address ∈ accounts, w.lamports address) := by
  refine hRun.preserves
    (fun (history : List (Event H)) state =>
      ∃ touched : Finset Address,
        (∀ address, address ∉ touched →
          state.lamports address = w.lamports address) ∧
          ∀ accounts, touched ⊆ accounts →
            ∑ address ∈ accounts, state.lamports address ≤
                ∑ address ∈ accounts, w.lamports address ∧
              ((∀ event ∈ history,
                  Wallets event.source event.instruction) →
                ∑ address ∈ accounts, state.lamports address =
                  ∑ address ∈ accounts, w.lamports address))
    ?_ ?_
  · refine ⟨∅, fun _ _ => rfl, ?_⟩
    intro accounts _
    exact ⟨Nat.le_refl _, fun _ => rfl⟩
  · rintro history last hBefore ⟨touched, hFrame, hTotal⟩
    rcases step_books (run_reserves hReserves hBefore)
      last.valid with ⟨entries, hBooks⟩
    refine ⟨touched ∪ involved entries, ?_, ?_⟩
    · intro address hOutside
      rw [Finset.notMem_union] at hOutside
      exact (hBooks.posts.unmoved hOutside.2).trans
        (hFrame address hOutside.1)
    · intro accounts hAccounts
      rcases Finset.union_subset_iff.mp hAccounts with
        ⟨hOld, hNew⟩
      have hStep := hBooks.posts.total hNew
      rcases hTotal accounts hOld with ⟨hLe, hEq⟩
      constructor
      · omega
      · intro hWallets
        have hLast : lost entries = 0 :=
          hBooks.nothing_lost (hWallets last (by simp))
        have hPast := hEq fun event hMem =>
          hWallets event (List.mem_append_left _ hMem)
        omega

open MoneyFlow

theorem lamports_conserved_payments :
    ∃ (history : List (Event tables.host)) (w' : World)
        (touched : Finset Address),
      Run (Step tables.host) .funded history w' ∧
        history.map Transition.label = payments ∧
          ∀ accounts, touched ⊆ accounts →
            ∑ address ∈ accounts, w'.lamports address ≤
              ∑ address ∈ accounts,
                World.funded.lamports address := by
  have hReplay :
      (replay .funded payments).map (fun _ => ()) =
        some () := by
    decide +kernel
  rcases exists_run hReplay with
    ⟨history, w', hRun, hLabels, _⟩
  rcases lamports_conserved funded_reserves hRun with
    ⟨touched, _, hTotal⟩
  exact ⟨history, w', touched, hRun, hLabels,
    fun accounts hAccounts => (hTotal accounts hAccounts).1⟩

end Entros

------------------------------------------------------------
-- Treasury and Vault
------------------------------------------------------------

namespace Entros

open Foundations
open Anchor Registry

variable {H : Host} {w w' : World}
variable {history : List (Event H)} {call : Call H}
variable {signers : List Signer}
variable {entry : Posting} {entries : List Posting}

/- Rent and its refund leave the reserves alone. -/
theorem Books.reserve
    {reserve : Address}
    (hBooks : Books H call w w' entries)
    (hReserved : Reserved H reserve) :
    w'.lamports reserve +
        spent (call.instruction.dues H w) reserve =
      w.lamports reserve +
        received (call.instruction.dues H w) reserve := by
  have hIncidental :
      ∀ entry ∈ entries,
        entry.reason.isDue = false →
          Incidental H call.instruction.signers
            call.instruction.payees w entry := by
    intro entry hMem hKind
    rcases hBooks.kinds entry hMem with hDue | hIncidental
    · cases hDue <;> cases hKind
    · exact hIncidental
  rw [← hBooks.dues, spent_filter, received_filter]
  · exact hBooks.posts.balance reserve
  · rintro entry hMem hKind hDestination
    cases hIncidental entry hMem hKind with
    | rent amount hSigner hAccount =>
        rw [Option.some.inj hDestination] at hAccount
        exact hAccount hReserved
    | refund amount hPayee hClosed hOwner =>
        rw [← Option.some.inj hDestination] at hReserved
        exact not_reserved_key _ hReserved
    | swept amount hSigner hOwner => cases hDestination
  · rintro entry hMem hKind rfl
    cases hIncidental entry hMem hKind with
    | rent amount hSigner hAccount =>
        exact not_reserved_key _ hReserved
    | refund amount hPayee hClosed hOwner =>
        exact hClosed hReserved
    | swept amount hSigner hOwner =>
        exact not_reserved_key _ hReserved

/- What the calls of a history had to move. -/
def duesOf (history : List (Event H)) : List Posting :=
  history.flatMap fun event =>
    event.instruction.dues H event.source

/- The amounts that were moved for a reason. -/
def movedFor
    (reason : Reason)
    (entries : List Posting) : ℕ :=
  (entries.map fun entry =>
    if entry.reason = reason then entry.amount else 0).sum

/- The amounts that wallets have given to an account. -/
def givenTo
    (account : Address)
    (entries : List Posting) : ℕ :=
  (entries.map fun entry =>
    if entry.reason = .gift then
      entry.paidTo account
    else
      0).sum

theorem duesOf_due
    (hMem : entry ∈ duesOf history) :
    ∃ signers, Due H signers entry := by
  rcases List.mem_flatMap.mp hMem with ⟨event, _, hDue⟩
  exact ⟨_, Instruction.due hDue⟩

/- The treasury pays withdrawals, and gets fees and gifts. -/
theorem Due.treasury
    (hDue : Due H signers entry) :
    entry.paidBy (treasuryAddress H) =
        (if entry.reason = .withdrawal then entry.amount
          else 0) ∧
      entry.paidTo (treasuryAddress H) =
        (if entry.reason = .fee then entry.amount else 0) +
          (if entry.reason = .gift then
            entry.paidTo (treasuryAddress H) else 0) := by
  cases hDue <;>
    simp [feeDue, stakeDue, unstakeDue, withdrawalDue,
      giftDue, Entry.paidBy, Entry.paidTo, walletAddress,
      treasuryAddress, vaultAddress, Host.findProgramAddress]

/- The vault pays stakes back, and gets stakes and gifts. -/
theorem Due.vault
    (hDue : Due H signers entry) :
    entry.paidBy (vaultAddress H) =
        (if entry.reason = .unstake then entry.amount
          else 0) ∧
      entry.paidTo (vaultAddress H) =
        (if entry.reason = .stake then entry.amount else 0) +
          (if entry.reason = .gift then
            entry.paidTo (vaultAddress H) else 0) := by
  cases hDue <;>
    simp [feeDue, stakeDue, unstakeDue, withdrawalDue,
      giftDue, Entry.paidBy, Entry.paidTo, walletAddress,
      treasuryAddress, vaultAddress, Host.findProgramAddress]

theorem run_reserve
    {reserve : Address}
    (hReserves : w.Reserves H)
    (hRun : Run (Step H) w history w')
    (hReserved : Reserved H reserve) :
    w'.lamports reserve + spent (duesOf history) reserve =
      w.lamports reserve +
        received (duesOf history) reserve := by
  refine hRun.preserves
    (fun history state =>
      state.lamports reserve +
          spent (duesOf history) reserve =
        w.lamports reserve +
          received (duesOf history) reserve) rfl ?_
  intro history last hBefore hBalance
  rcases step_books (run_reserves hReserves hBefore)
    last.valid with ⟨entries, hBooks⟩
  have hStep := hBooks.reserve hReserved
  have hDues :
      duesOf (history ++ [last]) =
        duesOf history ++
          last.label.instruction.dues H last.source := by
    simp [duesOf, Event.instruction]
  rw [hDues, spent_append, received_append]
  omega

theorem run_treasury
    (hReserves : w.Reserves H)
    (hRun : Run (Step H) w history w') :
    w'.lamports (treasuryAddress H) +
        movedFor .withdrawal (duesOf history) =
      w.lamports (treasuryAddress H) +
        movedFor .fee (duesOf history) +
          givenTo (treasuryAddress H) (duesOf history) := by
  have hRun := run_reserve hReserves hRun (.inl rfl)
  have hSpent :
      spent (duesOf history) (treasuryAddress H) =
        movedFor .withdrawal (duesOf history) := by
    unfold spent movedFor
    congr 1
    apply List.map_congr_left
    intro entry hMem
    rcases duesOf_due hMem with ⟨signers, hDue⟩
    exact hDue.treasury.1
  have hReceived :
      received (duesOf history) (treasuryAddress H) =
        movedFor .fee (duesOf history) +
          givenTo (treasuryAddress H) (duesOf history) := by
    unfold received movedFor givenTo
    rw [← List.sum_map_add]
    congr 1
    apply List.map_congr_left
    intro entry hMem
    rcases duesOf_due hMem with ⟨signers, hDue⟩
    exact hDue.treasury.2
  rw [hSpent, hReceived, ← Nat.add_assoc] at hRun
  exact hRun

theorem run_vault
    (hReserves : w.Reserves H)
    (hRun : Run (Step H) w history w') :
    w'.lamports (vaultAddress H) +
        movedFor .unstake (duesOf history) =
      w.lamports (vaultAddress H) +
        movedFor .stake (duesOf history) +
          givenTo (vaultAddress H) (duesOf history) := by
  have hRun := run_reserve hReserves hRun (.inr rfl)
  have hSpent :
      spent (duesOf history) (vaultAddress H) =
        movedFor .unstake (duesOf history) := by
    unfold spent movedFor
    congr 1
    apply List.map_congr_left
    intro entry hMem
    rcases duesOf_due hMem with ⟨signers, hDue⟩
    exact hDue.vault.1
  have hReceived :
      received (duesOf history) (vaultAddress H) =
        movedFor .stake (duesOf history) +
          givenTo (vaultAddress H) (duesOf history) := by
    unfold received movedFor givenTo
    rw [← List.sum_map_add]
    congr 1
    apply List.map_congr_left
    intro entry hMem
    rcases duesOf_due hMem with ⟨signers, hDue⟩
    exact hDue.vault.2
  rw [hSpent, hReceived, ← Nat.add_assoc] at hRun
  exact hRun

/- Only a withdrawal takes lamports from the treasury. -/
theorem treasury_step
    (hReserves : w.Reserves H)
    (hStep : Step H w call w') :
    w.lamports (treasuryAddress H) ≤
        w'.lamports (treasuryAddress H) ∨
      ∃ admin amount,
        call.instruction =
          .registry (.withdrawTreasury admin amount) := by
  have hSeeds : Seeds.OfRegistry .protocolTreasury := trivial
  have hOwner := hReserves (treasuryAddress H) (.inl rfl)
  rcases step_books hReserves hStep with ⟨entries, hBooks⟩
  have hBalance := hBooks.reserve (.inl rfl)
  rcases call with ⟨now, tx, instruction⟩
  cases instruction with
  | registry instruction =>
      by_cases hFunds : instruction.MovesFunds
      · cases hFunds with
        | withdrawTreasury admin amount =>
            exact .inr ⟨admin, amount, rfl⟩
        | registerValidator validator stakeAmount =>
            left
            rw [spent_eq_zero] at hBalance
            · omega
            · intro entry hMem
              rw [List.mem_singleton.mp hMem]
              exact Address.noConfusion
        | unstakeValidator validator =>
            left
            rw [spent_eq_zero] at hBalance
            · omega
            · intro entry hMem
              rw [List.mem_singleton.mp hMem]
              intro hSame
              cases H.findProgramAddress_inj.mp hSame
      · left
        exact (registry_spares (by simp) hFunds hStep).lamports
  | verifier instruction =>
      left
      exact (verifier_spares hSeeds hStep hOwner).lamports
  | anchor instruction =>
      left
      exact (anchor_spares hSeeds hStep hOwner).lamports
  | outside instruction =>
      left
      exact (outside_spares hSeeds hStep).lamports

/- The stored admin withdraws, and leaves what rent needs. -/
theorem withdrawTreasury_exempt
    {admin : Signer}
    {amount : UInt64}
    (hWithdraw :
      withdrawTreasury H w admin amount = .ok w') :
    (∃ config,
      loadProtocolConfig H w = .ok config ∧
        config.admin = admin.key) ∧
      (H.minimumBalance 0 ≤ w.lamports (treasuryAddress H) →
        H.minimumBalance 0 ≤
          w'.lamports (treasuryAddress H)) := by
  simp only [withdrawTreasury, bind_eq_ok, require_eq_ok]
    at hWithdraw
  rcases hWithdraw with
    ⟨config, hConfig, _, hAdmin, _, hAvailable, hTransfer⟩
  refine ⟨⟨config, hConfig, hAdmin⟩, ?_⟩
  intro hExempt
  have hLeft := (transfer_lamports hTransfer
    Address.noConfusion).2
  have hTreasury :
      w'.lamports (treasuryAddress H) =
        w.lamports (treasuryAddress H) - amount.toNat := by
    rw [hLeft, Function.update_of_ne Address.noConfusion]
    exact Function.update_self ..
  rw [hTreasury]
  change amount.toNat ≤
    w.lamports (treasuryAddress H) - H.minimumBalance 0
      at hAvailable
  omega

theorem run_exempt
    (hReserves : w.Reserves H)
    (hRun : Run (Step H) w history w')
    (hExempt :
      H.minimumBalance 0 ≤ w.lamports (treasuryAddress H)) :
    H.minimumBalance 0 ≤
      w'.lamports (treasuryAddress H) := by
  refine hRun.preserves
    (fun _ state =>
      H.minimumBalance 0 ≤
        state.lamports (treasuryAddress H)) hExempt ?_
  intro _ last hBefore hKept
  rcases treasury_step (run_reserves hReserves hBefore)
    last.valid with hLe | ⟨admin, amount, hCall⟩
  · exact hKept.trans hLe
  · have hValid := last.valid
    unfold Step execute at hValid
    rw [hCall] at hValid
    exact (withdrawTreasury_exempt hValid).2 hKept

/-
  The balances of the treasury and of the vault are explained
  by the fees, stakes and gifts of the history and by what
  has been withdrawn and paid back.  Every withdrawal is
  signed by the admin that is stored at its time, and a
  treasury that was rent-exempt once stays so.
-/
structure ReservesAccounted
    (H : Host)
    (w : World)
    (history : List (Event H))
    (w' : World) : Prop where
  treasury :
    w'.lamports (treasuryAddress H) +
        movedFor .withdrawal (duesOf history) =
      w.lamports (treasuryAddress H) +
        movedFor .fee (duesOf history) +
          givenTo (treasuryAddress H) (duesOf history)
  vault :
    w'.lamports (vaultAddress H) +
        movedFor .unstake (duesOf history) =
      w.lamports (vaultAddress H) +
        movedFor .stake (duesOf history) +
          givenTo (vaultAddress H) (duesOf history)
  withdrawals :
    ∀ event ∈ history, ∀ admin amount,
      event.instruction =
          .registry (.withdrawTreasury admin amount) →
        ∃ config,
          loadProtocolConfig H event.source = .ok config ∧
            config.admin = admin.key
  exempt :
    H.minimumBalance 0 ≤ w.lamports (treasuryAddress H) →
      H.minimumBalance 0 ≤ w'.lamports (treasuryAddress H)

theorem reserves_accounted
    (hReserves : w.Reserves H)
    (hRun : Run (Step H) w history w') :
    ReservesAccounted H w history w' where
  treasury := run_treasury hReserves hRun
  vault := run_vault hReserves hRun
  withdrawals := by
    intro event _ admin amount hCall
    have hValid := event.valid
    unfold Step execute at hValid
    rw [show event.label.instruction = _ from hCall] at hValid
    exact (withdrawTreasury_exempt hValid).1
  exempt := run_exempt hReserves hRun

open MoneyFlow

theorem reserves_accounted_payments :
    ∃ (history : List (Event tables.host)) (w' : World),
      Run (Step tables.host) .funded history w' ∧
        history.map Transition.label = payments ∧
          (w'.lamports (treasuryAddress tables.host),
              w'.lamports (vaultAddress tables.host)) =
            (1405000, 0) ∧
            ReservesAccounted tables.host .funded history
              w' := by
  have hReplay :
      (replay .funded payments).map (fun replayed =>
          (replayed.2.lamports
              (treasuryAddress tables.host),
            replayed.2.lamports
              (vaultAddress tables.host))) =
        some (1405000, 0) := by
    decide +kernel
  rcases exists_run hReplay with
    ⟨history, w', hRun, hLabels, hValues⟩
  exact ⟨history, w', hRun, hLabels, hValues,
    reserves_accounted funded_reserves hRun⟩

end Entros
