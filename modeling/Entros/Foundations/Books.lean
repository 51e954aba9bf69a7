import Mathlib.Algebra.BigOperators.Group.Finset.Basic
import Mathlib.Algebra.BigOperators.Group.Finset.Piecewise
import Mathlib.Algebra.Ring.Nat
import Mathlib.Data.Finset.Basic
import Mathlib.Logic.Function.Basic

/-
  Double-entry bookkeeping: what has been moved between
  accounts, and for which reason.  An amount whose entry names
  no destination is lost.

  Key definitions include:
    * `Entry`
    * `Entry.post`
    * `Posts`
    * `spent`
    * `received`
    * `lost`
    * `involved`

  Key theorems include:
    * `Entry.post_balance`
    * `Posts.append`
    * `Posts.balance`
    * `Posts.unmoved`
    * `Posts.total`
-/

------------------------------------------------------------
-- Entries
------------------------------------------------------------

namespace Foundations

/- One movement between two accounts. -/
structure Entry (A K : Type) where
  source : A
  destination : Option A
  amount : ℕ
  reason : K

namespace Entry

variable {A K : Type} [DecidableEq A]

/- The balances after the source has paid. -/
def debit
    (entry : Entry A K)
    (balance : A → ℕ) : A → ℕ :=
  Function.update balance entry.source
    (balance entry.source - entry.amount)

/- The balances after the entry. -/
def post
    (entry : Entry A K)
    (balance : A → ℕ) : A → ℕ :=
  match entry.destination with
  | none => entry.debit balance
  | some account =>
      Function.update (entry.debit balance) account
        (entry.debit balance account + entry.amount)

def paidBy (entry : Entry A K) (account : A) : ℕ :=
  if entry.source = account then entry.amount else 0

def paidTo (entry : Entry A K) (account : A) : ℕ :=
  if entry.destination = some account then
    entry.amount
  else
    0

def lost (entry : Entry A K) : ℕ :=
  if entry.destination = none then entry.amount else 0

variable {entry : Entry A K} {balance : A → ℕ} {account : A}

theorem debit_balance
    (hCovered : entry.amount ≤ balance entry.source) :
    entry.debit balance account + entry.paidBy account =
      balance account := by
  unfold debit paidBy
  by_cases hSource : entry.source = account
  · rw [if_pos hSource, ← hSource, Function.update_self]
    exact Nat.sub_add_cancel hCovered
  · rw [if_neg hSource,
      Function.update_of_ne (Ne.symm hSource)]
    exact Nat.add_zero _

/- An entry over nothing changes nothing. -/
theorem post_zero (hZero : entry.amount = 0) :
    entry.post balance = balance := by
  have hDebit : entry.debit balance = balance := by
    unfold debit
    rw [hZero, Nat.sub_zero]
    exact Function.update_eq_self ..
  unfold post
  cases entry.destination with
  | none => exact hDebit
  | some account =>
      rw [hDebit, hZero]
      exact Function.update_eq_self ..

/- What an account has paid and got explains its balance. -/
theorem post_balance
    (hCovered : entry.amount ≤ balance entry.source) :
    entry.post balance account + entry.paidBy account =
      balance account + entry.paidTo account := by
  have hDebited :
      entry.debit balance account + entry.paidBy account =
        balance account :=
    debit_balance hCovered
  cases hDestination : entry.destination with
  | none =>
      unfold post paidTo
      simp only [hDestination]
      exact hDebited
  | some other =>
      unfold post paidTo
      simp only [hDestination]
      by_cases hAccount : other = account
      · subst hAccount
        rw [Function.update_self, if_pos rfl,
          Nat.add_right_comm, hDebited]
      · have hNe : ¬ some other = some account :=
          fun hSame => hAccount (Option.some.inj hSame)
        rw [Function.update_of_ne (Ne.symm hAccount),
          if_neg hNe, hDebited]
        exact (Nat.add_zero _).symm

/- No entry creates anything. -/
theorem post_total
    {accounts : Finset A}
    (hCovered : entry.amount ≤ balance entry.source)
    (hSource : entry.source ∈ accounts)
    (hDestination :
      ∀ account, entry.destination = some account →
        account ∈ accounts) :
    ∑ account ∈ accounts, entry.post balance account +
        entry.lost =
      ∑ account ∈ accounts, balance account := by
  have hPaid :
      ∑ account ∈ accounts, entry.paidBy account =
        entry.amount := by
    unfold paidBy
    rw [Finset.sum_ite_eq, if_pos hSource]
  have hGot :
      ∑ account ∈ accounts, entry.paidTo account +
          entry.lost = entry.amount := by
    unfold paidTo lost
    cases hKind : entry.destination with
    | none => simp
    | some other =>
        have hMem : other ∈ accounts :=
          hDestination other hKind
        simp [Finset.sum_ite_eq, hMem]
  have hSum :
      ∑ account ∈ accounts, entry.post balance account +
          entry.amount =
        ∑ account ∈ accounts, balance account +
          ∑ account ∈ accounts, entry.paidTo account := by
    rw [← hPaid, ← Finset.sum_add_distrib,
      ← Finset.sum_add_distrib]
    apply Finset.sum_congr rfl
    intro account _
    exact post_balance hCovered
  omega

end Entry

end Foundations

------------------------------------------------------------
-- Journals
------------------------------------------------------------

namespace Foundations

variable {A K : Type} [DecidableEq A]

/- A list of entries, each of them covered when it is made. -/
inductive Posts :
    (A → ℕ) → List (Entry A K) → (A → ℕ) → Prop
| nil (balance : A → ℕ) : Posts balance [] balance
| cons
    {balance after : A → ℕ}
    {entry : Entry A K}
    {entries : List (Entry A K)}
    (hCovered : entry.amount ≤ balance entry.source)
    (hRest : Posts (entry.post balance) entries after) :
    Posts balance (entry :: entries) after

/- What an account has paid, what it has got, what is lost. -/
def spent
    (entries : List (Entry A K))
    (account : A) : ℕ :=
  (entries.map fun entry => entry.paidBy account).sum

def received
    (entries : List (Entry A K))
    (account : A) : ℕ :=
  (entries.map fun entry => entry.paidTo account).sum

def lost (entries : List (Entry A K)) : ℕ :=
  (entries.map Entry.lost).sum

/- The accounts that the entries name. -/
def involved (entries : List (Entry A K)) : Finset A :=
  (entries.flatMap fun entry =>
    entry.source :: entry.destination.toList).toFinset

section

variable {entries entries' : List (Entry A K)}
variable {account : A}

@[simp] theorem spent_append :
    spent (entries ++ entries') account =
      spent entries account + spent entries' account := by
  simp [spent]

@[simp] theorem received_append :
    received (entries ++ entries') account =
      received entries account +
        received entries' account := by
  simp [received]

theorem source_mem_involved
    {entry : Entry A K}
    (hMem : entry ∈ entries) :
    entry.source ∈ involved entries := by
  apply List.mem_toFinset.mpr
  exact List.mem_flatMap.mpr ⟨entry, hMem, .head _⟩

theorem destination_mem_involved
    {entry : Entry A K}
    (hMem : entry ∈ entries)
    (hDestination : entry.destination = some account) :
    account ∈ involved entries := by
  apply List.mem_toFinset.mpr
  refine List.mem_flatMap.mpr ⟨entry, hMem, .tail _ ?_⟩
  rw [hDestination]
  exact .head _

theorem spent_eq_zero
    (hUnspent :
      ∀ entry ∈ entries, entry.source ≠ account) :
    spent entries account = 0 := by
  apply List.sum_eq_zero
  intro amount hMem
  rcases List.mem_map.mp hMem with ⟨entry, hEntry, rfl⟩
  exact if_neg (hUnspent entry hEntry)

theorem received_eq_zero
    (hUnpaid :
      ∀ entry ∈ entries,
        entry.destination ≠ some account) :
    received entries account = 0 := by
  apply List.sum_eq_zero
  intro amount hMem
  rcases List.mem_map.mp hMem with ⟨entry, hEntry, rfl⟩
  exact if_neg (hUnpaid entry hEntry)

omit [DecidableEq A] in
theorem lost_eq_zero
    (hKept :
      ∀ entry ∈ entries, entry.destination ≠ none) :
    lost entries = 0 := by
  apply List.sum_eq_zero
  intro amount hMem
  rcases List.mem_map.mp hMem with ⟨entry, hEntry, rfl⟩
  exact if_neg (hKept entry hEntry)

/-
  Entries that do not name an account can be left out of its
  books.
-/
theorem spent_filter
    {p : Entry A K → Bool}
    (hOthers :
      ∀ entry ∈ entries,
        p entry = false → entry.source ≠ account) :
    spent (entries.filter p) account =
      spent entries account := by
  induction entries with
  | nil => rfl
  | cons entry entries ih =>
      have hRest :=
        ih fun other hMem => hOthers other (.tail _ hMem)
      simp only [spent, List.map_cons, List.sum_cons]
        at hRest ⊢
      cases hKind : p entry with
      | true =>
          rw [List.filter_cons_of_pos hKind, List.map_cons,
            List.sum_cons, hRest]
      | false =>
          have hPaid : entry.paidBy account = 0 :=
            if_neg (hOthers entry (.head _) hKind)
          rw [List.filter_cons_of_neg (by simp [hKind]),
            hPaid, Nat.zero_add, hRest]

theorem received_filter
    {p : Entry A K → Bool}
    (hOthers :
      ∀ entry ∈ entries,
        p entry = false →
          entry.destination ≠ some account) :
    received (entries.filter p) account =
      received entries account := by
  induction entries with
  | nil => rfl
  | cons entry entries ih =>
      have hRest :=
        ih fun other hMem => hOthers other (.tail _ hMem)
      simp only [received, List.map_cons, List.sum_cons]
        at hRest ⊢
      cases hKind : p entry with
      | true =>
          rw [List.filter_cons_of_pos hKind, List.map_cons,
            List.sum_cons, hRest]
      | false =>
          have hPaid : entry.paidTo account = 0 :=
            if_neg (hOthers entry (.head _) hKind)
          rw [List.filter_cons_of_neg (by simp [hKind]),
            hPaid, Nat.zero_add, hRest]

end

namespace Posts

variable {before middle after : A → ℕ}
variable {entries entries' : List (Entry A K)}
variable {entry : Entry A K}

theorem single
    (hCovered : entry.amount ≤ before entry.source) :
    Posts before [entry] (entry.post before) :=
  .cons hCovered (.nil _)

theorem append
    (hFirst : Posts before entries middle)
    (hSecond : Posts middle entries' after) :
    Posts before (entries ++ entries') after := by
  induction hFirst with
  | nil _ => exact hSecond
  | cons hCovered _ ih => exact .cons hCovered (ih hSecond)

/- The journal explains every balance. -/
theorem balance
    (hPosts : Posts before entries after)
    (account : A) :
    after account + spent entries account =
      before account + received entries account := by
  induction hPosts with
  | nil _ => rfl
  | @cons balance _ entry entries hCovered _ ih =>
      have hEntry :
          entry.post balance account +
              entry.paidBy account =
            balance account + entry.paidTo account :=
        Entry.post_balance hCovered
      simp only [spent, received, List.map_cons,
        List.sum_cons] at ih ⊢
      omega

/- An account that has paid nothing has not become poorer. -/
theorem le_of_unspent
    {account : A}
    (hPosts : Posts before entries after)
    (hUnspent :
      ∀ entry ∈ entries, entry.source ≠ account) :
    before account ≤ after account := by
  have hBalance := hPosts.balance account
  rw [spent_eq_zero hUnspent] at hBalance
  omega

/- An account that no entry names is left alone. -/
theorem unmoved
    {account : A}
    (hPosts : Posts before entries after)
    (hAccount : account ∉ involved entries) :
    after account = before account := by
  have hSpent : spent entries account = 0 := by
    apply spent_eq_zero
    rintro entry hMem rfl
    exact hAccount (source_mem_involved hMem)
  have hReceived : received entries account = 0 := by
    apply received_eq_zero
    intro entry hMem hDestination
    exact hAccount
      (destination_mem_involved hMem hDestination)
  have hBalance := hPosts.balance account
  omega

/- And nothing is created. -/
theorem total
    {accounts : Finset A}
    (hPosts : Posts before entries after)
    (hAccounts : involved entries ⊆ accounts) :
    ∑ account ∈ accounts, after account + lost entries =
      ∑ account ∈ accounts, before account := by
  induction hPosts with
  | nil _ => rfl
  | @cons balance _ entry entries hCovered _ ih =>
      have hEntry :
          ∑ account ∈ accounts, entry.post balance account +
              entry.lost =
            ∑ account ∈ accounts, balance account := by
        apply Entry.post_total hCovered
        · exact hAccounts (source_mem_involved (.head _))
        · intro account hDestination
          exact hAccounts
            (destination_mem_involved (.head _)
              hDestination)
      have hTail : involved entries ⊆ accounts := by
        intro account hMem
        apply hAccounts
        simp only [involved, List.mem_toFinset,
          List.mem_flatMap] at hMem ⊢
        rcases hMem with ⟨other, hOther, hNamed⟩
        exact ⟨other, .tail _ hOther, hNamed⟩
      have hRest := ih hTail
      simp only [lost, List.map_cons, List.sum_cons]
        at hRest ⊢
      omega

end Posts

end Foundations
