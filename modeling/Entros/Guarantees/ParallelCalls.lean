import Entros.Guarantees.VaultSolvency
import Entros.System.Locality

/-
  What the declared accounts say about order: a call depends
  on its context only, calls without a conflicting account
  can be executed in any order, and wallets cannot tell what
  others do in between.

  Key definitions include:
    * `Call.Conflicts`
    * `executeAll`
    * `Location.visibleTo`
    * `Instruction.seenBy`
    * `Instruction.unseenBy`

  Key theorems include:
    * `call_stays_in_context`
    * `batch_any_order`
    * `others_unseen`
-/

------------------------------------------------------------
-- Contexts
------------------------------------------------------------

namespace Entros

open Foundations

variable {H : Host} {w w' base base' : World}

/-
  On two ledgers that agree on the accounts a call may read,
  the call fails with the same error or succeeds on both.
  Then it leaves the same in the accounts that it has for
  writing, pays the same into those that it only credits, and
  changes nothing else.
-/
theorem call_stays_in_context
    (call : Call H)
    (hAgree :
      ∀ resource ∈ (call.instruction.zone H).reads,
        w.cell resource = base.cell resource) :
    (execute base call).map (fun _ => ()) =
        (execute w call).map (fun _ => ()) ∧
      ∀ w' base',
        execute w call = .ok w' →
          execute base call = .ok base' →
            (∀ resource ∈ (call.instruction.zone H).writes,
                base'.cell resource = w'.cell resource) ∧
              (∀ resource ∈ (call.instruction.zone H).pots,
                ∃ paid,
                  w'.cell resource =
                      (w.cell resource).credit paid ∧
                    base'.cell resource =
                      (base.cell resource).credit paid) ∧
                ∀ resource,
                  resource ∉
                      (call.instruction.zone H).writes →
                    resource ∉
                        (call.instruction.zone H).pots →
                      w'.cell resource = w.cell resource ∧
                        base'.cell resource =
                          base.cell resource := by
  have hConfined := execute_confined call
  constructor
  · exact hConfined.verdict_eq hAgree
  · intro w' base' hOk hOk'
    refine ⟨?_, ?_, ?_⟩
    · intro resource hWrite
      exact hConfined.writes_eq hAgree hOk hOk' hWrite
    · intro resource hPot
      rcases hConfined.pots_eq hAgree hOk hOk' hPot with
        ⟨added, hLeft, hRight⟩
      refine ⟨added.lamports, ?_, ?_⟩
      · exact hLeft.trans (added.add_eq_credit _)
      · exact hRight.trans (added.add_eq_credit _)
    · intro resource hWrite hPot
      exact ⟨hConfined.frame hOk hWrite hPot,
        hConfined.frame hOk' hWrite hPot⟩

/- A configured deployment and a registration in it. -/
namespace ParallelCalls

open Sample

abbrev host : Host := VaultSolvency.tables.host

def configuring : Call host :=
  VaultSolvency.call 1700000000
    (.registry (.initializeProtocol admin 1000000 300 10000
      100 0 validator))

def register (validator : Signer) (stake : UInt64) :
    Call host :=
  VaultSolvency.call 1700000010
    (.registry (.registerValidator validator stake))

def unstake (validator : Signer) : Call host :=
  VaultSolvency.call 1700000020 (.registry (.unstakeValidator validator))

/- The deployment after the configuration was created. -/
def configured : World :=
  attempt (fun state => execute state configuring) .funded

/- The same, but one wallet has hardly any lamports. -/
def poorer : World :=
  configured.setLamports (walletAddress bob) 5

theorem poorer_agrees :
    ∀ resource ∈
        ((register alice 5000000).instruction.zone
          host).reads,
      configured.cell resource = poorer.cell resource := by
  rintro resource ⟨lock, hMem, _, hLocation⟩
  symm
  apply setLamports_cell_of_ne
  intro hSame
  have hApart :
      ∀ lock ∈
          (register alice 5000000).instruction.locks host,
        lock.location ≠ .address (walletAddress bob) := by
    decide +kernel
  apply hApart lock hMem
  rw [hLocation, hSame]
  rfl

end ParallelCalls

open ParallelCalls

theorem call_stays_in_context_register :
    (execute poorer (register Sample.alice 5000000)).map
        (fun _ => ()) =
      (execute configured
          (register Sample.alice 5000000)).map
        (fun _ => ()) :=
  (call_stays_in_context (register Sample.alice 5000000)
    poorer_agrees).1

end Entros

------------------------------------------------------------
-- Batches
------------------------------------------------------------

namespace Entros

open Foundations

variable {H : Host} {w : World}
variable {batch batch' front back : List (Call H)}
variable {call call' : Call H}

/- Some account is used by both, and not in the same way. -/
def Call.Conflicts (call call' : Call H) : Prop :=
  ∃ lock ∈ call.instruction.locks H,
    ∃ lock' ∈ call'.instruction.locks H,
      lock.Conflicts lock'

instance : Decidable (call.Conflicts call') :=
  inferInstanceAs (Decidable (∃ lock ∈ _, ∃ lock' ∈ _, _))

/- Execute a batch; failed calls leave no trace. -/
def executeAll
    (w : World)
    (batch : List (Call H)) : World :=
  attemptAll (fun call state => execute state call) batch w

/- Calls without conflicts have zones apart. -/
theorem independent_of_free
    (hFree :
      batch.Pairwise fun call call' =>
        ¬ call.Conflicts call') :
    Independent
      (fun call : Call H => call.instruction.zone H)
      batch := by
  apply hFree.imp
  intro call call' hCalls
  apply lockZone_apart
  intro lock hMem lock' hMem' hConflicts
  exact hCalls ⟨lock, hMem, lock', hMem', hConflicts⟩

/- The lamports that a call adds to a pot. -/
theorem executeAll_pot
    {address : Address}
    (hFree :
      batch.Pairwise fun call call' =>
        ¬ call.Conflicts call')
    (hPot :
      ∀ call ∈ batch,
        .account address ∈ (call.instruction.zone H).pots) :
    (executeAll w batch).lamports address =
      w.lamports address +
        (batch.map fun call =>
          (executeAll w [call]).lamports address -
            w.lamports address).sum := by
  let added (call : Call H) : Cell :=
    (call.instruction.zone H).added
      (fun state => execute state call) w
      (.account address)
  have hAlone :
      ∀ call ∈ batch,
        (executeAll w [call]).lamports address -
            w.lamports address =
          (added call).lamports := by
    intro call hMem
    have hPaid :=
      attempt_pots_eq (execute_confined call)
        (Agree.refl w) (hPot call hMem)
    have hLamports :=
      congrArg Cell.lamports hPaid
    change (executeAll w [call]).lamports address =
      (Cell.add (added call)
        (.account (w.accounts address)
          (w.lamports address))).lamports at hLamports
    rw [hLamports, Cell.add_eq_credit]
    exact Nat.add_sub_cancel_left ..
  have hTotal :=
    attemptAll_pot (s := w) execute_confined
      (independent_of_free hFree) hPot
  have hLamports := congrArg Cell.lamports hTotal
  have hSum :=
    Cell.lamports_foldl (batch.map added)
      (w.accounts address) (w.lamports address)
  rw [List.map_map] at hSum
  rw [List.map_congr_left hAlone]
  exact hLamports.trans hSum

/-
  A batch without conflicts can be executed in any order:
  the ledger is the same, every call has the verdict that it
  has alone on the ledger before the batch, it leaves in its
  accounts what it alone leaves there, and an account that
  all the calls pay into receives all their payments.
-/
theorem batch_any_order
    (hFree :
      batch.Pairwise fun call call' =>
        ¬ call.Conflicts call')
    (hPerm : batch.Perm batch') :
    executeAll w batch' = executeAll w batch ∧
      (∀ front call back,
        batch' = front ++ call :: back →
          (execute (executeAll w front) call).map
                (fun _ => ()) =
              (execute w call).map (fun _ => ()) ∧
            ∀ resource ∈ (call.instruction.zone H).writes,
              (executeAll w batch').cell resource =
                (executeAll w [call]).cell resource) ∧
        ∀ address,
          (∀ call ∈ batch,
            .account address ∈
              (call.instruction.zone H).pots) →
            (executeAll w batch').lamports address =
              w.lamports address +
                (batch.map fun call =>
                  (executeAll w [call]).lamports address -
                    w.lamports address).sum := by
  have hSymm :
      ∀ {call call' : Call H},
        ¬ call.Conflicts call' → ¬ call'.Conflicts call := by
    intro call call' hCalls
    rintro ⟨lock', hMem', lock, hMem, hConflicts⟩
    exact hCalls ⟨lock, hMem, lock', hMem', hConflicts.symm⟩
  have hSame : executeAll w batch' = executeAll w batch :=
    (attemptAll_perm execute_confined
      (independent_of_free hFree) hPerm).symm
  have hIndependent :=
    independent_of_free (hFree.perm hPerm hSymm)
  refine ⟨hSame, ?_, ?_⟩
  · rintro front call back rfl
    constructor
    · exact attemptAll_verdict execute_confined hIndependent
    · intro resource hWrite
      exact attemptAll_read execute_confined hIndependent
        hWrite
  · intro address hPot
    rw [hSame]
    exact executeAll_pot hFree hPot

open ParallelCalls

/- Two validators register at the same time. -/
theorem batch_any_order_registrations :
    executeAll configured
          [register Sample.bob 7000000,
            register Sample.alice 5000000] =
        executeAll configured
          [register Sample.alice 5000000,
            register Sample.bob 7000000] ∧
      (executeAll configured
          [register Sample.bob 7000000,
            register Sample.alice 5000000]).lamports
          (vaultAddress host) =
        12000000 := by
  have hFree :
      [register Sample.alice 5000000,
          register Sample.bob 7000000].Pairwise
        fun call call' => ¬ call.Conflicts call' := by
    decide +kernel
  have hOrder :=
    batch_any_order (w := configured) hFree
      (List.Perm.swap (register Sample.bob 7000000)
        (register Sample.alice 5000000) [])
  constructor
  · exact hOrder.1
  · rw [hOrder.1]
    decide +kernel

end Entros

------------------------------------------------------------
-- Other Wallets
------------------------------------------------------------

namespace Entros

open Foundations

/-
  What a group of wallets can see: the accounts that belong
  to one of them, and what all share.  Nobody sees into the
  treasury and the vault.
-/
def Seeds.visibleTo (wallets : List Pubkey) : Seeds → Bool
| .protocolConfig => true
| .mintAuthority => true
| .protocolTreasury => false
| .vault => false
| .validator authority => wallets.contains authority
| .identity wallet => wallets.contains wallet
| .mint wallet => wallets.contains wallet
| .encryptedBaseline wallet => wallets.contains wallet
| .proofRequestState wallet => wallets.contains wallet
| .challenge challenger _ => wallets.contains challenger
| .verification verifier _ => wallets.contains verifier
| .verificationBound verifier _ => wallets.contains verifier
| .associatedToken wallet => wallets.contains wallet

def Location.visibleTo
    (wallets : List Pubkey) : Location → Bool
| .programData => true
| .address (.key key) => wallets.contains key
| .address .instructionsSysvar => true
| .address (.pda seeds _) => seeds.visibleTo wallets

/- The call only reads what the wallets see. -/
def Instruction.seenBy
    (H : Host)
    (wallets : List Pubkey)
    (instruction : Instruction) : Bool :=
  (instruction.locks H).all fun lock =>
    decide (lock.access = .credited) ||
      lock.location.visibleTo wallets

/- The call only changes what the wallets do not see. -/
def Instruction.unseenBy
    (H : Host)
    (wallets : List Pubkey)
    (instruction : Instruction) : Bool :=
  (instruction.locks H).all fun lock =>
    decide (lock.access = .shared) ||
      !lock.location.visibleTo wallets

variable {H : Host} {w : World} {wallets : List Pubkey}
variable {instruction : Instruction}
variable {batch : List (Call H)}

theorem visible_of_seenBy
    {resource : Resource}
    (hSeen : instruction.seenBy H wallets = true)
    (hRead : resource ∈ (instruction.zone H).reads) :
    (resource.location H).visibleTo wallets = true := by
  rcases hRead with ⟨lock, hMem, hAccess, hLocation⟩
  have hLock := List.all_eq_true.mp hSeen lock hMem
  rw [Bool.or_eq_true] at hLock
  rcases hLock with hCredited | hVisible
  · exact absurd (of_decide_eq_true hCredited) hAccess
  · rw [← hLocation]
    exact hVisible

theorem not_visible_of_unseenBy
    {resource : Resource}
    (hUnseen : instruction.unseenBy H wallets = true)
    (hChanged :
      Locked H (instruction.locks H) (· ≠ .shared)
        resource) :
    (resource.location H).visibleTo wallets = false := by
  rcases hChanged with ⟨lock, hMem, hAccess, hLocation⟩
  have hLock := List.all_eq_true.mp hUnseen lock hMem
  rw [Bool.or_eq_true] at hLock
  rcases hLock with hShared | hHidden
  · exact absurd (of_decide_eq_true hShared) hAccess
  · rw [← hLocation, ← Bool.not_eq_true']
    exact hHidden

/- Calls of the group and calls of others. -/
theorem separated_of_groups
    (hGroups :
      ∀ call ∈ batch,
        call.instruction.seenBy H wallets = true ∨
          call.instruction.unseenBy H wallets = true) :
    Separated
      (fun call : Call H => call.instruction.zone H)
      (fun call => call.instruction.seenBy H wallets)
      { resource |
        (resource.location H).visibleTo wallets = true }
      batch where
  inside call _ hSeen resource hRead :=
    visible_of_seenBy hSeen hRead
  outside := by
    intro call hMem hSeen
    have hUnseen :
        call.instruction.unseenBy H wallets = true := by
      rcases hGroups call hMem with hIn | hOut
      · rw [hIn] at hSeen
        cases hSeen
      · exact hOut
    constructor
    · apply Set.disjoint_left.mpr
      intro resource hWrite hVisible
      have hHidden :=
        not_visible_of_unseenBy hUnseen hWrite.2
      exact Bool.false_ne_true (hHidden.symm.trans hVisible)
    · apply Set.disjoint_left.mpr
      intro resource hPot hVisible
      have hHidden :=
        not_visible_of_unseenBy hUnseen
          (locked_of_credited hPot.1)
      exact Bool.false_ne_true (hHidden.symm.trans hVisible)

/-
  A group of wallets cannot tell whether others have executed
  anything: without the calls of the others each of its own
  calls has the same verdict, and everything that the group
  sees is the same at the end.
-/
theorem others_unseen
    (hGroups :
      ∀ call ∈ batch,
        call.instruction.seenBy H wallets = true ∨
          call.instruction.unseenBy H wallets = true) :
    (∀ resource,
        (resource.location H).visibleTo wallets = true →
          (executeAll w batch).cell resource =
            (executeAll w
              (batch.filter fun call =>
                call.instruction.seenBy H wallets)).cell
              resource) ∧
      ∀ front call back,
        batch = front ++ call :: back →
          call.instruction.seenBy H wallets = true →
            (execute (executeAll w front) call).map
                (fun _ => ()) =
              (execute
                  (executeAll w
                    (front.filter fun call =>
                      call.instruction.seenBy H wallets))
                  call).map
                (fun _ => ()) := by
  constructor
  · exact attemptAll_purge execute_confined
      (separated_of_groups hGroups)
  · rintro front call back rfl hSeen
    exact attemptAll_purge_verdict execute_confined
      (separated_of_groups hGroups) hSeen

open ParallelCalls

/- One validator's view of a batch with another one in it. -/
theorem others_unseen_registrations :
    (executeAll .funded
        [configuring, register Sample.bob 7000000,
          register Sample.alice 5000000,
          unstake Sample.bob]).cell
        (.account (walletAddress Sample.alice)) =
      (executeAll .funded
        [configuring,
          register Sample.alice 5000000]).cell
        (.account (walletAddress Sample.alice)) := by
  have hGroups :
      ∀ call ∈
          [configuring, register Sample.bob 7000000,
            register Sample.alice 5000000,
            unstake Sample.bob],
        call.instruction.seenBy host
              [Sample.admin.key, Sample.alice.key] =
            true ∨
          call.instruction.unseenBy host
              [Sample.admin.key, Sample.alice.key] =
            true := by
    decide +kernel
  exact (others_unseen hGroups).1
    (.account (walletAddress Sample.alice))
    (by decide +kernel)

end Entros
