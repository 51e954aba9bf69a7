import Entros.System.CallJournals
import Entros.System.Identities
import Mathlib.Logic.Relation

/-
  The operations of the runtime that calls are made of.  What
  every operation preserves is preserved by every call.

  Key definitions include:
    * `Seeds.Allocated`
    * `DataOperation`
    * `Operation`
    * `TokenStep`

  Key theorems include:
    * `registry_ops`
    * `verifier_ops`
    * `step_tokens`
    * `step_operations`
-/

------------------------------------------------------------
-- Operations
------------------------------------------------------------

namespace Entros

open Foundations
open Anchor

/- The seeds at which the programs keep data. -/
def Seeds.Allocated : Seeds → Prop
| .protocolConfig => True
| .validator _ => True
| .identity _ => True
| .encryptedBaseline _ => True
| .proofRequestState _ => True
| .challenge _ _ => True
| .verification _ _ => True
| .verificationBound _ _ => True
| .protocolTreasury => False
| .vault => False
| .mint _ => False
| .mintAuthority => False
| .associatedToken _ => False

/- Where an account with data can be. -/
inductive Address.Allocable : Address → Prop
| key (key : Pubkey) : Allocable (.key key)
| pda
    {seeds : Seeds}
    (bump : UInt8)
    (hSeeds : seeds.Allocated) :
    Allocable (.pda seeds bump)

/- What the calls do to accounts and lamports. -/
inductive DataOperation (H : Host) : World → World → Prop
| pay
    {w w' : World}
    {payer : Signer}
    {destination : Address}
    {amount : ℕ}
    (hTransfer :
      w.transfer (walletAddress payer) destination amount =
        .ok w') :
    DataOperation H w w'
| release
    {w w' : World}
    {reserve destination : Address}
    {amount : ℕ}
    (hReserved : Reserved H reserve)
    (hTransfer :
      w.transfer reserve destination amount = .ok w') :
    DataOperation H w w'
| allocate
    {w w' : World}
    {payer : Signer}
    {address : Address}
    {size : ℕ}
    {owner : ProgramId}
    (hAddress : address.Allocable)
    (hCreate :
      w.createAccount H (walletAddress payer) address size
        owner = .ok w') :
    DataOperation H w w'
| write
    {w : World}
    {address : Address}
    {data : List UInt8}
    (hAddress : address.Allocable)
    (hSize :
      data.length = (w.accounts address).data.length ∨
        H.minimumBalance data.length ≤ w.lamports address) :
    DataOperation H w (w.setData address data)
| grow
    {w w' : World}
    {payer : Signer}
    {address : Address}
    {data : List UInt8}
    (hAddress : address.Allocable)
    (hFund :
      (w.setData address data).topUp H
        (walletAddress payer) address data.length = .ok w') :
    DataOperation H w w'
| close
    {w : World}
    {address destination : Address}
    (hAddress :
      address.Allocable ∨
        (w.accounts address).owner ≠ .system) :
    DataOperation H w (w.closeAccount address destination)
| load
    (w : World)
    (data : List UInt8) :
    DataOperation H w { w with programData := data }

/- These, and the instructions of Token-2022. -/
inductive Operation (H : Host) : World → World → Prop
| data
    {w w' : World}
    (hData : DataOperation H w w') :
    Operation H w w'
| issue
    {w w' : World}
    {user : Signer}
    (hIssue : issueToken H w user = .ok w') :
    Operation H w w'
| closeMint
    {w w' : World}
    {wallet : Pubkey}
    {destination : Signer}
    (hClose : w.closeMint H wallet destination = .ok w') :
    Operation H w w'
| burn
    {w w' : World}
    {wallet : Pubkey}
    {authority : Signer}
    {amount : ℕ}
    (hBurn : w.burn wallet authority amount = .ok w') :
    Operation H w w'
| approve
    {w w' : World}
    {owner : Signer}
    {delegate : Pubkey}
    {amount : ℕ}
    (hApprove : w.approve owner delegate amount = .ok w') :
    Operation H w w'
| revoke
    {w w' : World}
    {wallet : Pubkey}
    {authority : Signer}
    (hRevoke : w.revoke wallet authority = .ok w') :
    Operation H w w'
| openToken
    {w w' : World}
    {payer : Signer}
    {wallet : Pubkey}
    (hOpen :
      w.createTokenAccount H payer wallet true = .ok w') :
    Operation H w w'
| closeToken
    {w w' : World}
    {owner : Signer}
    (hClose : w.closeTokenAccount H owner = .ok w') :
    Operation H w w'

/- Any number of them. -/
abbrev DataOperations (H : Host) : World → World → Prop :=
  Relation.ReflTransGen (DataOperation H)

abbrev Operations (H : Host) : World → World → Prop :=
  Relation.ReflTransGen (Operation H)

/-
  What a call does to the tokens, between operations on the
  accounts: it issues one, exchanges one for another, or is an
  instruction of the token programs that somebody has signed.
-/
inductive TokenStep
    (H : Host)
    (instruction : Instruction)
    (w w' : World) : Prop
| data
    (hStay : instruction.motion = .stay)
    (hData : DataOperations H w w')
| mint
    {before issued : World}
    {user : Signer}
    (hMotion : instruction.motion = .birth user.key)
    (hSigned : user ∈ instruction.signers)
    (hBefore : DataOperations H w before)
    (hIssue : issueToken H before user = .ok issued)
    (hAfter : DataOperations H issued w')
| migrate
    {before issued paid burned closed : World}
    {user : Signer}
    {walletOld : Pubkey}
    (hMotion : instruction.motion = .move walletOld user.key)
    (hSigned : user ∈ instruction.signers)
    (hBefore : DataOperations H w before)
    (hIssue : issueToken H before user = .ok issued)
    (hPaid : DataOperations H issued paid)
    (hBurn : paid.burn walletOld user 1 = .ok burned)
    (hClose : burned.closeMint H walletOld user = .ok closed)
    (hAfter : DataOperations H closed w')
| approve
    {approved : World}
    {owner : Signer}
    {delegate : Pubkey}
    {amount : ℕ}
    (hStay : instruction.motion = .stay)
    (hSigned : owner ∈ instruction.signers)
    (hApprove : w.approve owner delegate amount = .ok approved)
    (hAfter : DataOperations H approved w')
| revoke
    {wallet : Pubkey}
    {authority : Signer}
    (hStay : instruction.motion = .stay)
    (hSigned : authority ∈ instruction.signers)
    (hRevoke : w.revoke wallet authority = .ok w')
| burn
    {wallet : Pubkey}
    {authority : Signer}
    {amount : ℕ}
    (hStay : instruction.motion = .stay)
    (hSigned : authority ∈ instruction.signers)
    (hBurn : w.burn wallet authority amount = .ok w')
| openToken
    {payer : Signer}
    {wallet : Pubkey}
    (hStay : instruction.motion = .stay)
    (hSigned : payer ∈ instruction.signers)
    (hOpen :
      w.createTokenAccount H payer wallet true = .ok w')
| closeToken
    {owner : Signer}
    (hStay : instruction.motion = .stay)
    (hSigned : owner ∈ instruction.signers)
    (hClose : w.closeTokenAccount H owner = .ok w')

/- An invariant of the operations is one of their chains. -/
theorem DataOperations.keeps
    {H : Host}
    {w w' : World}
    (Inv : World → Prop)
    (hOperation :
      ∀ state state',
        DataOperation H state state' →
          Inv state → Inv state')
    (hOperations : DataOperations H w w')
    (hStart : Inv w) :
    Inv w' := by
  induction hOperations with
  | refl => exact hStart
  | tail _ hLast ih => exact hOperation _ _ hLast ih

theorem Operations.keeps
    {H : Host}
    {w w' : World}
    (Inv : World → Prop)
    (hOperation :
      ∀ state state',
        Operation H state state' →
          Inv state → Inv state')
    (hOperations : Operations H w w')
    (hStart : Inv w) :
    Inv w' := by
  induction hOperations with
  | refl => exact hStart
  | tail _ hLast ih => exact hOperation _ _ hLast ih

theorem DataOperations.operations
    {H : Host}
    {w w' : World}
    (hData : DataOperations H w w') :
    Operations H w w' :=
  hData.lift id (fun _ _ => .data)

end Entros

------------------------------------------------------------
-- Chains of Operations
------------------------------------------------------------

namespace Entros

open Foundations
open Anchor

variable {H : Host}
variable {w w' : World}
variable {payer : Signer} {seeds : Seeds} {address : Address}

theorem allocable_pda
    (seeds : Seeds)
    (hSeeds : seeds.Allocated) :
    (H.findProgramAddress seeds).Allocable :=
  .pda _ hSeeds

theorem length_trySerialize
    {A : Type}
    [Packed A]
    {name : String}
    {value : A}
    {buffer written : List UInt8}
    (hWrite :
      trySerialize H name value buffer = .ok written) :
    written.length = buffer.length := by
  simp only [trySerialize, bind_eq_ok, require_eq_ok,
    pure_eq_ok] at hWrite
  rcases hWrite with ⟨_, hFits, rfl⟩
  apply length_splice
  rw [Nat.zero_add]
  exact hFits

theorem topUp_ops
    {size : ℕ}
    (hTopUp :
      w.topUp H (walletAddress payer) address size =
        .ok w') :
    DataOperations H w w' := by
  unfold World.topUp at hTopUp
  split_ifs at hTopUp
  · exact .single (.pay hTopUp)
  · rw [Except.ok.inj hTopUp]

/- A funded account covers its size. -/
theorem topUp_covers
    {source : Address}
    {size : ℕ}
    (hTopUp : w.topUp H source address size = .ok w')
    (hSource : source ≠ address) :
    H.minimumBalance size ≤ w'.lamports address := by
  unfold World.topUp at hTopUp
  split_ifs at hTopUp with hLow
  · rw [(transfer_lamports hTopUp hSource).2,
      Function.update_self]
    omega
  · rw [← Except.ok.inj hTopUp]
    exact Nat.le_of_not_lt hLow

theorem createPda_ops
    {size : ℕ}
    {owner : ProgramId}
    (hCreate :
      w.createAccount H (walletAddress payer)
        (H.findProgramAddress seeds) size owner = .ok w')
    (hSeeds : seeds.Allocated) :
    DataOperations H w w' :=
  .single (.allocate (allocable_pda seeds hSeeds) hCreate)

theorem writePda_ops
    {data : List UInt8}
    (hSize :
      data.length =
        (w.accounts (H.findProgramAddress seeds)).data.length)
    (hSeeds : seeds.Allocated) :
    DataOperations H w
      (w.setData (H.findProgramAddress seeds) data) :=
  .single (.write (allocable_pda seeds hSeeds) (.inl hSize))

theorem savePda_ops
    {A : Type}
    [Packed A]
    {name : String}
    {value : A}
    (hSave :
      w.saveAccount H name (H.findProgramAddress seeds)
        value = .ok w')
    (hSeeds : seeds.Allocated) :
    DataOperations H w w' := by
  simp only [World.saveAccount, bind_eq_ok, pure_eq_ok]
    at hSave
  rcases hSave with ⟨data, hWrite, rfl⟩
  exact writePda_ops (length_trySerialize hWrite) hSeeds

theorem growPda_ops
    {size : ℕ}
    (hGrow :
      w.growAccount H (walletAddress payer)
        (H.findProgramAddress seeds) size = .ok w')
    (hSeeds : seeds.Allocated) :
    DataOperations H w w' := by
  let data : List UInt8 :=
    resize (w.accounts (H.findProgramAddress seeds)).data size
  have hSize : data.length = size := length_resize _ _
  have hFund :
      (w.setData (H.findProgramAddress seeds) data).topUp H
        (walletAddress payer) (H.findProgramAddress seeds)
        data.length = .ok w' := by
    rw [hSize]
    exact hGrow
  exact .single (.grow (allocable_pda seeds hSeeds) hFund)

theorem payFee_ops
    {user : Signer}
    {fee : UInt64}
    (hPay : payFee H w user fee = .ok w') :
    DataOperations H w w' := by
  unfold payFee at hPay
  split_ifs at hPay
  · exact .single (.pay hPay)
  · rw [Except.ok.inj hPay]

end Entros

------------------------------------------------------------
-- Verifier Instructions
------------------------------------------------------------

namespace Entros

open Foundations

namespace Verifier

variable {H : Host}
variable {w w' : World} {signer : Signer} {address : Address}

theorem closeVerifier_ops
    (hOwner : (w.accounts address).owner = .verifier) :
    DataOperations H w
      (w.closeAccount address (walletAddress signer)) := by
  refine .single (.close (.inr ?_))
  rw [hOwner]
  exact ProgramId.noConfusion

theorem closeChallenge_ops
    (hClose : closeChallenge H w signer address = .ok w') :
    DataOperations H w w' := by
  simp only [closeChallenge, bind_eq_ok, require_eq_ok,
    pure_eq_ok] at hClose
  rcases hClose with ⟨challenge, hLoad, _, _, rfl⟩
  exact closeVerifier_ops (World.loadAccount_eq_ok hLoad).1

theorem closeVerificationResult_ops
    (hClose :
      closeVerificationResult H w signer address = .ok w') :
    DataOperations H w w' := by
  simp only [closeVerificationResult, bind_eq_ok,
    require_eq_ok, pure_eq_ok] at hClose
  rcases hClose with ⟨result, hLoad, _, _, rfl⟩
  exact closeVerifier_ops (World.loadAccount_eq_ok hLoad).1

theorem closeBoundVerificationResult_ops
    {nonce : Bytes 32}
    (hClose :
      closeBoundVerificationResult H w signer nonce
        address = .ok w') :
    DataOperations H w w' := by
  simp only [closeBoundVerificationResult, bind_eq_ok,
    require_eq_ok, pure_eq_ok] at hClose
  rcases hClose with ⟨result, hLoad, _, _, _, _, rfl⟩
  exact closeVerifier_ops (World.loadAccount_eq_ok hLoad).1

theorem verifyAndStore_ops
    {now : Int64}
    {proofBytes : List UInt8}
    {publicInputs : PublicInputs}
    {nonce : Bytes 32}
    (hVerify :
      verifyAndStore H w now signer proofBytes
        publicInputs nonce = .ok w') :
    DataOperations H w w' := by
  simp only [verifyAndStore, bind_eq_ok, require_eq_ok]
    at hVerify
  rcases hVerify with
    ⟨_, _, _, _, _, _, _, _, _, _, _, _, _, _, _, _, hSave⟩
  exact savePda_ops hSave trivial

theorem verifyProofBound_ops
    {now : Int64}
    {nonce new prev : Bytes 32}
    {proof : Bytes 256}
    {threshold minDistance : UInt16}
    {validUntil : UInt64}
    (hVerify :
      verifyProofBound H w now signer nonce proof new prev
        threshold minDistance validUntil = .ok w') :
    DataOperations H w w' := by
  simp only [verifyProofBound, bind_eq_ok, require_eq_ok]
    at hVerify
  rcases hVerify with
    ⟨created, hCreate, _, _, _, _, _, _, _, _, _, _, _, _, _,
      _, _, _, _, _, _, _, _, _, hSave⟩
  exact (createPda_ops hCreate trivial).trans
    (savePda_ops hSave trivial)

end Verifier

open Verifier

theorem verifier_ops
    {H : Host}
    {w w' : World}
    {now : Int64}
    {instruction : VerifierInstruction}
    (hExecute : instruction.execute H now w = .ok w') :
    DataOperations H w w' := by
  cases instruction with
  | createChallenge challenger nonce =>
      simp only [VerifierInstruction.execute,
        createChallenge, bind_eq_ok, require_eq_ok]
        at hExecute
      rcases hExecute with
        ⟨created, hCreated, _, _, _, _, hSave⟩
      exact (createPda_ops hCreated trivial).trans
        (savePda_ops hSave trivial)
  | closeChallenge challenger address =>
      exact closeChallenge_ops hExecute
  | verifyProof verifier proofBytes publicInputs nonce =>
      simp only [VerifierInstruction.execute, verifyProof,
        bind_eq_ok] at hExecute
      rcases hExecute with ⟨_, hCreate, _, _, hVerify⟩
      exact (createPda_ops hCreate trivial).trans
        (verifyAndStore_ops hVerify)
  | verifyProofCompact verifier nonce proofBytes
      commitmentNew commitmentPrev threshold minDistance =>
      simp only [VerifierInstruction.execute,
        verifyProofCompact, bind_eq_ok] at hExecute
      rcases hExecute with ⟨_, hCreate, hVerify⟩
      exact (createPda_ops hCreate trivial).trans
        (verifyAndStore_ops hVerify)
  | verifyProofBound verifier nonce proof commitmentNew
      commitmentPrev threshold minDistance validUntil =>
      exact verifyProofBound_ops hExecute
  | closeVerificationResult verifier address =>
      exact closeVerificationResult_ops hExecute
  | closeBoundVerificationResult verifier nonce address =>
      exact closeBoundVerificationResult_ops hExecute

end Entros

------------------------------------------------------------
-- Parts of the Anchor Instructions
------------------------------------------------------------

namespace Entros

open Foundations

namespace Anchor

variable {H : Host}
variable {w w' : World} {user : Signer}
variable {remainingAccounts : List AccountMeta}

theorem ensureProofRequestState_ops
    {wallet : Pubkey}
    (hEnsure :
      ensureProofRequestState H w wallet user = .ok w') :
    DataOperations H w w' := by
  unfold ensureProofRequestState at hEnsure
  split_ifs at hEnsure
  · simp only [bind_eq_ok] at hEnsure
    rcases hEnsure with ⟨created, hCreate, hSave⟩
    exact (createPda_ops hCreate trivial).trans
      (savePda_ops hSave trivial)
  · rw [Except.ok.inj hEnsure]

theorem advance_ops
    {account : AccountMeta}
    {wallet : Pubkey}
    (hAdvance :
      advance H w account wallet user = .ok w') :
    DataOperations H w w' := by
  simp only [advance, bind_eq_ok, require_eq_ok,
    pure_eq_ok] at hAdvance
  rcases hAdvance with
    ⟨_, _, _, _, created, hEnsure, _, _, _, _, _, _, data,
      hWrite, rfl⟩
  exact (ensureProofRequestState_ops hEnsure).trans
    (writePda_ops (length_writeField hWrite) trivial)

theorem advanceOnly_ops
    (hAdvance :
      advanceOnly H w remainingAccounts user = .ok w') :
    DataOperations H w w' := by
  unfold advanceOnly at hAdvance
  split_ifs at hAdvance
  · match remainingAccounts, hAdvance with
    | [_], hAdvance => exact advance_ops hAdvance
  · rw [Except.ok.inj hAdvance]

theorem advanceForMigration_ops
    {walletOld : Pubkey}
    {identityOld : IdentityState}
    (hAdvance :
      advanceForMigration H w user walletOld identityOld
        remainingAccounts = .ok w') :
    DataOperations H w w' := by
  unfold advanceForMigration at hAdvance
  split_ifs at hAdvance
  · split at hAdvance
    · simp only [bind_eq_ok, require_eq_ok] at hAdvance
      rcases hAdvance with
        ⟨_, _, _, _, advanced, hOld, hNew⟩
      exact (advance_ops hOld).trans (advance_ops hNew)
    · cases hAdvance
  · rw [Except.ok.inj hAdvance]

theorem splitResetAccounts_ops
    {split : World × List AccountMeta}
    (hSplit :
      splitResetAccounts H w remainingAccounts user =
        .ok split) :
    DataOperations H w split.1 := by
  unfold splitResetAccounts at hSplit
  split_ifs at hSplit
  · cases hLast : remainingAccounts.getLast? with
    | none => simp [hLast] at hSplit
    | some state =>
        simp only [hLast, bind_eq_ok, pure_eq_ok] at hSplit
        rcases hSplit with ⟨advanced, hAdvance, rfl⟩
        exact advance_ops hAdvance
  · rw [← Except.ok.inj hSplit]

theorem openIdentity_ops
    {opened : World × IdentityState}
    (hOpen : openIdentity H w user = .ok opened) :
    DataOperations H w opened.1 := by
  simp only [openIdentity, bind_eq_ok, require_eq_ok,
    pure_eq_ok] at hOpen
  rcases hOpen with
    ⟨_, _, grown, hGrow, _, _, _, _, rfl⟩
  unfold growIdentity at hGrow
  dsimp only at hGrow
  split_ifs at hGrow
  · exact growPda_ops hGrow trivial
  · rw [Except.ok.inj hGrow]

theorem writeIdentity_ops
    {wallet : Pubkey}
    {identity : IdentityState}
    (hWrite :
      writeIdentity H w wallet identity = .ok w') :
    DataOperations H w w' :=
  savePda_ops (remapError_eq_ok.mp hWrite) trivial

theorem consumeProof_ops
    {now : Int64}
    {identity : IdentityState}
    {address : Address}
    {bound : Bool}
    {consumed : World × ProofTransition}
    (hConsume :
      consumeProof H w now user identity address bound =
        .ok consumed) :
    DataOperations H w consumed.1 := by
  unfold consumeProof at hConsume
  split_ifs at hConsume
  · simp only [consumeBoundResult, bind_eq_ok,
      require_eq_ok, pure_eq_ok] at hConsume
    rcases hConsume with
      ⟨_, _, _, _, _, _, _, _, _, _, _, _, _, _, _, _, _, _,
        _, _, data, hWrite, rfl⟩
    exact writePda_ops (length_writeField hWrite) trivial
  · simp only [bind_eq_ok, pure_eq_ok] at hConsume
    rcases hConsume with ⟨_, _, rfl⟩
    exact .refl

theorem closeVerificationResultCpi_ops
    {address : Address}
    {boundNonce : Option (Bytes 32)}
    (hClose :
      closeVerificationResultCpi H w user address
        boundNonce = .ok w') :
    DataOperations H w w' := by
  cases boundNonce with
  | none =>
      exact Verifier.closeVerificationResult_ops hClose
  | some nonce =>
      exact Verifier.closeBoundVerificationResult_ops hClose

end Anchor

end Entros

------------------------------------------------------------
-- Anchor Instructions
------------------------------------------------------------

namespace Entros

open Foundations

namespace Anchor

variable {H : Host}
variable {w w' : World} {user : Signer}
variable {remainingAccounts : List AccountMeta}

theorem prepareProofRequest_ops
    (hPrepare : prepareProofRequest H w user = .ok w') :
    DataOperations H w w' := by
  simp only [prepareProofRequest, bind_eq_ok, require_eq_ok]
    at hPrepare
  rcases hPrepare with
    ⟨opened, hOpen, _, _, _, _, _, _, hSave⟩
  refine Relation.ReflTransGen.trans ?_
    (savePda_ops hSave trivial)
  unfold openProofRequestState at hOpen
  dsimp only at hOpen
  split_ifs at hOpen
  · simp only [bind_eq_ok, pure_eq_ok] at hOpen
    rcases hOpen with ⟨created, hCreate, rfl⟩
    exact createPda_ops hCreate trivial
  · simp only [bind_eq_ok, require_eq_ok, pure_eq_ok]
      at hOpen
    rcases hOpen with ⟨_, _, _, _, rfl⟩
    exact .refl

/- The account has been funded before it is extended. -/
theorem upgradeIdentityLayout_ops
    (hUpgrade : upgradeIdentityLayout H w user = .ok w') :
    DataOperations H w w' := by
  simp only [upgradeIdentityLayout, bind_eq_ok,
    require_eq_ok] at hUpgrade
  rcases hUpgrade with ⟨_, _, _, _, _, _, hExtend⟩
  unfold extendIdentity at hExtend
  dsimp only at hExtend
  split_ifs at hExtend
  · rw [Except.ok.inj hExtend]
  · simp only [bind_eq_ok, pure_eq_ok] at hExtend
    rcases hExtend with ⟨funded, hFunded, rfl⟩
    refine (topUp_ops hFunded).tail (.write ?_ (.inr ?_))
    · exact allocable_pda (.identity user.key) trivial
    · rw [length_resize]
      exact topUp_covers hFunded Address.noConfusion

theorem mintAnchor_tokens
    {instruction : Instruction}
    {tx : Transaction H}
    {now : Int64}
    {commitment : Bytes 32}
    (hMotion : instruction.motion = .birth user.key)
    (hSigned : user ∈ instruction.signers)
    (hMint :
      mintAnchor tx w now user remainingAccounts
        commitment = .ok w') :
    TokenStep H instruction w w' := by
  simp only [mintAnchor, bind_eq_ok, require_eq_ok] at hMint
  rcases hMint with
    ⟨created, hInit, advanced, hAdvanced, _, _, issued,
      hIssued, _, _, _, _, paid, hPaid, hSave⟩
  have hBefore : DataOperations H w advanced :=
    (createPda_ops hInit trivial).trans
      (advanceOnly_ops hAdvanced)
  have hAfter : DataOperations H issued w' :=
    (payFee_ops hPaid).trans (savePda_ops hSave trivial)
  exact .mint hMotion hSigned hBefore hIssued hAfter

theorem authorizeNewWallet_tokens
    {signer signerNew : Signer}
    (hAuthorize :
      authorizeNewWallet H w signer signerNew = .ok w') :
    TokenStep H
      (.anchor (.authorizeNewWallet signer signerNew)) w
      w' := by
  simp only [authorizeNewWallet, bind_eq_ok] at hAuthorize
  rcases hAuthorize with
    ⟨_, _, _, _, approved, hApprove, hSave⟩
  exact .approve rfl (List.mem_cons_self ..) hApprove
    (savePda_ops hSave trivial)

theorem migrateIdentity_tokens
    {instruction : Instruction}
    {walletOld : Pubkey}
    (hMotion : instruction.motion = .move walletOld user.key)
    (hSigned : user ∈ instruction.signers)
    (hMigrate :
      migrateIdentity H w user walletOld
        remainingAccounts = .ok w') :
    TokenStep H instruction w w' := by
  simp only [migrateIdentity, bind_eq_ok, require_eq_ok,
    pure_eq_ok] at hMigrate
  rcases hMigrate with
    ⟨_, _, _, _, created, hInit, advanced, hAdvanced,
      issued, hIssued, _, _, _, _, paid, hPaid, burned,
      hBurned, closed, hClosed, saved, hSave, rfl⟩
  have hBefore : DataOperations H w advanced :=
    (createPda_ops hInit trivial).trans
      (advanceForMigration_ops hAdvanced)
  refine .migrate hMotion hSigned hBefore hIssued
    (payFee_ops hPaid) hBurned hClosed ?_
  refine (savePda_ops hSave trivial).tail (.close (.inl ?_))
  exact allocable_pda (.identity walletOld) trivial

theorem resetIdentityState_ops
    {tx : Transaction H}
    {now : Int64}
    {commitment : Bytes 32}
    {projectionVersion : UInt16}
    (hReset :
      resetIdentityState tx w now user remainingAccounts
        commitment projectionVersion = .ok w') :
    DataOperations H w w' := by
  simp only [resetIdentityState, bind_eq_ok, require_eq_ok]
    at hReset
  rcases hReset with
    ⟨split, hSplit, _, _, opened, hOpen, _, _, _, _, _, _, _,
      _, _, _, written, hWrite, hPay⟩
  exact (((splitResetAccounts_ops hSplit).trans
    (openIdentity_ops hOpen)).trans
      (writeIdentity_ops hWrite)).trans (payFee_ops hPay)

theorem rebaselineAnchor_ops
    {tx : Transaction H}
    {now : Int64}
    {commitment : Bytes 32}
    {projectionVersion : UInt16}
    (hRebaseline :
      rebaselineAnchor tx w now user remainingAccounts
        commitment projectionVersion = .ok w') :
    DataOperations H w w' := by
  simp only [rebaselineAnchor, bind_eq_ok, require_eq_ok]
    at hRebaseline
  rcases hRebaseline with
    ⟨advanced, hAdvanced, _, _, opened, hOpen, _, _, _, _, _,
      _, _, _, _, _, written, hWrite, hPay⟩
  exact (((advanceOnly_ops hAdvanced).trans
    (openIdentity_ops hOpen)).trans
      (writeIdentity_ops hWrite)).trans (payFee_ops hPay)

theorem setEncryptedBaseline_ops
    {blob : Bytes 96}
    (hSet : setEncryptedBaseline H w user blob = .ok w') :
    DataOperations H w w' := by
  simp only [setEncryptedBaseline, bind_eq_ok,
    require_eq_ok] at hSet
  rcases hSet with ⟨opened, hOpen, _, _, hSave⟩
  refine Relation.ReflTransGen.trans ?_
    (savePda_ops hSave trivial)
  unfold openEncryptedBaseline at hOpen
  dsimp only at hOpen
  split_ifs at hOpen
  · exact createPda_ops hOpen trivial
  · simp only [bind_eq_ok, require_eq_ok, pure_eq_ok]
      at hOpen
    rcases hOpen with ⟨_, _, _, _, rfl⟩
    exact .refl

theorem processAnchorUpdate_ops
    {tx : Transaction H}
    {now : Int64}
    {verificationResult : Address}
    {receipt : UpdateReceiptArgs}
    {expected : Option (Bytes 32)}
    {bound : Bool}
    (hUpdate :
      processAnchorUpdate tx w now user
        verificationResult receipt expected bound = .ok w') :
    DataOperations H w w' := by
  simp only [processAnchorUpdate, bind_eq_ok,
    require_eq_ok] at hUpdate
  rcases hUpdate with
    ⟨_, _, opened, hOpen, _, _, _, _, consumed, hConsume, _,
      _, _, _, _, _, closed, hClose, _, _, written, hWrite,
      hPay⟩
  exact ((((openIdentity_ops hOpen).trans
    (consumeProof_ops hConsume)).trans
      (closeVerificationResultCpi_ops hClose)).trans
        (writeIdentity_ops hWrite)).trans (payFee_ops hPay)

end Anchor

open Anchor

theorem anchor_tokens
    {H : Host}
    {w w' : World}
    {now : Int64}
    {tx : Transaction H}
    {instruction : AnchorInstruction}
    (hExecute : instruction.execute now tx w = .ok w') :
    TokenStep H (.anchor instruction) w w' := by
  cases instruction with
  | prepareProofRequest authority =>
      exact .data rfl (prepareProofRequest_ops hExecute)
  | upgradeIdentityLayout authority =>
      exact .data rfl (upgradeIdentityLayout_ops hExecute)
  | mintAnchor user remainingAccounts commitment =>
      exact mintAnchor_tokens rfl (List.mem_singleton_self _)
        hExecute
  | authorizeNewWallet signer signerNew =>
      exact authorizeNewWallet_tokens hExecute
  | migrateIdentity user walletOld remainingAccounts =>
      exact migrateIdentity_tokens rfl
        (List.mem_singleton_self _) hExecute
  | updateAnchor authority verificationResult newCommitment
      receipt =>
      simp only [AnchorInstruction.execute, updateAnchor,
        bind_eq_ok, require_eq_ok] at hExecute
      rcases hExecute with ⟨_, _, hUpdate⟩
      exact .data rfl (processAnchorUpdate_ops hUpdate)
  | updateAnchorCompact authority verificationResult
      receipt =>
      exact .data rfl (processAnchorUpdate_ops hExecute)
  | updateAnchorBound authority verificationResult receipt =>
      simp only [AnchorInstruction.execute,
        updateAnchorBound, bind_eq_ok, require_eq_ok]
        at hExecute
      rcases hExecute with ⟨_, _, hUpdate⟩
      exact .data rfl (processAnchorUpdate_ops hUpdate)
  | resetIdentityState authority remainingAccounts commitment
      projectionVersion =>
      exact .data rfl (resetIdentityState_ops hExecute)
  | rebaselineAnchor authority remainingAccounts commitment
      projectionVersion =>
      exact .data rfl (rebaselineAnchor_ops hExecute)
  | setEncryptedBaseline authority blob =>
      exact .data rfl (setEncryptedBaseline_ops hExecute)

end Entros

------------------------------------------------------------
-- Registry Instructions
------------------------------------------------------------

namespace Entros

open Foundations

namespace Registry

variable {H : Host}
variable {w w' : World} {signer : Signer}

theorem ensureProtocolConfigLen_ops
    (hEnsure : ensureProtocolConfigLen H w signer = .ok w') :
    DataOperations H w w' := by
  unfold ensureProtocolConfigLen at hEnsure
  split_ifs at hEnsure
  · exact growPda_ops hEnsure trivial
  · rw [Except.ok.inj hEnsure]

/- Growing the configuration and writing its bytes. -/
theorem rewriteConfig_ops
    {grown : World}
    {data : List UInt8}
    (hEnsure :
      ensureProtocolConfigLen H w signer = .ok grown)
    (hSize :
      data.length =
        (grown.accounts (configAddress H)).data.length) :
    DataOperations H w
      (grown.setData (configAddress H) data) :=
  (ensureProtocolConfigLen_ops hEnsure).trans
    (writePda_ops hSize trivial)

theorem migrateAdmin_ops
    (hMigrate : migrateAdmin H w signer = .ok w') :
    DataOperations H w w' := by
  simp only [migrateAdmin, bind_eq_ok, require_eq_ok]
    at hMigrate
  rcases hMigrate with
    ⟨_, _, _, _, _, _, data, hWrite, hTopUp⟩
  have hSize : data.length = ProtocolConfig.len := by
    rw [length_writeField hWrite, length_resize]
  rw [← hSize] at hTopUp
  exact .single
    (.grow (allocable_pda .protocolConfig trivial) hTopUp)

theorem registerValidator_ops
    {now : Int64}
    {stakeAmount : UInt64}
    (hRegister :
      registerValidator H w now signer stakeAmount =
        .ok w') :
    DataOperations H w w' := by
  simp only [registerValidator, bind_eq_ok, require_eq_ok]
    at hRegister
  rcases hRegister with
    ⟨_, _, created, hCreate, _, _, staked, hStake, hSave⟩
  exact ((createPda_ops hCreate trivial).tail
    (.pay hStake)).trans (savePda_ops hSave trivial)

theorem unstakeValidator_ops
    (hUnstake : unstakeValidator H w signer = .ok w') :
    DataOperations H w w' := by
  simp only [unstakeValidator, bind_eq_ok, require_eq_ok,
    pure_eq_ok] at hUnstake
  rcases hUnstake with
    ⟨state, hLoad, _, _, _, _, paid, hPaid, rfl⟩
  refine Relation.ReflTransGen.tail
    (.single (.release (.inr rfl) hPaid)) (.close (.inl ?_))
  exact allocable_pda (.validator signer.key) trivial

end Registry

open Registry

theorem registry_ops
    {H : Host}
    {w w' : World}
    {now : Int64}
    {instruction : RegistryInstruction}
    (hExecute : instruction.execute H now w = .ok w') :
    DataOperations H w w' := by
  cases instruction with
  | initializeProtocol admin minStake challengeExpiry
      maxTrustScore baseTrustIncrement verificationFee
      validatorPubkey =>
      simp only [RegistryInstruction.execute,
        initializeProtocol, bind_eq_ok, require_eq_ok]
        at hExecute
      rcases hExecute with ⟨created, hCreate, _, _, hSave⟩
      exact (createPda_ops hCreate trivial).trans
        (savePda_ops hSave trivial)
  | updateProtocolConfig admin verificationFee =>
      simp only [RegistryInstruction.execute,
        updateProtocolConfig, bind_eq_ok, require_eq_ok]
        at hExecute
      rcases hExecute with
        ⟨config, _, grown, hGrow, _, _, hSave⟩
      exact (growPda_ops hGrow trivial).trans
        (savePda_ops hSave trivial)
  | setValidatorPubkey admin validatorPubkey =>
      simp only [RegistryInstruction.execute,
        setValidatorPubkey, bind_eq_ok, require_eq_ok,
        pure_eq_ok] at hExecute
      rcases hExecute with
        ⟨_, _, _, _, grown, hEnsure, data, hWrite, rfl⟩
      exact rewriteConfig_ops hEnsure
        (length_writeValidatorKeys hWrite)
  | rotateValidatorPubkey admin newValidatorPubkey
      gracePeriodSecs =>
      simp only [RegistryInstruction.execute,
        rotateValidatorPubkey, bind_eq_ok, require_eq_ok,
        pure_eq_ok] at hExecute
      rcases hExecute with
        ⟨_, _, _, _, _, _, _, _, _, _, grown, hEnsure, _, _,
          data, hWrite, rfl⟩
      exact rewriteConfig_ops hEnsure
        (length_writeValidatorKeys hWrite)
  | setProjectionVersions admin current minimum =>
      simp only [RegistryInstruction.execute,
        setProjectionVersions, bind_eq_ok, pure_eq_ok]
        at hExecute
      rcases hExecute with
        ⟨_, _, _, _, _, _, _, _, grown, hEnsure, _, hFirst,
          data, hWrite, rfl⟩
      exact rewriteConfig_ops hEnsure
        ((length_writeField hWrite).trans
          (length_writeField hFirst))
  | proposeAuthority admin newAuthority =>
      simp only [RegistryInstruction.execute,
        proposeAuthority, bind_eq_ok, require_eq_ok,
        pure_eq_ok] at hExecute
      rcases hExecute with
        ⟨_, _, _, _, _, _, grown, hEnsure, data, hWrite, rfl⟩
      exact rewriteConfig_ops hEnsure
        (length_writeField hWrite)
  | acceptAuthority pendingAuthority =>
      simp only [RegistryInstruction.execute,
        acceptAuthority, bind_eq_ok, require_eq_ok,
        pure_eq_ok] at hExecute
      rcases hExecute with
        ⟨_, _, _, _, _, _, _, _, _, _, _, hFirst, data,
          hWrite, rfl⟩
      exact writePda_ops
        ((length_writeField hWrite).trans
          (length_writeField hFirst)) trivial
  | migrateAdmin newAdmin =>
      exact migrateAdmin_ops hExecute
  | withdrawTreasury admin amount =>
      simp only [RegistryInstruction.execute,
        withdrawTreasury, bind_eq_ok, require_eq_ok]
        at hExecute
      rcases hExecute with ⟨_, _, _, _, _, _, hTransfer⟩
      exact .single (.release (.inl rfl) hTransfer)
  | registerValidator validator stakeAmount =>
      exact registerValidator_ops hExecute
  | computeTrustScore count creation recent =>
      rw [computeTrustScore_unchanged hExecute]
  | unstakeValidator validator =>
      exact unstakeValidator_ops hExecute

end Entros

------------------------------------------------------------
-- All Calls
------------------------------------------------------------

namespace Entros

open Foundations

variable {H : Host} {w w' : World}

theorem outside_tokens
    {instruction : OutsideInstruction}
    (hExecute : instruction.execute H w = .ok w') :
    TokenStep H (.outside instruction) w w' := by
  cases instruction with
  | approve owner delegate amount =>
      exact .approve rfl (List.mem_singleton_self _) hExecute
        .refl
  | revoke wallet authority =>
      exact .revoke rfl (List.mem_singleton_self _) hExecute
  | burn wallet authority amount =>
      exact .burn rfl (List.mem_singleton_self _) hExecute
  | openTokenAccount payer wallet =>
      simp only [OutsideInstruction.execute, bind_eq_ok,
        require_eq_ok] at hExecute
      rcases hExecute with ⟨_, _, hOpen⟩
      exact .openToken rfl (List.mem_singleton_self _) hOpen
  | closeTokenAccount owner =>
      exact .closeToken rfl (List.mem_singleton_self _)
        hExecute
  | transfer source destination amount =>
      exact .data rfl (.single (.pay hExecute))
  | createAccount payer key size owner =>
      exact .data rfl (.single (.allocate (.key key) hExecute))
  | writeProgramData data =>
      rw [← Except.ok.inj hExecute]
      exact .data rfl (.single (.load w data))

/- What every call does to the tokens. -/
theorem step_tokens
    {call : Call H}
    (hStep : Step H w call w') :
    TokenStep H call.instruction w w' := by
  rcases call with ⟨now, tx, instruction⟩
  cases instruction with
  | registry instruction =>
      exact .data rfl (registry_ops hStep)
  | verifier instruction =>
      exact .data rfl (verifier_ops hStep)
  | anchor instruction => exact anchor_tokens hStep
  | outside instruction => exact outside_tokens hStep

/- Every call is a chain of operations. -/
theorem step_operations
    {call : Call H}
    (hStep : Step H w call w') :
    Operations H w w' := by
  cases step_tokens hStep with
  | data _ hData => exact hData.operations
  | mint _ _ hBefore hIssue hAfter =>
      exact (hBefore.operations.tail (.issue hIssue)).trans
        hAfter.operations
  | migrate _ _ hBefore hIssue hPaid hBurn hClose hAfter =>
      have hIssued := hBefore.operations.tail (.issue hIssue)
      have hBurned :=
        (hIssued.trans hPaid.operations).tail (.burn hBurn)
      exact (hBurned.tail (.closeMint hClose)).trans
        hAfter.operations
  | approve _ _ hApprove hAfter =>
      exact Relation.ReflTransGen.head (.approve hApprove)
        hAfter.operations
  | revoke _ _ hRevoke => exact .single (.revoke hRevoke)
  | burn _ _ hBurn => exact .single (.burn hBurn)
  | openToken _ _ hOpen => exact .single (.openToken hOpen)
  | closeToken _ _ hClose =>
      exact .single (.closeToken hClose)

end Entros
