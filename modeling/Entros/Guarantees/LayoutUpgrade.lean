import Entros.Anchor.Instructions
import Entros.Chain.Growth
import Entros.System.Replay

/-
  The explicit upgrade of an identity's layout.  It extends
  the account as the instructions that rewrite an identity do
  by themselves, so that running it first changes nothing
  about their outcome.

  Key definitions include:
    * `grownIdentity`
    * `TopUpsCovered`

  Key theorems include:
    * `checkIdentityLayout_resize`
    * `upgradeIdentityLayout_eq_grow`
    * `advance_grown`
    * `openIdentity_grown`
    * `identity_upgrade_agrees`
-/

------------------------------------------------------------
-- The Upgrade
------------------------------------------------------------

namespace Entros

open Foundations

namespace Anchor

variable {H : Host} {w : World} {authority : Signer}

/- The data of a wallet's identity account. -/
def identityData
    (H : Host)
    (w : World)
    (authority : Signer) : List UInt8 :=
  (w.accounts (identityAddress H authority.key)).data

/- The world in which a wallet's identity has been grown. -/
def grownIdentity
    (H : Host)
    (authority : Signer)
    (w : World) : World :=
  if (identityData H w authority).length <
      IdentityState.len then
    w.grown H (walletAddress authority)
      (identityAddress H authority.key) IdentityState.len
  else
    w

/- What the request counter would cost, if it is missing. -/
def counterShortfall
    (H : Host)
    (w : World)
    (wallet : Pubkey) : ℕ :=
  if w.accounts (requestAddress H wallet) = .vacant then
    w.shortfall H (requestAddress H wallet)
      ProofRequestState.len
  else
    0

/-
  The wallet can pay for the longer identity and for its
  request counter.
-/
def TopUpsCovered
    (H : Host)
    (w : World)
    (authority : Signer) : Prop :=
  w.shortfall H (identityAddress H authority.key)
        IdentityState.len +
      counterShortfall H w authority.key ≤
    w.lamports (walletAddress authority)

theorem wallet_ne_identity
    {wallet : Signer}
    {wallet' : Pubkey} :
    walletAddress wallet ≠ identityAddress H wallet' :=
  nofun

theorem wallet_ne_request
    {wallet : Signer}
    {wallet' : Pubkey} :
    walletAddress wallet ≠ requestAddress H wallet' :=
  nofun

theorem request_ne_identity
    {wallet wallet' : Pubkey} :
    requestAddress H wallet ≠ identityAddress H wallet' := by
  intro hEq
  have hSeeds := H.findProgramAddress_inj.mp hEq
  cases hSeeds

/- A zero-extension passes the checks its prefix passes. -/
theorem checkIdentityLayout_resize
    {data : List UInt8}
    {wallet : Pubkey}
    (hLayout : checkIdentityLayout H data wallet = .ok ()) :
    checkIdentityLayout H (resize data IdentityState.len)
      wallet = .ok () := by
  simp only [checkIdentityLayout, bind_eq_ok, require_eq_ok]
    at hLayout ⊢
  rcases hLayout with
    ⟨_, hLength, _, ⟨hName, hOwner, hBump⟩, hMint⟩
  have hLong : 543 ≤ data.length := by
    simp only [List.mem_cons, List.not_mem_nil, or_false]
      at hLength
    omega
  have hKept (start width : ℕ) (hEnd : start + width ≤ 543) :
      slice (resize data IdentityState.len) start width =
        slice data start width :=
    slice_resize (hEnd.trans hLong)
      (hEnd.trans (by decide))
  have hField
      {A : Type}
      [Packed A]
      {offset : ℕ}
      (hEnd : offset + Packed.width A ≤ 543) :
      fieldAt A (resize data IdentityState.len) offset =
        fieldAt A data offset :=
    fieldAt_congr (hKept _ _ hEnd)
  rw [hKept 0 8 (by decide), hField (by decide),
    hField (by decide), hField (by decide), length_resize]
  exact ⟨(), by decide, (), ⟨hName, hOwner, hBump⟩, hMint⟩

theorem checkIdentityLayout_length
    {data : List UInt8}
    {wallet : Pubkey}
    (hLayout : checkIdentityLayout H data wallet = .ok ()) :
    data.length ≤ IdentityState.len := by
  simp only [checkIdentityLayout, bind_eq_ok, require_eq_ok,
    List.mem_cons, List.not_mem_nil, or_false] at hLayout
  rcases hLayout with ⟨_, hLength, _⟩
  have hLen : IdentityState.len = 593 := rfl
  omega

/- A known layout is extended as the others extend it. -/
theorem extendIdentity_covered
    (hLength :
      (identityData H w authority).length ≤
        IdentityState.len)
    (hCovers :
      w.Covers H (walletAddress authority)
        (identityAddress H authority.key)
        IdentityState.len) :
    extendIdentity H w authority =
      .ok (grownIdentity H authority w) := by
  unfold extendIdentity grownIdentity
  unfold identityData at *
  by_cases hCurrent :
      (w.accounts
        (identityAddress H authority.key)).data.length =
        IdentityState.len
  · rw [if_neg hCurrent.ge.not_gt]
    exact if_pos hCurrent
  · rw [if_pos (lt_of_le_of_ne hLength hCurrent)]
    simp only [hCurrent, if_false]
    rw [World.topUp_covered wallet_ne_identity hCovers]
    rfl

theorem growIdentity_covered
    (hCovers :
      w.Covers H (walletAddress authority)
        (identityAddress H authority.key)
        IdentityState.len) :
    growIdentity H w authority =
      .ok (grownIdentity H authority w) := by
  unfold growIdentity grownIdentity identityData
  by_cases hShort :
      (w.accounts
        (identityAddress H authority.key)).data.length <
        IdentityState.len
  · simp only [hShort, if_true]
    exact World.growAccount_covered wallet_ne_identity
      hCovers
  · simp only [hShort, if_false]

theorem upgradeIdentityLayout_covered
    (hOwner :
      (w.accounts (identityAddress H authority.key)).owner =
        .anchor)
    (hBuild : H.requestBound = true)
    (hLayout :
      checkIdentityLayout H (identityData H w authority)
        authority.key = .ok ())
    (hCovers :
      w.Covers H (walletAddress authority)
        (identityAddress H authority.key)
        IdentityState.len) :
    upgradeIdentityLayout H w authority =
      .ok (grownIdentity H authority w) := by
  have hExtend :=
    extendIdentity_covered
      (checkIdentityLayout_length hLayout) hCovers
  simp only [upgradeIdentityLayout, bind_eq_ok,
    require_eq_ok]
  exact ⟨(), hOwner, (), hBuild, (), hLayout, hExtend⟩

end Anchor

end Entros

------------------------------------------------------------
-- Counters and Growth
------------------------------------------------------------

namespace Entros

open Foundations

namespace Anchor

variable {H : Host} {w : World} {authority : Signer}

theorem grownIdentity_accounts_of_ne
    {other : Address}
    (hOther : other ≠ identityAddress H authority.key) :
    (grownIdentity H authority w).accounts other =
      w.accounts other := by
  unfold grownIdentity
  split_ifs
  · exact World.grown_accounts_of_ne hOther
  · rfl

theorem grownIdentity_owner :
    ((grownIdentity H authority w).accounts
        (identityAddress H authority.key)).owner =
      (w.accounts (identityAddress H authority.key)).owner := by
  unfold grownIdentity
  split_ifs
  · rw [World.grown_accounts_self]
  · rfl

theorem identityData_grownIdentity
    (hLength :
      (identityData H w authority).length ≤
        IdentityState.len) :
    identityData H (grownIdentity H authority w) authority =
      resize (identityData H w authority)
        IdentityState.len := by
  unfold grownIdentity
  split_ifs with hShort
  · unfold identityData
    rw [World.grown_accounts_self]
  · rw [resize_of_length_eq
      (le_antisymm hLength (Nat.le_of_not_lt hShort))]

/- A grown identity is not grown again. -/
theorem growIdentity_grownIdentity :
    growIdentity H (grownIdentity H authority w) authority =
      .ok (grownIdentity H authority w) := by
  unfold growIdentity
  have hLong :
      ¬ (identityData H (grownIdentity H authority w)
          authority).length < IdentityState.len := by
    by_cases hShort :
        (identityData H w authority).length <
          IdentityState.len
    · rw [identityData_grownIdentity hShort.le,
        length_resize]
      exact lt_irrefl _
    · unfold grownIdentity
      rw [if_neg hShort]
      exact hShort
  exact if_neg hLong

/- Opening an identity does not notice that it has grown. -/
theorem openIdentity_grown
    (hCovers :
      w.Covers H (walletAddress authority)
        (identityAddress H authority.key)
        IdentityState.len) :
    openIdentity H (grownIdentity H authority w) authority =
      openIdentity H w authority := by
  unfold openIdentity
  rw [grownIdentity_owner, growIdentity_grownIdentity,
    growIdentity_covered hCovers]

/- Both top-ups are covered while the counter is missing. -/
theorem coversBoth_of_topUps
    (hFunds : TopUpsCovered H w authority)
    (hVacant :
      w.accounts (requestAddress H authority.key) =
        .vacant) :
    w.CoversBoth H (walletAddress authority)
      (identityAddress H authority.key)
      (requestAddress H authority.key) IdentityState.len
      ProofRequestState.len where
  payer_ne_target := wallet_ne_identity
  payer_ne_other := wallet_ne_request
  other_ne_target := request_ne_identity
  funds := by
    unfold TopUpsCovered counterShortfall at hFunds
    rw [if_pos hVacant] at hFunds
    exact hFunds

theorem covers_of_topUps
    (hFunds : TopUpsCovered H w authority) :
    w.Covers H (walletAddress authority)
      (identityAddress H authority.key)
      IdentityState.len :=
  (Nat.le_add_right _ _).trans hFunds

/- The counter is created alike before and after. -/
theorem ensureProofRequestState_grown
    (hFunds : TopUpsCovered H w authority) :
    ensureProofRequestState H
        (w.grown H (walletAddress authority)
          (identityAddress H authority.key)
          IdentityState.len)
        authority.key authority =
      (ensureProofRequestState H w authority.key
        authority).map
        (World.grown H (walletAddress authority)
          (identityAddress H authority.key)
          IdentityState.len) := by
  unfold ensureProofRequestState
  rw [World.grown_accounts_of_ne request_ne_identity]
  split_ifs with hVacant
  · rw [World.createAccount_grown
      (coversBoth_of_topUps hFunds hVacant),
      bind_map, map_bind]
    congr 1
    funext created
    exact World.saveAccount_grown request_ne_identity _ _
  · rfl

/- It leaves the identity alone, and enough to grow it. -/
theorem ensureProofRequestState_covers
    {w' : World}
    (hFunds : TopUpsCovered H w authority)
    (hEnsure :
      ensureProofRequestState H w authority.key authority =
        .ok w') :
    w'.accounts (identityAddress H authority.key) =
        w.accounts (identityAddress H authority.key) ∧
      w'.Covers H (walletAddress authority)
        (identityAddress H authority.key)
        IdentityState.len := by
  unfold ensureProofRequestState at hEnsure
  split_ifs at hEnsure with hVacant
  · rcases bind_eq_ok.mp hEnsure with
      ⟨created, hCreate, hSave⟩
    rcases World.createAccount_covers
        (coversBoth_of_topUps hFunds hVacant) hCreate with
      ⟨hIdentity, hCovers⟩
    rcases World.saveAccount_covers request_ne_identity
        hCovers hSave with ⟨hKept, hCovers'⟩
    exact ⟨hKept.trans hIdentity, hCovers'⟩
  · rw [← Except.ok.inj hEnsure]
    exact ⟨rfl, covers_of_topUps hFunds⟩

/- Advancing the counter commutes with the growth. -/
theorem advance_grown
    (hFunds : TopUpsCovered H w authority)
    (account : AccountMeta) :
    advance H
        (w.grown H (walletAddress authority)
          (identityAddress H authority.key)
          IdentityState.len)
        account authority.key authority =
      (advance H w account authority.key authority).map
        (World.grown H (walletAddress authority)
          (identityAddress H authority.key)
          IdentityState.len) := by
  unfold advance
  rw [ensureProofRequestState_grown hFunds]
  simp only [map_bind, bind_map,
    World.grown_accounts_of_ne request_ne_identity]
  congr 1
  funext _
  congr 1
  funext _
  congr 1
  funext created
  congr 1
  funext _
  congr 1
  funext counter
  congr 1
  funext next
  congr 1
  funext data
  exact congrArg Except.ok
    (World.setData_grown request_ne_identity data)

theorem advance_covers
    {w' : World}
    {account : AccountMeta}
    (hFunds : TopUpsCovered H w authority)
    (hAdvance :
      advance H w account authority.key authority =
        .ok w') :
    w'.accounts (identityAddress H authority.key) =
        w.accounts (identityAddress H authority.key) ∧
      w'.Covers H (walletAddress authority)
        (identityAddress H authority.key)
        IdentityState.len := by
  simp only [advance, bind_eq_ok, require_eq_ok, pure_eq_ok]
    at hAdvance
  rcases hAdvance with
    ⟨_, _, _, _, created, hEnsure, _, _, _, _, _, _, data,
      _, rfl⟩
  rcases ensureProofRequestState_covers hFunds hEnsure with
    ⟨hIdentity, hCovers⟩
  refine ⟨?_, hCovers⟩
  rw [← hIdentity, World.setData_accounts,
    Function.update_of_ne request_ne_identity.symm]

/- The same, whether or not the identity is short. -/
theorem advance_grownIdentity
    (hFunds : TopUpsCovered H w authority)
    (account : AccountMeta) :
    advance H (grownIdentity H authority w) account
        authority.key authority =
      (advance H w account authority.key authority).map
        (grownIdentity H authority) := by
  by_cases hShort :
      (identityData H w authority).length <
        IdentityState.len
  · have hGrown :
        grownIdentity H authority w =
          w.grown H (walletAddress authority)
            (identityAddress H authority.key)
            IdentityState.len :=
      if_pos hShort
    rw [hGrown, advance_grown hFunds]
    apply map_congr_ok
    intro advanced hAdvance
    have hKept := (advance_covers hFunds hAdvance).1
    unfold grownIdentity identityData
    unfold identityData at hShort
    rw [hKept, if_pos hShort]
  · have hGrown : grownIdentity H authority w = w :=
      if_neg hShort
    rw [hGrown]
    cases hAdvance :
      advance H w account authority.key authority with
    | error e => rfl
    | ok advanced =>
        have hKept := (advance_covers hFunds hAdvance).1
        have hSame :
            grownIdentity H authority advanced =
              advanced := by
          unfold grownIdentity identityData
          unfold identityData at hShort
          rw [hKept, if_neg hShort]
        exact congrArg Except.ok hSame.symm

end Anchor

end Entros

------------------------------------------------------------
-- Outcomes
------------------------------------------------------------

namespace Entros

open Foundations

namespace Anchor

variable {H : Host} {w : World} {authority : Signer}

theorem splitResetAccounts_grown
    (hFunds : TopUpsCovered H w authority)
    (remainingAccounts : List AccountMeta) :
    splitResetAccounts H (grownIdentity H authority w)
        remainingAccounts authority =
      (splitResetAccounts H w remainingAccounts
        authority).map
        (fun split =>
          (grownIdentity H authority split.1, split.2)) := by
  unfold splitResetAccounts
  split_ifs
  · cases remainingAccounts.getLast? with
    | none => rfl
    | some state =>
        simp only [advance_grownIdentity hFunds, bind_map,
          map_bind]
        rfl
  · rfl

theorem splitResetAccounts_covers
    {remainingAccounts : List AccountMeta}
    {split : World × List AccountMeta}
    (hFunds : TopUpsCovered H w authority)
    (hSplit :
      splitResetAccounts H w remainingAccounts authority =
        .ok split) :
    split.1.Covers H (walletAddress authority)
      (identityAddress H authority.key)
      IdentityState.len := by
  unfold splitResetAccounts at hSplit
  split_ifs at hSplit
  · split at hSplit
    · cases hSplit
    · simp only [bind_eq_ok, pure_eq_ok] at hSplit
      rcases hSplit with ⟨advanced, hAdvance, rfl⟩
      exact (advance_covers hFunds hAdvance).2
  · rw [← Except.ok.inj hSplit]
    exact covers_of_topUps hFunds

/- A reset does not notice that the identity has grown. -/
theorem resetIdentityState_grown
    (hFunds : TopUpsCovered H w authority)
    (tx : Transaction H)
    (now : Int64)
    (remainingAccounts : List AccountMeta)
    (newCommitment : Bytes 32)
    (projectionVersion : UInt16) :
    resetIdentityState tx (grownIdentity H authority w) now
        authority remainingAccounts newCommitment
        projectionVersion =
      resetIdentityState tx w now authority
        remainingAccounts newCommitment
        projectionVersion := by
  unfold resetIdentityState
  rw [splitResetAccounts_grown hFunds, bind_map]
  apply bind_congr_ok
  intro split hSplit
  simp only [openIdentity_grown
    (splitResetAccounts_covers hFunds hSplit)]

theorem advanceOnly_grown
    (hFunds : TopUpsCovered H w authority)
    (remainingAccounts : List AccountMeta) :
    advanceOnly H (grownIdentity H authority w)
        remainingAccounts authority =
      (advanceOnly H w remainingAccounts authority).map
        (grownIdentity H authority) := by
  unfold advanceOnly
  split_ifs
  · split
    · exact advance_grownIdentity hFunds _
    · rfl
  · rfl

theorem advanceOnly_covers
    {remainingAccounts : List AccountMeta}
    {w' : World}
    (hFunds : TopUpsCovered H w authority)
    (hAdvance :
      advanceOnly H w remainingAccounts authority =
        .ok w') :
    w'.Covers H (walletAddress authority)
      (identityAddress H authority.key)
      IdentityState.len := by
  unfold advanceOnly at hAdvance
  split_ifs at hAdvance
  · split at hAdvance
    · exact (advance_covers hFunds hAdvance).2
    · cases hAdvance
  · rw [← Except.ok.inj hAdvance]
    exact covers_of_topUps hFunds

/- Nor does a rebaseline. -/
theorem rebaselineAnchor_grown
    (hFunds : TopUpsCovered H w authority)
    (tx : Transaction H)
    (now : Int64)
    (remainingAccounts : List AccountMeta)
    (newCommitment : Bytes 32)
    (projectionVersion : UInt16) :
    rebaselineAnchor tx (grownIdentity H authority w) now
        authority remainingAccounts newCommitment
        projectionVersion =
      rebaselineAnchor tx w now authority remainingAccounts
        newCommitment projectionVersion := by
  unfold rebaselineAnchor
  rw [advanceOnly_grown hFunds, bind_map]
  apply bind_congr_ok
  intro advanced hAdvance
  simp only [openIdentity_grown
    (advanceOnly_covers hFunds hAdvance)]

/- Nor does an update, in either build. -/
theorem processAnchorUpdate_grown
    (hCovers :
      w.Covers H (walletAddress authority)
        (identityAddress H authority.key)
        IdentityState.len)
    (tx : Transaction H)
    (now : Int64)
    (verificationResult : Address)
    (receipt : UpdateReceiptArgs)
    (expected : Option (Bytes 32))
    (bound : Bool) :
    processAnchorUpdate tx (grownIdentity H authority w) now
        authority verificationResult receipt expected bound =
      processAnchorUpdate tx w now authority
        verificationResult receipt expected bound := by
  unfold processAnchorUpdate
  rw [openIdentity_grown hCovers]

end Anchor

open Anchor

/-
  Whenever the checks of the upgrade pass and the wallet can
  pay, the upgrade succeeds, keeps the old bytes, fills the
  rest with zeros and touches no other account; a second
  upgrade changes nothing; and a reset, a rebaseline or an
  update ends in the same way after the upgrade and without
  it, with the same error or the same world.
-/
theorem identity_upgrade_agrees
    {H : Host}
    {w : World}
    {authority : Signer}
    (hOwner :
      (w.accounts (identityAddress H authority.key)).owner =
        .anchor)
    (hBuild : H.requestBound = true)
    (hLayout :
      checkIdentityLayout H (identityData H w authority)
        authority.key = .ok ())
    (hFunds : TopUpsCovered H w authority) :
    ∃ upgraded,
      upgradeIdentityLayout H w authority = .ok upgraded ∧
        identityData H upgraded authority =
            identityData H w authority ++
              List.replicate
                (593 - (identityData H w authority).length)
                0 ∧
          (∀ address,
            address ≠ identityAddress H authority.key →
              upgraded.accounts address =
                w.accounts address) ∧
            upgradeIdentityLayout H upgraded authority =
                .ok upgraded ∧
              (∀ (tx : Transaction H) now accounts commitment
                  version,
                resetIdentityState tx upgraded now authority
                    accounts commitment version =
                  resetIdentityState tx w now authority
                    accounts commitment version) ∧
                (∀ (tx : Transaction H) now accounts
                    commitment version,
                  rebaselineAnchor tx upgraded now authority
                      accounts commitment version =
                    rebaselineAnchor tx w now authority
                      accounts commitment version) ∧
                  (∀ (tx : Transaction H) now result
                      commitment receipt,
                    updateAnchor tx upgraded now authority
                        result commitment receipt =
                      updateAnchor tx w now authority
                        result commitment receipt) ∧
                    (∀ (tx : Transaction H) now result
                        receipt,
                      updateAnchorCompact tx upgraded now
                          authority result receipt =
                        updateAnchorCompact tx w now
                          authority result receipt) ∧
                      ∀ (tx : Transaction H) now result
                          receipt,
                        updateAnchorBound tx upgraded now
                            authority result receipt =
                          updateAnchorBound tx w now
                            authority result receipt := by
  have hCovers := covers_of_topUps hFunds
  have hLength := checkIdentityLayout_length hLayout
  have hData := identityData_grownIdentity hLength
  refine ⟨grownIdentity H authority w,
    upgradeIdentityLayout_covered hOwner hBuild hLayout
      hCovers, ?_, ?_, ?_, ?_, ?_, ?_, ?_, ?_⟩
  · rw [hData, resize, List.take_of_length_le hLength]
    rfl
  · intro address hOther
    exact grownIdentity_accounts_of_ne hOther
  · have hAgain :
        extendIdentity H (grownIdentity H authority w)
          authority = .ok (grownIdentity H authority w) := by
      apply if_pos
      change (identityData H (grownIdentity H authority w)
        authority).length = _
      rw [hData, length_resize]
    simp only [upgradeIdentityLayout, bind_eq_ok,
      require_eq_ok]
    refine ⟨(), grownIdentity_owner.trans hOwner, (),
      hBuild, (), ?_, hAgain⟩
    change checkIdentityLayout H
      (identityData H (grownIdentity H authority w)
        authority) authority.key = .ok ()
    rw [hData]
    exact checkIdentityLayout_resize hLayout
  · intro tx now accounts commitment version
    exact resetIdentityState_grown hFunds tx now accounts
      commitment version
  · intro tx now accounts commitment version
    exact rebaselineAnchor_grown hFunds tx now accounts
      commitment version
  · intro tx now result commitment receipt
    unfold updateAnchor
    simp only [processAnchorUpdate_grown hCovers]
  · intro tx now result receipt
    exact processAnchorUpdate_grown hCovers tx now result
      receipt none false
  · intro tx now result receipt
    unfold updateAnchorBound
    rw [grownIdentity_accounts_of_ne request_ne_identity]
    simp only [processAnchorUpdate_grown hCovers]

end Entros

------------------------------------------------------------
-- A Legacy Identity
------------------------------------------------------------

namespace Entros

open Foundations
open Anchor

namespace LayoutUpgrade

open Sample (alice commitmentPrev addresses)

def tables : Tables where
  requestBound := true
  digests := accountDigests
  addresses := addresses
  proofs := []
  signatures := []

/- The first 543 bytes of an identity. -/
def legacyData : List UInt8 :=
  (serialized tables.host IdentityState.accountName
    (mintedIdentity tables.host alice.key 1700000010
      commitmentPrev 0)).take 543

/- A world in which the first wallet holds such an account. -/
def legacy : World :=
  World.funded.setAccount
    (identityAddress tables.host alice.key)
    { owner := .anchor
      data := legacyData }

end LayoutUpgrade

open LayoutUpgrade
open Sample (alice)

theorem identity_upgrade_agrees_legacy :
    ∃ upgraded,
      upgradeIdentityLayout tables.host legacy alice =
          .ok upgraded ∧
        identityData tables.host upgraded alice =
            legacyData ++ List.replicate 50 0 ∧
          ∀ (tx : Transaction tables.host) now accounts
              commitment version,
            resetIdentityState tx upgraded now alice accounts
                commitment version =
              resetIdentityState tx legacy now alice accounts
                commitment version := by
  have hData :
      identityData tables.host legacy alice = legacyData := by
    decide +kernel
  have hOwner :
      (legacy.accounts
        (identityAddress tables.host alice.key)).owner =
          .anchor := by
    decide +kernel
  have hLayout :
      checkIdentityLayout tables.host
        (identityData tables.host legacy alice) alice.key =
          .ok () := by
    decide +kernel
  have hFunds :
      TopUpsCovered tables.host legacy alice := by
    unfold TopUpsCovered
    decide +kernel
  rcases identity_upgrade_agrees hOwner rfl hLayout hFunds
    with ⟨upgraded, hUpgrade, hBytes, _, _, hReset, _⟩
  have hLength : 593 - legacyData.length = 50 := by
    decide +kernel
  rw [hData, hLength] at hBytes
  exact ⟨upgraded, hUpgrade, hBytes, hReset⟩

end Entros
