import Entros.System.Identities
import Entros.System.Replay

/-
  Migrations and the authorisations they rest on: every
  migration uses up an authorisation that both wallets have
  signed for the identity it moves.

  Key definitions include:
    * `Event.Creates`
    * `Event.Touches`
    * `Enables`
    * `MigrationConsent`

  Key theorems include:
    * `consent_step`
    * `enables_of_migration`
    * `migrationConsent_run`
-/

------------------------------------------------------------
-- Events at a Wallet
------------------------------------------------------------

namespace Entros

open Foundations
open Anchor

variable {H : Host}

/- The event creates an identity at a wallet. -/
def Event.Creates
    (wallet : Pubkey)
    (event : Event H) : Prop :=
  event.instruction.motion = .birth wallet ∨
    ∃ walletOld,
      event.instruction.motion = .move walletOld wallet

/- The event moves the identity of a wallet away. -/
def Event.Leaves
    (wallet : Pubkey)
    (event : Event H) : Prop :=
  ∃ walletNew,
    event.instruction.motion = .move wallet walletNew

/- The event authorises a new wallet for a wallet's identity. -/
def Event.Authorizes
    (wallet walletNew : Pubkey)
    (event : Event H) : Prop :=
  ∃ signer signerNew,
    event.instruction =
        .anchor (.authorizeNewWallet signer signerNew) ∧
      signer.key = wallet ∧ signerNew.key = walletNew

/- Everything that decides where an identity may move. -/
def Event.Touches
    (wallet : Pubkey)
    (event : Event H) : Prop :=
  event.Creates wallet ∨ event.Leaves wallet ∨
    ∃ walletNew, event.Authorizes wallet walletNew

/-
  The authorisation at position `i` is in force when the event
  at position `j` happens: the identity of `wallet` had been
  created before it, and nothing has touched it since.
-/
def Enables
    (history : List (Event H))
    (wallet walletNew : Pubkey)
    (i j : ℕ) : Prop :=
  (∃ authorization,
    LatestAt (Event.Touches wallet) (history.take j) i
        authorization ∧
      authorization.Authorizes wallet walletNew) ∧
    ∃ k creation,
      k < i ∧
        LatestAt (Event.Creates wallet) (history.take j) k
          creation

/-
  Every migration is enabled by an authorisation, and no
  authorisation enables two migrations.
-/
structure MigrationConsent
    (history : List (Event H)) : Prop where
  enabled :
    ∀ (j : ℕ) (event : Event H) wallet walletNew,
      history[j]? = some event →
        event.instruction.motion =
            .move wallet walletNew →
          ∃ i, Enables history wallet walletNew i j
  once :
    ∀ (i j j' : ℕ) (event event' : Event H)
      wallet wallet' walletNew walletNew',
      history[j]? = some event →
        history[j']? = some event' →
          event.instruction.motion =
              .move wallet walletNew →
            event'.instruction.motion =
                .move wallet' walletNew' →
              Enables history wallet walletNew i j →
                Enables history wallet' walletNew' i j' →
                  j = j'

/-
  The records behind a live identity: its creation and, once a
  new wallet is stored, the authorisation that stored it.
-/
structure Recorded
    (history : List (Event H))
    (wallet : Pubkey)
    (stored : IdentityState) : Prop where
  created :
    ∃ k creation,
      LatestAt (Event.Creates wallet) history k creation
  authorized :
    stored.newWallet ≠ Pubkey.default →
      ∃ i authorization,
        LatestAt (Event.Touches wallet) history i
            authorization ∧
          authorization.Authorizes wallet stored.newWallet

def AllRecorded
    (history : List (Event H))
    (identity : Pubkey → Option IdentityState) : Prop :=
  ∀ wallet stored,
    identity wallet = some stored →
      Recorded history wallet stored

end Entros

------------------------------------------------------------
-- One Step
------------------------------------------------------------

namespace Entros

open Foundations
open Anchor

variable {H : Host}
variable {history : List (Event H)} {last : Event H}
variable {wallet : Pubkey} {stored rewritten : IdentityState}

/- An event that does not touch the wallet changes nothing. -/
theorem Recorded.snoc
    (hRecorded : Recorded history wallet stored)
    (hLast : ¬ last.Touches wallet) :
    Recorded (history ++ [last]) wallet stored where
  created := by
    rcases hRecorded.created with ⟨k, creation, hLatest⟩
    exact ⟨k, creation,
      hLatest.snoc fun hCreates => hLast (.inl hCreates)⟩
  authorized := by
    intro hNew
    rcases hRecorded.authorized hNew with
      ⟨i, authorization, hLatest, hAuthorizes⟩
    exact ⟨i, authorization, hLatest.snoc hLast,
      hAuthorizes⟩

/- A newly created identity has no new wallet. -/
theorem Recorded.of_creation
    (history : List (Event H))
    (hCreates : last.Creates wallet)
    (hNew : stored.newWallet = Pubkey.default) :
    Recorded (history ++ [last]) wallet stored where
  created :=
    ⟨history.length, last, .snoc_self history hCreates⟩
  authorized := fun hStored => absurd hNew hStored

/- A rewritten identity keeps its records. -/
theorem Recorded.rewrite
    (hRecorded : Recorded history wallet stored)
    (hNew : rewritten.newWallet = stored.newWallet) :
    Recorded history wallet rewritten where
  created := hRecorded.created
  authorized := by
    rw [hNew]
    exact hRecorded.authorized

/- A quiet event touches no wallet. -/
theorem not_touches_of_quiet
    (hQuiet : last.instruction.Quiet)
    (wallet : Pubkey) :
    ¬ last.Touches wallet := by
  rintro ((hBirth | ⟨_, hMove⟩) | ⟨_, hMove⟩ |
    ⟨_, signer, signerNew, hInstruction, _⟩)
  · exact nomatch hQuiet.motion.symm.trans hBirth
  · exact nomatch hQuiet.motion.symm.trans hMove
  · exact nomatch hQuiet.motion.symm.trans hMove
  · have hSome := hQuiet.authorization
    rw [hInstruction] at hSome
    cases hSome

/- A mint touches the wallet it is for only. -/
theorem wallet_of_touches_mint
    {user : Signer}
    {remainingAccounts : List AccountMeta}
    {commitment : Bytes 32}
    (hInstruction :
      last.instruction =
        .anchor (.mintAnchor user remainingAccounts
          commitment))
    (hTouches : last.Touches wallet) :
    wallet = user.key := by
  rcases hTouches with (hBirth | ⟨_, hMove⟩) | ⟨_, hMove⟩ |
    ⟨_, _, _, hAuthorize, _⟩
  · rw [hInstruction] at hBirth
    exact (Motion.birth.inj hBirth).symm
  · rw [hInstruction] at hMove
    cases hMove
  · rw [hInstruction] at hMove
    cases hMove
  · rw [hInstruction] at hAuthorize
    cases hAuthorize

/- An authorisation touches the wallet that signs it only. -/
theorem wallet_of_touches_authorize
    {signer signerNew : Signer}
    (hInstruction :
      last.instruction =
        .anchor (.authorizeNewWallet signer signerNew))
    (hTouches : last.Touches wallet) :
    wallet = signer.key := by
  rcases hTouches with (hBirth | ⟨_, hMove⟩) | ⟨_, hMove⟩ |
    ⟨_, _, _, hAuthorize, hWallet, _⟩
  · rw [hInstruction] at hBirth
    cases hBirth
  · rw [hInstruction] at hMove
    cases hMove
  · rw [hInstruction] at hMove
    cases hMove
  · rw [hInstruction] at hAuthorize
    cases hAuthorize
    exact hWallet.symm

/- A migration touches its two wallets only. -/
theorem wallet_of_touches_migrate
    {user : Signer}
    {walletOld : Pubkey}
    {remainingAccounts : List AccountMeta}
    (hInstruction :
      last.instruction =
        .anchor (.migrateIdentity user walletOld
          remainingAccounts))
    (hTouches : last.Touches wallet) :
    wallet = user.key ∨ wallet = walletOld := by
  rcases hTouches with (hBirth | ⟨_, hMove⟩) | ⟨_, hMove⟩ |
    ⟨_, _, _, hAuthorize, _⟩
  · rw [hInstruction] at hBirth
    cases hBirth
  · rw [hInstruction] at hMove
    exact .inl (Motion.move.inj hMove).2.symm
  · rw [hInstruction] at hMove
    exact .inr (Motion.move.inj hMove).1.symm
  · rw [hInstruction] at hAuthorize
    cases hAuthorize

/- One successful call keeps the records of all identities. -/
theorem consent_step
    {identity identity' : Pubkey → Option IdentityState}
    (hStep : IdentityStep H last.label identity identity')
    (hBefore : AllRecorded history identity) :
    AllRecorded (history ++ [last]) identity' := by
  intro wallet stored hStored
  cases hStep with
  | mint user _ commitment projectionVersion hInstruction _ =>
      by_cases hWallet : wallet = user.key
      · subst hWallet
        rw [Function.update_self] at hStored
        rw [← Option.some.inj hStored]
        refine .of_creation history (.inl ?_) rfl
        exact congrArg Instruction.motion hInstruction
      · rw [Function.update_of_ne hWallet] at hStored
        refine (hBefore wallet stored hStored).snoc ?_
        exact fun hTouches =>
          hWallet (wallet_of_touches_mint hInstruction
            hTouches)
  | authorize signer signerNew previous hInstruction
      hIdentity =>
      by_cases hWallet : wallet = signer.key
      · subst hWallet
        rw [Function.update_self] at hStored
        rw [← Option.some.inj hStored]
        have hAuthorizes :
            last.Authorizes signer.key signerNew.key :=
          ⟨signer, signerNew, hInstruction, rfl, rfl⟩
        rcases (hBefore _ _ hIdentity).created with
          ⟨k, creation, hLatest⟩
        refine ⟨⟨k, creation, hLatest.snoc ?_⟩, fun _ =>
          ⟨history.length, last,
            .snoc_self history
              (.inr (.inr ⟨signerNew.key, hAuthorizes⟩)),
            hAuthorizes⟩⟩
        rintro (hBirth | ⟨_, hMove⟩)
        · exact nomatch
            (congrArg Instruction.motion
              hInstruction).symm.trans hBirth
        · exact nomatch
            (congrArg Instruction.motion
              hInstruction).symm.trans hMove
      · rw [Function.update_of_ne hWallet] at hStored
        refine (hBefore wallet stored hStored).snoc ?_
        exact fun hTouches =>
          hWallet (wallet_of_touches_authorize hInstruction
            hTouches)
  | migrate user walletOld _ identityOld hInstruction _ _ _ =>
      by_cases hOld : wallet = walletOld
      · subst hOld
        rw [Function.update_self] at hStored
        cases hStored
      · rw [Function.update_of_ne hOld] at hStored
        by_cases hWallet : wallet = user.key
        · subst hWallet
          rw [Function.update_self] at hStored
          rw [← Option.some.inj hStored]
          refine .of_creation history
            (.inr ⟨walletOld, ?_⟩) rfl
          exact congrArg Instruction.motion hInstruction
        · rw [Function.update_of_ne hWallet] at hStored
          refine (hBefore wallet stored hStored).snoc ?_
          intro hTouches
          rcases wallet_of_touches_migrate hInstruction
            hTouches with hUser | hSource
          · exact hWallet hUser
          · exact hOld hSource
  | rewrite changed previous rewritten hQuiet hIdentity
      hSame =>
      have hLast := not_touches_of_quiet hQuiet wallet
      by_cases hWallet : wallet = changed
      · subst hWallet
        rw [Function.update_self] at hStored
        rw [← Option.some.inj hStored]
        exact ((hBefore _ _ hIdentity).rewrite
          hSame.newWallet).snoc hLast
      · rw [Function.update_of_ne hWallet] at hStored
        exact (hBefore wallet stored hStored).snoc hLast
  | same hQuiet =>
      exact (hBefore wallet stored hStored).snoc
        (not_touches_of_quiet hQuiet wallet)

end Entros

------------------------------------------------------------
-- Runs
------------------------------------------------------------

namespace Entros

open Foundations
open Anchor

variable {H : Host} {w w' : World}
variable {history : List (Event H)}

theorem allRecorded_run
    (hFresh : w.Fresh)
    (hRun : Run (Step H) w history w') :
    AllRecorded history (w'.ledger H).identity := by
  refine hRun.preserves
    (fun history state =>
      AllRecorded history (state.ledger H).identity) ?_ ?_
  · rw [hFresh.ledger_eq]
    exact fun _ _ => nofun
  · intro history last hFront hBefore
    exact consent_step (run_identityStep hFresh hFront)
      hBefore

/- What a migration finds stored for the wallet it empties. -/
theorem stored_of_migration
    {event : Event H}
    {wallet walletNew : Pubkey}
    (hFresh : w.Fresh)
    (hFront : Run (Step H) w history event.source)
    (hMotion :
      event.instruction.motion = .move wallet walletNew) :
    ∃ stored,
      (event.source.ledger H).identity wallet =
          some stored ∧
        stored.newWallet = walletNew ∧
          walletNew ≠ Pubkey.default := by
  rcases (run_identityStep hFresh hFront).migrated
    hMotion with ⟨stored, hStored, hAuthorized, hDefault, _⟩
  exact ⟨stored, hStored, hAuthorized, hDefault⟩

/- The creation of an identity precedes its authorisation. -/
theorem creation_before_authorization
    {wallet walletNew : Pubkey}
    {i k : ℕ}
    {authorization creation : Event H}
    (hLatest :
      LatestAt (Event.Touches wallet) history i
        authorization)
    (hAuthorizes :
      authorization.Authorizes wallet walletNew)
    (hCreation :
      LatestAt (Event.Creates wallet) history k creation) :
    k < i := by
  rcases Nat.lt_trichotomy k i with hLt | hEq | hGt
  · exact hLt
  · subst hEq
    have hSame : authorization = creation :=
      Option.some.inj (hLatest.1.symm.trans hCreation.1)
    subst hSame
    rcases hAuthorizes with ⟨_, _, hInstruction, _⟩
    rcases hCreation.2.1 with hBirth | ⟨_, hMove⟩
    · rw [hInstruction] at hBirth
      cases hBirth
    · rw [hInstruction] at hMove
      cases hMove
  · exact absurd (.inl hCreation.2.1)
      (hLatest.2.2 k creation hGt hCreation.1)

/- A migration is enabled by the latest authorisation. -/
theorem enables_of_migration
    {event : Event H}
    {j : ℕ}
    {wallet walletNew : Pubkey}
    (hFresh : w.Fresh)
    (hRun : Run (Step H) w history w')
    (hEvent : history[j]? = some event)
    (hMotion :
      event.instruction.motion = .move wallet walletNew) :
    ∃ i, Enables history wallet walletNew i j := by
  have hFront := hRun.source hEvent
  rcases stored_of_migration hFresh hFront hMotion with
    ⟨stored, hStored, hNew, hKey⟩
  have hRecorded :=
    allRecorded_run hFresh hFront wallet stored hStored
  rw [← hNew] at hKey ⊢
  rcases hRecorded.authorized hKey with
    ⟨i, authorization, hLatest, hAuthorizes⟩
  rcases hRecorded.created with ⟨k, creation, hCreation⟩
  exact ⟨i, ⟨authorization, hLatest, hAuthorizes⟩, k,
    creation,
    creation_before_authorization hLatest hAuthorizes
      hCreation,
    hCreation⟩

/-
  Every migration of a run rests on an authorisation of its
  own, signed by both wallets for the identity it moves.
-/
theorem migrationConsent_run
    (hFresh : w.Fresh)
    (hRun : Run (Step H) w history w') :
    MigrationConsent history where
  enabled := fun _ _ _ _ hEvent hMotion =>
    enables_of_migration hFresh hRun hEvent hMotion
  once := by
    intro i j j' event event' wallet wallet' walletNew
      walletNew' hEvent hEvent' hMotion hMotion' hEnables
      hEnables'
    rcases hEnables with
      ⟨⟨authorization, hLatest, hAuthorizes⟩, _⟩
    rcases hEnables' with
      ⟨⟨authorization', hLatest', hAuthorizes'⟩, _⟩
    have hSame : authorization = authorization' :=
      Option.some.inj
        ((getElem?_of_take hLatest.1).symm.trans
          (getElem?_of_take hLatest'.1))
    subst hSame
    -- one authorisation is signed by one old wallet
    rcases hAuthorizes with
      ⟨signer, signerNew, hInstruction, rfl, _⟩
    rcases hAuthorizes' with
      ⟨signer', signerNew', hInstruction', rfl, _⟩
    have hSigner : signer' = signer := by
      rw [hInstruction'] at hInstruction
      cases hInstruction
      rfl
    subst hSigner
    exact LatestAt.use_unique hLatest hLatest' hEvent
      hEvent' (.inr (.inl ⟨walletNew, hMotion⟩))
      (.inr (.inl ⟨walletNew', hMotion'⟩))

theorem migrationConsent_roundTrip :
    ∃ (history : List (Event Sample.tables.host))
      (w' : World),
      Run (Step Sample.tables.host) .funded history w' ∧
        history.map Transition.label = Sample.roundTrip ∧
          MigrationConsent history := by
  rcases Sample.roundTrip_run with
    ⟨history, w', hRun, hLabels⟩
  exact ⟨history, w', hRun, hLabels,
    migrationConsent_run funded_fresh hRun⟩

end Entros
