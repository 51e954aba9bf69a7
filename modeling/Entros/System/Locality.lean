import Entros.System.IdentityLocality

/-
  Every instruction stays inside its context: it reads the
  declared accounts only, and of these it writes the mutable
  ones only.

  Key theorems include:
    * `anchor_tracks`
    * `outside_tracks`
    * `execute_confined`
-/

------------------------------------------------------------
-- All Instructions
------------------------------------------------------------

namespace Entros

open Foundations

open Anchor

variable {H : Host} {base w : World}

/- Remaining accounts open what their metas say. -/
theorem opens_remaining
    {locks : List Lock}
    {accounts : List AccountMeta} :
    ∀ account ∈ accounts,
      account.writable = true →
        Zone.Opens
          (lockZone H (locks ++ accounts.map Lock.ofMeta))
          account.address :=
  fun _ hMem hWritable => opens_of_meta hMem hWritable

/- Every instruction of the anchor tracks its context. -/
theorem anchor_tracks
    {tx : Transaction H}
    (now : Int64)
    (instruction : AnchorInstruction)
    (hFaithful :
      (lockZone H (instruction.locks H)).Faithful base w) :
    Tracks (lockZone H (instruction.locks H)) base
      (instruction.execute now tx w)
      (instruction.execute now tx
        ((lockZone H (instruction.locks H)).copy base
          w)) := by
  cases instruction with
  | prepareProofRequest authority =>
      exact prepareProofRequest_tracks hFaithful
        (opens_of_mem (.head _))
        (opens_of_mem (.tail _ (.head _)))
  | upgradeIdentityLayout authority =>
      exact upgradeIdentityLayout_tracks hFaithful
        (opens_of_mem (.head _))
        (opens_of_mem (.tail _ (.head _)))
  | mintAnchor user accounts commitment =>
      have hContext :
          mintAnchorContext H user ⊆
            mintAnchorContext H user ++
              accounts.map .ofMeta :=
        List.subset_append_left _ _
      exact mintAnchor_tracks hFaithful opens_remaining now
        commitment (opens_of_mem (.head _))
        { identity := opens_of_mem (.tail _ (.head _))
          mint :=
            opensMint_of_mem (.tail _ (.tail _ (.head _)))
          token :=
            opensToken_of_mem
              (.tail _ (.tail _ (.tail _ (.tail _
                (.head _))))) }
        (opensFee_of_subset fun _ hMem =>
          hContext (List.mem_append_right _ hMem))
  | authorizeNewWallet signer signerNew =>
      exact authorizeNewWallet_tracks hFaithful
        { identity := opens_of_mem (.tail _ (.head _))
          mint :=
            opensMint_of_mem
              (.tail _ (.tail _ (.tail _ (.head _))))
          token :=
            opensToken_of_mem
              (.tail _ (.tail _ (.tail _ (.tail _
                (.head _))))) }
  | migrateIdentity user walletOld accounts =>
      have hContext :
          migrateIdentityContext H user walletOld ⊆
            migrateIdentityContext H user walletOld ++
              accounts.map .ofMeta :=
        List.subset_append_left _ _
      have hMem {lock : Lock}
          (index : ℕ)
          (hIndex :
            (migrateIdentityContext H user walletOld)[index]? =
              some lock) :
          lock ∈
            migrateIdentityContext H user walletOld ++
              accounts.map .ofMeta :=
        hContext (List.mem_of_getElem? hIndex)
      exact migrateIdentity_tracks hFaithful opens_remaining
        (opens_of_mem (hMem 0 rfl))
        (accepts_of_mem (hMem 5 rfl))
        { identity := opens_of_mem (hMem 1 rfl)
          mint := opensMint_of_mem (hMem 2 rfl)
          token := opensToken_of_mem (hMem 4 rfl) }
        { identity := opens_of_mem (hMem 6 rfl)
          mint := opensMint_of_mem (hMem 7 rfl)
          token := opensToken_of_mem (hMem 8 rfl) }
        (opensFee_of_subset fun _ hMem =>
          hContext (List.mem_append_right _ hMem))
  | updateAnchor authority result commitment receipt =>
      exact updateAnchor_tracks hFaithful
        (opensUpdate_of_subset (List.Subset.refl _)) ..
  | updateAnchorCompact authority result receipt =>
      exact updateAnchorCompact_tracks hFaithful
        (opensUpdate_of_subset (List.Subset.refl _)) ..
  | updateAnchorBound authority result receipt =>
      exact updateAnchorBound_tracks hFaithful
        (opensUpdate_of_subset (List.subset_cons_self _ _))
        now receipt (opens_of_mem (.head _))
  | resetIdentityState authority accounts commitment version =>
      exact resetIdentityState_tracks hFaithful
        (opens_of_mem (.head _))
        (opens_of_mem (.tail _ (.head _))) opens_remaining
        (opensFee_of_subset fun _ hMem =>
          List.mem_append_left _
            (List.mem_append_right _ hMem)) ..
  | rebaselineAnchor authority accounts commitment version =>
      exact rebaselineAnchor_tracks hFaithful
        (opens_of_mem (.tail _ (.head _)))
        (opens_of_mem (.tail _ (.tail _ (.head _))))
        opens_remaining
        (opensFee_of_subset fun _ hMem =>
          List.mem_append_left _
            (.tail _ (List.mem_append_right _ hMem))) ..
  | setEncryptedBaseline authority blob =>
      exact setEncryptedBaseline_tracks hFaithful
        (opens_of_mem (.head _)) blob
        (opens_of_mem (.tail _ (.tail _ (.head _))))
        (reads_of_mem (.tail _ (.head _)))

/- And so does everything around the three programs. -/
theorem outside_tracks
    (instruction : OutsideInstruction)
    (hFaithful :
      (lockZone H (instruction.locks H)).Faithful base w) :
    Tracks (lockZone H (instruction.locks H)) base
      (instruction.execute H w)
      (instruction.execute H
        ((lockZone H (instruction.locks H)).copy base
          w)) := by
  cases instruction with
  | approve owner delegate amount =>
      exact approve_tracks hFaithful
        (opensToken_of_mem (.head _))
  | revoke wallet authority =>
      exact revoke_tracks hFaithful
        (opensToken_of_mem (.head _))
  | burn wallet authority amount =>
      exact burn_tracks hFaithful
        (opensMint_of_mem (.head _))
        (opensToken_of_mem (.tail _ (.head _)))
  | openTokenAccount payer wallet =>
      have hMint :=
        Faithful.mint hFaithful
          ⟨_, .tail _ (.head _), Access.noConfusion, rfl⟩
      apply Mirrors.value (by rw [hMint])
      intro _ _
      exact createTokenAccount_tracks hFaithful
        (opens_of_mem (.head _))
        (opensToken_of_mem (.tail _ (.tail _ (.head _))))
  | closeTokenAccount owner =>
      exact closeTokenAccount_tracks hFaithful
        (opensToken_of_mem (.tail _ (.head _)))
        (opens_of_mem (.head _))
  | transfer source destination amount =>
      exact transfer_tracks hFaithful
        (opens_of_mem (.head _))
        (accepts_of_mem (.tail _ (.head _)))
  | createAccount payer key size owner =>
      exact createAccount_tracks hFaithful
        (opens_of_mem (.head _))
        (opens_of_mem (.tail _ (.head _)))
  | writeProgramData data =>
      have hWrite :
          Resource.programData ∈
            (lockZone H
              (OutsideInstruction.locks H
                (.writeProgramData data))).writes :=
        writes_of_mem (.head _) rfl rfl
      exact (setProgramData_tame data hWrite).tracks
        hFaithful

/- No call leaves its zone. -/
theorem execute_confined (call : Call H) :
    Confined (call.instruction.zone H)
      (fun w => execute w call) := by
  rcases call with ⟨now, tx, instruction⟩
  apply Confined.of_tracks
  intro base w hFaithful
  cases instruction with
  | registry instruction =>
      exact registry_tracks now instruction hFaithful
  | verifier instruction =>
      exact verifier_tracks now instruction hFaithful
  | anchor instruction =>
      exact anchor_tracks now instruction hFaithful
  | outside instruction =>
      exact outside_tracks instruction hFaithful

end Entros
