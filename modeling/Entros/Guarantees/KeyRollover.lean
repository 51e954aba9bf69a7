import Entros.System.ConfigReaders
import Entros.System.Frames
import Entros.System.Replay

/-
  The rollover window of the validator key: which keys the
  policy that entros-anchor reads from the configuration can
  accept, after any sequence of calls.

  Key definitions include:
    * `KeyChange`
    * `Event.keyChange`
    * `lastKeyChange`
    * `WindowExplained`

  Key theorems include:
    * `window_step`
    * `window_run`
    * `accepted_key_explained`
-/

------------------------------------------------------------
-- Key Changes
------------------------------------------------------------

namespace Entros

open Foundations
open Registry

/-
  A change of the primary key: the key that was primary
  before it and, for a rotation, its time and grace period.
-/
structure KeyChange where
  previous : Pubkey
  rotation : Option (Int64 × Int64)

variable {H : Host}

/- The key change an event makes. -/
def Event.keyChange (event : Event H) : Option KeyChange :=
  match event.instruction with
  | .registry (.initializeProtocol ..) =>
      some
        { previous :=
            (configRecord H event.source).validatorPubkey
          rotation := none }
  | .registry (.setValidatorPubkey ..) =>
      some
        { previous :=
            (configRecord H event.source).validatorPubkey
          rotation := none }
  | .registry (.rotateValidatorPubkey _ _ gracePeriodSecs) =>
      some
        { previous :=
            (configRecord H event.source).validatorPubkey
          rotation := some (event.now, gracePeriodSecs) }
  | _ => none

/-
  The most recent key change; `before` is the one that
  preceded the history, if any.
-/
def lastKeyChange
    (before : Option KeyChange)
    (history : List (Event H)) : Option KeyChange :=
  history.foldl
    (fun change event => event.keyChange <|> change) before

@[simp] theorem lastKeyChange_nil
    (before : Option KeyChange) :
    lastKeyChange (H := H) before [] = before := rfl

@[simp] theorem lastKeyChange_snoc
    (before : Option KeyChange)
    (history : List (Event H))
    (last : Event H) :
    lastKeyChange before (history ++ [last]) =
      (last.keyChange <|> lastKeyChange before history) := by
  simp [lastKeyChange]

/-
  The key was primary just before the change, and the change
  was a rotation with a grace period of at most a day that
  ends at `validUntil`.
-/
def KeyChange.Opens
    (change : KeyChange)
    (key : Pubkey)
    (validUntil : Int64) : Prop :=
  change.previous = key ∧
    ∃ time grace : Int64,
      change.rotation = some (time, grace) ∧
        0 < grace ∧ grace ≤ 86400 ∧
          validUntil.toInt = time.toInt + grace.toInt

/- A stored secondary key comes from the last key change. -/
def WindowExplained
    (change : Option KeyChange)
    (c : ProtocolConfig) : Prop :=
  c.secondaryValidatorPubkey ≠ Pubkey.default →
    ∃ rotation,
      change = some rotation ∧
        rotation.Opens c.secondaryValidatorPubkey
          c.secondaryValidatorValidUntil

/- A configuration without a window needs no explanation. -/
theorem windowExplained_of_short
    {w : World}
    (change : Option KeyChange)
    (hShort : (configData H w).length ≤ 145) :
    WindowExplained change (configRecord H w) := by
  rcases encodes_recordOf (configData H w) with
    ⟨tag, rest, hData⟩
  intro hSecondary
  exact absurd (secondary_of_short hShort hData).1
    hSecondary

/- What a rotation leaves behind explains itself. -/
theorem windowExplained_of_rotation
    {c : ProtocolConfig}
    {newValidatorPubkey : Pubkey}
    {gracePeriodSecs now : Int64}
    {secondary : Pubkey × Int64}
    (hGrace :
      gracePeriodSecs ≤
        ProtocolConfig.maxValidatorGracePeriodSecs)
    (hWindow :
      graceWindow c.validatorPubkey newValidatorPubkey
        gracePeriodSecs now = .ok secondary) :
    WindowExplained
      (some
        { previous := c.validatorPubkey
          rotation := some (now, gracePeriodSecs) })
      { c with
        validatorPubkey := newValidatorPubkey
        secondaryValidatorPubkey := secondary.1
        secondaryValidatorValidUntil := secondary.2 } := by
  intro hSecondary
  unfold graceWindow at hWindow
  split_ifs at hWindow with hOpen
  · simp only [bind_eq_ok, okOr_eq_ok, pure_eq_ok]
      at hWindow
    rcases hWindow with ⟨validUntil, hSum, rfl⟩
    exact ⟨_, rfl, rfl, now, gracePeriodSecs, rfl, hOpen.1,
      hGrace, toInt_checkedAdd hSum⟩
  · rw [← Except.ok.inj hWindow] at hSecondary
    exact absurd rfl hSecondary

/- One successful call keeps the window explained. -/
theorem window_step
    {before : Option KeyChange}
    {history : List (Event H)}
    {last : Event H}
    (hSound : last.source.ConfigSound H)
    (hBefore :
      WindowExplained (lastKeyChange before history)
        (configRecord H last.source)) :
    WindowExplained (lastKeyChange before (history ++ [last]))
      (configRecord H last.target) := by
  rw [lastKeyChange_snoc]
  rcases (config_step hSound last.valid).2 with
    ⟨instruction, hInstruction, hRecord⟩ | ⟨hForeign, hSame⟩
  · have hEvent :
        last.instruction = .registry instruction :=
      hInstruction
    rw [Event.keyChange, hEvent]
    generalize configRecord H last.target = c' at hRecord ⊢
    cases hRecord with
    | initializeProtocol =>
        exact fun hSecondary => absurd rfl hSecondary
    | updateProtocolConfig => exact hBefore
    | setValidatorPubkey =>
        exact fun hSecondary => absurd rfl hSecondary
    | rotateValidatorPubkey _ _ _ _ _ _ hGrace hWindow =>
        exact windowExplained_of_rotation hGrace hWindow
    | setProjectionVersions => exact hBefore
    | proposeAuthority => exact hBefore
    | acceptAuthority => exact hBefore
    | migrateAdmin => exact hBefore
    | apart _ hApart => cases hApart <;> exact hBefore
  · have hNone : last.keyChange = none := by
      unfold Event.keyChange
      split
      · next hInstruction =>
          exact absurd hInstruction (hForeign _)
      · next hInstruction =>
          exact absurd hInstruction (hForeign _)
      · next hInstruction =>
          exact absurd hInstruction (hForeign _)
      · rfl
    rw [hNone, hSame]
    exact hBefore

end Entros

------------------------------------------------------------
-- Accepted Keys
------------------------------------------------------------

namespace Entros

open Foundations
open Anchor
open Registry

variable {H : Host} {w w' : World}
variable {history : List (Event H)}

theorem window_run
    {before : Option KeyChange}
    (hSound : w.ConfigSound H)
    (hStart : WindowExplained before (configRecord H w))
    (hRun : Run (Step H) w history w') :
    WindowExplained (lastKeyChange before history)
      (configRecord H w') := by
  refine hRun.preserves
    (fun history state =>
      WindowExplained (lastKeyChange before history)
        (configRecord H state)) hStart ?_
  intro history last hFront hBefore
  exact window_step (run_configSound hSound hFront) hBefore

/-
  In every reachable state and at every time, an accepted key
  is the primary key, or it was the primary key just before
  the most recent key change, a rotation whose grace period
  has not ended.
-/
theorem accepted_key_explained
    {before : Option KeyChange}
    {policy : ValidatorKeyPolicy}
    {key : Pubkey}
    {now : Int64}
    (hSound : w.ConfigSound H)
    (hStart : WindowExplained before (configRecord H w))
    (hRun : Run (Step H) w history w')
    (hPolicy :
      readValidatorKeyPolicy (protocolConfig H w').data =
        .ok policy)
    (hAccepts : policy.accepts key.toList now) :
    key = (configRecord H w').validatorPubkey ∨
      ∃ (change : KeyChange) (time grace : Int64),
        lastKeyChange before history = some change ∧
          change.previous = key ∧
            change.rotation = some (time, grace) ∧
              0 < grace ∧ grace ≤ 86400 ∧
                now.toInt ≤ time.toInt + grace.toInt := by
  have hLayout := (run_configSound hSound hRun).layout
  have hRead := readValidatorKeyPolicy_eq hLayout
  have hRecord :
      recordPolicy (configRecord H w') = policy :=
    Except.ok.inj (hRead.symm.trans hPolicy)
  rw [← hRecord] at hAccepts
  rcases hAccepts with
    hPrimary | ⟨hSecondary, hUntil, hKey⟩
  · exact .inl (Bytes.toList_injective hPrimary)
  · rcases window_run hSound hStart hRun hSecondary with
      ⟨change, hChange, hPrevious, time, grace, hRotation,
        hPositive, hGrace, hEnd⟩
    refine .inr ⟨change, time, grace, hChange, ?_,
      hRotation, hPositive, hGrace, ?_⟩
    · rw [hPrevious]
      exact (Bytes.toList_injective hKey).symm
    · rw [← hEnd]
      exact Int64.le_iff_toInt_le.mp hUntil

end Entros

------------------------------------------------------------
-- A Rotation from a Legacy Layout
------------------------------------------------------------

namespace Entros

open Foundations
open Anchor
open Registry

namespace KeyRollover

def tables : Tables where
  requestBound := false
  digests := accountDigests
  addresses := []
  proofs := []
  signatures := []

def oldKey : Pubkey := Bytes.ofList 32 (List.replicate 32 20)
def newKey : Pubkey := Bytes.ofList 32 (List.replicate 32 21)

/- A stored configuration of the 113-byte layout. -/
def legacy : World :=
  World.funded.setAccount (configAddress tables.host)
    { owner := .registry
      data :=
        (serialized tables.host ProtocolConfig.accountName
          { ProtocolConfig.zero with
            admin := Sample.admin.key
            maxTrustScore := 10000
            baseTrustIncrement := 100
            bump := 255
            validatorPubkey := oldKey }).take 113 }

/- The old key stays acceptable for an hour. -/
def rotationCalls : List (Call tables.host) :=
  [{ now := 1700000000
     tx := tables.alone
     instruction :=
      .registry (.rotateValidatorPubkey Sample.admin newKey
        3600) }]

end KeyRollover

open KeyRollover

theorem accepted_key_explained_rotation :
    ∃ (history : List (Event tables.host)) (w' : World),
      Run (Step tables.host) legacy history w' ∧
        history.map Transition.label = rotationCalls ∧
          (oldKey =
              (configRecord tables.host
                w').validatorPubkey ∨
            ∃ (change : KeyChange) (time grace : Int64),
              lastKeyChange none history = some change ∧
                change.previous = oldKey ∧
                  change.rotation = some (time, grace) ∧
                    0 < grace ∧ grace ≤ 86400 ∧
                      (1700003600 : Int64).toInt ≤
                        time.toInt + grace.toInt) := by
  have hReplay :
      (replay legacy rotationCalls).map
          (fun replayed =>
            (readValidatorKeyPolicy
              (protocolConfig tables.host
                replayed.2).data).toOption) =
        some (some
          { primary := newKey
            secondary := oldKey
            secondaryValidUntil := 1700003600 }) := by
    decide +kernel
  rcases exists_run hReplay with
    ⟨history, w', hRun, hLabels, hPolicy⟩
  have hSound : legacy.ConfigSound tables.host :=
    ⟨by decide, by decide +kernel⟩
  have hStart :
      WindowExplained none
        (configRecord tables.host legacy) :=
    windowExplained_of_short none (by decide +kernel)
  exact ⟨history, w', hRun, hLabels,
    accepted_key_explained hSound hStart hRun
      (toOption_eq_some.mp hPolicy) (by decide)⟩

end Entros
