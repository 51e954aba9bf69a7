import Entros.Anchor.Bins
import Entros.Registry.Effects

/-
  The trust-score preview of entros-registry, which computes
  the formula of entros-anchor once more, from a history of
  ten times.

  Key definitions include:
    * `computeActiveBins`
    * `computeBaseScore`
    * `previewScore`
    * `computeTrustScore`

  Key theorems include:
    * `isqrt_eq_anchor`
    * `previewScore_eq_ok_iff`
    * `computeTrustScore_eq_ok_iff`
-/

------------------------------------------------------------
-- The Second Implementation
------------------------------------------------------------

namespace Entros

open Foundations

namespace Registry

/- The loop of the registry's `isqrt`, with the same fuel. -/
def isqrtLoop (n : UInt64) :
    ℕ → UInt64 → UInt64 → Result UInt64
| 0, _, _ => .error .panicked
| fuel + 1, x, y =>
    if y < x then do
      require (y ≠ 0) .panicked
      let sum ← okOr (checkedAdd64 y (n / y)) .panicked
      isqrtLoop n fuel y (sum / 2)
    else
      .ok x

/- `isqrt` of programs/entros-registry/src/lib.rs. -/
def isqrt (n : UInt64) : Result UInt64 :=
  if n = 0 then
    .ok 0
  else
    isqrtLoop n (n.toNat + 1) n (n / 2 + n % 2)

/- The loop over `recent_timestamps`. -/
def computeActiveBins
    (now : Int64)
    (recentTimestamps : List.Vector Int64 10) : List Bool :=
  recentTimestamps.toList.foldl
    (fun activeBins ts =>
      if ts = 0 then
        activeBins
      else
        let elapsed := saturatingSub now ts
        let binIdx := (elapsed / 604800).toUInt64.toNat
        if binIdx < 12 then
          activeBins.set binIdx true
        else
          activeBins)
    (List.replicate 12 false)

/- The loop over `active_bins`. -/
def computeBaseScore
    (baseTrustIncrement : UInt16)
    (activeBins : List Bool) : UInt64 :=
  activeBins.zipIdx.foldl
    (fun baseScore entry =>
      if entry.1 then
        saturatingAdd64 baseScore
          (saturatingMul64 baseTrustIncrement.toUInt64
              (UInt64.ofNat (12 - entry.2)) / 12)
      else
        baseScore)
    0

/- The score that `compute_trust_score` emits. -/
def previewScore
    (now : Int64)
    (baseTrustIncrement maxTrustScore : UInt16)
    (creationTimestamp : Int64)
    (recentTimestamps : List.Vector Int64 10) :
    Result UInt16 := do
  let baseScore := computeBaseScore baseTrustIncrement
    (computeActiveBins now recentTimestamps)
  let regularityBonus : UInt64 := 0
  let ageSeconds ← okOr (checkedSub now creationTimestamp)
    (.registry .arithmeticOverflow)
  let ageDays := (max (ageSeconds / 86400) 0).toUInt64
  let root ← isqrt (min ageDays 365)
  let ageBonus := root * 4
  let total := saturatingAdd64
    (saturatingAdd64 baseScore regularityBonus) ageBonus
  return (min total maxTrustScore.toUInt64).toUInt16

/- The event `TrustScoreComputed`. -/
structure TrustScoreComputed where
  verificationCount : UInt32
  creationTimestamp : Int64
  trustScore : UInt16
deriving DecidableEq

/- `compute_trust_score`. -/
def computeTrustScore
    (H : Host)
    (w : World)
    (now : Int64)
    (verificationCount : UInt32)
    (creationTimestamp : Int64)
    (recentTimestamps : List.Vector Int64 10) :
    Result TrustScoreComputed := do
  let config ← loadProtocolConfig H w
  let trustScore ← previewScore now
    config.baseTrustIncrement config.maxTrustScore
    creationTimestamp recentTimestamps
  return { verificationCount := verificationCount
           creationTimestamp := creationTimestamp
           trustScore := trustScore }

end Registry

end Entros

------------------------------------------------------------
-- Agreement of the Formulas
------------------------------------------------------------

namespace Entros

open Foundations

namespace Registry

theorem isqrtLoop_eq_anchor
    (n : UInt64)
    (fuel : ℕ)
    (x y : UInt64) :
    isqrtLoop n fuel x y = Anchor.isqrtLoop n fuel x y := by
  induction fuel generalizing x y with
  | zero => rfl
  | succ fuel ih =>
      unfold isqrtLoop Anchor.isqrtLoop
      simp only [ih]

/- The two square roots are the same function. -/
theorem isqrt_eq_anchor (n : UInt64) :
    isqrt n = Anchor.isqrt n := by
  unfold isqrt Anchor.isqrt
  rw [isqrtLoop_eq_anchor]

theorem computeActiveBins_eq
    (now : Int64)
    (recentTimestamps : List.Vector Int64 10) :
    computeActiveBins now recentTimestamps =
      Anchor.activeBins now recentTimestamps.toList := rfl

theorem computeBaseScore_eq
    (baseTrustIncrement : UInt16)
    (activeBins : List Bool) :
    computeBaseScore baseTrustIncrement activeBins =
      Anchor.baseScore baseTrustIncrement activeBins := rfl

theorem saturatingAdd64_zero (a : UInt64) :
    saturatingAdd64 a 0 = a := by
  have hZero : (0 : UInt64).toNat = 0 := rfl
  have hRange := a.toNat_lt
  apply UInt64.toNat_inj.mp
  rw [toNat_saturatingAdd64, hZero, Nat.add_zero]
  rw [hZero, Nat.add_zero]
  exact hRange

/-
  On the same times the two programs compute the same score;
  they only report a missing age with errors of their own.
-/
theorem previewScore_eq_ok_iff
    {now creationTimestamp : Int64}
    {baseTrustIncrement maxTrustScore score : UInt16}
    {recentTimestamps : List.Vector Int64 10} :
    previewScore now baseTrustIncrement maxTrustScore
          creationTimestamp recentTimestamps = .ok score ↔
      Anchor.trustScore now creationTimestamp
          recentTimestamps.toList baseTrustIncrement
          maxTrustScore = .ok score := by
  simp only [previewScore, Anchor.trustScore,
    Anchor.ageBonus, bind_eq_ok, okOr_eq_ok, pure_eq_ok,
    isqrt_eq_anchor, computeActiveBins_eq,
    computeBaseScore_eq, saturatingAdd64_zero]
  constructor
  · rintro ⟨age, hAge, root, hRoot, hScore⟩
    exact ⟨_, ⟨age, hAge, root, hRoot, rfl⟩, hScore⟩
  · rintro ⟨_, ⟨age, hAge, root, hRoot, rfl⟩, hScore⟩
    exact ⟨age, hAge, root, hRoot, hScore⟩

/- What the instruction emits. -/
theorem computeTrustScore_eq_ok_iff
    {H : Host}
    {w : World}
    {now creationTimestamp : Int64}
    {verificationCount : UInt32}
    {recentTimestamps : List.Vector Int64 10}
    {score : UInt16} :
    computeTrustScore H w now verificationCount
          creationTimestamp recentTimestamps =
        .ok { verificationCount := verificationCount
              creationTimestamp := creationTimestamp
              trustScore := score } ↔
      ∃ config,
        loadProtocolConfig H w = .ok config ∧
          Anchor.trustScore now creationTimestamp
              recentTimestamps.toList
              config.baseTrustIncrement
              config.maxTrustScore = .ok score := by
  simp only [computeTrustScore, bind_eq_ok, pure_eq_ok,
    previewScore_eq_ok_iff, TrustScoreComputed.mk.injEq,
    true_and, exists_eq_right]

/- A configuration that loads is the stored record. -/
theorem configRecord_of_load
    {H : Host}
    {w : World}
    {config : ProtocolConfig}
    (hLoad : loadProtocolConfig H w = .ok config) :
    configRecord H w = config := by
  rcases loadProtocolConfig_spec hLoad with ⟨rest, hData⟩
  have hBytes :
      Encodes (configData H w)
        (discriminator H ProtocolConfig.accountName) config
        rest :=
    .of_eq hData
  exact hBytes.record_eq

end Registry

end Entros
