import Entros.Anchor.Instructions
import Entros.System.ConfigSteps

/-
  The readers of the configuration in both programs, which
  declare their offsets separately: on every documented
  layout they return the fields of the record.

  Key definitions include:
    * `recordPolicy`
    * `recordProjection`
    * `recordUpdateConfig`

  Key theorems include:
    * `readValidatorKeyPolicy_eq`
    * `readProjectionPolicy_eq`
    * `registry_readProjectionVersions_eq`
    * `readUpdateConfig_record`
-/

------------------------------------------------------------
-- Validator Keys
------------------------------------------------------------

namespace Entros

open Foundations
open Anchor
open Registry

/- The policy that a record stands for. -/
def recordPolicy (c : ProtocolConfig) : ValidatorKeyPolicy where
  primary := c.validatorPubkey
  secondary := c.secondaryValidatorPubkey
  secondaryValidUntil := c.secondaryValidatorValidUntil

variable {data rest : List UInt8} {tag : Bytes 8}
variable {c : ProtocolConfig}

theorem readPrimary_eq
    (hDocumented : Documented data)
    (hData : Encodes data tag c rest) :
    readPrimary data = .ok c.validatorPubkey := by
  unfold readPrimary
  split_ifs with hLength
  · rw [readField_eq_ok]
    exact hData.read ConfigField.validatorPubkey hLength
  · have hShort :
        data.length ≤
          ProtocolConfig.offsetValidatorPubkey := by
      simp only [Documented, List.mem_cons,
        List.not_mem_nil, or_false] at hDocumented
      simp only [pcLenWithValidatorPubkey] at hLength
      simp only [ProtocolConfig.offsetValidatorPubkey]
      omega
    have hZero :=
      hData.read_zero ConfigField.validatorPubkey hShort
    have hKey : c.validatorPubkey = Bytes.zero 32 :=
      Bytes.toList_injective hZero
    rw [hKey]

/- A layout without the window fields has an empty window. -/
theorem secondary_of_short
    (hShort : data.length ≤ 145)
    (hData : Encodes data tag c rest) :
    c.secondaryValidatorPubkey = Bytes.zero 32 ∧
      c.secondaryValidatorValidUntil = 0 := by
  have hSecondary :=
    hData.read_zero ConfigField.secondaryValidatorPubkey
      hShort
  have hUntil :=
    hData.read_zero ConfigField.secondaryValidatorValidUntil
      (hShort.trans (by decide))
  have hZero :
      Packed.encode (0 : Int64) =
        List.replicate (Packed.width Int64) 0 := rfl
  exact ⟨Bytes.toList_injective hSecondary,
    Packed.encode_injective (hUntil.trans hZero.symm)⟩

theorem readSecondary_eq
    (hDocumented : Documented data)
    (hData : Encodes data tag c rest) :
    readSecondary data =
      .ok (c.secondaryValidatorPubkey,
        c.secondaryValidatorValidUntil) := by
  unfold readSecondary
  split_ifs with hLength
  · simp only [bind_eq_ok, readField_eq_ok, pure_eq_ok]
    refine ⟨c.secondaryValidatorPubkey, ?_,
      c.secondaryValidatorValidUntil, ?_, rfl⟩
    · exact hData.read ConfigField.secondaryValidatorPubkey
        (le_trans (by decide) hLength)
    · exact hData.read
        ConfigField.secondaryValidatorValidUntil hLength
  · have hShort : data.length ≤ 145 := by
      simp only [Documented, List.mem_cons,
        List.not_mem_nil, or_false] at hDocumented
      simp only [pcLenWithRollover] at hLength
      omega
    rcases secondary_of_short hShort hData with
      ⟨hSecondary, hUntil⟩
    rw [hSecondary, hUntil]

/- On every documented layout the two programs agree. -/
theorem readValidatorKeyPolicy_eq
    (hDocumented : Documented data) :
    readValidatorKeyPolicy data =
      .ok (recordPolicy (recordOf data)) := by
  rcases encodes_recordOf data with ⟨tag, rest, hData⟩
  simp only [readValidatorKeyPolicy, bind_eq_ok, pure_eq_ok]
  exact ⟨_, readPrimary_eq hDocumented hData, _,
    readSecondary_eq hDocumented hData, rfl⟩

end Entros

------------------------------------------------------------
-- Projection Versions
------------------------------------------------------------

namespace Entros

open Foundations
open Anchor
open Registry

/- The projection policy that a record stands for. -/
def recordProjection (c : ProtocolConfig) : ProjectionPolicy where
  current := c.currentProjectionVersion
  minimum := c.minimumSupportedProjectionVersion

variable {data rest : List UInt8} {tag : Bytes 8}
variable {c : ProtocolConfig}

/- A longer documented layout holds both fields. -/
theorem length_of_documented
    (hDocumented : Documented data)
    (hLong : ¬ data.length ≤ 109) :
    113 ≤ data.length := by
  simp only [Documented, List.mem_cons, List.not_mem_nil,
    or_false] at hDocumented
  omega

/- What the anchor program reads. -/
theorem anchor_readProjectionVersions_eq
    (hDocumented : Documented data) :
    Anchor.readProjectionVersions data =
      .ok (recordProjection (recordOf data)) := by
  rcases encodes_recordOf data with ⟨tag, rest, hData⟩
  unfold Anchor.readProjectionVersions
  by_cases hShort : data.length ≤ pcLenWithValidatorPubkey
  · rw [if_pos hShort]
    rcases projection_of_short hShort hData with
      ⟨hCurrent, hMinimum⟩
    rw [recordProjection, hCurrent, hMinimum]
  · rw [if_neg hShort]
    have hLong := length_of_documented hDocumented hShort
    simp only [bind_eq_ok, require_eq_ok, readField_eq_ok,
      pure_eq_ok]
    exact ⟨(), hLong, _, current_of_long hLong hData, _,
      minimum_of_long hLong hData, rfl⟩

theorem readProjectionPolicy_eq
    (hDocumented : Documented data)
    (hOrdered :
      (recordOf data).minimumSupportedProjectionVersion ≤
        (recordOf data).currentProjectionVersion) :
    readProjectionPolicy data =
      .ok (recordProjection (recordOf data)) := by
  rw [readProjectionPolicy,
    anchor_readProjectionVersions_eq hDocumented, ok_bind]
  exact bind_eq_ok.mpr
    ⟨(), require_eq_ok.mpr hOrdered, rfl⟩

/- What the registry itself reads. -/
theorem registry_readProjectionVersions_eq
    (hDocumented : Documented data)
    (hOrdered :
      (recordOf data).minimumSupportedProjectionVersion ≤
        (recordOf data).currentProjectionVersion) :
    Registry.readProjectionVersions data =
      .ok ((recordOf data).currentProjectionVersion,
        (recordOf data).minimumSupportedProjectionVersion) := by
  rcases encodes_recordOf data with ⟨tag, rest, hData⟩
  unfold Registry.readProjectionVersions
  by_cases hShort :
      data.length ≤
        ProtocolConfig.offsetCurrentProjectionVersion
  · rw [if_pos hShort]
    rcases projection_of_short hShort hData with
      ⟨hCurrent, hMinimum⟩
    rw [hCurrent, hMinimum]
  · rw [if_neg hShort]
    have hLong := length_of_documented hDocumented hShort
    simp only [bind_eq_ok, require_eq_ok, readField_eq_ok,
      pure_eq_ok]
    exact ⟨(), hLong, _, current_of_long hLong hData, _,
      minimum_of_long hLong hData, (), hOrdered, rfl⟩

/- A policy that was read is the record's. -/
theorem readProjectionPolicy_record
    {policy : ProjectionPolicy}
    (hDocumented : Documented data)
    (hRead : readProjectionPolicy data = .ok policy) :
    policy = recordProjection (recordOf data) := by
  simp only [readProjectionPolicy,
    anchor_readProjectionVersions_eq hDocumented,
    ok_bind, bind_eq_ok, pure_eq_ok] at hRead
  rcases hRead with ⟨_, _, hPolicy⟩
  exact hPolicy.symm

end Entros

------------------------------------------------------------
-- Scores and Fees
------------------------------------------------------------

namespace Entros

open Foundations
open Anchor
open Registry

variable {data : List UInt8}

/- A fee is read as zero where the layout ends before it. -/
theorem readFee_eq
    (fee : Packed.Column ProtocolConfig UInt64)
    (hDocumented : Documented data)
    (hOffset : 8 + fee.offset = 61 ∨ 8 + fee.offset = 69) :
    readFee data (8 + fee.offset) =
      .ok (fee.get (recordOf data)) := by
  rcases encodes_recordOf data with ⟨tag, rest, hData⟩
  unfold readFee
  by_cases hLong : 8 + fee.offset + 8 ≤ data.length
  · rw [if_pos hLong, readField_eq_ok]
    exact hData.read fee hLong
  · have hShort : data.length ≤ 8 + fee.offset := by
      simp only [Documented, List.mem_cons, List.not_mem_nil,
        or_false] at hDocumented
      omega
    have hZero :
        Packed.encode (0 : UInt64) =
          List.replicate (Packed.width UInt64) 0 := rfl
    have hFee := hData.read_zero fee hShort
    rw [if_neg hLong,
      Packed.encode_injective (hFee.trans hZero.symm)]

theorem readVerificationFee_eq
    (hDocumented : Documented data) :
    readFee data 61 = .ok (recordOf data).verificationFee :=
  readFee_eq ConfigField.verificationFee hDocumented
    (.inl rfl)

theorem readMigrationFee_eq
    (hDocumented : Documented data) :
    readFee data 69 = .ok (recordOf data).migrationFee :=
  readFee_eq ConfigField.migrationFee hDocumented (.inr rfl)

/- The configuration of an update that a record stands for. -/
def recordUpdateConfig (c : ProtocolConfig) : UpdateConfig where
  maxTrustScore := c.maxTrustScore
  baseTrustIncrement := c.baseTrustIncrement
  verificationFee := c.verificationFee
  validatorKeys := recordPolicy c

/- What an update reads is in the record. -/
theorem readUpdateConfig_record
    {config : Account}
    {version : UInt16}
    {updateConfig : UpdateConfig}
    (hDocumented : Documented config.data)
    (hRead :
      readUpdateConfig config version = .ok updateConfig) :
    updateConfig =
      recordUpdateConfig (recordOf config.data) := by
  rcases encodes_recordOf config.data with
    ⟨tag, rest, hData⟩
  simp only [readUpdateConfig, bind_eq_ok, require_eq_ok,
    readField_eq_ok, pure_eq_ok,
    readValidatorKeyPolicy_eq hDocumented] at hRead
  rcases hRead with
    ⟨_, _, _, hLength, _, _, _, _, maxTrustScore, hMax,
      baseTrustIncrement, hBase, verificationFee, hFee, _,
      hKeys, rfl⟩
  have hShort (n : ℕ) (hn : n ≤ 69) :
      n ≤ config.data.length := hn.trans hLength
  have hMax' :=
    hData.read ConfigField.maxTrustScore
      (hShort _ (by decide))
  have hBase' :=
    hData.read ConfigField.baseTrustIncrement
      (hShort _ (by decide))
  have hFee' :=
    hData.read ConfigField.verificationFee
      (hShort _ (by decide))
  rw [Option.some.inj (hMax.symm.trans hMax'),
    Option.some.inj (hBase.symm.trans hBase'),
    Option.some.inj (hFee.symm.trans hFee'),
    ← Except.ok.inj hKeys]
  rfl

end Entros
