import Entros.Registry.Instructions

/-
  The configuration as an abstract record: the fields that
  the raw bytes stand for once missing tail fields are read
  as zero, and how writes at the raw offsets change them.

  Key definitions include:
    * `ensuredData`
    * `recordOf`
    * `Encodes`
    * `Documented`
    * `ConfigField`

  Key theorems include:
    * `encodes_recordOf`
    * `Encodes.record_eq`
    * `Encodes.write`
    * `Encodes.resize`
    * `Encodes.read`
    * `Encodes.read_zero`
-/

------------------------------------------------------------
-- Records
------------------------------------------------------------

namespace Entros

open Foundations

namespace Registry

/- The bytes after `ensure_protocol_config_len`. -/
def ensuredData (data : List UInt8) : List UInt8 :=
  if data.length < ProtocolConfig.len then
    resize data ProtocolConfig.len
  else
    data

/-
  The record that raw bytes stand for; missing tail fields
  are zero.
-/
def recordOf (data : List UInt8) : ProtocolConfig :=
  match Packed.decode (A := ProtocolConfig)
    ((ensuredData data).drop 8) with
  | none => .zero
  | some (record, _) => record

/-
  The zero-extended bytes are a tag, a record and whatever
  follows it.
-/
def Encodes
    (data : List UInt8)
    (tag : Bytes 8)
    (record : ProtocolConfig)
    (rest : List UInt8) : Prop :=
  ensuredData data = Packed.encode (tag, record) ++ rest

/- The lengths a configuration has had, or no account. -/
def Documented (data : List UInt8) : Prop :=
  data.length ∈ [0, 69, 77, 109, 113, 185]

instance (data : List UInt8) :
    Decidable (Documented data) := by
  unfold Documented
  infer_instance

theorem length_encode_record
    (tag : Bytes 8)
    (record : ProtocolConfig) :
    (Packed.encode (tag, record)).length =
      ProtocolConfig.len :=
  Packed.length_encode (tag, record)

theorem le_length_ensuredData (data : List UInt8) :
    ProtocolConfig.len ≤ (ensuredData data).length := by
  unfold ensuredData
  split_ifs with hShort
  · rw [length_resize]
  · exact Nat.le_of_not_lt hShort

theorem ensuredData_of_le
    {data : List UInt8}
    (hLength : ProtocolConfig.len ≤ data.length) :
    ensuredData data = data :=
  if_neg (Nat.not_lt.mpr hLength)

theorem length_ensuredData_of_documented
    {data : List UInt8}
    (hDocumented : Documented data) :
    (ensuredData data).length = ProtocolConfig.len := by
  unfold ensuredData
  split_ifs with hShort
  · exact length_resize _ _
  · simp only [Documented, List.mem_cons, List.not_mem_nil,
      or_false] at hDocumented
    simp only [ProtocolConfig.len] at hShort ⊢
    omega

theorem ensuredData_idem (data : List UInt8) :
    ensuredData (ensuredData data) = ensuredData data :=
  ensuredData_of_le (le_length_ensuredData data)

/- Any 185 bytes are a tag and a record. -/
instance total_protocolConfig :
    Packed.Total ProtocolConfig :=
  Packed.total_ofEquiv ProtocolConfig.fields

namespace Encodes

variable {data written : List UInt8}
variable {tag : Bytes 8}
variable {record record' : ProtocolConfig}
variable {rest : List UInt8}

theorem record_eq (hData : Encodes data tag record rest) :
    recordOf data = record := by
  have hDrop :
      (ensuredData data).drop 8 =
        Packed.encode record ++ rest := by
    have hLength : tag.toList.length = 8 :=
      tag.toList_length
    rw [show ensuredData data =
        tag.toList ++ (Packed.encode record ++ rest) from
          hData.trans (List.append_assoc _ _ _),
      List.drop_left' hLength]
  rw [recordOf, hDrop, Packed.decode_encode]

/- The bytes determine the tag. -/
theorem tag_unique
    {tag' : Bytes 8}
    {rest' : List UInt8}
    (hData : Encodes data tag record rest)
    (hData' : Encodes data tag' record' rest') :
    tag = tag' := by
  have hDecode :=
    congrArg (Packed.decode (A := Bytes 8 × ProtocolConfig))
      (hData.symm.trans hData')
  rw [Packed.decode_encode, Packed.decode_encode] at hDecode
  exact (Prod.mk.inj (Prod.mk.inj
    (Option.some.inj hDecode)).1).1

/- A record of the full length encodes itself. -/
theorem of_eq
    (hData : data = Packed.encode (tag, record) ++ rest) :
    Encodes data tag record rest := by
  rw [Encodes, ensuredData_of_le, hData]
  rw [hData, List.length_append, length_encode_record]
  exact Nat.le_add_right _ _

/- Zero-extending first changes nothing. -/
theorem ensured (hData : Encodes data tag record rest) :
    Encodes (ensuredData data) tag record rest :=
  (ensuredData_idem data).trans hData

end Encodes

/- Any bytes encode the record they stand for. -/
theorem encodes_recordOf (data : List UInt8) :
    ∃ tag rest, Encodes data tag (recordOf data) rest := by
  have hLong := le_length_ensuredData data
  rcases Packed.Total.exists_encode
      (A := Bytes 8 × ProtocolConfig)
      ((ensuredData data).take ProtocolConfig.len)
      (List.length_take_of_le hLong) with
    ⟨⟨tag, record⟩, hTake⟩
  have hData :
      Encodes data tag record
        ((ensuredData data).drop ProtocolConfig.len) := by
    rw [Encodes, ← hTake, List.take_append_drop]
  rw [hData.record_eq]
  exact ⟨tag, _, hData⟩

end Registry

end Entros

------------------------------------------------------------
-- Fields
------------------------------------------------------------

namespace Entros

open Foundations

namespace Registry

/- The fields that are read or written on their own. -/
namespace ConfigField

def admin :
    Packed.Column ProtocolConfig Pubkey :=
  .ofEquiv ProtocolConfig.fields <|
    .first .self

def maxTrustScore :
    Packed.Column ProtocolConfig UInt16 :=
  .ofEquiv ProtocolConfig.fields <|
    .later <| .later <| .later <| .first .self

def baseTrustIncrement :
    Packed.Column ProtocolConfig UInt16 :=
  .ofEquiv ProtocolConfig.fields <|
    .later <| .later <| .later <| .later <| .first .self

def verificationFee :
    Packed.Column ProtocolConfig UInt64 :=
  .ofEquiv ProtocolConfig.fields <|
    .later <| .later <| .later <| .later <| .later <|
      .later <| .first .self

def migrationFee :
    Packed.Column ProtocolConfig UInt64 :=
  .ofEquiv ProtocolConfig.fields <|
    .later <| .later <| .later <| .later <| .later <|
      .later <| .later <| .first .self

def validatorPubkey :
    Packed.Column ProtocolConfig Pubkey :=
  .ofEquiv ProtocolConfig.fields <|
    .later <| .later <| .later <| .later <| .later <|
      .later <| .later <| .later <| .first .self

def currentProjectionVersion :
    Packed.Column ProtocolConfig UInt16 :=
  .ofEquiv ProtocolConfig.fields <|
    .later <| .later <| .later <| .later <| .later <|
      .later <| .later <| .later <| .later <| .first .self

def minimumSupportedProjectionVersion :
    Packed.Column ProtocolConfig UInt16 :=
  .ofEquiv ProtocolConfig.fields <|
    .later <| .later <| .later <| .later <| .later <|
      .later <| .later <| .later <| .later <| .later <|
      .first .self

def pendingAuthority :
    Packed.Column ProtocolConfig Pubkey :=
  .ofEquiv ProtocolConfig.fields <|
    .later <| .later <| .later <| .later <| .later <|
      .later <| .later <| .later <| .later <| .later <|
      .later <| .first .self

def secondaryValidatorPubkey :
    Packed.Column ProtocolConfig Pubkey :=
  .ofEquiv ProtocolConfig.fields <|
    .later <| .later <| .later <| .later <| .later <|
      .later <| .later <| .later <| .later <| .later <|
      .later <| .later <| .first .self

def secondaryValidatorValidUntil :
    Packed.Column ProtocolConfig Int64 :=
  .ofEquiv ProtocolConfig.fields <|
    .later <| .later <| .later <| .later <| .later <|
      .later <| .later <| .later <| .later <| .later <|
      .later <| .later <| .later .self

end ConfigField

/- Behind the tag, a field ends within the layout. -/
theorem bound_config
    {A : Type}
    [Packed A]
    (field : Packed.Column ProtocolConfig A) :
    8 + field.offset + Packed.width A ≤ ProtocolConfig.len :=
  (field.later (B := Bytes 8)).bound

end Registry

end Entros

------------------------------------------------------------
-- Raw Writes
------------------------------------------------------------

namespace Entros

open Foundations

namespace Registry

/- A raw write and the zero-extension commute. -/
theorem ensuredData_writeField
    {A : Type}
    [Packed A]
    {data written : List UInt8}
    {offset : ℕ}
    {value : A}
    (hWrite : writeField data offset value = .ok written) :
    ensuredData written =
      splice (ensuredData data) offset
        (Packed.encode value) := by
  rcases writeField_eq_ok.mp hWrite with ⟨hBound, rfl⟩
  have hFits :
      offset + (Packed.encode value).length ≤
        data.length := by
    rw [Packed.length_encode]
    exact hBound
  rw [ensuredData, ensuredData, length_splice hFits]
  split_ifs with hShort
  · exact resize_splice hFits hShort.le
  · rfl

namespace Encodes

variable {data written : List UInt8}
variable {tag : Bytes 8}
variable {record record' : ProtocolConfig}
variable {rest : List UInt8}

/- Overwriting a field of the bytes replaces it. -/
theorem write
    {A : Type}
    [Packed A]
    {value : A}
    (field : Packed.Column ProtocolConfig A)
    (hData : Encodes data tag record rest)
    (hWrite :
      writeField data (8 + field.offset) value =
        .ok written) :
    Encodes written tag (field.set record value) rest := by
  have hInside :
      8 + field.offset + (Packed.encode value).length ≤
        (Packed.encode (tag, record)).length := by
    rw [Packed.length_encode, length_encode_record]
    exact bound_config field
  have hField :
      splice (Packed.encode (tag, record))
          (8 + field.offset) (Packed.encode value) =
        Packed.encode (tag, field.set record value) :=
    field.later.splice_encode (tag, record) value
  rw [Encodes, ensuredData_writeField hWrite, hData,
    splice_append_left hInside, hField]

/- Truncating to the record keeps the record. -/
theorem resize (hData : Encodes data tag record rest) :
    Encodes (resize data ProtocolConfig.len) tag record
      [] := by
  have hTake :
      Foundations.resize data ProtocolConfig.len =
        (ensuredData data).take ProtocolConfig.len := by
    unfold ensuredData
    split_ifs with hShort
    · rw [List.take_of_length_le (length_resize _ _).le]
    · rw [Foundations.resize, Nat.sub_eq_zero_of_le
        (Nat.le_of_not_lt hShort)]
      exact List.append_nil _
  rw [Encodes, ensuredData_of_le (length_resize _ _).ge,
    hTake, hData, List.append_nil]
  exact List.take_left' (length_encode_record tag record)

/- The record holds the fields of the extended bytes. -/
theorem fieldAt_ensured
    {A : Type}
    [Packed A]
    (field : Packed.Column ProtocolConfig A)
    (hData : Encodes data tag record rest) :
    fieldAt A (ensuredData data) (8 + field.offset) =
      some (field.get record) := by
  rw [hData, fieldAt_append]
  · exact field.later.fieldAt_encode (tag, record)
  · rw [length_encode_record]
    exact bound_config field

/- A field inside the bytes is read from the record. -/
theorem read
    {A : Type}
    [Packed A]
    (field : Packed.Column ProtocolConfig A)
    (hData : Encodes data tag record rest)
    (hInside :
      8 + field.offset + Packed.width A ≤ data.length) :
    fieldAt A data (8 + field.offset) =
      some (field.get record) := by
  rw [← hData.fieldAt_ensured field]
  apply fieldAt_congr
  unfold ensuredData
  split_ifs
  · exact (slice_resize hInside (bound_config field)).symm
  · rfl

/- A field past the bytes is zero in the record. -/
theorem read_zero
    {A : Type}
    [Packed A]
    (field : Packed.Column ProtocolConfig A)
    (hData : Encodes data tag record rest)
    (hOutside : data.length ≤ 8 + field.offset) :
    Packed.encode (field.get record) =
      List.replicate (Packed.width A) 0 := by
  have hBound := bound_config field
  have hShort :
      data.length < ProtocolConfig.len ∨
        Packed.width A = 0 := by omega
  have hSlice :=
    fieldAt_eq_some_iff.mp (hData.fieldAt_ensured field)
  rcases hShort with hShort | hEmpty
  · rw [← hSlice, ensuredData, if_pos hShort,
      slice_resize_zero hOutside hBound]
  · rw [hEmpty]
    exact List.eq_nil_of_length_eq_zero
      ((Packed.length_encode _).trans hEmpty)

end Encodes

end Registry

end Entros
