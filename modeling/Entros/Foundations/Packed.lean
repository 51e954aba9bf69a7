import Entros.Foundations.Bytes
import Mathlib.Logic.Equiv.Basic

/-
  Fixed-width binary formats: every value of a type is
  written as the same number of bytes, and reading consumes
  exactly the bytes that writing produced.

  Key definitions include:
    * `Packed`
    * `Packed.ofEquiv`
    * `fieldAt`
    * `Packed.Column`
    * `Packed.Column.first`
    * `Packed.Column.later`

  Key theorems include:
    * `Packed.encode_injective`
    * `fieldAt_eq_some_iff`
    * `Packed.fieldAt_fst`
    * `Packed.fieldAt_snd`
    * `Packed.splice_fst`
    * `Packed.splice_snd`
-/

------------------------------------------------------------
-- Fixed-Width Formats
------------------------------------------------------------

namespace Foundations

/-
  A fixed-width format.  `decode` reads a prefix and returns
  the bytes it leaves; the last two fields say that it reads
  back exactly what `encode` writes, and accepts nothing
  else.
-/
class Packed (A : Type) where
  width : ℕ
  encode : A → List UInt8
  decode : List UInt8 → Option (A × List UInt8)
  length_encode : ∀ value, (encode value).length = width
  decode_encode :
    ∀ value rest,
      decode (encode value ++ rest) = some (value, rest)
  eq_of_decode :
    ∀ data value rest,
      decode data = some (value, rest) →
        data = encode value ++ rest

namespace Packed

attribute [simp] length_encode decode_encode

variable {A B : Type} [Packed A] [Packed B]

theorem encode_injective :
    Function.Injective (encode : A → List UInt8) := by
  intro left right hEq
  have hLeft := decode_encode left []
  rw [hEq, decode_encode right []] at hLeft
  exact ((Prod.mk.inj (Option.some.inj hLeft)).1).symm

end Packed

end Foundations

------------------------------------------------------------
-- Formats of Basic Types
------------------------------------------------------------

namespace Foundations

namespace Packed

/- Byte arrays are written as they are. -/
instance bytes (n : ℕ) : Packed (Bytes n) where
  width := n
  encode value := value.toList
  decode data :=
    if n ≤ data.length then
      some (Bytes.ofList n (data.take n), data.drop n)
    else
      none
  length_encode value := value.toList_length
  decode_encode value rest := by
    have hLength : value.toList.length = n :=
      value.toList_length
    rw [if_pos (by simp), List.take_left' hLength,
      List.drop_left' hLength, Bytes.ofList_toList]
  eq_of_decode data value rest hDecode := by
    by_cases hLength : n ≤ data.length
    · rw [if_pos hLength] at hDecode
      rcases Prod.mk.inj (Option.some.inj hDecode) with
        ⟨hValue, hRest⟩
      rw [← hValue, ← hRest, Bytes.toList_ofList
        (List.length_take_of_le hLength),
        List.take_append_drop]
    · rw [if_neg hLength] at hDecode
      cases hDecode

/- Transport a format along a bijection. -/
@[reducible] def ofEquiv
    {A B : Type}
    [Packed B]
    (e : A ≃ B) :
    Packed A where
  width := width B
  encode value := encode (e value)
  decode data :=
    (decode data).map fun result =>
      (e.symm result.1, result.2)
  length_encode value := length_encode (e value)
  decode_encode value rest := by simp
  eq_of_decode data value rest hDecode := by
    rcases Option.map_eq_some_iff.mp hDecode with
      ⟨result, hResult, hPair⟩
    rcases Prod.mk.inj hPair with ⟨hValue, hRest⟩
    have hData := eq_of_decode data result.1 result.2 hResult
    rw [hData, ← hValue, ← hRest, Equiv.apply_symm_apply]

/- Consecutive fields are written one after the other. -/
instance pair
    {A B : Type}
    [Packed A] [Packed B] :
    Packed (A × B) where
  width := width A + width B
  encode value := encode value.1 ++ encode value.2
  decode data :=
    match decode (A := A) data with
    | none => none
    | some (first, middle) =>
        match decode (A := B) middle with
        | none => none
        | some (second, rest) => some ((first, second), rest)
  length_encode value := by simp
  decode_encode value rest := by simp
  eq_of_decode data value rest hDecode := by
    cases hFirst : decode (A := A) data with
    | none => simp [hFirst] at hDecode
    | some result =>
        rcases result with ⟨first, middle⟩
        cases hSecond : decode (A := B) middle with
        | none => simp [hFirst, hSecond] at hDecode
        | some result =>
            rcases result with ⟨second, tail⟩
            simp only [hFirst, hSecond, Option.some.injEq,
              Prod.mk.injEq] at hDecode
            rcases hDecode with ⟨hValue, hRest⟩
            rw [eq_of_decode data first middle hFirst,
              eq_of_decode middle second tail hSecond,
              ← hValue, ← hRest, List.append_assoc]

/-
  A type of numbers below `256 ^ n` corresponds to the
  `n`-byte arrays through little-endian notation.
-/
def leEquiv
    {A : Type}
    (n : ℕ)
    (toNat : A → ℕ)
    (ofNat : ℕ → A)
    (hLt : ∀ value, toNat value < 256 ^ n)
    (hOfNat : ∀ value, ofNat (toNat value) = value)
    (hToNat : ∀ m, m < 256 ^ n → toNat (ofNat m) = m) :
    A ≃ Bytes n where
  toFun value :=
    ⟨leBytes n (toNat value), length_leBytes _ _⟩
  invFun data := ofNat (leNat data.toList)
  left_inv value := by
    change ofNat (leNat (leBytes n (toNat value))) = value
    rw [leNat_leBytes, Nat.mod_eq_of_lt (hLt value), hOfNat]
  right_inv data := by
    apply Bytes.toList_injective
    have hLength := data.toList_length
    have hBound := leNat_lt data.toList
    have hBytes := leBytes_leNat data.toList
    rw [hLength] at hBound hBytes
    change leBytes n (toNat (ofNat (leNat data.toList))) =
      data.toList
    rw [hToNat _ hBound, hBytes]

/- A byte is its own encoding. -/
instance uint8 : Packed UInt8 :=
  ofEquiv
    (leEquiv 1 UInt8.toNat UInt8.ofNat
      (fun value => value.toNat_lt)
      (fun _ => UInt8.ofNat_toNat)
      (fun _ => UInt8.toNat_ofNat_of_lt))

/- The little-endian bytes of an unsigned 16-bit number. -/
instance uint16 : Packed UInt16 :=
  ofEquiv
    (leEquiv 2 UInt16.toNat UInt16.ofNat
      (fun value => value.toNat_lt)
      (fun _ => UInt16.ofNat_toNat)
      (fun _ => UInt16.toNat_ofNat_of_lt))

/- The little-endian bytes of an unsigned 32-bit number. -/
instance uint32 : Packed UInt32 :=
  ofEquiv
    (leEquiv 4 UInt32.toNat UInt32.ofNat
      (fun value => value.toNat_lt)
      (fun _ => UInt32.ofNat_toNat)
      (fun _ => UInt32.toNat_ofNat_of_lt))

/- The little-endian bytes of an unsigned 64-bit number. -/
instance uint64 : Packed UInt64 :=
  ofEquiv
    (leEquiv 8 UInt64.toNat UInt64.ofNat
      (fun value => value.toNat_lt)
      (fun _ => UInt64.ofNat_toNat)
      (fun _ => UInt64.toNat_ofNat_of_lt))

/- Two's-complement bytes of a signed 64-bit number. -/
instance int64 : Packed Int64 :=
  ofEquiv
    { toFun := Int64.toUInt64
      invFun := UInt64.toInt64
      left_inv := fun _ => rfl
      right_inv := fun _ => rfl }

/- A flag is one byte, and only 0 and 1 are accepted. -/
instance bool : Packed Bool where
  width := 1
  encode value := [if value then 1 else 0]
  decode data :=
    match data with
    | [] => none
    | byte :: rest =>
        if byte = 0 then
          some (false, rest)
        else if byte = 1 then
          some (true, rest)
        else
          none
  length_encode _ := rfl
  decode_encode value rest := by cases value <;> rfl
  eq_of_decode data value rest hDecode := by
    cases data with
    | nil => cases hDecode
    | cons byte tail =>
        by_cases hZero : byte = 0
        · simp_all
        · by_cases hOne : byte = 1
          · simp_all
          · simp [hZero, hOne] at hDecode

end Packed

end Foundations

------------------------------------------------------------
-- Arrays of Fields
------------------------------------------------------------

namespace Foundations

namespace Packed

variable {A : Type} [Packed A]

/- Read `n` consecutive values. -/
def decodeVector :
    (n : ℕ) →
      List UInt8 →
        Option (List.Vector A n × List UInt8)
| 0, data => some (List.Vector.nil, data)
| n + 1, data =>
    match decode (A := A) data with
    | none => none
    | some (value, middle) =>
        match decodeVector n middle with
        | none => none
        | some (values, rest) =>
            some (List.Vector.cons value values, rest)

theorem length_flatMap_encode (values : List A) :
    (values.flatMap encode).length =
      values.length * width A := by
  induction values with
  | nil => simp
  | cons value values ih =>
      simp [ih, Nat.add_mul, Nat.add_comm]

theorem decodeVector_encode
    {n : ℕ}
    (values : List.Vector A n)
    (rest : List UInt8) :
    decodeVector n (values.toList.flatMap encode ++ rest) =
      some (values, rest) := by
  induction n with
  | zero => simp [decodeVector, List.Vector.eq_nil values]
  | succ n ih =>
      rcases values.exists_eq_cons with ⟨value, values, rfl⟩
      simp [decodeVector, ih]

theorem eq_of_decodeVector
    {n : ℕ}
    {data : List UInt8}
    {values : List.Vector A n}
    {rest : List UInt8}
    (hDecode : decodeVector n data = some (values, rest)) :
    data = values.toList.flatMap encode ++ rest := by
  induction n generalizing data rest with
  | zero =>
      rcases Prod.mk.inj (Option.some.inj hDecode) with
        ⟨hValues, hRest⟩
      subst hValues
      exact hRest
  | succ n ih =>
      cases hHead : decode (A := A) data with
      | none => simp [decodeVector, hHead] at hDecode
      | some result =>
          rcases result with ⟨value, middle⟩
          cases hTail : decodeVector (A := A) n middle with
          | none =>
              simp [decodeVector, hHead, hTail] at hDecode
          | some result =>
              rcases result with ⟨tail, final⟩
              simp only [decodeVector, hHead, hTail,
                Option.some.injEq, Prod.mk.injEq] at hDecode
              rcases hDecode with ⟨rfl, rfl⟩
              rw [eq_of_decode data value middle hHead,
                ih hTail]
              simp

/- An array is written element by element. -/
instance vector (n : ℕ) : Packed (List.Vector A n) where
  width := n * width A
  encode values := values.toList.flatMap encode
  decode := decodeVector n
  length_encode values := by
    rw [length_flatMap_encode, values.toList_length]
  decode_encode := decodeVector_encode
  eq_of_decode _ _ _ := eq_of_decodeVector

end Packed

end Foundations

------------------------------------------------------------
-- Reading Fields at an Offset
------------------------------------------------------------

namespace Foundations

variable {A : Type} [Packed A]

/- The value written at an offset, if one fits there. -/
def fieldAt
    (A : Type)
    [Packed A]
    (data : List UInt8)
    (offset : ℕ) :
    Option A :=
  (Packed.decode (slice data offset (Packed.width A))).map
    Prod.fst

/- A field holds a value when its window is the encoding. -/
theorem fieldAt_eq_some_iff
    {data : List UInt8}
    {offset : ℕ}
    {value : A} :
    fieldAt A data offset = some value ↔
      slice data offset (Packed.width A) =
        Packed.encode value := by
  constructor
  · intro hField
    rcases Option.map_eq_some_iff.mp hField with
      ⟨result, hDecode, hValue⟩
    have hData :=
      Packed.eq_of_decode _ result.1 result.2 hDecode
    have hLength := congrArg List.length hData
    rw [List.length_append, Packed.length_encode] at hLength
    have hWindow :
        (slice data offset (Packed.width A)).length ≤
          Packed.width A := by
      simp only [slice, List.length_take]
      omega
    have hRest : result.2 = [] :=
      List.eq_nil_of_length_eq_zero (by omega)
    rw [hData, hRest, List.append_nil, hValue]
  · intro hSlice
    have hDecode := Packed.decode_encode value []
    rw [List.append_nil, ← hSlice] at hDecode
    simp [fieldAt, hDecode]

/- Equal windows hold equal fields. -/
theorem fieldAt_congr
    {data data' : List UInt8}
    {offset offset' : ℕ}
    (hSlice :
      slice data offset (Packed.width A) =
        slice data' offset' (Packed.width A)) :
    fieldAt A data offset = fieldAt A data' offset' := by
  rw [fieldAt, fieldAt, hSlice]

/-
  A format in which every byte string of the right length is
  the encoding of some value.
-/
class Packed.Total (A : Type) [Packed A] : Prop where
  exists_encode :
    ∀ data : List UInt8,
      data.length = Packed.width A →
        ∃ value : A, data = Packed.encode value

/- A total field can be read wherever it fits. -/
theorem exists_fieldAt
    [Packed.Total A]
    {data : List UInt8}
    {offset : ℕ}
    (hBound : offset + Packed.width A ≤ data.length) :
    ∃ value, fieldAt A data offset = some value := by
  rcases Packed.Total.exists_encode (A := A)
      (slice data offset (Packed.width A))
      (length_slice hBound) with ⟨value, hValue⟩
  exact ⟨value, fieldAt_eq_some_iff.mpr hValue⟩

namespace Packed

instance total_bytes (n : ℕ) : Total (Bytes n) where
  exists_encode data hLength :=
    ⟨⟨data, hLength⟩, rfl⟩

theorem total_ofEquiv
    {A B : Type}
    [Packed B]
    [hTotal : Total B]
    (e : A ≃ B) :
    @Total A (ofEquiv e) := by
  let _ : Packed A := ofEquiv e
  refine ⟨fun data hLength => ?_⟩
  rcases hTotal.exists_encode data hLength with
    ⟨value, hValue⟩
  refine ⟨e.symm value, ?_⟩
  rw [hValue]
  exact congrArg encode (e.apply_symm_apply value).symm

instance total_pair
    {A B : Type}
    [Packed A] [Packed B]
    [hFirst : Total A] [hSecond : Total B] :
    Total (A × B) where
  exists_encode data hLength := by
    have hTotal : data.length = width A + width B := hLength
    rcases hFirst.exists_encode (data.take (width A))
        (List.length_take_of_le (by omega)) with
      ⟨first, hTake⟩
    rcases hSecond.exists_encode (data.drop (width A))
        (by rw [List.length_drop]; omega) with
      ⟨second, hDrop⟩
    refine ⟨(first, second), ?_⟩
    calc data
        = data.take (width A) ++ data.drop (width A) :=
          (List.take_append_drop _ _).symm
      _ = encode first ++ encode second := by
          rw [hTake, hDrop]
      _ = encode (first, second) := rfl

instance total_uint8 : Total UInt8 := total_ofEquiv _

instance total_uint16 : Total UInt16 := total_ofEquiv _

instance total_uint32 : Total UInt32 := total_ofEquiv _

instance total_uint64 : Total UInt64 := total_ofEquiv _

instance total_int64 : Total Int64 := total_ofEquiv _

end Packed

/- What follows a record does not change its fields. -/
theorem fieldAt_append
    {data rest : List UInt8}
    {offset : ℕ}
    (hBound : offset + Packed.width A ≤ data.length) :
    fieldAt A (data ++ rest) offset =
      fieldAt A data offset := by
  apply fieldAt_congr
  rw [slice, slice,
    List.drop_append_of_le_length (by omega),
    List.take_append_of_le_length
      (by rw [List.length_drop]; omega)]

end Foundations

------------------------------------------------------------
-- Field Positions
------------------------------------------------------------

namespace Foundations

namespace Packed

@[simp] theorem width_bytes (n : ℕ) :
    width (Bytes n) = n := rfl

@[simp] theorem width_uint8 : width UInt8 = 1 := rfl

@[simp] theorem width_uint16 : width UInt16 = 2 := rfl

@[simp] theorem width_uint32 : width UInt32 = 4 := rfl

@[simp] theorem width_uint64 : width UInt64 = 8 := rfl

@[simp] theorem width_int64 : width Int64 = 8 := rfl

@[simp] theorem width_bool : width Bool = 1 := rfl

@[simp] theorem width_vector
    (A : Type)
    [Packed A]
    (n : ℕ) :
    width (List.Vector A n) = n * width A := rfl

@[simp] theorem width_pair
    (A B : Type)
    [Packed A] [Packed B] :
    width (A × B) = width A + width B := rfl

variable {A B C : Type} [Packed A] [Packed B] [Packed C]

/- The first field starts a record. -/
@[simp] theorem fieldAt_fst
    (first : A)
    (second : B) :
    fieldAt A (encode (first, second)) 0 = some first :=
  fieldAt_eq_some_iff.mpr
    (slice_append_left (length_encode first))

/- A leading byte array is the front of the encoding. -/
@[simp] theorem slice_encode_bytes
    {n : ℕ}
    (first : Bytes n)
    (second : B) :
    slice (encode (first, second)) 0 n = first.toList :=
  slice_append_left first.toList_length

/- A byte is written as itself. -/
theorem encode_uint8 (value : UInt8) :
    encode value = [value] := by
  change [UInt8.ofNat value.toNat] = [value]
  rw [UInt8.ofNat_toNat]

/- Later windows are found past the first field. -/
@[simp] theorem slice_encode_snd
    {first : A}
    {second : B}
    {offset size : ℕ}
    (hOffset : width A ≤ offset) :
    slice (encode (first, second)) offset size =
      slice (encode second) (offset - width A) size := by
  have hLength : (encode first).length = width A :=
    length_encode first
  have hSlice :
      slice (encode first ++ encode second) offset size =
        slice (encode second)
          (offset - (encode first).length) size :=
    slice_append_right (hLength.le.trans hOffset)
  rw [hLength] at hSlice
  exact hSlice

/- Later fields are found past the first one. -/
@[simp] theorem fieldAt_snd
    {first : A}
    {second : B}
    {offset : ℕ}
    (hOffset : width A ≤ offset) :
    fieldAt C (encode (first, second)) offset =
      fieldAt C (encode second) (offset - width A) := by
  apply fieldAt_congr
  exact slice_encode_snd hOffset

/- The only field of a record is the record itself. -/
@[simp] theorem fieldAt_self (value : A) :
    fieldAt A (encode value) 0 = some value :=
  fieldAt_eq_some_iff.mpr (slice_all (length_encode value).le)

/- Overwriting a field replaces it in the record. -/
@[simp] theorem splice_fst
    (first first' : A)
    (second : B) :
    splice (encode (first, second)) 0 (encode first') =
      encode (first', second) :=
  splice_append_front
    ((length_encode first').trans (length_encode first).symm)

@[simp] theorem splice_snd
    {first : A}
    {second : B}
    {offset : ℕ}
    {bytes : List UInt8}
    (hOffset : width A ≤ offset) :
    splice (encode (first, second)) offset bytes =
      encode first ++
        splice (encode second) (offset - width A) bytes := by
  have hLength : (encode first).length = width A :=
    length_encode first
  have hSplice :
      splice (encode first ++ encode second) offset bytes =
        encode first ++
          splice (encode second)
            (offset - (encode first).length) bytes :=
    splice_append_right (hLength.le.trans hOffset)
  rw [hLength] at hSplice
  exact hSplice

@[simp] theorem splice_self (value value' : A) :
    splice (encode value) 0 (encode value') =
      encode value' := by
  have hLength :
      (encode value').length = (encode value).length :=
    (length_encode value').trans (length_encode value).symm
  rw [← List.append_nil (encode value),
    splice_append_front hLength, List.append_nil]

end Packed

end Foundations

------------------------------------------------------------
-- Columns
------------------------------------------------------------

namespace Foundations

namespace Packed

/-
  A field of a format: where it is written, how it is read
  from a value, and how it is replaced in one.
-/
structure Column
    (B A : Type)
    [Packed B] [Packed A] where
  offset : ℕ
  get : B → A
  set : B → A → B
  bound : offset + width A ≤ width B
  fieldAt_encode :
    ∀ value,
      fieldAt A (encode value) offset = some (get value)
  splice_encode :
    ∀ value field,
      splice (encode value) offset (encode field) =
        encode (set value field)

namespace Column

variable {A B C D : Type}
variable [Packed A] [Packed B] [Packed C]

/- A value is a field of itself. -/
def self : Column A A where
  offset := 0
  get value := value
  set _ field := field
  bound := (Nat.zero_add _).le
  fieldAt_encode := fieldAt_self
  splice_encode := splice_self

/- A field of the first component of a pair. -/
def first (column : Column B A) : Column (B × C) A where
  offset := column.offset
  get value := column.get value.1
  set value field := (column.set value.1 field, value.2)
  bound := column.bound.trans (Nat.le_add_right _ _)
  fieldAt_encode value := by
    have hBound :
        column.offset + width A ≤
          (encode value.1).length := by
      rw [length_encode]
      exact column.bound
    exact (fieldAt_append hBound).trans
      (column.fieldAt_encode value.1)
  splice_encode value field := by
    have hBound :
        column.offset + (encode field).length ≤
          (encode value.1).length := by
      rw [length_encode, length_encode]
      exact column.bound
    calc splice (encode value) column.offset (encode field)
        = splice (encode value.1) column.offset
            (encode field) ++ encode value.2 :=
          splice_append_left hBound
      _ = encode (column.set value.1 field) ++
            encode value.2 := by
          rw [column.splice_encode]

/- A field of the second component. -/
def later (column : Column C A) : Column (B × C) A where
  offset := width B + column.offset
  get value := column.get value.2
  set value field := (value.1, column.set value.2 field)
  bound := by
    rw [width_pair, Nat.add_assoc]
    exact Nat.add_le_add_left column.bound _
  fieldAt_encode value := by
    rcases value with ⟨first, second⟩
    rw [fieldAt_snd (Nat.le_add_right _ _),
      Nat.add_sub_cancel_left]
    exact column.fieldAt_encode second
  splice_encode value field := by
    rcases value with ⟨first, second⟩
    rw [splice_snd (Nat.le_add_right _ _),
      Nat.add_sub_cancel_left, column.splice_encode]
    rfl

/- A field along a bijection. -/
def ofEquiv
    (e : D ≃ B)
    (column : Column B A) :
    @Column D A (Packed.ofEquiv e) _ :=
  let _ : Packed D := Packed.ofEquiv e
  { offset := column.offset
    get := fun value => column.get (e value)
    set := fun value field =>
      e.symm (column.set (e value) field)
    bound := column.bound
    fieldAt_encode := fun value =>
      column.fieldAt_encode (e value)
    splice_encode := fun value field =>
      (column.splice_encode (e value) field).trans
        (congrArg encode (e.apply_symm_apply _).symm) }

end Column

end Packed

end Foundations
