import Mathlib.Data.Vector.Basic
import Mathlib.Data.List.Basic
import Mathlib.Tactic.Ring
import Mathlib.Tactic.Linarith

/-
  Byte strings, windows into them, and little-endian
  numbers.

  Key definitions include:
    * `Bytes`
    * `slice`
    * `splice`
    * `resize`
    * `Bytes.ofList`
    * `leBytes`
    * `leNat`
    * `ChangedWithin`

  Key theorems include:
    * `slice_splice_of_disjoint`
    * `slice_resize`
    * `slice_resize_zero`
    * `resize_splice`
    * `leNat_leBytes`
    * `leBytes_leNat`
    * `lt_iff_beNat_lt`
-/

------------------------------------------------------------
-- Byte Arrays
------------------------------------------------------------

namespace Foundations

/- A byte array of statically known length. -/
abbrev Bytes (n : ℕ) :=
  List.Vector UInt8 n

namespace Bytes

/- The all-zero array. -/
def zero (n : ℕ) : Bytes n :=
  List.Vector.replicate n 0

/- Read an array off a list, padding with zeros. -/
def ofList (n : ℕ) (data : List UInt8) : Bytes n :=
  ⟨data.takeD n 0, List.takeD_length n data 0⟩

@[simp] theorem toList_ofList
    {n : ℕ}
    {data : List UInt8}
    (hLength : data.length = n) :
    (ofList n data).toList = data := by
  subst hLength
  change data.takeD data.length 0 = data
  rw [List.takeD_eq_take _ le_rfl, List.take_length]

@[simp] theorem ofList_toList
    {n : ℕ}
    (bytes : Bytes n) :
    ofList n bytes.toList = bytes := by
  apply List.Vector.eq
  exact toList_ofList bytes.toList_length

@[simp] theorem toList_zero (n : ℕ) :
    (zero n).toList = List.replicate n 0 := rfl

theorem toList_injective {n : ℕ} :
    Function.Injective
      (List.Vector.toList : Bytes n → List UInt8) :=
  fun _ _ hEq => List.Vector.eq _ _ hEq

end Bytes

end Foundations

------------------------------------------------------------
-- Windows
------------------------------------------------------------

namespace Foundations

/- The `width` bytes of `data` that start at `offset`. -/
def slice
    (data : List UInt8)
    (offset width : ℕ) :
    List UInt8 :=
  (data.drop offset).take width

/- Overwrite `data` with `bytes` from `offset` on. -/
def splice
    (data : List UInt8)
    (offset : ℕ)
    (bytes : List UInt8) :
    List UInt8 :=
  data.take offset ++
    (bytes ++ data.drop (offset + bytes.length))

/- Truncate or zero-extend `data` to `size` bytes. -/
def resize
    (data : List UInt8)
    (size : ℕ) :
    List UInt8 :=
  data.take size ++
    List.replicate (size - data.length) 0

theorem length_slice
    {data : List UInt8}
    {offset width : ℕ}
    (hBound : offset + width ≤ data.length) :
    (slice data offset width).length = width := by
  simp only [slice, List.length_take, List.length_drop]
  omega

@[simp] theorem length_splice
    {data bytes : List UInt8}
    {offset : ℕ}
    (hBound : offset + bytes.length ≤ data.length) :
    (splice data offset bytes).length = data.length := by
  simp only [splice, List.length_append, List.length_take,
    List.length_drop]
  omega

@[simp] theorem length_resize
    (data : List UInt8)
    (size : ℕ) :
    (resize data size).length = size := by
  simp only [resize, List.length_append, List.length_take,
    List.length_replicate]
  omega

theorem resize_of_length_eq
    {data : List UInt8}
    {size : ℕ}
    (hLength : data.length = size) :
    resize data size = data := by
  subst hLength
  simp [resize]

/- A write leaves every window outside it unchanged. -/
theorem slice_splice_of_disjoint
    {data bytes : List UInt8}
    {offset start width : ℕ}
    (hBound : offset + bytes.length ≤ data.length)
    (hDisjoint :
      start + width ≤ offset ∨
        offset + bytes.length ≤ start) :
    slice (splice data offset bytes) start width =
      slice data start width := by
  apply List.ext_getElem?
  intro i
  simp only [slice, splice, List.getElem?_take,
    List.getElem?_drop]
  by_cases hWidth : i < width
  · simp only [hWidth, if_true]
    rcases hDisjoint with hBefore | hAfter
    · have hIndex : start + i < (data.take offset).length := by
        simp only [List.length_take]
        omega
      rw [List.getElem?_append_left hIndex,
        List.getElem?_take_of_lt (by omega)]
    · have hTake : (data.take offset).length = offset := by
        simp only [List.length_take]
        omega
      rw [List.getElem?_append_right (by omega), hTake,
        List.getElem?_append_right (by omega),
        List.getElem?_drop]
      congr 1
      omega
  · simp [hWidth]

/- Resizing keeps every window inside the old data. -/
theorem slice_resize
    {data : List UInt8}
    {size start width : ℕ}
    (hOld : start + width ≤ data.length)
    (hNew : start + width ≤ size) :
    slice (resize data size) start width =
      slice data start width := by
  apply List.ext_getElem?
  intro i
  simp only [slice, resize, List.getElem?_take,
    List.getElem?_drop]
  by_cases hWidth : i < width
  · have hIndex : start + i < (data.take size).length := by
      simp only [List.length_take]
      omega
    simp only [hWidth, if_true]
    rw [List.getElem?_append_left hIndex,
      List.getElem?_take_of_lt (by omega)]
  · simp [hWidth]

/- Windows past the old data read zeros after a resize. -/
theorem slice_resize_zero
    {data : List UInt8}
    {size start width : ℕ}
    (hOld : data.length ≤ start)
    (hNew : start + width ≤ size) :
    slice (resize data size) start width =
      List.replicate width 0 := by
  have hTake : data.take size = data :=
    List.take_of_length_le (by omega)
  rw [resize, hTake, slice, List.drop_append,
    List.drop_eq_nil_of_le hOld, List.nil_append,
    List.drop_replicate, List.take_replicate]
  congr 1
  omega

/- A window starting past the first part of an append. -/
theorem slice_append_right
    {front back : List UInt8}
    {offset width : ℕ}
    (hOffset : front.length ≤ offset) :
    slice (front ++ back) offset width =
      slice back (offset - front.length) width := by
  rw [slice, slice, List.drop_append,
    List.drop_eq_nil_of_le hOffset, List.nil_append]

/- A window that is exactly the first part of an append. -/
theorem slice_append_left
    {front back : List UInt8}
    {width : ℕ}
    (hWidth : front.length = width) :
    slice (front ++ back) 0 width = front := by
  subst hWidth
  simp [slice]

/- A write past the first part of an append. -/
theorem splice_append_right
    {front back bytes : List UInt8}
    {offset : ℕ}
    (hOffset : front.length ≤ offset) :
    splice (front ++ back) offset bytes =
      front ++ splice back (offset - front.length) bytes := by
  have hBack :
      offset + bytes.length - front.length =
        offset - front.length + bytes.length := by omega
  rw [splice, splice, List.take_append,
    List.take_of_length_le hOffset, List.drop_append,
    List.drop_eq_nil_of_le (by omega), List.nil_append,
    hBack, List.append_assoc]

/- A write inside the first part of an append. -/
theorem splice_append_left
    {front back bytes : List UInt8}
    {offset : ℕ}
    (hBound : offset + bytes.length ≤ front.length) :
    splice (front ++ back) offset bytes =
      splice front offset bytes ++ back := by
  rw [splice, splice,
    List.take_append_of_le_length (by omega),
    List.drop_append_of_le_length hBound]
  simp only [List.append_assoc]

/- A write over exactly the first part of an append. -/
theorem splice_append_front
    {front back bytes : List UInt8}
    (hLength : bytes.length = front.length) :
    splice (front ++ back) 0 bytes = bytes ++ back := by
  rw [splice, List.take_zero, List.nil_append,
    Nat.zero_add, hLength, List.drop_left]

/- A write and a zero-extension commute. -/
theorem resize_splice
    {data bytes : List UInt8}
    {offset size : ℕ}
    (hBound : offset + bytes.length ≤ data.length)
    (hSize : data.length ≤ size) :
    resize (splice data offset bytes) size =
      splice (resize data size) offset bytes := by
  have hLength := length_splice hBound
  rw [resize, resize, hLength,
    List.take_of_length_le (hLength.trans_le hSize),
    List.take_of_length_le hSize,
    splice_append_left hBound]

/- A window that is the whole string. -/
theorem slice_all
    {data : List UInt8}
    {width : ℕ}
    (hWidth : data.length ≤ width) :
    slice data 0 width = data := by
  simp [slice, List.take_of_length_le hWidth]

end Foundations

------------------------------------------------------------
-- Little-Endian Numbers
------------------------------------------------------------

namespace Foundations

/- The `width` low bytes of a number, least first. -/
def leBytes : ℕ → ℕ → List UInt8
| 0, _ => []
| width + 1, value =>
    UInt8.ofNat value :: leBytes width (value / 256)

/- The number whose little-endian bytes are given. -/
def leNat : List UInt8 → ℕ
| [] => 0
| byte :: rest => byte.toNat + 256 * leNat rest

/- The `width` low bytes of a number, greatest first. -/
def beBytes (width value : ℕ) : List UInt8 :=
  (leBytes width value).reverse

/- The number whose big-endian bytes are given. -/
def beNat (data : List UInt8) : ℕ :=
  leNat data.reverse

@[simp] theorem length_leBytes
    (width value : ℕ) :
    (leBytes width value).length = width := by
  induction width generalizing value with
  | zero => rfl
  | succ width ih => simp [leBytes, ih]

@[simp] theorem length_beBytes
    (width value : ℕ) :
    (beBytes width value).length = width := by
  simp [beBytes]

theorem leNat_lt (data : List UInt8) :
    leNat data < 256 ^ data.length := by
  induction data with
  | nil => simp [leNat]
  | cons byte rest ih =>
      have hByte : byte.toNat < 256 := byte.toNat_lt
      simp only [leNat, List.length_cons, pow_succ]
      omega

theorem leNat_leBytes
    (width value : ℕ) :
    leNat (leBytes width value) = value % 256 ^ width := by
  induction width generalizing value with
  | zero => simp [leBytes, leNat, Nat.mod_one]
  | succ width ih =>
      have hByte : value % 2 ^ 8 = value % 256 := rfl
      rw [leBytes, leNat, ih, UInt8.toNat_ofNat', hByte,
        pow_succ', Nat.mod_mul]

theorem leBytes_leNat (data : List UInt8) :
    leBytes data.length (leNat data) = data := by
  induction data with
  | nil => rfl
  | cons byte rest ih =>
      have hByte : byte.toNat < 256 := byte.toNat_lt
      have hDiv :
          (byte.toNat + 256 * leNat rest) / 256 =
            leNat rest := by omega
      have hHead :
          UInt8.ofNat (byte.toNat + 256 * leNat rest) =
            byte := by
        apply UInt8.toNat_inj.mp
        rw [UInt8.toNat_ofNat']
        omega
      simp only [List.length_cons, leNat, leBytes, hDiv,
        hHead, ih]

theorem leBytes_inj
    {width a b : ℕ}
    (hA : a < 256 ^ width)
    (hB : b < 256 ^ width)
    (hEq : leBytes width a = leBytes width b) :
    a = b := by
  have hNat := congrArg leNat hEq
  rwa [leNat_leBytes, leNat_leBytes,
    Nat.mod_eq_of_lt hA, Nat.mod_eq_of_lt hB] at hNat

theorem beBytes_inj
    {width a b : ℕ}
    (hA : a < 256 ^ width)
    (hB : b < 256 ^ width)
    (hEq : beBytes width a = beBytes width b) :
    a = b :=
  leBytes_inj hA hB (List.reverse_injective hEq)

end Foundations

------------------------------------------------------------
-- Big-Endian Numbers
------------------------------------------------------------

namespace Foundations

theorem leNat_append (low high : List UInt8) :
    leNat (low ++ high) =
      leNat low + 256 ^ low.length * leNat high := by
  induction low with
  | nil => simp [leNat]
  | cons byte rest ih =>
      rw [List.cons_append, leNat, ih, leNat,
        List.length_cons]
      ring

/- The first byte carries the greatest weight. -/
theorem beNat_cons (byte : UInt8) (rest : List UInt8) :
    beNat (byte :: rest) =
      byte.toNat * 256 ^ rest.length + beNat rest := by
  rw [beNat, List.reverse_cons, leNat_append,
    List.length_reverse, beNat, leNat, leNat]
  ring

theorem beNat_lt (data : List UInt8) :
    beNat data < 256 ^ data.length := by
  have hBound := leNat_lt data.reverse
  rw [List.length_reverse] at hBound
  exact hBound

theorem beNat_beBytes
    {width value : ℕ}
    (hValue : value < 256 ^ width) :
    beNat (beBytes width value) = value := by
  rw [beNat, beBytes, List.reverse_reverse, leNat_leBytes,
    Nat.mod_eq_of_lt hValue]

theorem beBytes_beNat (data : List UInt8) :
    beBytes data.length (beNat data) = data := by
  have hBytes := leBytes_leNat data.reverse
  rw [List.length_reverse] at hBytes
  rw [beBytes, beNat, hBytes, List.reverse_reverse]

/- Leading zeros do not change a number. -/
theorem beNat_zeros (count : ℕ) (data : List UInt8) :
    beNat (List.replicate count 0 ++ data) = beNat data := by
  induction count with
  | zero => rfl
  | succ count ih =>
      have hZero : (0 : UInt8).toNat = 0 := rfl
      rw [List.replicate_succ, List.cons_append, beNat_cons,
        ih, hZero]
      omega

/-
  The lexicographic order of strings of one length is the
  order of the numbers they denote.
-/
theorem lt_iff_beNat_lt
    {data data' : List UInt8}
    (hLength : data.length = data'.length) :
    data < data' ↔ beNat data < beNat data' := by
  induction data generalizing data' with
  | nil =>
      cases data' with
      | nil => simp
      | cons byte' rest' => cases hLength
  | cons byte rest ih =>
      cases data' with
      | nil => cases hLength
      | cons byte' rest' =>
          have hRest : rest.length = rest'.length :=
            Nat.succ.inj hLength
          have hLow := beNat_lt rest
          have hLow' := beNat_lt rest'
          rw [← hRest] at hLow'
          rw [List.cons_lt_cons_iff, ih hRest, beNat_cons,
            beNat_cons, ← hRest, UInt8.lt_iff_toNat_lt,
            ← UInt8.toNat_inj]
          -- the heads decide unless they are equal
          rcases Nat.lt_trichotomy byte.toNat byte'.toNat with
            hLess | hSame | hGreater
          · have hStep :
                (byte.toNat + 1) * 256 ^ rest.length ≤
                  byte'.toNat * 256 ^ rest.length :=
              Nat.mul_le_mul_right _ hLess
            rw [Nat.add_mul] at hStep
            omega
          · rw [hSame]
            omega
          · have hStep :
                (byte'.toNat + 1) * 256 ^ rest.length ≤
                  byte.toNat * 256 ^ rest.length :=
              Nat.mul_le_mul_right _ hGreater
            rw [Nat.add_mul] at hStep
            omega

end Foundations

------------------------------------------------------------
-- Written Windows
------------------------------------------------------------

namespace Foundations

/- A window that none of the written windows touches. -/
def Clear
    (windows : List (ℕ × ℕ))
    (start width : ℕ) : Prop :=
  ∀ window ∈ windows,
    start + width ≤ window.1 ∨
      window.1 + window.2 ≤ start

/- Only the bytes inside the windows have changed. -/
structure ChangedWithin
    (windows : List (ℕ × ℕ))
    (data data' : List UInt8) : Prop where
  length : data'.length = data.length
  same :
    ∀ start width, Clear windows start width →
      slice data' start width = slice data start width

namespace ChangedWithin

variable {windows more : List (ℕ × ℕ)}
variable {data data' data'' : List UInt8}

/- A write changes its own window only. -/
theorem of_splice
    {offset : ℕ}
    {bytes : List UInt8}
    (hBound : offset + bytes.length ≤ data.length) :
    ChangedWithin [(offset, bytes.length)] data
      (splice data offset bytes) where
  length := length_splice hBound
  same := by
    intro start width hClear
    exact slice_splice_of_disjoint hBound
      (hClear (offset, bytes.length)
        (List.mem_singleton_self _))

/- Writes one after another. -/
theorem trans
    (hFirst : ChangedWithin windows data data')
    (hSecond : ChangedWithin more data' data'') :
    ChangedWithin (windows ++ more) data data'' where
  length := hSecond.length.trans hFirst.length
  same := by
    intro start width hClear
    have hFront : Clear windows start width := by
      intro window hWindow
      exact hClear window (List.mem_append_left more hWindow)
    have hBack : Clear more start width := by
      intro window hWindow
      exact hClear window
        (List.mem_append_right windows hWindow)
    exact (hSecond.same start width hBack).trans
      (hFirst.same start width hFront)

end ChangedWithin

end Foundations
