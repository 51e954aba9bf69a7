import Entros.Chain.World

/-
  The transaction an instruction belongs to, as the
  instructions sysvar shows it, and the accounts a caller
  passes beyond the named ones.

  Key definitions include:
    * `TopLevelInstruction`
    * `Transaction`
    * `Transaction.precedingInstruction`
    * `AccountMeta`
    * `readSlice`

  Key theorems include:
    * `Transaction.precompile_of_preceding`
    * `readSlice_eq_ok`
-/

------------------------------------------------------------
-- Transactions
------------------------------------------------------------

namespace Entros

open Foundations

/- A top-level instruction, without its accounts. -/
structure TopLevelInstruction where
  program : ProgramId
  data : List UInt8
deriving DecidableEq

/-
  A transaction during the execution of one of its top-level
  instructions.  A transaction whose Ed25519 instructions the
  precompile rejects is never executed.
-/
structure Transaction (H : Host) where
  instructions : List TopLevelInstruction
  currentIndex : ℕ
  verified :
    ∀ instruction ∈ instructions,
      instruction.program = .ed25519 →
        H.precompile instruction.data = true

namespace Transaction

variable {H : Host}

/- `load_instruction_at_checked(current_index - 1, ..)`. -/
def precedingInstruction
    (tx : Transaction H) : Result TopLevelInstruction :=
  okOr (tx.instructions[tx.currentIndex - 1]?)
    (.runtime .missingInstruction)

/- A preceding Ed25519 instruction has been checked. -/
theorem precompile_of_preceding
    {tx : Transaction H}
    {previous : TopLevelInstruction}
    (hPrevious : tx.precedingInstruction = .ok previous)
    (hProgram : previous.program = .ed25519) :
    H.precompile previous.data = true := by
  have hIndex := okOr_eq_ok.mp hPrevious
  exact tx.verified previous
    (List.mem_of_getElem? hIndex) hProgram

end Transaction

/- An account passed in `remaining_accounts`. -/
structure AccountMeta where
  address : Address
  writable : Bool
deriving DecidableEq

end Entros

------------------------------------------------------------
-- Slices of Instruction Data
------------------------------------------------------------

namespace Entros

open Foundations

/- `&data[offset..offset + width]`, a panic past the end. -/
def readSlice
    (data : List UInt8)
    (offset width : ℕ) : Result (List UInt8) := do
  require (offset + width ≤ data.length) .panicked
  return slice data offset width

theorem readSlice_eq_ok
    {data bytes : List UInt8}
    {offset width : ℕ} :
    readSlice data offset width = .ok bytes ↔
      offset + width ≤ data.length ∧
        slice data offset width = bytes := by
  simp only [readSlice, bind_eq_ok, require_eq_ok,
    pure_eq_ok, exists_const]

/- A slice inside the data is never a panic. -/
theorem readSlice_of_le
    {data : List UInt8}
    {offset width : ℕ}
    (hBound : offset + width ≤ data.length) :
    readSlice data offset width =
      .ok (slice data offset width) :=
  readSlice_eq_ok.mpr ⟨hBound, rfl⟩

/- A total field inside the data is never a panic. -/
theorem readField_of_le
    {A : Type}
    [Packed A]
    [Packed.Total A]
    {data : List UInt8}
    {offset : ℕ}
    (hBound : offset + Packed.width A ≤ data.length) :
    ∃ value : A, readField A data offset = .ok value := by
  rcases exists_fieldAt (A := A) hBound with ⟨value, hValue⟩
  exact ⟨value, readField_eq_ok.mpr hValue⟩

end Entros
