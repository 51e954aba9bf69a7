import Entros.Foundations.Packed

/-
  Public keys, program-derived addresses, and the functions
  of the runtime that the three programs rely on.

  Key definitions include:
    * `Pubkey`
    * `Signer`
    * `ProgramId`
    * `Seeds`
    * `Address`
    * `Host`
    * `Host.findProgramAddress`
    * `Host.createProgramAddress`
-/

------------------------------------------------------------
-- Keys
------------------------------------------------------------

namespace Entros

open Foundations

abbrev Pubkey := Bytes 32

/- `Pubkey::default()`, the System Program's address. -/
def Pubkey.default : Pubkey := Bytes.zero 32

/-
  A key whose signature the runtime has checked.  No
  signature is valid for the default key, which is the
  address of the System Program and has no private key.
-/
structure Signer where
  key : Pubkey
  key_ne_default : key ≠ Pubkey.default

/- The programs that own accounts. -/
inductive ProgramId where
| system
| registry
| anchor
| verifier
| token2022
| ed25519
| other (id : Pubkey)
deriving DecidableEq

end Entros

------------------------------------------------------------
-- Addresses
------------------------------------------------------------

namespace Entros

open Foundations

/-
  The seeds under which the programs derive addresses, each
  with the program that derives them.  The associated token
  account is the one of a wallet for its own mint.
-/
inductive Seeds where
| protocolConfig
| protocolTreasury
| vault
| validator (authority : Pubkey)
| identity (wallet : Pubkey)
| mint (wallet : Pubkey)
| mintAuthority
| encryptedBaseline (wallet : Pubkey)
| proofRequestState (wallet : Pubkey)
| challenge (challenger : Pubkey) (nonce : Bytes 32)
| verification (verifier : Pubkey) (nonce : Bytes 32)
| verificationBound (verifier : Pubkey) (nonce : Bytes 32)
| associatedToken (wallet : Pubkey)
deriving DecidableEq

/-
  An account address: an ordinary key, the instructions
  sysvar, or an address derived from seeds and a bump.
  Addresses of different seeds or bumps are different.
-/
inductive Address where
| key (key : Pubkey)
| instructionsSysvar
| pda (seeds : Seeds) (bump : UInt8)
deriving DecidableEq

end Entros

------------------------------------------------------------
-- Runtime Functions
------------------------------------------------------------

namespace Entros

open Foundations

/- The verifying keys compiled into the verifier program. -/
inductive VerifyingKey where
| default
| bound
deriving DecidableEq

/-
  One deployment: the build configuration of the programs
  and the functions they take from outside this repository.

    * `requestBound`: the `request-bound-v1` feature.
    * `anchorId`, `verifierId`, `deploymentDomain`: the
      constants generated by the build.
    * `sha256`: the SHA-256 hash.
    * `sysvarKey`: the 32 bytes of the sysvar's address.
    * `derive`: the 32 bytes of a derived address.
    * `canonicalBump`: the bump `find_program_address` finds.
    * `offCurve`: whether seeds and bump give an address.
    * `minimumBalance`: the rent-exempt balance of a size.
    * `mintSpace`, `tokenSpace`: the sizes that Token-2022
      computes for the mint and for its token accounts.
    * `groth16`: `Groth16Verifier::new` and `verify` succeed.
    * `ed25519`: a signature verifies for a key and message.
    * `precompile`: the Ed25519 precompile accepts the data
      of an instruction.
-/
structure Host where
  requestBound : Bool
  anchorId : Pubkey
  verifierId : Pubkey
  deploymentDomain : Bytes 32
  sha256 : List UInt8 → Bytes 32
  sysvarKey : Pubkey
  derive : Seeds → UInt8 → Pubkey
  canonicalBump : Seeds → UInt8
  offCurve : Seeds → UInt8 → Bool
  minimumBalance : ℕ → ℕ
  mintSpace : ℕ
  tokenSpace : ℕ
  groth16 :
    VerifyingKey → Bytes 64 → Bytes 128 → Bytes 64 →
      List (Bytes 32) → Bool
  ed25519 : Pubkey → Bytes 64 → List UInt8 → Bool
  precompile : List UInt8 → Bool

namespace Host

variable (H : Host)

/- `Pubkey::find_program_address`, without its bump. -/
def findProgramAddress (seeds : Seeds) : Address :=
  .pda seeds (H.canonicalBump seeds)

/- `Pubkey::create_program_address`. -/
def createProgramAddress
    (seeds : Seeds)
    (bump : UInt8) :
    Option Address :=
  if H.offCurve seeds bump then
    some (.pda seeds bump)
  else
    none

/- The 32 bytes of an address. -/
def toPubkey : Address → Pubkey
| .key key => key
| .instructionsSysvar => H.sysvarKey
| .pda seeds bump => H.derive seeds bump

theorem findProgramAddress_inj
    {seeds seeds' : Seeds} :
    H.findProgramAddress seeds =
        H.findProgramAddress seeds' ↔
      seeds = seeds' := by
  constructor
  · intro hEq
    exact (Address.pda.inj hEq).1
  · intro hEq
    rw [hEq]

theorem createProgramAddress_eq_some
    {seeds : Seeds}
    {bump : UInt8}
    {address : Address}
    (hCreate :
      H.createProgramAddress seeds bump = some address) :
    address = .pda seeds bump := by
  unfold createProgramAddress at hCreate
  split_ifs at hCreate
  exact (Option.some.inj hCreate).symm

end Host

end Entros
