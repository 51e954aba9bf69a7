import Entros.System.Refinement

/-
  Executing a list of calls, and deployments whose runtime
  functions are finite tables, so that single runs can be
  evaluated.

  Key definitions include:
    * `replay`
    * `World.funded`
    * `accountDigests`
    * `signedInstruction`
    * `Tables`
    * `Tables.host`
    * `Sample.configure`

  Key theorems include:
    * `replay_run`
    * `replay_labels`
    * `event_of_label`
    * `clocked_of_labels`
    * `exists_run`
-/

------------------------------------------------------------
-- Replaying
------------------------------------------------------------

namespace Entros

open Foundations

/- The history of a sequence of calls that all succeed. -/
def replay
    {H : Host} :
    World → List (Call H) → Option (List (Event H) × World)
| w, [] => some ([], w)
| w, call :: calls =>
    match hStep : execute w call with
    | .error _ => none
    | .ok target =>
        (replay target calls).map fun rest =>
          ({ source := w
             label := call
             target := target
             valid := hStep } :: rest.1, rest.2)

variable {H : Host} {w w' : World}
variable {calls : List (Call H)}
variable {history : List (Event H)}

/- A replayed sequence of calls is a run. -/
theorem replay_run
    (hReplay : replay w calls = some (history, w')) :
    Run (Step H) w history w' := by
  induction calls generalizing w history with
  | nil =>
      rw [replay] at hReplay
      rcases Prod.mk.inj (Option.some.inj hReplay) with
        ⟨rfl, rfl⟩
      exact .nil
  | cons call calls ih =>
      unfold replay at hReplay
      split at hReplay
      · cases hReplay
      · rcases Option.map_eq_some_iff.mp hReplay with
          ⟨⟨rest, final⟩, hRest, hEq⟩
        rcases Prod.mk.inj hEq with ⟨rfl, rfl⟩
        exact .cons _ (ih hRest)

/- The history consists of the calls in their order. -/
theorem replay_labels
    (hReplay : replay w calls = some (history, w')) :
    history.map Transition.label = calls := by
  induction calls generalizing w history with
  | nil =>
      rw [replay] at hReplay
      rw [← (Prod.mk.inj (Option.some.inj hReplay)).1]
      rfl
  | cons call calls ih =>
      unfold replay at hReplay
      split at hReplay
      · cases hReplay
      · rcases Option.map_eq_some_iff.mp hReplay with
          ⟨⟨rest, final⟩, hRest, hEq⟩
        rcases Prod.mk.inj hEq with ⟨rfl, rfl⟩
        exact congrArg (call :: ·) (ih hRest)

/- The event that a call of the sequence has left behind. -/
theorem event_of_label
    {i : ℕ}
    {call : Call H}
    (hLabels : history.map Transition.label = calls)
    (hCall : calls[i]? = some call) :
    ∃ event : Event H,
      history[i]? = some event ∧ event.label = call := by
  rw [← hLabels, List.getElem?_map,
    Option.map_eq_some_iff] at hCall
  exact hCall

/- Only the calls decide whether a history is clocked. -/
theorem clocked_of_labels
    (hLabels : history.map Transition.label = calls)
    (hClock :
      calls.Pairwise fun earlier later =>
        earlier.now ≤ later.now) :
    Clocked history := by
  rw [← hLabels, List.pairwise_map] at hClock
  exact hClock

/- What an evaluated replay shows about some run. -/
theorem exists_run
    {A : Type}
    {summary : List (Event H) × World → A}
    {value : A}
    (hReplay : (replay w calls).map summary = some value) :
    ∃ history w', Run (Step H) w history w' ∧
      history.map Transition.label = calls ∧
        summary (history, w') = value := by
  rcases Option.map_eq_some_iff.mp hReplay with
    ⟨⟨history, w'⟩, hSome, hSummary⟩
  exact ⟨history, w', replay_run hSome,
    replay_labels hSome, hSummary⟩

end Entros

------------------------------------------------------------
-- Deployments from Tables
------------------------------------------------------------

namespace Entros

open Foundations

/-
  The usual header of an Ed25519 instruction for one
  signature, with the key and the signature after it.
-/
def signedHeader
    (key : Pubkey)
    (signature : Bytes 64)
    (size : UInt16) : List UInt8 :=
  Packed.encode
    ((1 : UInt8), (0 : UInt8), (48 : UInt16),
      (0xFFFF : UInt16), (16 : UInt16), (0xFFFF : UInt16),
      (112 : UInt16), size, (0xFFFF : UInt16), key,
      signature)

theorem length_signedHeader
    (key : Pubkey)
    (signature : Bytes 64)
    (size : UInt16) :
    (signedHeader key signature size).length = 112 :=
  Packed.length_encode _

/- The message comes last. -/
def signedInstruction
    (key : Pubkey)
    (signature : Bytes 64)
    (message : List UInt8) : List UInt8 :=
  signedHeader key signature
    (UInt16.ofNat message.length) ++ message

/- A world in which only wallets hold lamports. -/
def World.funded : World where
  accounts _ := .vacant
  lamports address :=
    match address with
    | .key _ => 1000000000
    | .instructionsSysvar => 0
    | .pda _ _ => 0
  mints _ := none
  tokenAccounts _ := none
  programData := []

theorem funded_fresh : World.funded.Fresh :=
  fun _ _ _ => rfl

/- SHA-256 of the strings that name the account types. -/
def accountDigests : List (List UInt8 × Bytes 32) :=
  [(ascii "account:ProtocolConfig", Bytes.ofList 32
      [207, 91, 250, 28, 152, 179, 215, 209, 53, 47, 124,
        69, 195, 228, 16, 162, 102, 225, 206, 38, 254, 223,
        183, 248, 112, 62, 141, 77, 27, 193, 166, 251]),
    (ascii "account:IdentityState", Bytes.ofList 32
      [156, 32, 87, 93, 52, 155, 248, 207, 86, 137, 7, 210,
        96, 112, 111, 141, 82, 147, 8, 72, 38, 215, 30, 60,
        54, 196, 244, 129, 103, 9, 146, 206]),
    (ascii "account:VerificationResult", Bytes.ofList 32
      [104, 111, 80, 172, 219, 191, 162, 38, 28, 87, 36, 30,
        13, 178, 119, 55, 184, 60, 189, 38, 124, 139, 211,
        144, 215, 130, 69, 30, 26, 214, 135, 164]),
    (ascii "account:ProofRequestState", Bytes.ofList 32
      [213, 45, 121, 7, 14, 102, 56, 119, 145, 40, 2, 179,
        42, 59, 130, 184, 117, 8, 190, 41, 66, 3, 11, 154,
        206, 40, 186, 250, 72, 28, 195, 254]),
    (ascii "account:BoundVerificationResult",
      Bytes.ofList 32
        [65, 150, 156, 190, 80, 199, 159, 102, 193, 222, 126,
          204, 77, 219, 109, 100, 25, 135, 20, 130, 94, 15,
          8, 54, 22, 238, 82, 113, 191, 185, 29, 194])]

/-
  The runtime functions on the finitely many arguments of a
  run; elsewhere hashes and keys are zero and checks fail.
-/
structure Tables where
  requestBound : Bool
  digests : List (List UInt8 × Bytes 32)
  addresses : List (Seeds × Pubkey × UInt8)
  proofs : List (VerifyingKey × Bytes 256 × List (Bytes 32))
  signatures : List (Pubkey × Bytes 64 × List UInt8)

namespace Tables

variable (t : Tables)

/- The address and the bump found for seeds. -/
def address (seeds : Seeds) : Pubkey × UInt8 :=
  ((t.addresses.find? fun entry =>
    entry.1 = seeds).map Prod.snd).getD
      (Pubkey.default, 255)

def host : Host where
  requestBound := t.requestBound
  anchorId := Bytes.ofList 32
    [231, 54, 0, 218, 112, 126, 191, 25, 144, 125, 50, 236,
      136, 66, 164, 95, 180, 213, 50, 99, 161, 73, 104, 1,
      109, 180, 230, 41, 55, 224, 147, 209]
  verifierId := Bytes.ofList 32
    [48, 50, 94, 115, 90, 162, 108, 8, 240, 151, 76, 223, 101,
      176, 170, 86, 254, 247, 252, 28, 240, 145, 60, 108, 42,
      129, 105, 32, 232, 212, 226, 52]
  deploymentDomain := Bytes.ofList 32 (List.replicate 32 3)
  sha256 data :=
    ((t.digests.find? fun entry =>
      entry.1 = data).map Prod.snd).getD (Bytes.zero 32)
  sysvarKey := Bytes.ofList 32 (List.replicate 32 4)
  derive seeds _ := (t.address seeds).1
  canonicalBump seeds := (t.address seeds).2
  offCurve seeds bump := (t.address seeds).2 = bump
  minimumBalance size := (128 + size) * 6960
  mintSpace := 415
  tokenSpace := 174
  groth16 key a b c inputs :=
    t.proofs.any fun entry =>
      entry.1 = key ∧
        slice entry.2.1.toList 0 64 = a.toList ∧
          slice entry.2.1.toList 64 128 = b.toList ∧
            slice entry.2.1.toList 192 64 = c.toList ∧
              entry.2.2 = inputs
  ed25519 key signature message :=
    (key, signature, message) ∈ t.signatures
  precompile data :=
    t.signatures.any fun entry =>
      signedInstruction entry.1 entry.2.1 entry.2.2 = data

/- A transaction that consists of one instruction. -/
def alone : Transaction t.host where
  instructions := [⟨.anchor, []⟩]
  currentIndex := 0
  verified := by
    intro instruction hInstruction hProgram
    rw [List.mem_singleton.mp hInstruction] at hProgram
    cases hProgram

/- A transaction with a signature in front. -/
def signed
    (entry : Pubkey × Bytes 64 × List UInt8)
    (hEntry : entry ∈ t.signatures) :
    Transaction t.host where
  instructions :=
    [⟨.ed25519,
      signedInstruction entry.1 entry.2.1 entry.2.2⟩,
      ⟨.anchor, []⟩]
  currentIndex := 1
  verified := by
    intro instruction hInstruction hProgram
    rcases List.mem_cons.mp hInstruction with rfl | hTail
    · exact List.any_eq_true.mpr
        ⟨entry, hEntry, decide_eq_true rfl⟩
    · rw [List.mem_singleton.mp hTail] at hProgram
      cases hProgram

end Tables

end Entros

------------------------------------------------------------
-- A Sample Deployment
------------------------------------------------------------

namespace Entros

open Foundations

/-
  Keys, derived addresses, a receipt and a proof that concrete
  runs are made of.  The values are those that the runtime
  computes: the derived addresses and bumps, the signatures
  of the validator, and the proof of the test fixtures.
-/
namespace Sample

def admin : Signer where
  key := Bytes.ofList 32
    [67, 167, 46, 113, 68, 1, 118, 45, 246, 107, 104, 194,
      109, 251, 223, 38, 130, 170, 236, 159, 36, 116, 236,
      164, 97, 62, 66, 74, 15, 186, 253, 60]
  key_ne_default := by decide

def alice : Signer where
  key := Bytes.ofList 32
    [138, 136, 227, 221, 116, 9, 241, 149, 253, 82, 219, 45,
      60, 186, 93, 114, 202, 103, 9, 191, 29, 148, 18, 27,
      243, 116, 136, 1, 180, 15, 111, 92]
  key_ne_default := by decide

def bob : Signer where
  key := Bytes.ofList 32
    [129, 57, 119, 14, 168, 125, 23, 95, 86, 163, 84, 102,
      195, 76, 126, 204, 203, 141, 138, 145, 180, 238, 55,
      162, 93, 246, 15, 91, 143, 201, 179, 148]
  key_ne_default := by decide

def validator : Pubkey :=
  Bytes.ofList 32
    [253, 23, 36, 56, 90, 160, 199, 91, 100, 251, 120, 205,
      96, 47, 161, 217, 145, 253, 235, 247, 107, 19, 197, 142,
      215, 2, 234, 200, 53, 233, 246, 24]

def nonce (i : UInt8) : Bytes 32 :=
  Bytes.ofList 32 (List.replicate 32 i)

/- The public inputs of the proof of the test fixtures. -/
def commitmentPrev : Bytes 32 :=
  Bytes.ofList 32
    [15, 245, 97, 36, 244, 253, 219, 220, 217, 43, 210, 212,
      186, 131, 19, 219, 55, 45, 141, 174, 220, 85, 91, 100,
      66, 16, 59, 200, 73, 164, 75, 89]

def commitmentNew : Bytes 32 :=
  Bytes.ofList 32
    [7, 91, 79, 60, 34, 137, 162, 46, 12, 81, 198, 77, 0, 153,
      83, 54, 67, 93, 112, 118, 162, 157, 242, 242, 138, 83,
      85, 119, 173, 96, 194, 7]

def proof : Bytes 256 :=
  Bytes.ofList 256
    [9, 34, 15, 194, 41, 30, 52, 102, 26, 65, 100, 71, 140,
      104, 71, 55, 11, 200, 94, 44, 124, 74, 90, 167, 225,
      167, 218, 69, 4, 82, 158, 50, 32, 204, 11, 191, 53, 211,
      95, 47, 212, 234, 2, 246, 36, 176, 222, 86, 5, 77, 151,
      76, 56, 178, 201, 231, 48, 129, 247, 179, 197, 179, 18,
      1, 27, 117, 101, 87, 127, 148, 252, 111, 225, 125, 206,
      225, 32, 250, 5, 66, 92, 66, 3, 116, 55, 87, 245, 145,
      220, 149, 244, 208, 115, 10, 39, 213, 6, 97, 235, 146,
      103, 107, 101, 252, 215, 246, 151, 13, 234, 152, 123,
      240, 54, 84, 217, 165, 94, 117, 236, 243, 128, 68, 190,
      158, 78, 159, 140, 199, 17, 202, 177, 166, 56, 208, 205,
      168, 132, 167, 130, 44, 98, 63, 126, 58, 86, 66, 134,
      126, 145, 230, 221, 212, 200, 22, 39, 60, 199, 25, 40,
      11, 4, 15, 231, 212, 71, 60, 252, 16, 164, 110, 253,
      200, 25, 19, 80, 247, 133, 64, 138, 39, 218, 72, 192,
      105, 77, 110, 104, 60, 143, 204, 92, 147, 22, 90, 150,
      94, 174, 248, 152, 196, 108, 114, 200, 150, 160, 0, 103,
      184, 15, 205, 10, 186, 118, 61, 166, 210, 98, 97, 192,
      138, 207, 248, 175, 33, 11, 180, 138, 163, 248, 81, 195,
      44, 230, 208, 203, 188, 195, 46, 140, 165, 169, 245, 4,
      43, 134, 129, 1, 9, 157, 39, 21, 46, 6, 158, 125, 75]

/- Derived addresses with their bumps. -/
def addresses : List (Seeds × Pubkey × UInt8) :=
  [(.protocolConfig, Bytes.ofList 32
        [55, 104, 88, 232, 217, 115, 0, 216, 25, 238, 109, 36,
          76, 68, 30, 188, 100, 24, 168, 233, 120, 11, 166,
          228, 136, 164, 114, 38, 179, 118, 81, 175],
      255),
    (.identity alice.key, Bytes.ofList 32
        [10, 200, 243, 193, 243, 207, 198, 19, 210, 240, 14,
          188, 127, 84, 37, 201, 210, 161, 22, 141, 84, 208,
          169, 151, 40, 9, 193, 187, 26, 177, 109, 190],
      255),
    (.mint alice.key, Bytes.ofList 32
        [121, 211, 100, 48, 76, 35, 8, 70, 1, 166, 122, 216,
          144, 119, 131, 153, 95, 215, 87, 194, 196, 17, 13,
          197, 10, 112, 63, 193, 77, 22, 32, 215],
      253),
    (.proofRequestState alice.key, Bytes.ofList 32
        [198, 195, 18, 114, 204, 185, 70, 150, 161, 227, 109,
          229, 85, 244, 242, 112, 119, 208, 230, 48, 249, 116,
          148, 4, 6, 4, 173, 208, 29, 59, 48, 18],
      255),
    (.identity bob.key, Bytes.ofList 32
        [177, 96, 101, 24, 32, 78, 38, 88, 120, 139, 133, 57,
          50, 234, 207, 18, 145, 40, 107, 197, 59, 127, 145,
          216, 182, 246, 40, 102, 50, 113, 113, 13],
      251),
    (.mint bob.key, Bytes.ofList 32
        [113, 143, 106, 70, 39, 166, 63, 136, 136, 206, 119,
          137, 104, 102, 22, 71, 219, 154, 129, 248, 213, 98,
          192, 43, 65, 32, 77, 250, 11, 80, 82, 198],
      254),
    (.proofRequestState bob.key, Bytes.ofList 32
        [1, 29, 202, 47, 100, 50, 197, 149, 134, 25, 80, 76,
          100, 23, 248, 154, 169, 164, 47, 199, 44, 222, 60,
          77, 156, 105, 62, 76, 126, 183, 239, 250],
      248),
    (.verification alice.key (nonce 1), Bytes.ofList 32
        [71, 163, 24, 32, 44, 251, 130, 194, 247, 52, 5, 222,
          113, 72, 83, 54, 89, 140, 19, 93, 220, 1, 254, 93,
          61, 64, 234, 254, 142, 69, 165, 128],
      255),
    (.verification alice.key (nonce 2), Bytes.ofList 32
        [136, 73, 55, 158, 94, 173, 254, 254, 79, 78, 34, 43,
          59, 32, 166, 212, 215, 232, 2, 122, 152, 110, 158,
          69, 82, 131, 84, 189, 26, 1, 11, 37],
      251),
    (.verification alice.key (nonce 3), Bytes.ofList 32
        [238, 218, 207, 47, 247, 49, 149, 182, 79, 68, 38,
          203, 44, 123, 74, 13, 167, 183, 26, 118, 168, 66,
          45, 253, 89, 36, 139, 121, 162, 199, 240, 185],
      254),
    (.verificationBound alice.key (nonce 1), Bytes.ofList 32
        [164, 196, 167, 12, 107, 251, 37, 88, 237, 174, 50,
          221, 79, 238, 2, 180, 94, 14, 184, 199, 212, 1, 132,
          251, 140, 104, 240, 16, 93, 189, 221, 68],
      250),
    (.verificationBound alice.key (nonce 2), Bytes.ofList 32
        [249, 130, 97, 174, 80, 162, 163, 24, 168, 46, 118,
          231, 40, 237, 84, 72, 29, 169, 130, 63, 127, 75, 33,
          86, 61, 210, 102, 9, 183, 161, 32, 100],
      255),
    (.verificationBound alice.key (nonce 3), Bytes.ofList 32
        [53, 234, 153, 36, 151, 96, 209, 14, 50, 56, 115, 83,
          244, 160, 215, 39, 5, 187, 80, 19, 56, 134, 190,
          237, 59, 207, 20, 78, 115, 242, 48, 245],
      254)]

/- The validator's signature on a mint receipt of `alice`. -/
def aliceMint : Pubkey × Bytes 64 × List UInt8 :=
  (validator,
    Bytes.ofList 64
      [186, 128, 144, 176, 12, 121, 81, 159, 214, 231, 79, 60,
        125, 153, 145, 176, 217, 50, 70, 124, 67, 131, 12,
        151, 251, 163, 141, 29, 174, 225, 38, 74, 147, 190,
        142, 41, 40, 251, 163, 27, 48, 71, 90, 161, 2, 72, 19,
        62, 158, 27, 55, 28, 90, 172, 218, 104, 197, 116, 93,
        176, 128, 151, 181, 2],
    alice.key.toList ++ commitmentPrev.toList ++
      Packed.encode (1700000000 : Int64))

/- Create the configuration. -/
def configure : Instruction :=
  .registry (.initializeProtocol admin 1000000000 300 10000
    100 0 validator)

/- The default build, with one signed mint receipt. -/
def tables : Tables where
  requestBound := false
  digests := accountDigests
  addresses := addresses
  proofs := []
  signatures := [aliceMint]

def call
    (now : Int64)
    (instruction : Instruction) : Call tables.host where
  now := now
  tx := tables.signed aliceMint (by simp [tables])
  instruction := instruction

/- An identity leaves its first wallet and returns to it. -/
def roundTrip : List (Call tables.host) :=
  [call 1700000000 configure,
    call 1700000010
      (.anchor (.mintAnchor alice [] commitmentPrev)),
    call 1700000020
      (.anchor (.authorizeNewWallet alice bob)),
    call 1700000030
      (.anchor (.migrateIdentity bob alice.key [])),
    call 1700000040 (.outside (.closeTokenAccount alice)),
    call 1700000050
      (.anchor (.authorizeNewWallet bob alice)),
    call 1700000060
      (.anchor (.migrateIdentity alice bob.key []))]

theorem roundTrip_run :
    ∃ (history : List (Event tables.host)) (w' : World),
      Run (Step tables.host) .funded history w' ∧
        history.map Transition.label = roundTrip := by
  have hReplay :
      (replay .funded roundTrip).map (fun _ => ()) =
        some () := by
    decide +kernel
  rcases exists_run hReplay with
    ⟨history, w', hRun, hLabels, _⟩
  exact ⟨history, w', hRun, hLabels⟩

end Sample

end Entros
