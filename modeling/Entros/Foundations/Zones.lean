import Entros.Foundations.Checked
import Mathlib.Data.List.Induction
import Mathlib.Data.List.Pairwise
import Mathlib.Data.Set.Lattice
import Mathlib.Order.CompletePartialOrder

/-
  Computations that are confined to a zone of a shared store:
  they read only the cells of the zone, write only those that
  are open for writing, and add to its pots without looking
  into them.  Calls whose zones do not conflict can be
  executed in any order.

  Key definitions include:
    * `Content`
    * `Store`
    * `Agree`
    * `Zone`
    * `Tracks`
    * `Tame`
    * `Confined`
    * `attempt`
    * `Zone.Apart`
    * `Separated`

  Key theorems include:
    * `Mirrors.bind`
    * `Tame.of_cell`
    * `Tame.of_pot`
    * `Confined.canonical`
    * `attempt_comm`
    * `attemptAll_perm`
    * `attemptAll_read`
    * `attemptAll_pot`
    * `attemptAll_purge`
-/

------------------------------------------------------------
-- Stores
------------------------------------------------------------

namespace Foundations

/- Contents that can be added to a cell, in any order. -/
class Content (C : Type) where
  add : C → C → C
  add_left_comm :
    ∀ first second content,
      add first (add second content) =
        add second (add first content)

open Content

/-
  States that consist of cells.  A state is determined by
  what its cells hold; a state can be blended with another,
  from which some cells are taken and some are added; and
  there is a state that adds nothing.
-/
class Store
    (S : Type)
    (R C : outParam Type)
    [Content C] where
  read : S → R → C
  zero : S
  blend : Set R → Set R → S → S → S
  ext :
    ∀ {s s' : S}, (∀ r, read s r = read s' r) → s = s'
  fill_zero : ∀ r content, add (read zero r) content = content
  read_blend_taken :
    ∀ {taken added : Set R} {r : R} (s base : S),
      r ∈ taken →
        read (blend taken added s base) r = read s r
  read_blend_added :
    ∀ {taken added : Set R} {r : R} (s base : S),
      r ∉ taken → r ∈ added →
        read (blend taken added s base) r =
          add (read s r) (read base r)
  read_blend_rest :
    ∀ {taken added : Set R} {r : R} (s base : S),
      r ∉ taken → r ∉ added →
        read (blend taken added s base) r = read base r

variable {S R C : Type} [Content C] [Store S R C]

open Content Store

/- Two states hold the same in a set of cells. -/
def Agree (cells : Set R) (s s' : S) : Prop :=
  ∀ r, r ∈ cells → read s r = read s' r

namespace Agree

variable {cells : Set R} {s s' s'' : S}

theorem refl (s : S) : Agree cells s s :=
  fun _ _ => rfl

theorem symm (hAgree : Agree cells s s') :
    Agree cells s' s :=
  fun r hMem => (hAgree r hMem).symm

theorem trans
    (hFirst : Agree cells s s')
    (hSecond : Agree cells s' s'') :
    Agree cells s s'' :=
  fun r hMem => (hFirst r hMem).trans (hSecond r hMem)

end Agree

end Foundations

------------------------------------------------------------
-- Zones
------------------------------------------------------------

namespace Foundations

/-
  The cells a computation may read, those of them it may
  write, and the cells that it can only add to.
-/
structure Zone (R : Type) where
  reads : Set R
  writes : Set R
  pots : Set R
  writes_subset : writes ⊆ reads
  pots_disjoint : Disjoint pots reads

namespace Zone

variable {S R C : Type} [Content C] [Store S R C]
variable {Z : Zone R} {s s' base : S} {r : R}

open Content Store

theorem notMem_reads_of_pots
    (hPot : r ∈ Z.pots) :
    r ∉ Z.reads :=
  Set.disjoint_left.mp Z.pots_disjoint hPot

theorem notMem_pots_of_reads
    (hRead : r ∈ Z.reads) :
    r ∉ Z.pots :=
  Set.disjoint_right.mp Z.pots_disjoint hRead

/-
  The state whose open cells are those of `s`, whose pots
  hold what both states hold, and which otherwise is `base`.
-/
def copy (Z : Zone R) (base s : S) : S :=
  blend Z.writes Z.pots s base

theorem read_copy_of_writes
    (hWrite : r ∈ Z.writes) :
    read (Z.copy base s) r = read s r :=
  read_blend_taken s base hWrite

theorem read_copy_of_pots
    (hPot : r ∈ Z.pots) :
    read (Z.copy base s) r =
      add (read s r) (read base r) :=
  read_blend_added s base
    (fun hWrite =>
      notMem_reads_of_pots hPot (Z.writes_subset hWrite))
    hPot

theorem read_copy_of_rest
    (hWrite : r ∉ Z.writes)
    (hPot : r ∉ Z.pots) :
    read (Z.copy base s) r = read base r :=
  read_blend_rest s base hWrite hPot

/- The copy holds what `s` holds wherever it may be read. -/
def Faithful (Z : Zone R) (base s : S) : Prop :=
  Agree Z.reads s (Z.copy base s)

/- A change of open cells and pots keeps the copy faithful. -/
theorem Faithful.of_frame
    (hFaithful : Z.Faithful base s)
    (hFrame :
      ∀ r, r ∉ Z.writes → r ∉ Z.pots →
        read s' r = read s r) :
    Z.Faithful base s' := by
  intro r hMem
  have hPot : r ∉ Z.pots := notMem_pots_of_reads hMem
  by_cases hWrite : r ∈ Z.writes
  · exact (read_copy_of_writes hWrite).symm
  · have hRead := hFaithful r hMem
    rw [read_copy_of_rest hWrite hPot] at hRead
    rw [read_copy_of_rest hWrite hPot,
      hFrame r hWrite hPot, hRead]

/- The state without the contents of the pots. -/
def drain (Z : Zone R) (s : S) : S :=
  blend Z.potsᶜ ∅ s zero

theorem read_drain_of_pots
    (hPot : r ∈ Z.pots) :
    read (Z.drain s) r = read (zero : S) r :=
  read_blend_rest s zero (fun hMem => hMem hPot) (by simp)

theorem read_drain_of_notMem
    (hPot : r ∉ Z.pots) :
    read (Z.drain s) r = read s r :=
  read_blend_taken s zero hPot

/- A state copies the drained form of any agreeing state. -/
theorem copy_drain
    (hAgree : Agree Z.reads s base) :
    Z.copy base (Z.drain s) = base := by
  apply ext
  intro r
  by_cases hPot : r ∈ Z.pots
  · rw [read_copy_of_pots hPot, read_drain_of_pots hPot,
      fill_zero]
  · by_cases hWrite : r ∈ Z.writes
    · rw [read_copy_of_writes hWrite,
        read_drain_of_notMem hPot]
      exact hAgree r (Z.writes_subset hWrite)
    · exact read_copy_of_rest hWrite hPot

theorem faithful_drain
    (hAgree : Agree Z.reads s base) :
    Z.Faithful base (Z.drain s) := by
  intro r hMem
  rw [copy_drain hAgree,
    read_drain_of_notMem (notMem_pots_of_reads hMem)]
  exact hAgree r hMem

end Zone

end Foundations

------------------------------------------------------------
-- Tracking a Copy
------------------------------------------------------------

namespace Foundations

variable {E A B : Type}

/-
  The second computation does on copies what the first does on
  the originals, and what the first returns is good.
-/
structure Mirrors
    (copy : A → A)
    (Good : A → Prop)
    (original mirror : Except E A) : Prop where
  outcome : mirror = original.map copy
  good : ∀ value, original = .ok value → Good value

namespace Mirrors

variable {copy : A → A} {Good : A → Prop}
variable {copy' : B → B} {Good' : B → Prop}
variable {original mirror : Except E A}
variable {next next' : A → Except E B}

theorem ok
    {value : A}
    (hGood : Good value) :
    Mirrors copy Good (.ok value : Except E A)
      (.ok (copy value)) where
  outcome := rfl
  good := by
    intro result hOk
    rw [← Except.ok.inj hOk]
    exact hGood

theorem error (fault : E) :
    Mirrors copy Good (.error fault) (.error fault) where
  outcome := rfl
  good := by
    intro result hOk
    cases hOk

/- A sequence is mirrored part by part. -/
theorem bind
    (hFirst : Mirrors copy Good original mirror)
    (hNext :
      ∀ value,
        original = .ok value → Good value →
          Mirrors copy' Good' (next value)
            (next' (copy value))) :
    Mirrors copy' Good' (original >>= next)
      (mirror >>= next') := by
  rw [hFirst.outcome]
  cases hOriginal : original with
  | error fault => exact error fault
  | ok value =>
      exact hNext value hOriginal
        (hFirst.good value hOriginal)

/- A value that the copy shares is read first. -/
theorem value
    {read read' : Except E A}
    (hRead : read' = read)
    (hNext :
      ∀ value, read = .ok value →
        Mirrors copy' Good' (next value) (next' value)) :
    Mirrors copy' Good' (read >>= next)
      (read' >>= next') := by
  rw [hRead]
  cases hValue : read with
  | error fault => exact error fault
  | ok value => exact hNext value hValue

/- Both branches of a test that the copy shares. -/
theorem ite
    {condition condition' : Prop}
    [Decidable condition]
    [Decidable condition']
    {first first' second second' : Except E A}
    (hCondition : condition' ↔ condition)
    (hFirst :
      condition → Mirrors copy Good first first')
    (hSecond :
      ¬ condition → Mirrors copy Good second second') :
    Mirrors copy Good
      (if condition then first else second)
      (if condition' then first' else second') := by
  by_cases hHolds : condition
  · rw [if_pos hHolds, if_pos (hCondition.mpr hHolds)]
    exact hFirst hHolds
  · rw [if_neg hHolds,
      if_neg fun hPrime => hHolds (hCondition.mp hPrime)]
    exact hSecond hHolds

theorem remapError
    {F : Type}
    {fault : F}
    (hMirrors : Mirrors copy Good original mirror) :
    Mirrors copy Good
      (Foundations.remapError original fault)
      (Foundations.remapError mirror fault) := by
  rw [hMirrors.outcome]
  cases hOriginal : original with
  | error _ => exact error fault
  | ok value => exact ok (hMirrors.good value hOriginal)

end Mirrors

variable {S R C : Type} [Content C] [Store S R C]
variable {Z : Zone R} {base : S}

open Content Store

/- A computation and the same one on the copy. -/
abbrev Tracks
    (Z : Zone R)
    (base : S)
    (original mirror : Except E S) : Prop :=
  Mirrors (Z.copy base) (Z.Faithful base) original mirror

/- The same for a computation that also returns a value. -/
abbrev TracksWith
    (Z : Zone R)
    (base : S)
    (original mirror : Except E (S × A)) : Prop :=
  Mirrors (fun pair => (Z.copy base pair.1, pair.2))
    (fun pair => Z.Faithful base pair.1) original mirror

/- The result of a computation that tracks has a copy. -/
theorem Tracks.copy_eq
    {original mirror : S}
    (hTracks :
      Tracks Z base (.ok original : Except E S)
        (.ok mirror)) :
    mirror = Z.copy base original ∧
      Z.Faithful base original :=
  ⟨Except.ok.inj hTracks.outcome, hTracks.good _ rfl⟩

/-
  An update that can be made before or after copying, and
  keeps the copy faithful.
-/
structure Tame
    (Z : Zone R)
    (base : S)
    (update : S → S) : Prop where
  copy : ∀ s, Z.copy base (update s) = update (Z.copy base s)
  faithful :
    ∀ s, Z.Faithful base s → Z.Faithful base (update s)

namespace Tame

variable {update update' : S → S}

/- An update of a single open cell is one. -/
theorem of_cell
    (cell : R)
    (change : C → C)
    (hWrite : cell ∈ Z.writes)
    (hSelf :
      ∀ s, read (update s) cell = change (read s cell))
    (hOther :
      ∀ s r, r ≠ cell → read (update s) r = read s r) :
    Tame Z base update where
  copy := by
    intro s
    apply ext
    intro r
    by_cases hCell : r = cell
    · subst hCell
      rw [Zone.read_copy_of_writes hWrite, hSelf, hSelf,
        Zone.read_copy_of_writes hWrite]
    · rw [hOther _ r hCell]
      by_cases hMem : r ∈ Z.writes
      · rw [Zone.read_copy_of_writes hMem,
          hOther s r hCell, Zone.read_copy_of_writes hMem]
      · by_cases hPot : r ∈ Z.pots
        · rw [Zone.read_copy_of_pots hPot,
            hOther s r hCell, Zone.read_copy_of_pots hPot]
        · rw [Zone.read_copy_of_rest hMem hPot,
            Zone.read_copy_of_rest hMem hPot]
  faithful := by
    intro s hFaithful
    apply hFaithful.of_frame
    intro r hClosed _
    apply hOther
    intro hCell
    exact hClosed (hCell ▸ hWrite)

/- And so is an update that adds to a pot. -/
theorem of_pot
    (cell : R)
    (change : C → C)
    (hPot : cell ∈ Z.pots)
    (hChange :
      ∀ s : S,
        add (change (read s cell)) (read base cell) =
          change (add (read s cell) (read base cell)))
    (hSelf :
      ∀ s, read (update s) cell = change (read s cell))
    (hOther :
      ∀ s r, r ≠ cell → read (update s) r = read s r) :
    Tame Z base update where
  copy := by
    intro s
    apply ext
    intro r
    by_cases hCell : r = cell
    · subst hCell
      rw [Zone.read_copy_of_pots hPot, hSelf, hSelf,
        hChange, Zone.read_copy_of_pots hPot]
    · rw [hOther _ r hCell]
      by_cases hMem : r ∈ Z.writes
      · rw [Zone.read_copy_of_writes hMem,
          hOther s r hCell, Zone.read_copy_of_writes hMem]
      · by_cases hIn : r ∈ Z.pots
        · rw [Zone.read_copy_of_pots hIn,
            hOther s r hCell, Zone.read_copy_of_pots hIn]
        · rw [Zone.read_copy_of_rest hMem hIn,
            Zone.read_copy_of_rest hMem hIn]
  faithful := by
    intro s hFaithful
    apply hFaithful.of_frame
    intro r _ hOutside
    apply hOther
    intro hCell
    exact hOutside (hCell ▸ hPot)

theorem comp
    (hFirst : Tame Z base update)
    (hSecond : Tame Z base update') :
    Tame Z base (fun s => update' (update s)) where
  copy := by
    intro s
    rw [hSecond.copy, hFirst.copy]
  faithful := by
    intro s hFaithful
    exact hSecond.faithful _ (hFirst.faithful s hFaithful)

/- The end of a computation, which returns the state. -/
theorem tracks
    {s : S}
    (hTame : Tame Z base update)
    (hFaithful : Z.Faithful base s) :
    Tracks Z base (.ok (update s) : Except E S)
      (.ok (update (Z.copy base s))) := by
  rw [← hTame.copy]
  exact .ok (hTame.faithful s hFaithful)

end Tame

end Foundations

------------------------------------------------------------
-- Confined Computations
------------------------------------------------------------

namespace Foundations

variable {S R C E : Type} [Content C] [Store S R C]
variable {Z : Zone R} {m : S → Except E S}
variable {s s' base base' : S} {r : R}

open Content Store

/- On a faithful copy the computation copies its outcome. -/
def Confined
    (Z : Zone R)
    (m : S → Except E S) : Prop :=
  ∀ base s,
    Z.Faithful base s →
      m (Z.copy base s) = (m s).map (Z.copy base)

namespace Confined

theorem of_tracks
    (hTracks :
      ∀ base s,
        Z.Faithful base s →
          Tracks Z base (m s) (m (Z.copy base s))) :
    Confined Z m :=
  fun base s hFaithful => (hTracks base s hFaithful).outcome

variable (hConfined : Confined Z m)

include hConfined

/-
  What the computation does on a state is decided by what it
  does on the drained form of any state that agrees with it.
-/
theorem canonical
    (hAgree : Agree Z.reads s base) :
    m base = (m (Z.drain s)).map (Z.copy base) := by
  have hCopied :=
    hConfined base (Z.drain s) (Z.faithful_drain hAgree)
  rw [Z.copy_drain hAgree] at hCopied
  exact hCopied

/- Cells outside of the zone keep their contents. -/
theorem frame
    (hOk : m s = .ok s')
    (hWrite : r ∉ Z.writes)
    (hPot : r ∉ Z.pots) :
    read s' r = read s r := by
  have hSelf := hConfined.canonical (Agree.refl s)
  rw [hOk] at hSelf
  rcases map_eq_ok.mp hSelf.symm with ⟨drained, _, rfl⟩
  exact Zone.read_copy_of_rest hWrite hPot

/- Agreeing states lead to the same verdict. -/
theorem verdict_eq
    (hAgree : Agree Z.reads s base) :
    (m base).map (fun _ => ()) =
      (m s).map (fun _ => ()) := by
  rw [hConfined.canonical hAgree,
    hConfined.canonical (Agree.refl s)]
  cases m (Z.drain s) with
  | error _ => rfl
  | ok _ => rfl

/- And to the same contents of the open cells. -/
theorem writes_eq
    (hAgree : Agree Z.reads s base)
    (hOk : m s = .ok s')
    (hOk' : m base = .ok base')
    (hWrite : r ∈ Z.writes) :
    read base' r = read s' r := by
  rw [hConfined.canonical (Agree.refl s)] at hOk
  rw [hConfined.canonical hAgree] at hOk'
  rcases map_eq_ok.mp hOk with ⟨drained, hDrained, rfl⟩
  rcases map_eq_ok.mp hOk' with ⟨drained', hDrained', rfl⟩
  rw [hDrained] at hDrained'
  rw [Zone.read_copy_of_writes hWrite,
    Zone.read_copy_of_writes hWrite,
    Except.ok.inj hDrained']

/- And to the same additions to the pots. -/
theorem pots_eq
    (hAgree : Agree Z.reads s base)
    (hOk : m s = .ok s')
    (hOk' : m base = .ok base')
    (hPot : r ∈ Z.pots) :
    ∃ added,
      read s' r = add added (read s r) ∧
        read base' r = add added (read base r) := by
  rw [hConfined.canonical (Agree.refl s)] at hOk
  rw [hConfined.canonical hAgree] at hOk'
  rcases map_eq_ok.mp hOk with ⟨drained, hDrained, rfl⟩
  rcases map_eq_ok.mp hOk' with ⟨drained', hDrained', rfl⟩
  rw [hDrained] at hDrained'
  refine ⟨read drained r, Zone.read_copy_of_pots hPot, ?_⟩
  rw [Except.ok.inj hDrained']
  exact Zone.read_copy_of_pots hPot

end Confined

/- What the computation adds to a pot. -/
def Zone.added
    (Z : Zone R)
    (m : S → Except E S)
    (s : S)
    (r : R) : C :=
  match m (Z.drain s) with
  | .ok drained => read drained r
  | .error _ => read (zero : S) r

end Foundations

------------------------------------------------------------
-- Order of Execution
------------------------------------------------------------

namespace Foundations

variable {S R C E : Type} [Content C] [Store S R C]
variable {Z Z' : Zone R}
variable {m m' : S → Except E S} {s base : S} {r : R}

open Content Store

/- The state after a computation that may fail without trace. -/
def attempt (m : S → Except E S) (s : S) : S :=
  match m s with
  | .ok result => result
  | .error _ => s

/-
  Neither zone changes what the other may read; they may have
  pots in common.
-/
structure Zone.Apart (Z Z' : Zone R) : Prop where
  writes : Disjoint Z.writes Z'.reads
  pots : Disjoint Z.pots Z'.reads
  writes' : Disjoint Z'.writes Z.reads
  pots' : Disjoint Z'.pots Z.reads

theorem Zone.Apart.symm (hApart : Z.Apart Z') :
    Z'.Apart Z :=
  ⟨hApart.writes', hApart.pots', hApart.writes,
    hApart.pots⟩

theorem attempt_frame
    (hConfined : Confined Z m)
    (hWrite : r ∉ Z.writes)
    (hPot : r ∉ Z.pots) :
    read (attempt m s) r = read s r := by
  unfold attempt
  cases hOk : m s with
  | error _ => rfl
  | ok result => exact hConfined.frame hOk hWrite hPot

/- An attempt leaves what an apart zone may read. -/
theorem attempt_agree
    (hConfined : Confined Z m)
    (hApart : Z.Apart Z') :
    Agree Z'.reads s (attempt m s) := by
  intro r hMem
  have hWrite : r ∉ Z.writes :=
    Set.disjoint_right.mp hApart.writes hMem
  have hPot : r ∉ Z.pots :=
    Set.disjoint_right.mp hApart.pots hMem
  exact (attempt_frame hConfined hWrite hPot).symm

section

variable (hConfined : Confined Z m)
variable (hAgree : Agree Z.reads s base)

include hConfined hAgree

/- Attempts on agreeing states write the same. -/
theorem attempt_writes_eq
    (hWrite : r ∈ Z.writes) :
    read (attempt m base) r = read (attempt m s) r := by
  have hBase := hConfined.canonical hAgree
  have hSelf := hConfined.canonical (Agree.refl s)
  unfold attempt
  cases hDrained : m (Z.drain s) with
  | error _ =>
      rw [hDrained] at hBase hSelf
      rw [hBase, hSelf]
      exact (hAgree r (Z.writes_subset hWrite)).symm
  | ok drained =>
      rw [hDrained] at hBase hSelf
      rw [hBase, hSelf]
      exact (Zone.read_copy_of_writes hWrite).trans
        (Zone.read_copy_of_writes hWrite).symm

/- And they add the same to the pots. -/
theorem attempt_pots_eq
    (hPot : r ∈ Z.pots) :
    read (attempt m base) r =
      add (Z.added m s r) (read base r) := by
  have hBase := hConfined.canonical hAgree
  unfold attempt Zone.added
  cases hDrained : m (Z.drain s) with
  | error _ =>
      rw [hDrained] at hBase
      rw [hBase]
      exact (fill_zero r _).symm
  | ok drained =>
      rw [hDrained] at hBase
      rw [hBase]
      exact Zone.read_copy_of_pots hPot

end

/- The open cells of a computation are its own. -/
theorem attempt_read_of_writes
    (hConfined : Confined Z m)
    (hConfined' : Confined Z' m')
    (hApart : Z.Apart Z')
    (hWrite : r ∈ Z.writes) :
    read (attempt m' (attempt m s)) r =
        read (attempt m s) r ∧
      read (attempt m (attempt m' s)) r =
        read (attempt m s) r := by
  have hRead : r ∈ Z.reads := Z.writes_subset hWrite
  have hWrite' : r ∉ Z'.writes :=
    Set.disjoint_right.mp hApart.writes' hRead
  have hPot' : r ∉ Z'.pots :=
    Set.disjoint_right.mp hApart.pots' hRead
  exact ⟨attempt_frame hConfined' hWrite' hPot',
    attempt_writes_eq hConfined
      (attempt_agree hConfined' hApart.symm) hWrite⟩

/- A pot of one of them is a pot of the other or untouched. -/
theorem attempt_read_of_pots
    (hConfined : Confined Z m)
    (hConfined' : Confined Z' m')
    (hApart : Z.Apart Z')
    (hPot : r ∈ Z.pots) :
    read (attempt m' (attempt m s)) r =
      read (attempt m (attempt m' s)) r := by
  have hAgree := attempt_agree (s := s) hConfined' hApart.symm
  have hAgree' := attempt_agree (s := s) hConfined hApart
  have hWrite' : r ∉ Z'.writes :=
    fun hMem =>
      Set.disjoint_left.mp hApart.pots hPot
        (Z'.writes_subset hMem)
  rw [attempt_pots_eq hConfined hAgree hPot]
  by_cases hPot' : r ∈ Z'.pots
  · rw [attempt_pots_eq hConfined' hAgree' hPot',
      attempt_pots_eq hConfined (Agree.refl s) hPot,
      attempt_pots_eq hConfined' (Agree.refl s) hPot']
    exact add_left_comm _ _ _
  · rw [attempt_frame hConfined' hWrite' hPot',
      attempt_frame hConfined' hWrite' hPot',
      attempt_pots_eq hConfined (Agree.refl s) hPot]

/- Attempts in zones that do not conflict can change places. -/
theorem attempt_comm
    (hConfined : Confined Z m)
    (hConfined' : Confined Z' m')
    (hApart : Z.Apart Z') :
    attempt m' (attempt m s) = attempt m (attempt m' s) := by
  apply ext
  intro r
  by_cases hWrite : r ∈ Z.writes
  · rcases attempt_read_of_writes hConfined hConfined'
      hApart hWrite with ⟨hAfter, hBefore⟩
    exact hAfter.trans hBefore.symm
  by_cases hWrite' : r ∈ Z'.writes
  · rcases attempt_read_of_writes hConfined' hConfined
      hApart.symm hWrite' with ⟨hAfter, hBefore⟩
    exact hBefore.trans hAfter.symm
  by_cases hPot : r ∈ Z.pots
  · exact attempt_read_of_pots hConfined hConfined' hApart
      hPot
  by_cases hPot' : r ∈ Z'.pots
  · exact (attempt_read_of_pots hConfined' hConfined
      hApart.symm hPot').symm
  · rw [attempt_frame hConfined' hWrite' hPot',
      attempt_frame hConfined hWrite hPot,
      attempt_frame hConfined hWrite hPot,
      attempt_frame hConfined' hWrite' hPot']

end Foundations

------------------------------------------------------------
-- Batches
------------------------------------------------------------

namespace Foundations

variable {S R C E L : Type} [Content C] [Store S R C]
variable {act : L → S → Except E S} {zone : L → Zone R}
variable {batch batch' front back : List L} {label : L}
variable {s : S} {r : R}

open Content Store

/- Attempt the computations of a list one after the other. -/
def attemptAll
    (act : L → S → Except E S)
    (batch : List L)
    (s : S) : S :=
  batch.foldl (fun state label => attempt (act label) state)
    s

theorem attemptAll_append :
    attemptAll act (front ++ back) s =
      attemptAll act back (attemptAll act front s) :=
  List.foldl_append

/- A list of computations that do not conflict. -/
def Independent
    (zone : L → Zone R)
    (batch : List L) : Prop :=
  batch.Pairwise fun label label' =>
    (zone label).Apart (zone label')

variable
  (hConfined : ∀ label, Confined (zone label) (act label))

include hConfined

theorem attemptAll_frame
    (hOutside :
      ∀ label, label ∈ batch →
        r ∉ (zone label).writes ∧ r ∉ (zone label).pots) :
    read (attemptAll act batch s) r = read s r := by
  induction batch generalizing s with
  | nil => rfl
  | cons first rest ih =>
      rcases hOutside first (.head _) with ⟨hWrite, hPot⟩
      calc read (attemptAll act (first :: rest) s) r
          = read (attempt (act first) s) r :=
            ih fun label hMem => hOutside label (.tail _ hMem)
        _ = read s r :=
            attempt_frame (hConfined first) hWrite hPot

/- Any order of an independent batch leads to the same state. -/
theorem attemptAll_perm
    (hIndependent : Independent zone batch)
    (hPerm : batch.Perm batch') :
    attemptAll act batch s = attemptAll act batch' s := by
  apply hPerm.foldl_eq'
  intro first hFirst second hSecond state
  by_cases hSame : first = second
  · rw [hSame]
  · have hSymm :
        Std.Symm fun label label' : L =>
          (zone label).Apart (zone label') :=
      ⟨fun _ _ hApart => hApart.symm⟩
    have hApart : (zone first).Apart (zone second) :=
      hIndependent.forall hFirst hSecond hSame
    exact attempt_comm (hConfined first)
      (hConfined second) hApart

/- What comes earlier leaves what the computation may read. -/
theorem attemptAll_agree
    (hApart :
      ∀ other, other ∈ front →
        (zone other).Apart (zone label)) :
    Agree (zone label).reads s
      (attemptAll act front s) := by
  intro r hRead
  have hOutside :
      ∀ other, other ∈ front →
        r ∉ (zone other).writes ∧
          r ∉ (zone other).pots := by
    intro other hMem
    have hOther := hApart other hMem
    exact ⟨Set.disjoint_right.mp hOther.writes hRead,
      Set.disjoint_right.mp hOther.pots hRead⟩
  exact (attemptAll_frame hConfined hOutside).symm

section

variable
  (hIndependent :
    Independent zone (front ++ label :: back))

include hIndependent

omit hConfined in
theorem apart_of_independent :
    (∀ other, other ∈ front →
        (zone other).Apart (zone label)) ∧
      ∀ other, other ∈ back →
        (zone label).Apart (zone other) := by
  have hSplit := List.pairwise_append.mp hIndependent
  constructor
  · intro other hMem
    exact hSplit.2.2 other hMem label (.head _)
  · exact (List.pairwise_cons.mp hSplit.2.1).1

/- So it has the verdict that it has alone. -/
theorem attemptAll_verdict :
    (act label (attemptAll act front s)).map
        (fun _ => ()) =
      (act label s).map (fun _ => ()) :=
  (hConfined label).verdict_eq
    (attemptAll_agree hConfined
      (apart_of_independent hIndependent).1)

/- And the batch leaves in its cells what it alone would. -/
theorem attemptAll_read
    (hWrite : r ∈ (zone label).writes) :
    read (attemptAll act (front ++ label :: back) s) r =
      read (attempt (act label) s) r := by
  rcases apart_of_independent hIndependent with
    ⟨hFront, hBack⟩
  have hRead : r ∈ (zone label).reads :=
    (zone label).writes_subset hWrite
  have hOutside :
      ∀ other, other ∈ back →
        r ∉ (zone other).writes ∧
          r ∉ (zone other).pots := by
    intro other hMem
    have hOther := hBack other hMem
    exact ⟨Set.disjoint_right.mp hOther.writes' hRead,
      Set.disjoint_right.mp hOther.pots' hRead⟩
  calc read (attemptAll act (front ++ label :: back) s) r
      = read (attemptAll act back
          (attempt (act label)
            (attemptAll act front s))) r := by
        rw [attemptAll_append]
        rfl
    _ = read (attempt (act label)
          (attemptAll act front s)) r :=
        attemptAll_frame hConfined hOutside
    _ = read (attempt (act label) s) r :=
        attempt_writes_eq (hConfined label)
          (attemptAll_agree hConfined hFront) hWrite

end

/- A common pot receives what each of them adds alone. -/
theorem attemptAll_pot
    (hIndependent : Independent zone batch)
    (hPot : ∀ label, label ∈ batch → r ∈ (zone label).pots) :
    read (attemptAll act batch s) r =
      (batch.map fun label =>
        (zone label).added (act label) s r).foldl
          (fun content added => add added content)
          (read s r) := by
  induction batch using List.reverseRecOn with
  | nil => rfl
  | append_singleton front label ih =>
      have hApart := (apart_of_independent hIndependent).1
      have hFront :
          Independent zone front :=
        (List.pairwise_append.mp hIndependent).1
      have hFrontPot :
          ∀ label, label ∈ front →
            r ∈ (zone label).pots :=
        fun label hMem =>
          hPot label (List.mem_append_left _ hMem)
      have hLast : r ∈ (zone label).pots :=
        hPot label (List.mem_append_right _ (.head _))
      have hAgree :=
        attemptAll_agree (s := s) hConfined hApart
      calc read (attemptAll act (front ++ [label]) s) r
          = read (attempt (act label)
              (attemptAll act front s)) r := by
            rw [attemptAll_append]
            rfl
        _ = add ((zone label).added (act label) s r)
              (read (attemptAll act front s) r) :=
            attempt_pots_eq (hConfined label) hAgree hLast
        _ = _ := by
            rw [ih hFront hFrontPot, List.map_append,
              List.foldl_append]
            rfl

end Foundations

------------------------------------------------------------
-- Observers
------------------------------------------------------------

namespace Foundations

variable {S R C E L : Type} [Content C] [Store S R C]
variable {act : L → S → Except E S} {zone : L → Zone R}
variable {batch front back : List L} {label : L}
variable {view : Set R} {s base : S}

open Content Store

/- A computation inside of a view keeps agreement on it. -/
theorem attempt_view
    {Z : Zone R}
    {m : S → Except E S}
    (hConfined : Confined Z m)
    (hInside : Z.reads ⊆ view)
    (hAgree : Agree view s base) :
    Agree view (attempt m s) (attempt m base) := by
  have hReads : Agree Z.reads s base :=
    fun r hMem => hAgree r (hInside hMem)
  intro r hView
  by_cases hWrite : r ∈ Z.writes
  · exact (attempt_writes_eq hConfined hReads hWrite).symm
  by_cases hPot : r ∈ Z.pots
  · rw [attempt_pots_eq hConfined hReads hPot,
      attempt_pots_eq hConfined (Agree.refl s) hPot,
      hAgree r hView]
  · rw [attempt_frame hConfined hWrite hPot,
      attempt_frame hConfined hWrite hPot, hAgree r hView]

/-
  An observer who sees a part of the store, and computations
  that stay inside of this part or do not change it.
-/
structure Separated
    (zone : L → Zone R)
    (seen : L → Bool)
    (view : Set R)
    (batch : List L) : Prop where
  inside :
    ∀ label ∈ batch,
      seen label = true → (zone label).reads ⊆ view
  outside :
    ∀ label ∈ batch,
      seen label = false →
        Disjoint (zone label).writes view ∧
          Disjoint (zone label).pots view

variable {seen : L → Bool}

theorem Separated.left
    (hSeparated :
      Separated zone seen view (front ++ back)) :
    Separated zone seen view front where
  inside label hMem :=
    hSeparated.inside label (List.mem_append_left _ hMem)
  outside label hMem :=
    hSeparated.outside label (List.mem_append_left _ hMem)

variable
  (hConfined : ∀ label, Confined (zone label) (act label))

include hConfined

/- What is not seen can be dropped for the observer. -/
theorem attemptAll_purge
    (hSeparated : Separated zone seen view batch) :
    Agree view (attemptAll act batch s)
      (attemptAll act (batch.filter seen) s) := by
  induction batch using List.reverseRecOn with
  | nil => exact .refl s
  | append_singleton front label ih =>
      have hMem : label ∈ front ++ [label] :=
        List.mem_append_right _ (.head _)
      have hFront := ih hSeparated.left
      rw [attemptAll_append, List.filter_append,
        attemptAll_append]
      cases hSeen : seen label with
      | true =>
          rw [List.filter_cons_of_pos hSeen]
          exact attempt_view (hConfined label)
            (hSeparated.inside label hMem hSeen) hFront
      | false =>
          rw [List.filter_cons_of_neg (by simp [hSeen])]
          rcases hSeparated.outside label hMem hSeen with
            ⟨hWrites, hPots⟩
          intro r hView
          have hKept :=
            attempt_frame (s := attemptAll act front s)
              (hConfined label)
              (Set.disjoint_right.mp hWrites hView)
              (Set.disjoint_right.mp hPots hView)
          exact hKept.trans (hFront r hView)

/- And what is seen has the same verdict without it. -/
theorem attemptAll_purge_verdict
    (hSeparated :
      Separated zone seen view (front ++ label :: back))
    (hSeen : seen label = true) :
    (act label (attemptAll act front s)).map
        (fun _ => ()) =
      (act label
          (attemptAll act (front.filter seen) s)).map
        (fun _ => ()) := by
  have hMem : label ∈ front ++ label :: back :=
    List.mem_append_right _ (.head _)
  have hAgree :=
    attemptAll_purge (s := s) hConfined hSeparated.left
  have hInside := hSeparated.inside label hMem hSeen
  exact ((hConfined label).verdict_eq
    fun r hRead => hAgree r (hInside hRead)).symm

end Foundations
