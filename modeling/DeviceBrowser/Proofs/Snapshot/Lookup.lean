import DeviceBrowser.Proofs.Snapshot.WellFormed
import Mathlib.Data.Nat.Find

/-! Halving finds checksums: in nodes that stand in the order of their checksums, some node is found
for every checksum that a node has. Which one it is where several have it, nothing here tells beyond
the proof that there is one. -/

namespace DeviceBrowser.Snapshot

variable {zone : Zone}

/-- The checksums of the nodes do not decrease. -/
def Ordered (nodes : Array Node) : Prop :=
  nodes.toList.Pairwise fun earlier later => earlier.hash ≤ later.hash

theorem Ordered.hash_le {nodes : Array Node} (ordered : Ordered nodes) {first second : Nat}
    {earlier later : Node} (before : first ≤ second) (earlierFound : nodes[first]? = some earlier)
    (laterFound : nodes[second]? = some later) : earlier.hash ≤ later.hash := by
  -- A node is not after itself, so that only two different places are ordered by the list.
  rcases Nat.lt_or_eq_of_le before with apart | rfl
  · obtain ⟨earlierIn, rfl⟩ := Array.getElem?_eq_some_iff.mp earlierFound
    obtain ⟨laterIn, rfl⟩ := Array.getElem?_eq_some_iff.mp laterFound
    have places := List.pairwise_iff_getElem.mp ordered first second earlierIn laterIn apart
    simpa using places
  · cases earlierFound.symm.trans laterFound
    exact UInt32.le_refl _

/-- Halving a range ends at the last node whose checksum is not above the one sought. -/
theorem narrow_eq {nodes : Array Node} (ordered : Ordered nodes) {hash : UInt32} {target : Nat}
    {node : Node} (found : nodes[target]? = some node) (reached : node.hash ≤ hash)
    (passed : ∀ later other, target < later → nodes[later]? = some other → hash < other.hash)
    {base length : Nat} (start : base ≤ target) (stop : target < base + length) :
    narrow nodes hash base length = target := by
  -- The induction is on the length of the range, which never loses the target.
  induction length using Nat.strong_induction_on generalizing base with
  | _ length ih =>
    rw [narrow]
    by_cases single : length ≤ 1
    · rw [if_pos single]
      omega
    rw [if_neg single]
    rcases Nat.lt_or_ge target (base + length / 2) with lower | upper
    · -- A target in the lower half lies before the middle, which is above it or beyond the nodes.
      have shorter := ih (length - length / 2) (by omega) start (by omega)
      dsimp only
      cases middle : nodes[base + length / 2]? with
      | none => exact shorter
      | some other => simpa only [passed _ other lower middle, decide_true, if_true] using shorter
    · -- The middle is not behind a target in the upper half, and so not above what is sought.
      have within := (Array.getElem?_eq_some_iff.mp found).1
      have middle := Array.getElem?_eq_getElem (Nat.lt_of_le_of_lt upper within)
      have stays : ¬ hash < nodes[base + length / 2].hash :=
        UInt32.not_lt.mpr (UInt32.le_trans (ordered.hash_le upper middle found) reached)
      have shorter := ih (length - length / 2) (by omega) upper (by omega)
      simpa only [middle, decide_eq_true_eq, if_neg stays] using shorter

variable {snapshot : Snapshot} {hash : UInt32} {number : Nat}

/-- The node looked up has the checksum sought. -/
theorem hash?_of_lookup (found : snapshot.lookup hash = some number) :
    snapshot.hash? number = some hash := by
  -- What the halving ends at is handed out only after its checksum was compared.
  simp only [lookup] at found
  split at found
  · cases found
    assumption
  · cases found

/-- Of the nodes with a checksum one is the last. -/
theorem exists_last (present : snapshot.hash? number = some hash) :
    ∃ last, snapshot.hash? last = some hash ∧
      ∀ later, last < later → snapshot.hash? later ≠ some hash := by
  -- Nodes are no more than the size of the snapshot.
  have bounded : ∀ other, snapshot.hash? other = some hash → other ≤ snapshot.size := by
    intro other has
    obtain ⟨node, found, _⟩ := Option.map_eq_some_iff.mp has
    exact Nat.le_of_lt (Array.getElem?_eq_some_iff.mp found).1
  have greatest := Nat.findGreatest_spec (P := fun number => snapshot.hash? number = some hash)
    (bounded number present) present
  refine ⟨_, greatest, ?_⟩
  intro later behind has
  exact Nat.findGreatest_is_greatest behind (bounded later has) has

/-- A checksum that a node has is found. -/
theorem Ordered.exists_lookup (ordered : Ordered snapshot.nodes)
    (present : snapshot.hash? number = some hash) :
    ∃ found, snapshot.lookup hash = some found := by
  -- Halving ends at the last node of the checksum, behind which all are above it.
  obtain ⟨last, has, isLast⟩ := exists_last present
  obtain ⟨node, found, rfl⟩ := Option.map_eq_some_iff.mp has
  have passed : ∀ later other, last < later → snapshot.nodes[later]? = some other →
      node.hash < other.hash := by
    intro later other behind otherFound
    have reaches := ordered.hash_le (Nat.le_of_lt behind) found otherFound
    have differs : node.hash ≠ other.hash := by
      intro same
      apply isLast later behind
      simp [hash?, node?, otherFound, same]
    exact UInt32.lt_of_le_of_ne reaches differs
  have stop : last < 0 + snapshot.size := by
    rw [Nat.zero_add]
    exact (Array.getElem?_eq_some_iff.mp found).1
  -- With nothing smaller behind it and nothing equal either, the halving can only end there.
  have ends : narrow snapshot.nodes node.hash 0 snapshot.size = last :=
    narrow_eq ordered found (UInt32.le_refl _) passed (Nat.zero_le _) stop
  refine ⟨last, ?_⟩
  simp only [lookup, ends]
  exact if_pos has

/-- Looking a checksum up in a snapshot tells whether a node has it: a number that is found is that
of a node with the checksum, none is found only where no node has it, and of the only node that has
it the number is found. Of several nodes with the checksum any may be found. -/
structure Finds (snapshot : Snapshot) (hash : UInt32) : Prop where
  sound : ∀ number, snapshot.lookup hash = some number → snapshot.hash? number = some hash
  absent : snapshot.lookup hash = none ↔ ∀ number, snapshot.hash? number ≠ some hash
  unique : ∀ number, snapshot.hash? number = some hash →
    (∀ other, snapshot.hash? other = some hash → other = number) →
    snapshot.lookup hash = some number

/-- Where the nodes stand in the order of their checksums, every checksum is found. -/
theorem Ordered.finds (ordered : Ordered snapshot.nodes) (hash : UInt32) :
    snapshot.Finds hash := by
  constructor
  · intro number found
    exact hash?_of_lookup found
  · -- What is found has the checksum, and what a node has is found.
    constructor
    · intro missing number present
      obtain ⟨found, isFound⟩ := ordered.exists_lookup present
      rw [missing] at isFound
      cases isFound
    · intro absent
      rw [Option.eq_none_iff_forall_ne_some]
      intro number found
      exact absent number (hash?_of_lookup found)
  · -- The node that is found has the checksum, and no other node has it.
    intro number present unique
    obtain ⟨other, found⟩ := ordered.exists_lookup present
    rw [found, unique other (hash?_of_lookup found)]

/-- A checksum is found exactly if a node has it. -/
theorem Finds.isSome_iff (finds : snapshot.Finds hash) :
    (snapshot.lookup hash).isSome = true ↔ ∃ number, snapshot.hash? number = some hash := by
  -- It is not found exactly if no node has it.
  rw [← not_iff_not, Bool.not_eq_true, Option.isSome_eq_false_iff, Option.isNone_iff_eq_none,
    finds.absent, not_exists]

/-- Building puts the nodes in the order of their checksums. -/
theorem ordered_build [Zone] (edition : Edition) (preferences : Preferences) :
    Ordered (build edition preferences).nodes := by
  -- Sorting comes last when a snapshot is built.
  rw [build_eq]
  exact ofNodes_ordered _ _ _

/-- The nodes of a built snapshot stand in the order of their checksums. -/
theorem Built.ordered (built : snapshot.Built) : Ordered snapshot.nodes := by
  -- A built snapshot is the result of building.
  obtain ⟨edition, preferences, _, rfl⟩ := built
  exact ordered_build edition preferences

/-- Every checksum is found in a snapshot that was built. -/
theorem Built.finds (built : snapshot.Built) (hash : UInt32) : snapshot.Finds hash :=
  built.ordered.finds hash

/-- Every snapshot that is built, of whatever edition, finds every checksum. -/
theorem build_finds (edition : Edition) (preferences : Preferences) (hash : UInt32) :
    (build edition preferences).Finds hash :=
  -- It is enough that its nodes stand in order, which holds of every inventory.
  (ordered_build edition preferences).finds hash

/-- A snapshot of nothing is that of an inventory without devices. -/
theorem built_empty : empty.Built := ⟨.none, .standard, .empty, rfl⟩

end DeviceBrowser.Snapshot
