import DeviceBrowser.Proofs.Snapshot.Walk
import DeviceBrowser.Proofs.Snapshot.WellFormed
import DeviceBrowser.View.Listing

/-! The order in which a tree is gone through, as a recursion down the lists of nodes, and the walk
with a list of nodes that wait, which finds the same order. In a built snapshot it ends, and has met
every node once. -/

namespace DeviceBrowser.Snapshot

variable {zone : Zone}

variable {snapshot : Snapshot} {waiting front back order : List Nat}

/-- The nodes of a list and all below them in order: each node comes first, then all below it, then
the rest of the list with all below. -/
inductive PreOrder (snapshot : Snapshot) : List Nat → List Nat → Prop
  | nil : PreOrder snapshot [] []
  | cons {number : Nat} {rest below after : List Nat}
      (down : PreOrder snapshot (snapshot.children (some number)) below)
      (on : PreOrder snapshot rest after) :
      PreOrder snapshot (number :: rest) (number :: (below ++ after))

/-- A walk meets the first node that waits, puts those right below it in front of the others, and
ends when none waits. -/
inductive Walked (snapshot : Snapshot) : List Nat → List Nat → Prop
  | done : Walked snapshot [] []
  | meet {number : Nat} {rest after : List Nat}
      (onwards : Walked snapshot (snapshot.children (some number) ++ rest) after) :
      Walked snapshot (number :: rest) (number :: after)

/-- The order of two lists in a row is that of the first, then that of the second. -/
theorem PreOrder.split (preOrder : snapshot.PreOrder (front ++ back) order) :
    ∃ first second, order = first ++ second ∧ snapshot.PreOrder front first ∧
      snapshot.PreOrder back second := by
  -- The induction is on the first list, whose nodes come before those of the second.
  induction front generalizing order with
  | nil => exact ⟨[], order, rfl, .nil, preOrder⟩
  | cons number rest ih =>
    cases preOrder with
    | @cons _ _ below after down on =>
      obtain ⟨first, second, rfl, ofRest, ofBack⟩ := ih on
      exact ⟨number :: (below ++ first), second, by simp, .cons down ofRest, ofBack⟩

/-- What is in order is found by a walk, which then goes on with what waits behind. -/
theorem PreOrder.walked_append (preOrder : snapshot.PreOrder waiting order) {rest after : List Nat}
    (onwards : snapshot.Walked rest after) :
    snapshot.Walked (waiting ++ rest) (order ++ after) := by
  induction preOrder generalizing rest after with
  | nil => exact onwards
  | @cons number others below further _ _ downCase onCase =>
    -- The nodes below the first one are walked through with all others behind them.
    have walked := downCase (onCase onwards)
    rw [List.cons_append, List.cons_append, List.append_assoc]
    exact .meet walked

/-- In every snapshot walks find just the orders that the recursion gives. -/
theorem walked_iff_preOrder : snapshot.Walked waiting order ↔ snapshot.PreOrder waiting order := by
  constructor
  · -- What is put in front of the others comes before them in the order too.
    intro walked
    induction walked with
    | done => exact .nil
    | meet _ ih =>
      obtain ⟨below, after, rfl, down, on⟩ := ih.split
      exact .cons down on
  · intro preOrder
    simpa using preOrder.walked_append .done

/-- A walk that has steps for all nodes not met yet ends. -/
theorem Listed.walked_walk (listed : snapshot.Listed) {steps : Nat} {met : List Nat}
    (underway : snapshot.Underway met waiting) (enough : snapshot.size ≤ met.length + steps) :
    snapshot.Walked waiting (snapshot.walk steps waiting) := by
  -- The induction is on the steps, and each step meets a node that was not met before.
  induction steps generalizing met waiting with
  | zero =>
    have counted := underway.length_le
    have nothing : waiting = [] := List.eq_nil_of_length_eq_zero (by omega)
    rw [nothing]
    exact .done
  | succ steps ih =>
    cases waiting with
    | nil => exact .done
    | cons first rest =>
      have left : snapshot.size ≤ (first :: met).length + steps := by
        rw [List.length_cons]
        omega
      exact .meet (ih (underway.descend listed) left)

/-- The walk through the tree of a snapshot ends. -/
theorem Listed.walked_treeOrder (listed : snapshot.Listed) :
    snapshot.Walked snapshot.roots snapshot.treeOrder :=
  -- There is a step for each node.
  listed.walked_walk listed.underway (by simp)

/-- So it finds the roots and all below them in order. -/
theorem Listed.preOrder_treeOrder (listed : snapshot.Listed) :
    snapshot.PreOrder snapshot.roots snapshot.treeOrder :=
  walked_iff_preOrder.mp listed.walked_treeOrder

/-! ## What a walk meets -/

/-- A walk meets the nodes that wait, and those below each node that it meets. -/
theorem Walked.downwards (walked : snapshot.Walked waiting order) :
    (∀ number ∈ waiting, number ∈ order) ∧
      ∀ up ∈ order, ∀ number ∈ snapshot.children (some up), number ∈ order := by
  induction walked with
  | done => simp
  | @meet first rest after _ ih =>
    -- The nodes below the first one wait when it is met.
    obtain ⟨later, below⟩ := ih
    constructor
    · intro number waits
      rcases List.mem_cons.mp waits with rfl | other
      · exact List.mem_cons_self
      · exact List.mem_cons_of_mem _ (later number (List.mem_append_right _ other))
    · intro up member number inList
      rcases List.mem_cons.mp member with rfl | passed
      · exact List.mem_cons_of_mem _ (later number (List.mem_append_left _ inList))
      · exact List.mem_cons_of_mem _ (below up passed number inList)

/-- A walk meets listed nodes only, if only such wait. -/
theorem Walked.lt_size (listed : snapshot.Listed) (walked : snapshot.Walked waiting order)
    (starts : ∀ number ∈ waiting, number < snapshot.size) :
    ∀ number ∈ order, number < snapshot.size := by
  -- Along the walk: what is met waited before, and only listed nodes come to wait.
  induction walked with
  | done => simp
  | @meet first rest after _ ih =>
    obtain ⟨firstWithin, restWithin⟩ := List.forall_mem_cons.mp starts
    refine List.forall_mem_cons.mpr ⟨firstWithin, ih ?_⟩
    intro number waits
    rcases List.mem_append.mp waits with inList | other
    · exact listed.lt_size inList
    · exact restWithin number other

/-- A walk meets no node twice, nor one that was met before. -/
theorem Walked.nodup (listed : snapshot.Listed) {met : List Nat}
    (underway : snapshot.Underway met waiting) (walked : snapshot.Walked waiting order) :
    order.Nodup ∧ ∀ number ∈ order, number ∉ met := by
  -- A node that is met here is met for all that comes later.
  induction walked generalizing met with
  | done => simp
  | @meet first rest after _ ih =>
    obtain ⟨distinct, unmet⟩ := ih (underway.descend listed)
    have fresh : first ∉ met := by
      have apart := List.disjoint_of_nodup_append underway.distinct
      intro member
      exact apart member List.mem_cons_self
    constructor
    · refine List.nodup_cons.mpr ⟨?_, distinct⟩
      intro again
      exact unmet first again List.mem_cons_self
    · intro number member
      rcases List.mem_cons.mp member with rfl | later
      · exact fresh
      · intro before
        exact unmet number later (List.mem_cons_of_mem _ before)

/-! ## What stands above a node -/

/-- The nodes above a node, from its parent up to a root. -/
inductive Lineage (snapshot : Snapshot) : Nat → List Nat → Prop
  | root {number : Nat} (isRoot : number ∈ snapshot.children none) : Lineage snapshot number []
  | child {number up : Nat} {above : List Nat} (upper : Lineage snapshot up above)
      (inList : number ∈ snapshot.children (some up)) : Lineage snapshot number (up :: above)

/-- One line of nodes stands above a node, if any. -/
theorem Listed.lineage_unique (listed : snapshot.Listed) {number : Nat} {left right : List Nat}
    (first : snapshot.Lineage number left) (second : snapshot.Lineage number right) :
    left = right := by
  -- A node is in one list, that of the roots or that of its parent.
  induction first generalizing right with
  | root isRoot =>
    cases second with
    | root => rfl
    | child _ inList => cases listed.parent_unique isRoot inList
  | child _ inList ih =>
    cases second with
    | root isRoot => cases listed.parent_unique isRoot inList
    | child upper again =>
      cases listed.parent_unique inList again
      rw [ih upper]

/-- Each node of a built snapshot has a line of nodes above it, up to a root. -/
theorem Built.exists_lineage (built : snapshot.Built) {number : Nat}
    (within : number < snapshot.size) : ∃ above, snapshot.Lineage number above := by
  obtain ⟨edition, preferences, grown, rfl⟩ := built
  have listed := build_listed edition preferences
  -- The induction is on the place of the device in the inventory, which a parent comes before.
  obtain ⟨node, found⟩ : ∃ node, (build edition preferences).node? number = some node :=
    ⟨_, Array.getElem?_eq_getElem within⟩
  induction placed : node.position using Nat.strongRecOn generalizing number node with
  | ind position ih =>
    cases linked : node.parent with
    | none => exact ⟨[], .root ((listed.mem_iff none number).mpr ⟨node, found, linked⟩)⟩
    | some up =>
      obtain ⟨above, aboveFound, isParent⟩ := (build_parent grown found up).mp linked
      have earlier := grown.linked.parent_lt isParent
      have upWithin := listed.parent_lt found linked
      obtain ⟨line, upper⟩ := ih above.position (by omega) upWithin above aboveFound rfl
      exact ⟨up :: line, .child upper ((listed.mem_iff (some up) number).mpr ⟨node, found, linked⟩)⟩

/-- A walk from the roots meets each node that stands below a root. -/
theorem Lineage.mem_walked {number : Nat} {above : List Nat}
    (lineage : snapshot.Lineage number above)
    (walked : snapshot.Walked (snapshot.children none) order) : number ∈ order := by
  -- Down the lineage: the roots are met, and with a node all that stand in its list.
  obtain ⟨roots, below⟩ := walked.downwards
  induction lineage with
  | root isRoot => exact roots _ isRoot
  | child _ inList ih => exact below _ ih _ inList

/-- The tree of a built snapshot goes through all its nodes. -/
theorem Built.mem_treeOrder (built : snapshot.Built) {number : Nat}
    (within : number < snapshot.size) : number ∈ snapshot.treeOrder := by
  -- Each node of a built snapshot has a lineage from a root.
  obtain ⟨above, lineage⟩ := built.exists_lineage within
  exact lineage.mem_walked built.listed.walked_treeOrder

/-- The tree of a built snapshot goes through its nodes, each once. -/
theorem Built.treeOrder_perm (built : snapshot.Built) :
    snapshot.treeOrder.Perm (List.range snapshot.size) := by
  -- The walk meets no node twice and none that is not there, and it misses none.
  have walked := built.listed.walked_treeOrder
  have distinct := (walked.nodup built.listed built.listed.underway).1
  have roots : ∀ number ∈ snapshot.children none, number < snapshot.size :=
    fun _ => built.listed.lt_size
  refine (List.perm_ext_iff_of_nodup distinct List.nodup_range).mpr fun number => ?_
  rw [List.mem_range]
  exact ⟨walked.lt_size built.listed roots number, built.mem_treeOrder⟩

end DeviceBrowser.Snapshot
