import DeviceBrowser.Proofs.Browser.Outline

/-! What collapsing one node of a tree does to the rows: those below it stand in one block right
behind its own, and nothing else is left out. -/

namespace DeviceBrowser

variable {zone : Zone}

namespace Snapshot

variable {snapshot : Snapshot}

/-- A node stands at a level: so many nodes stand above it. -/
def StandsAt (snapshot : Snapshot) (number level : Nat) : Prop :=
  ∃ above, snapshot.Lineage number above ∧ above.length = level

/-- One node stands deeper than another. -/
def Deeper (snapshot : Snapshot) (lower upper : Nat) : Prop :=
  ∃ low high, snapshot.StandsAt lower low ∧ snapshot.StandsAt upper high ∧ high < low

/-- Right below a node the nodes stand one level deeper. -/
theorem StandsAt.child {number up level : Nat} (upper : snapshot.StandsAt up level)
    (inList : number ∈ snapshot.children (some up)) : snapshot.StandsAt number (level + 1) := by
  -- The lineage of the upper node grows by that node itself.
  obtain ⟨above, lineage, rfl⟩ := upper
  exact ⟨up :: above, .child lineage inList, rfl⟩

/-- A node stands at one level. -/
theorem StandsAt.unique {number left right : Nat} (first : snapshot.StandsAt number left)
    (listed : snapshot.Listed) (second : snapshot.StandsAt number right) : left = right := by
  -- Lists and links agree, so there is only one way up.
  obtain ⟨_, lineage, rfl⟩ := first
  obtain ⟨_, other, rfl⟩ := second
  rw [listed.lineage_unique lineage other]

/-- Of two nodes of which one stands no deeper, it does not stand deeper. -/
theorem StandsAt.not_deeper {lower upper low high : Nat} (first : snapshot.StandsAt lower low)
    (listed : snapshot.Listed) (second : snapshot.StandsAt upper high) (above : low ≤ high) :
    ¬ snapshot.Deeper lower upper := by
  -- Both levels are the only ones of their nodes, and they compare the other way.
  rintro ⟨_, _, again, other, below⟩
  rw [first.unique listed again, second.unique listed other] at above
  exact Nat.not_lt_of_le above below

/-- Two sets of collapsed checksums differ by one node, which is open in the one and not in the
other. -/
structure Shuts (snapshot : Snapshot) (wide narrow : List UInt32) (node : Nat) : Prop where
  others : ∀ number ≠ node, (snapshot.IsOpen wide number ↔ snapshot.IsOpen narrow number)
  wide : snapshot.IsOpen wide node
  narrow : ¬ snapshot.IsOpen narrow node

end Snapshot

namespace Browser

variable {browser : Browser} {snapshot : Snapshot} {wide narrow : List UInt32} {node : Nat}
  {work : List (Nat × UInt16)} {rows : List Row}

/-! ## Single rows -/

/-- The row of a node is the same under collapsed checksums that agree on the node. -/
theorem row_congr (found : browser.snapshot? = some snapshot) {number : Nat}
    (same : snapshot.IsOpen wide number ↔ snapshot.IsOpen narrow number) (depth : UInt16) :
    browser.row wide number depth = browser.row narrow number depth := by
  -- Of a row only its expansion asks what is collapsed, and it asks about that node alone.
  have expanded : (browser.row wide number depth).isExpanded =
      (browser.row narrow number depth).isExpanded := by
    rw [Bool.eq_iff_iff, isExpanded_row_iff found, isExpanded_row_iff found, same]
    rfl
  exact congrArg (Row.mk number depth (browser.row wide number depth).hasChildren) expanded

/-- What comes below a node is the same under collapsed checksums that agree on the node. -/
theorem lower_congr (found : browser.snapshot? = some snapshot) {number : Nat}
    (same : snapshot.IsOpen wide number ↔ snapshot.IsOpen narrow number) (depth : UInt16) :
    browser.lower wide number depth = browser.lower narrow number depth := by
  -- Whether anything comes below is read off the row.
  rw [lower, lower, row_congr found same]

/-- The row of a collapsed node is not expanded. -/
theorem row_shut (found : browser.snapshot? = some snapshot)
    (shut : ¬ snapshot.IsOpen narrow node) (wide : List UInt32) (depth : UInt16) :
    browser.row narrow node depth =
      { browser.row wide node depth with isExpanded := false } := by
  -- A collapsed node is not open, and the rest of its row does not look at what is collapsed.
  have expanded : (browser.row narrow node depth).isExpanded = false :=
    Bool.eq_false_iff.mpr fun expanded => shut ((isExpanded_row_iff found).mp expanded).2
  exact congrArg (Row.mk node depth (browser.row wide node depth).hasChildren) expanded

/-- Below a collapsed node there are no rows. -/
theorem lower_shut (found : browser.snapshot? = some snapshot)
    (shut : ¬ snapshot.IsOpen narrow node) (depth : UInt16) :
    browser.lower narrow node depth = [] :=
  -- Only an expanded row lets nodes come below it.
  if_neg fun expanded => shut ((isExpanded_row_iff found).mp expanded).2

/-- Which checksums are collapsed decides on the rows, not how they are kept. -/
theorem rows_of_mem_iff (browser : Browser) {left right : List UInt32}
    (same : ∀ hash, hash ∈ left ↔ hash ∈ right) : browser.rows left = browser.rows right := by
  have contains : ∀ hash, left.contains hash = right.contains hash := by
    intro hash
    rw [Bool.eq_iff_iff, List.contains_iff_mem, List.contains_iff_mem, same]
  have row : browser.row left = browser.row right := by
    funext node depth
    simp only [Browser.row, contains]
  -- The walk asks the row of each node, and is otherwise the same step by step.
  have walk : ∀ steps work,
      browser.rowsFrom left steps work = browser.rowsFrom right steps work := by
    intro steps
    induction steps with
    | zero =>
      intro work
      rfl
    | succ steps ih =>
      intro work
      cases work with
      | nil => rfl
      | cons first rest => simp only [rowsFrom, row, ih]
  simp only [rows, walk]

/-! ## Levels -/

section Levels

variable {collapsed : List UInt32} {level : Nat}

/-- Where nodes that wait stand at one level, no row is that of a higher node. -/
theorem Outline.le_level (outline : browser.Outline collapsed work rows)
    (found : browser.snapshot? = some snapshot) (tree : browser.listing.isFlat = false)
    (starts : ∀ item ∈ work, snapshot.StandsAt item.1 level) :
    ∀ row ∈ rows, ∃ low ≥ level, snapshot.StandsAt row.node low := by
  -- The bound is carried down: a node below one that is deep enough is deeper still.
  have carried := outline.of_mem
    (P := fun number _ => ∃ low ≥ level, snapshot.StandsAt number low)
    (by
      rintro number _ ⟨low, deep, stands⟩ _ child inList
      rw [children_of_tree tree found] at inList
      exact ⟨low + 1, Nat.le_succ_of_le deep, stands.child inList⟩)
    (fun item waits => ⟨level, Nat.le_refl _, starts item waits⟩)
  exact fun row member => (carried row member).1

/-- Where nodes that wait stand at one level, the first row is that of one of them. -/
theorem Outline.head_level (outline : browser.Outline collapsed work rows)
    (starts : ∀ item ∈ work, snapshot.StandsAt item.1 level) :
    ∀ first ∈ rows.head?, snapshot.StandsAt first.node level := by
  -- Hidden nodes in front are passed over; the first one that is not gives the first row.
  induction outline with
  | done => simp
  | hide _ _ ih => exact ih (List.forall_mem_cons.mp starts).2
  | list _ _ _ =>
    intro first isFirst
    obtain rfl := Option.mem_some_iff.mp isFirst
    exact (List.forall_mem_cons.mp starts).1

/-- The nodes that wait right below a node stand one level deeper. -/
theorem lower_level (found : browser.snapshot? = some snapshot)
    (tree : browser.listing.isFlat = false) {number : Nat}
    (stands : snapshot.StandsAt number level) (collapsed : List UInt32) (depth : UInt16) :
    ∀ item ∈ (browser.lower collapsed number depth).map (·, depth + 1),
      snapshot.StandsAt item.1 (level + 1) := by
  -- Below an expanded row come the children, and below any other one nothing.
  intro item waits
  obtain ⟨child, inLower, rfl⟩ := List.mem_map.mp waits
  rw [lower] at inLower
  split at inLower
  · rw [children_of_tree tree found] at inLower
    exact stands.child inLower
  · cases inLower

/-- What comes behind rows that begin one level deeper does not begin deeper than any of them. -/
theorem Outline.head_not_deeper {deeper : List (Nat × UInt16)} {below after : List Row} {row : Row}
    (on : browser.Outline collapsed work after) (down : browser.Outline collapsed deeper below)
    (found : browser.snapshot? = some snapshot) (tree : browser.listing.isFlat = false)
    (listed : snapshot.Listed) (starts : ∀ item ∈ work, snapshot.StandsAt item.1 level)
    (deeperStarts : ∀ item ∈ deeper, snapshot.StandsAt item.1 (level + 1)) (member : row ∈ below) :
    ∀ next ∈ after.head?, ¬ snapshot.Deeper next.node row.node := by
  -- The rows below stand at least one level deeper than what comes behind them.
  obtain ⟨low, deep, stands⟩ := down.le_level found tree deeperStarts row member
  intro next isNext
  exact (on.head_level starts next isNext).not_deeper listed stands (Nat.le_of_succ_le deep)

end Levels

/-! ## The block -/

/-- A node has a row in one list of rows with a block of deeper rows right behind it, and in another
list, which is the same elsewhere, it has a row without them. What comes behind the block is no
deeper than the node. -/
structure Splits (browser : Browser) (snapshot : Snapshot) (wide narrow : List UInt32) (node : Nat)
    (front : List Row) (depth : UInt16) (block rest rows others : List Row) : Prop where
  rows : rows = front ++ browser.row wide node depth :: (block ++ rest)
  others : others = front ++ browser.row narrow node depth :: rest
  deeper : ∀ lower ∈ block, snapshot.Deeper lower.node node
  level : ∀ next ∈ rest.head?, ¬ snapshot.Deeper next.node node

section Splits

variable {front block rest rows others : List Row} {depth : UInt16}
  (splits : browser.Splits snapshot wide narrow node front depth block rest rows others)
include splits

/-- Rows that come before both lists belong to what stands before the block. -/
theorem Splits.prepend (before : List Row) :
    browser.Splits snapshot wide narrow node (before ++ front) depth block rest (before ++ rows)
      (before ++ others) where
  -- The block and what follows it stay where they are.
  rows := by rw [splits.rows, List.append_assoc]
  others := by rw [splits.others, List.append_assoc]
  deeper := splits.deeper
  level := splits.level

/-- Rows that come behind both lists belong to what stands behind the block, unless they begin
deeper. -/
theorem Splits.append {after : List Row}
    (level : ∀ next ∈ after.head?, ¬ snapshot.Deeper next.node node) :
    browser.Splits snapshot wide narrow node front depth block (rest ++ after) (rows ++ after)
      (others ++ after) where
  -- The block may end the rows; then what is put behind them is what follows it.
  rows := by simp [splits.rows]
  others := by simp [splits.others]
  deeper := splits.deeper
  level := by
    have own := splits.level
    cases rest with
    | nil => exact level
    | cons first _ => exact own

end Splits

section Shuts

variable (found : browser.snapshot? = some snapshot) (shuts : snapshot.Shuts wide narrow node)
include found shuts

/-- Where a node has no row, collapsing it leaves the rows. -/
theorem Outline.elsewhere (outline : browser.Outline wide work rows)
    (absent : node ∉ rows.map (·.node)) : browser.Outline narrow work rows := by
  -- All rows are those of other nodes, whose rows do not tell the two sets of checksums apart.
  induction outline with
  | done => exact .done
  | hide hidden _ ih => exact .hide hidden (ih absent)
  | @list other depth _ below after shown _ _ downCase onCase =>
    rw [List.map_cons, List.map_append, List.mem_cons, List.mem_append, not_or, not_or] at absent
    obtain ⟨isOther, notBelow, notAfter⟩ := absent
    have agree := shuts.others other (Ne.symm isOther)
    have down := downCase notBelow
    rw [lower_congr found agree] at down
    rw [row_congr found agree]
    exact .list shown down (onCase notAfter)

variable (tree : browser.listing.isFlat = false) (listed : snapshot.Listed)
include tree listed

/-- Collapsing the first node takes out the rows below it. -/
theorem Outline.splits_first {depth : UInt16} {waiting : List (Nat × UInt16)}
    {below after : List Row} {level : Nat} (shown : browser.isShown node = true)
    (down : browser.Outline wide ((browser.lower wide node depth).map (·, depth + 1)) below)
    (on : browser.Outline wide waiting after) (absent : node ∉ after.map (·.node))
    (stands : snapshot.StandsAt node level)
    (waitStand : ∀ item ∈ waiting, snapshot.StandsAt item.1 level) :
    browser.Outline narrow ((node, depth) :: waiting) (browser.row narrow node depth :: after) ∧
      browser.Splits snapshot wide narrow node [] depth below after
        (browser.row wide node depth :: (below ++ after))
        (browser.row narrow node depth :: after) := by
  -- With the node shut nothing comes below it, and what waits behind it is outlined as before.
  have nothing : browser.Outline narrow
      ((browser.lower narrow node depth).map (·, depth + 1)) [] := by
    rw [lower_shut found shuts.narrow]
    exact .done
  refine ⟨.list shown nothing (on.elsewhere found shuts absent), rfl, rfl, ?_, ?_⟩
  · intro row inBelow
    obtain ⟨low, deep, lowStands⟩ :=
      down.le_level found tree (lower_level found tree stands wide depth) row inBelow
    exact ⟨low, level, lowStands, stands, deep⟩
  · intro next isNext
    exact (on.head_level waitStand next isNext).not_deeper listed stands (Nat.le_refl _)

/-- Collapsing a node that has a row takes out one block. -/
theorem Outline.splits (outline : browser.Outline wide work rows) {level : Nat}
    (starts : ∀ item ∈ work, snapshot.StandsAt item.1 level)
    (distinct : (rows.map (·.node)).Nodup) (member : node ∈ rows.map (·.node)) :
    ∃ front depth block rest others, browser.Outline narrow work others ∧
      browser.Splits snapshot wide narrow node front depth block rest rows others := by
  induction outline generalizing level with
  | done => cases member
  | hide hidden _ ih =>
    obtain ⟨front, depth, block, rest, others, narrowed, splits⟩ :=
      ih (List.forall_mem_cons.mp starts).2 distinct member
    exact ⟨front, depth, block, rest, others, .hide hidden narrowed, splits⟩
  | @list other depth waiting below after shown down on downCase onCase =>
    obtain ⟨stands, waitStand⟩ := List.forall_mem_cons.mp starts
    rw [List.map_cons, List.map_append, List.nodup_cons, List.mem_append, not_or] at distinct
    obtain ⟨⟨_, notAfter⟩, distinct⟩ := distinct
    obtain ⟨belowDistinct, afterDistinct, apart⟩ := List.nodup_append.mp distinct
    -- The node is the first one, or it is below the first one, or behind that. Where it is not, the
    -- rows stay.
    by_cases isFirst : other = node
    · subst isFirst
      exact ⟨[], depth, below, after, _,
        splits_first found shuts tree listed shown down on notAfter stands waitStand⟩
    · have agree := shuts.others other isFirst
      have first := row_congr found agree depth
      rw [List.map_cons, List.map_append, List.mem_cons, List.mem_append] at member
      rcases member.resolve_left (Ne.symm isFirst) with inBelow | inAfter
      · -- Below: the block is found there. What comes after the first node is not deeper, and
        -- bounds it.
        have elsewhere : node ∉ after.map (·.node) := fun inAfter => apart _ inBelow _ inAfter rfl
        have lower := lower_level found tree stands wide depth
        obtain ⟨front, nodeDepth, block, rest, others, narrowed, splits⟩ :=
          downCase lower belowDistinct inBelow
        have behind : ∀ next ∈ after.head?, ¬ snapshot.Deeper next.node node := by
          obtain ⟨row, isRow, rfl⟩ := List.mem_map.mp inBelow
          exact on.head_not_deeper down found tree listed waitStand lower isRow
        rw [lower_congr found agree] at narrowed
        have narrowedFirst := Outline.list shown narrowed (on.elsewhere found shuts elsewhere)
        rw [← first] at narrowedFirst
        exact ⟨_, nodeDepth, block, _, _, narrowedFirst, (splits.append behind).prepend [_]⟩
      · -- Behind: the first node and the rows below it belong to the front.
        have elsewhere : node ∉ below.map (·.node) := fun inBelow => apart _ inBelow _ inAfter rfl
        obtain ⟨front, nodeDepth, block, rest, others, narrowed, splits⟩ :=
          onCase waitStand afterDistinct inAfter
        have kept := down.elsewhere found shuts elsewhere
        rw [lower_congr found agree] at kept
        have narrowedFirst := Outline.list shown kept narrowed
        rw [← first] at narrowedFirst
        exact ⟨_, nodeDepth, block, rest, _, narrowedFirst, splits.prepend (_ :: below)⟩

/-- Collapsing a node that has a row in a tree takes one block out of the rows. -/
theorem splits_rows (distinct : ((browser.rows wide).map (·.node)).Nodup)
    (member : node ∈ (browser.rows wide).map (·.node)) :
    ∃ front depth block rest, browser.Splits snapshot wide narrow node front depth block rest
      (browser.rows wide) (browser.rows narrow) := by
  have roots : ∀ item ∈ (browser.children none).map (·, (0 : UInt16)),
      snapshot.StandsAt item.1 0 := by
    intro item waits
    obtain ⟨root, isRoot, rfl⟩ := List.mem_map.mp waits
    rw [children_of_tree tree found] at isRoot
    exact ⟨[], .root isRoot, rfl⟩
  -- The outline of the whole tree is cut at the node, and the cut outline is that of the other
  -- rows.
  obtain ⟨front, depth, block, rest, others, narrowed, splits⟩ :=
    (outline_rows listed found tree).splits found shuts tree listed roots distinct member
  rw [narrowed.unique (outline_rows listed found tree)] at splits
  exact ⟨front, depth, block, rest, splits⟩

end Shuts

section Tree

variable {published : Published} {collapsed : List UInt32}
  (active : browser.stage.active = some published) (built : published.snapshot.Built)
  (tree : browser.listing.isFlat = false)
include active built tree

/-- No node of a tree has two rows. -/
theorem rows_nodup : ((browser.rows collapsed).map (·.node)).Nodup := by
  -- The rows follow the tree's order, in which no node stands twice.
  have distinct := built.treeOrder_perm.nodup_iff.mpr List.nodup_range
  exact distinct.sublist (rows_sublist active built tree)

/-- A node that has a row keeps one when a node is opened. -/
theorem mem_rows_wide (fresh : Fresh browser.listing published)
    (shuts : published.snapshot.Shuts wide narrow node) {number : Nat}
    (member : number ∈ (browser.rows narrow).map (·.node)) :
    number ∈ (browser.rows wide).map (·.node) := by
  -- A node has a row when it is shown and all above it are open; opening one shuts none.
  rw [mem_rows_iff active built fresh tree] at member ⊢
  obtain ⟨shown, above, lineage, opens⟩ := member
  refine ⟨shown, above, lineage, fun up isAbove => ?_⟩
  by_cases isNode : up = node
  · rw [isNode]
    exact shuts.wide
  · exact (shuts.others up isNode).mpr (opens up isAbove)

/-- The depth of a row of a tree is the level of its node, as far as it can be counted. -/
theorem exists_level {row : Row} (inRows : row ∈ browser.rows collapsed) :
    ∃ level, published.snapshot.StandsAt row.node level ∧ row.depth = UInt16.ofNat level := by
  -- Each row carries the number of nodes above it, as the outline counts them on the way down.
  have found := snapshot?_of_active active
  have outline : browser.Outline collapsed _ _ := outline_rows built.listed found tree
  obtain ⟨_, _, above, lineage, depth, _⟩ := outline.lineage found tree inRows
  exact ⟨above.length, ⟨above, lineage, rfl⟩, depth⟩

/-- Where no level is too great to be counted, the deeper one of two rows has the greater depth. -/
theorem depth_lt_iff {row other : Row} (inRows : row ∈ browser.rows collapsed)
    (otherInRows : other ∈ browser.rows collapsed)
    (few : ∀ row ∈ browser.rows collapsed, ∀ level,
      published.snapshot.StandsAt row.node level → level ≤ 65535) :
    row.depth < other.depth ↔ published.snapshot.Deeper other.node row.node := by
  obtain ⟨level, stands, depth⟩ := exists_level active built tree inRows
  obtain ⟨otherLevel, otherStands, otherDepth⟩ := exists_level active built tree otherInRows
  have fits := few row inRows level stands
  have otherFits := few other otherInRows otherLevel otherStands
  -- Depths are levels cut to sixteen bits, and these levels lose nothing by that.
  have levels : row.depth < other.depth ↔ level < otherLevel := by
    rw [depth, otherDepth, UInt16.lt_iff_toNat_lt, UInt16.toNat_ofNat', UInt16.toNat_ofNat']
    omega
  rw [levels]
  constructor
  · intro below
    exact ⟨_, _, otherStands, stands, below⟩
  · rintro ⟨low, high, isLow, isHigh, below⟩
    rwa [otherStands.unique built.listed isLow, stands.unique built.listed isHigh]

end Tree

end Browser

end DeviceBrowser
