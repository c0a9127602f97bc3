import DeviceBrowser.Proofs.Browser.DisplayOrder
import DeviceBrowser.Proofs.Browser.Rows

/-! What the table lists of a display: of a tree the shown nodes that stand below no collapsed one,
in the order of the tree, and of a flat listing what is displayed. Its visible nodes stand in the
order in which they are exported. -/

namespace DeviceBrowser

/-- A node is open: its checksum is none of the collapsed ones. -/
def Snapshot.IsOpen (snapshot : Snapshot) (collapsed : List UInt32) (number : Nat) : Prop :=
  ∀ hash, snapshot.hash? number = some hash → hash ∉ collapsed

namespace Browser

section AnyZone

variable {zone : Zone}

variable {browser : Browser} {snapshot : Snapshot} {published : Published}
  {collapsed : List UInt32} {work : List (Nat × UInt16)} {rows : List Row}

/-! ## A single row -/

/-- A row has children exactly if a node right below is shown. -/
theorem hasChildren_row_iff {node : Nat} {depth : UInt16} :
    (browser.row collapsed node depth).hasChildren = true ↔
      ∃ child ∈ browser.children (some node), browser.isShown child = true := by
  -- The row looks for a shown one among the nodes right below.
  simp [row]

/-- A row is expanded exactly if it has children and its node is open. -/
theorem isExpanded_row_iff (found : browser.snapshot? = some snapshot) {node : Nat}
    {depth : UInt16} : (browser.row collapsed node depth).isExpanded = true ↔
      (browser.row collapsed node depth).hasChildren = true ∧ snapshot.IsOpen collapsed node := by
  -- A number without a checksum is that of no node, and cannot be collapsed.
  cases hash : snapshot.hash? node <;> simp [row, Snapshot.IsOpen, found, hash]

/-! ## The rows of a tree -/

/-- The nodes of the rows stand in the order of the tree. -/
theorem Outline.sublist (found : browser.snapshot? = some snapshot)
    (tree : browser.listing.isFlat = false) (outline : browser.Outline collapsed work rows)
    {order : List Nat} (preOrder : snapshot.PreOrder (work.map (·.1)) order) :
    (rows.map (·.node)).Sublist order := by
  -- Both recursions go down the same lists, but that of the rows leaves out some of them.
  induction outline generalizing order with
  | done => exact List.nil_sublist _
  | hide _ _ ih =>
    cases preOrder with
    | cons _ on =>
      exact ((ih on).trans (List.sublist_append_right _ _)).cons _
  | @list node depth rest belowRows _ _ down _ downCase onCase =>
    cases preOrder with
    | @cons _ _ below _ downOrder onOrder =>
      -- Below a row that is not expanded no rows come before those of the other nodes.
      have lowerPart : (belowRows.map (·.node)).Sublist below := by
        cases expanded : (browser.row collapsed node depth).isExpanded with
        | true =>
          apply downCase
          simpa [lower, expanded, children_of_tree tree found, Function.comp_def] using downOrder
        | false =>
          have nothing : browser.lower collapsed node depth = [] := by simp [lower, expanded]
          rw [nothing] at down
          cases down
          exact List.nil_sublist _
      rw [List.map_cons, List.map_append]
      exact (lowerPart.append (onCase onOrder)).cons_cons _

/-- Shown nodes that wait have rows, and so have those right below the node of an expanded row. -/
theorem Outline.downwards (outline : browser.Outline collapsed work rows) :
    (∀ item ∈ work, browser.isShown item.1 = true → browser.row collapsed item.1 item.2 ∈ rows) ∧
      ∀ row ∈ rows, row.isExpanded = true → ∀ child ∈ browser.children (some row.node),
        browser.isShown child = true → browser.row collapsed child (row.depth + 1) ∈ rows := by
  induction outline with
  | done => simp
  | @hide node depth _ _ hidden _ ih =>
    refine ⟨List.forall_mem_cons.mpr ⟨?_, ih.1⟩, ih.2⟩
    intro shown
    rw [hidden] at shown
    cases shown
  | @list node depth _ below after _ _ _ downCase onCase =>
    -- The rows below the first one stand right behind it, then those of the other nodes.
    have inBelow : ∀ {row}, row ∈ below →
        row ∈ browser.row collapsed node depth :: (below ++ after) :=
      fun member => List.mem_cons_of_mem _ (List.mem_append_left _ member)
    have inAfter : ∀ {row}, row ∈ after →
        row ∈ browser.row collapsed node depth :: (below ++ after) :=
      fun member => List.mem_cons_of_mem _ (List.mem_append_right _ member)
    constructor
    · refine List.forall_mem_cons.mpr ⟨fun _ => List.mem_cons_self, ?_⟩
      intro item waits shown
      exact inAfter (onCase.1 item waits shown)
    · intro row member expanded child inList shown
      rcases List.mem_cons.mp member with rfl | later
      · -- Of the first row itself all nodes right below wait when the recursion goes down.
        have waits : (child, depth + 1) ∈
            (browser.lower collapsed node depth).map (·, depth + 1) := by
          rw [lower, if_pos expanded]
          exact List.mem_map_of_mem inList
        exact inBelow (downCase.1 _ waits shown)
      · rcases List.mem_append.mp later with here | there
        · exact inBelow (downCase.2 row here expanded child inList shown)
        · exact inAfter (onCase.2 row there expanded child inList shown)

/-! ## The nodes that have a row -/

/-- In a tree just the nodes at or above visible ones are shown. -/
theorem Fresh.isShown_iff (fresh : Fresh browser.listing published)
    (active : browser.stage.active = some published) (listed : published.snapshot.Listed)
    (tree : browser.listing.isFlat = false) (number : Nat) :
    browser.isShown number = true ↔ ∃ lower, published.snapshot.Below lower number ∧
      published.isVisible lower = true := by
  have size : (marks browser.listing published.snapshot).size = published.snapshot.size :=
    Snapshot.size_matching _ _ _
  simp only [fresh.isVisible_iff]
  rw [← listed.reachable_iff size, ← fresh.shown]
  simp only [isShown, active, Option.any_some, Listing.isShown, tree]
  cases mark : browser.listing.shown[number]? with
  | some shown => simp
  | none =>
    -- A number without a mark is not that of a node, and so not that of a visible one.
    have beyond := Array.getElem?_eq_none_iff.mp mark
    rw [fresh.shown, Snapshot.size_reachable] at beyond
    have unmarked := Array.getElem?_eq_none beyond
    simp [fresh.isVisible_iff, unmarked]

/-- Above a shown node of a tree all nodes are shown. -/
theorem Fresh.isShown_up (fresh : Fresh browser.listing published)
    (active : browser.stage.active = some published) (listed : published.snapshot.Listed)
    (tree : browser.listing.isFlat = false) {child up : Nat}
    (inList : child ∈ published.snapshot.children (some up))
    (shown : browser.isShown child = true) : browser.isShown up = true := by
  -- What is visible below the lower node is below the upper one too.
  rw [fresh.isShown_iff active listed tree] at shown ⊢
  obtain ⟨lower, below, isVisible⟩ := shown
  exact ⟨lower, below.tail inList, isVisible⟩

/-- The rows of a tree are those of shown nodes below open ones, at the depths at which they stand.
-/
theorem Outline.lineage (found : browser.snapshot? = some snapshot)
    (tree : browser.listing.isFlat = false)
    (outline : browser.Outline collapsed ((browser.children none).map (·, 0)) rows) {row : Row}
    (member : row ∈ rows) : browser.isShown row.node = true ∧
      row = browser.row collapsed row.node row.depth ∧
      ∃ above, snapshot.Lineage row.node above ∧ row.depth = UInt16.ofNat above.length ∧
        ∀ up ∈ above, snapshot.IsOpen collapsed up := by
  -- Above a node stand its parent, whose row is expanded, and what stands above that; the walk
  -- counts them with each step down.
  have carried := outline.of_mem (P := fun node depth => ∃ above, snapshot.Lineage node above ∧
    depth = UInt16.ofNat above.length ∧ ∀ up ∈ above, snapshot.IsOpen collapsed up)
  obtain ⟨stands, shown, same⟩ := carried
    (by
      rintro node _ ⟨above, upper, rfl, opens⟩ expanded child inList
      rw [children_of_tree tree found] at inList
      have isOpen := ((isExpanded_row_iff found).mp expanded).2
      refine ⟨node :: above, .child upper inList, ?_, List.forall_mem_cons.mpr ⟨isOpen, opens⟩⟩
      simp)
    (by
      intro item waits
      obtain ⟨root, isRoot, rfl⟩ := List.mem_map.mp waits
      rw [children_of_tree tree found] at isRoot
      exact ⟨[], .root isRoot, rfl, by simp⟩)
    row member
  exact ⟨shown, same, stands⟩

/-- A shown node of a tree has a row at its depth, if no row of a node above is collapsed. -/
theorem Outline.mem_of_lineage (found : browser.snapshot? = some snapshot)
    (tree : browser.listing.isFlat = false)
    (outline : browser.Outline collapsed ((browser.children none).map (·, 0)) rows)
    (upwards : ∀ up, ∀ child ∈ snapshot.children (some up), browser.isShown child = true →
      browser.isShown up = true)
    {number : Nat} {above : List Nat} (lineage : snapshot.Lineage number above)
    (shown : browser.isShown number = true)
    (expands : ∀ up ∈ above, ∀ row ∈ rows, row.node = up → row.hasChildren = true →
      row.isExpanded = true) :
    browser.row collapsed number (UInt16.ofNat above.length) ∈ rows := by
  obtain ⟨starts, below⟩ := outline.downwards
  induction lineage with
  | @root number isRoot =>
    rw [← children_of_tree tree found] at isRoot
    exact starts (number, 0) (List.mem_map_of_mem isRoot) shown
  | @child number up above _ inList ih =>
    -- The parent has a row, which has this node as a child and so is expanded.
    obtain ⟨own, others⟩ := List.forall_mem_cons.mp expands
    have upRow := ih (upwards up number inList shown) others
    rw [← children_of_tree tree found] at inList
    have expanded := own _ upRow rfl (hasChildren_row_iff.mpr ⟨number, inList, shown⟩)
    have member := below _ upRow expanded number inList shown
    simpa [row] using member

/-! ## The table -/

/-- What a table lists of a display where some checksums are collapsed. Of a flat listing it has a
row for what is displayed, and of a tree for just the shown nodes of which all that stand above are
open. These are in the order of the tree, none twice. The depth of a row of a tree is the number of
nodes above its own, up to the greatest depth; the row has children exactly if a node right below is
shown, and is expanded exactly if it has children and its node is open. The visible nodes of the
rows stand in the order in which all visible nodes are exported and selected, and are all of them if
every row that has children is expanded. -/
structure Outlines [Zone] (browser : Browser) (published : Published) (collapsed : List UInt32) :
    Prop where
  flat : browser.listing.isFlat = true →
    browser.rows collapsed = browser.displayOrder.map (⟨·, 0, false, false⟩)
  ordered : browser.listing.isFlat = false → ∃ order,
    published.snapshot.PreOrder published.snapshot.roots order ∧
    ((browser.rows collapsed).map (·.node)).Sublist order
  nodup : ((browser.rows collapsed).map (·.node)).Nodup
  mem_iff : browser.listing.isFlat = false → ∀ number,
    number ∈ (browser.rows collapsed).map (·.node) ↔ browser.isShown number = true ∧
      ∃ above, published.snapshot.Lineage number above ∧
        ∀ up ∈ above, published.snapshot.IsOpen collapsed up
  depth : browser.listing.isFlat = false → ∀ row ∈ browser.rows collapsed, ∀ above,
    published.snapshot.Lineage row.node above → above.length ≤ 65535 →
      row.depth.toNat = above.length
  hasChildren : browser.listing.isFlat = false → ∀ row ∈ browser.rows collapsed,
    row.hasChildren = true ↔
      ∃ child ∈ published.snapshot.children (some row.node), browser.isShown child = true
  isExpanded : browser.listing.isFlat = false → ∀ row ∈ browser.rows collapsed,
    row.isExpanded = true ↔
      row.hasChildren = true ∧ published.snapshot.IsOpen collapsed row.node
  visible : (((browser.rows collapsed).map (·.node)).filter browser.isVisible).Sublist
    browser.displayOrder
  expanded : (∀ row ∈ browser.rows collapsed, row.hasChildren = true → row.isExpanded = true) →
    ((browser.rows collapsed).map (·.node)).filter browser.isVisible = browser.displayOrder
  exported : browser.exported = ((browser.displayOrder.map (browser.record published)).length,
    Text.Csv.write (browser.listing.columns.shown.map (·.title) ::
      browser.displayOrder.map (browser.record published)))
  selection : browser.selection = browser.displayOrder.filter published.isSelected

/-- What is displayed is visible. -/
theorem displayOrder_filter (browser : Browser) :
    browser.displayOrder.filter browser.isVisible = browser.displayOrder := by
  -- Leaving out once more what is not visible leaves out nothing.
  simp [displayOrder_eq]

/-- A flat listing has a row for what is displayed. -/
theorem rows_of_flat (active : browser.stage.active = some published)
    (flat : browser.listing.isFlat = true) :
    browser.rows collapsed = browser.displayOrder.map (⟨·, 0, false, false⟩) := by
  -- There a node is shown for its own sake only, and the first list holds the sorted order.
  have shown : browser.isShown = published.isVisible := by
    funext number
    simp [isShown, active, Listing.isShown, flat]
  have first : browser.children none = browser.listing.sorted := by
    simp [children, snapshot?_of_active active, Listing.children, flat]
  have displayed : browser.displayOrder = browser.listing.sorted.filter published.isVisible := by
    simp [displayOrder, active, Listing.displayOrder, flat]
  rw [rows, if_pos flat, shown, first, displayed]

/-- In a tree the visible nodes are displayed in the order of the tree. -/
theorem displayOrder_of_tree (active : browser.stage.active = some published)
    (tree : browser.listing.isFlat = false) :
    browser.displayOrder = published.snapshot.treeOrder.filter browser.isVisible := by
  -- In a tree the nodes stand in the tree's own order.
  simp [displayOrder_eq, order, snapshot?_of_active active, tree]

section Tree

variable (active : browser.stage.active = some published) (built : published.snapshot.Built)
  (fresh : Fresh browser.listing published) (tree : browser.listing.isFlat = false)

include active built tree in
/-- The nodes of the rows of a tree stand in its order. -/
theorem rows_sublist :
    ((browser.rows collapsed).map (·.node)).Sublist published.snapshot.treeOrder := by
  -- The walk of the rows is the walk of the tree with some branches left out.
  have found := snapshot?_of_active active
  have preOrder : published.snapshot.PreOrder (published.snapshot.children none)
      published.snapshot.treeOrder := built.listed.preOrder_treeOrder
  apply (outline_rows built.listed found tree).sublist found tree
  simpa [children_of_tree tree found, Function.comp_def] using preOrder

include active built tree in
/-- The visible nodes of the rows of a tree are displayed in that order. -/
theorem visible_rows_sublist :
    (((browser.rows collapsed).map (·.node)).filter browser.isVisible).Sublist
      browser.displayOrder := by
  -- Leaving out the same nodes on both sides keeps one a part of the other.
  rw [displayOrder_of_tree active tree]
  exact (rows_sublist active built tree).filter _

include active built fresh tree in
/-- A shown node of a tree has a row, if no row of a node above is collapsed. -/
theorem mem_rows_of_expanded {number : Nat} {above : List Nat}
    (lineage : published.snapshot.Lineage number above) (shown : browser.isShown number = true)
    (expands : ∀ up ∈ above, ∀ row ∈ browser.rows collapsed, row.node = up →
      row.hasChildren = true → row.isExpanded = true) :
    number ∈ (browser.rows collapsed).map (·.node) := by
  -- Down the lineage no row is collapsed, and each node on the way is shown for the sake of the
  -- last.
  have found := snapshot?_of_active active
  have member := (outline_rows built.listed found tree).mem_of_lineage found tree
    (fun _ _ inList => fresh.isShown_up active built.listed tree inList) lineage shown expands
  exact List.mem_map.mpr ⟨_, member, rfl⟩

include active built tree in
/-- A row is expanded exactly if it has children and its node is open. -/
theorem isExpanded_iff_of_mem_rows {row : Row} (member : row ∈ browser.rows collapsed) :
    row.isExpanded = true ↔
      row.hasChildren = true ∧ published.snapshot.IsOpen collapsed row.node := by
  -- A row is the row of its node, which tells when it is expanded.
  have found := snapshot?_of_active active
  obtain ⟨_, same, _⟩ := (outline_rows built.listed found tree).lineage found tree member
  rw [same]
  exact isExpanded_row_iff found

include active built fresh tree in
/-- A node has a row exactly if it is shown and all that stand above it are open. -/
theorem mem_rows_iff (number : Nat) :
    number ∈ (browser.rows collapsed).map (·.node) ↔ browser.isShown number = true ∧
      ∃ above, published.snapshot.Lineage number above ∧
        ∀ up ∈ above, published.snapshot.IsOpen collapsed up := by
  have found := snapshot?_of_active active
  constructor
  · intro member
    obtain ⟨row, inRows, rfl⟩ := List.mem_map.mp member
    obtain ⟨shown, _, above, lineage, _, opens⟩ :=
      (outline_rows built.listed found tree).lineage found tree inRows
    exact ⟨shown, above, lineage, opens⟩
  · -- A row above that has children is expanded, as its node is open.
    rintro ⟨shown, above, lineage, opens⟩
    apply mem_rows_of_expanded active built fresh tree lineage shown
    rintro _ isAbove row member rfl hasChildren
    exact (isExpanded_iff_of_mem_rows active built tree member).mpr ⟨hasChildren, opens _ isAbove⟩

include active built fresh tree in
/-- Where every row that has children is expanded, every visible node has a row. -/
theorem displayOrder_subset_rows
    (expanded : ∀ row ∈ browser.rows collapsed, row.hasChildren = true → row.isExpanded = true) :
    browser.displayOrder ⊆ ((browser.rows collapsed).map (·.node)).filter browser.isVisible := by
  have listed := built.listed
  intro number displayed
  rw [displayOrder_of_tree active tree] at displayed
  obtain ⟨inTree, isVisible⟩ := List.mem_filter.mp displayed
  have within := List.mem_range.mp (built.treeOrder_perm.mem_iff.mp inTree)
  obtain ⟨above, lineage⟩ := built.exists_lineage within
  -- A visible node is shown for its own sake.
  have shown : browser.isShown number = true := by
    rw [fresh.isShown_iff active listed tree]
    exact ⟨number, .refl, by simpa [Browser.isVisible, active] using isVisible⟩
  have member := mem_rows_of_expanded active built fresh tree lineage shown
    fun _ _ row inRows _ hasChildren => expanded row inRows hasChildren
  exact List.mem_filter.mpr ⟨member, isVisible⟩

include active built fresh tree in
/-- Where every row that has children is expanded, the visible nodes of the rows are displayed. -/
theorem visible_rows_eq
    (expanded : ∀ row ∈ browser.rows collapsed, row.hasChildren = true → row.isExpanded = true) :
    ((browser.rows collapsed).map (·.node)).filter browser.isVisible = browser.displayOrder := by
  -- What is displayed, none of it twice, is among the nodes that stand there in its order.
  have distinct : browser.displayOrder.Nodup := by
    rw [displayOrder_of_tree active tree]
    exact (built.treeOrder_perm.nodup_iff.mpr List.nodup_range).filter _
  have subset := displayOrder_subset_rows active built fresh tree expanded
  exact (visible_rows_sublist active built tree).eq_of_length_le (distinct.subperm subset).length_le

end Tree

/-- The table of a browser that displays a built snapshot, whose marks are fresh and whose order is
that of its sorting, lists what is shown below no collapsed node. -/
theorem rows_outlines (active : browser.stage.active = some published)
    (built : published.snapshot.Built)
    (sorted : browser.listing.sorted = published.snapshot.sorted browser.listing.sorting)
    (fresh : Fresh browser.listing published) (collapsed : List UInt32) :
    Outlines browser published collapsed := by
  have found := snapshot?_of_active active
  have listed := built.listed
  constructor
  · exact rows_of_flat active
  · intro tree
    exact ⟨_, listed.preOrder_treeOrder, rows_sublist active built tree⟩
  · cases flat : browser.listing.isFlat with
    | true =>
      -- A list shows every node at most once; a tree shows a part of the pre-order, which has none
      -- twice.
      have distinct := (displayOrder_perm active built sorted).nodup_iff.mpr
        (List.nodup_range.filter _)
      simpa [rows_of_flat active flat, Function.comp_def] using distinct
    | false =>
      have distinct := built.treeOrder_perm.nodup_iff.mpr List.nodup_range
      exact distinct.sublist (rows_sublist active built flat)
  · exact mem_rows_iff active built fresh
  · intro tree row member above lineage levels
    -- One line of nodes stands above a node, so that it is the one that the walk counted.
    obtain ⟨_, _, line, stands, depth, _⟩ :=
      (outline_rows listed found tree).lineage found tree member
    rw [depth, listed.lineage_unique stands lineage, UInt16.toNat_ofNat']
    omega
  · intro tree row member
    -- A row tells of children that are on display, and in a tree those are all of the node.
    obtain ⟨_, same, _⟩ := (outline_rows listed found tree).lineage found tree member
    rw [same, hasChildren_row_iff, children_of_tree tree found]
    rfl
  · intro tree row member
    exact isExpanded_iff_of_mem_rows active built tree member
  · cases flat : browser.listing.isFlat with
    | true => simp [rows_of_flat active flat, Function.comp_def, displayOrder_filter]
    | false => exact visible_rows_sublist active built flat
  · intro expanded
    cases flat : browser.listing.isFlat with
    | true => simp [rows_of_flat active flat, Function.comp_def, displayOrder_filter]
    | false => exact visible_rows_eq active built fresh flat expanded
  · exact exported_of_active active
  · exact selection_of_active active

end AnyZone

/-- A device below a collapsed one has no row, and what is behind it has one. The collapsed one does
not match the search and is shown for what is below it. -/
theorem rows_outlines_hub : ∃ published,
    (hubBrowser .standard).stage.active = some published ∧ published.snapshot.Built ∧
    (hubBrowser .standard).listing.sorted = published.snapshot.sorted .standard ∧
    Fresh (hubBrowser .standard).listing published ∧
    (hubBrowser .standard).rows (Listing.hubBuilt.hash? 0).toList =
      [⟨1, 0, true, true⟩, ⟨0, 1, true, false⟩, ⟨2, 1, false, false⟩] ∧
    (hubBrowser .standard).displayOrder = [1, 3, 2] ∧
    Outlines (hubBrowser .standard) published (Listing.hubBuilt.hash? 0).toList := by
  obtain ⟨published, active, built, sorted, fresh⟩ := hubBrowser_display .standard
  -- The hub is the node with the lowest checksum, and it is the one that is collapsed.
  exact ⟨published, active, built, sorted, fresh, by decide +kernel, by decide +kernel,
    rows_outlines active built sorted fresh _⟩

end Browser

end DeviceBrowser
