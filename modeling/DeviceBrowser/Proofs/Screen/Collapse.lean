import DeviceBrowser.Proofs.Browser.Block
import DeviceBrowser.Proofs.Screen.Rows

/-! Collapsing a row takes out the block of deeper rows behind it, and expanding it brings them
back: toggling a row twice changes nothing. -/

namespace DeviceBrowser

namespace Snapshot

variable {snapshot : Snapshot} {node : Nat} {hash : UInt32} {collapsed : List UInt32}

/-- A node is open where its checksum is not collapsed. -/
theorem isOpen_iff (present : snapshot.hash? node = some hash) :
    snapshot.IsOpen collapsed node ↔ hash ∉ collapsed := by
  -- The node has just this checksum to be looked for among the collapsed ones.
  simp [IsOpen, present]

/-- Each node has a checksum. -/
theorem exists_hash (within : node < snapshot.size) : ∃ hash, snapshot.hash? node = some hash :=
  -- Within the size there is a node, and its checksum is a part of it.
  ⟨_, by rw [hash?, node?, Array.getElem?_eq_getElem within, Option.map_some]⟩

/-- Sets of collapsed checksums that differ by that of one node alone differ by that node. -/
theorem shuts_of_hash {wide narrow : List UInt32} (present : snapshot.hash? node = some hash)
    (unique : ∀ other, snapshot.hash? other = snapshot.hash? node → other = node)
    (others : ∀ other ≠ hash, (other ∈ wide ↔ other ∈ narrow)) (absent : hash ∉ wide)
    (member : hash ∈ narrow) : snapshot.Shuts wide narrow node where
  -- Another node has another checksum, about which the two sets agree.
  others := by
    intro number isOther
    have agree : ∀ other, snapshot.hash? number = some other → (other ∈ wide ↔ other ∈ narrow) := by
      intro other found
      refine others other fun same => isOther (unique number ?_)
      rw [found, present, same]
    exact forall₂_congr fun other found => not_congr (agree other found)
  wide := (isOpen_iff present).mpr absent
  narrow := fun isOpen => (isOpen_iff present).mp isOpen member

end Snapshot

namespace Screen

section AnyZone

variable {zone : Zone}

/-! ## Toggling checksums -/

/-- Toggling a checksum changes whether it is collapsed, and that of no other. -/
theorem mem_toggleMember {hashes : List UInt32} {hash other : UInt32} :
    other ∈ toggleMember hashes hash ↔
      (other = hash ∧ hash ∉ hashes) ∨ (other ≠ hash ∧ other ∈ hashes) := by
  -- A contained checksum is filtered out, and a missing one is put in front.
  rw [toggleMember]
  split
  · rename_i contained
    rw [List.contains_iff_mem] at contained
    simp [contained, and_comm]
  · rename_i missing
    rw [List.contains_iff_mem] at missing
    by_cases same : other = hash <;> simp [missing, same]

/-- Toggling a checksum twice brings back what was collapsed. -/
theorem mem_toggleMember_twice {hashes : List UInt32} {hash other : UInt32} :
    other ∈ toggleMember (toggleMember hashes hash) hash ↔ other ∈ hashes := by
  -- The checksum itself goes and comes back, and the others stay both times.
  by_cases same : other = hash <;> simp [mem_toggleMember, same]

section Shuts

variable {snapshot : Snapshot} {node : Nat} {hash : UInt32}
  (present : snapshot.hash? node = some hash)
  (unique : ∀ other, snapshot.hash? other = snapshot.hash? node → other = node)
include present unique

/-- Toggling the checksum of an open node collapses that node alone. -/
theorem shuts_toggleMember {collapsed : List UInt32} (absent : hash ∉ collapsed) :
    snapshot.Shuts collapsed (toggleMember collapsed hash) node :=
  -- The open checksum is put in, and all others stay as they are.
  Snapshot.shuts_of_hash present unique
    (fun other isOther => by simp [mem_toggleMember, isOther]) absent
    (mem_toggleMember.mpr (.inl ⟨rfl, absent⟩))

/-- Toggling the checksum of a collapsed node opens that node alone. -/
theorem toggleMember_shuts {collapsed : List UInt32} (member : hash ∈ collapsed) :
    snapshot.Shuts (toggleMember collapsed hash) collapsed node :=
  -- The collapsed checksum is taken out, and all others stay as they are.
  Snapshot.shuts_of_hash present unique
    (fun other isOther => by simp [mem_toggleMember, isOther])
    (fun toggled => by simp [mem_toggleMember, member] at toggled) member

end Shuts

/-! ## Toggling rows -/

section Toggle

variable {screen : Screen} {position : Nat} {row : Row} {hash : UInt32}
  (here : screen.rows[position]? = some row)
include here

/-- A row without children is not toggled. -/
theorem toggleRow_leaf (leaf : row.hasChildren = false) : screen.toggleRow position = screen := by
  -- Only a row with children is toggled.
  simp [toggleRow, here, leaf]

/-- Toggling a row with children toggles its checksum, and the rows are listed anew. -/
theorem toggleRow_inner (children : row.hasChildren = true)
    (present : screen.hash? row.node = some hash) :
    screen.toggleRow position =
      relist { screen with collapsed := toggleMember screen.collapsed hash } := by
  -- The row is there, it has children, and its node has a checksum.
  simp [toggleRow, here, children, present]

/-- Where the toggled row is still that of its node, toggling it once more undoes the first time. -/
theorem toggleRow_twice (sound : screen.Sound) (children : row.hasChildren = true)
    (present : screen.hash? row.node = some hash) {next : Row}
    (there : (screen.toggleRow position).rows[position]? = some next) (same : next.node = row.node)
    (nextChildren : next.hasChildren = true) :
    ((screen.toggleRow position).toggleRow position).rows = screen.rows ∧
      ∀ other, other ∈ ((screen.toggleRow position).toggleRow position).collapsed ↔
        other ∈ screen.collapsed := by
  have first := toggleRow_inner here children present
  have again : (screen.toggleRow position).hash? next.node = some hash := by
    rw [first, same]
    exact present
  have second := toggleRow_inner there nextChildren again
  -- The collapsed checksums come back in another order at most, which no row depends on.
  rw [second, first]
  refine ⟨?_, fun other => mem_toggleMember_twice⟩
  rw [sound.rows]
  exact Browser.rows_of_mem_iff screen.browser fun other => mem_toggleMember_twice

end Toggle

/-- Where no node has two rows, a row of the node at which a list of rows is split stands there. -/
theorem position_eq {rows front tail : List Row} {position : Nat} {row split : Row}
    (parts : rows = front ++ split :: tail) (distinct : (rows.map (·.node)).Nodup)
    (here : rows[position]? = some row) (same : row.node = split.node) :
    position = front.length ∧ row = split := by
  -- Two rows of one node would be at one place.
  have there : rows[front.length]? = some split := by simp [parts]
  have within : position < (rows.map (·.node)).length := by
    rw [List.length_map]
    exact (List.getElem?_eq_some_iff.mp here).1
  have equal : position = front.length := by
    refine (List.getElem?_inj within distinct).mp ?_
    rw [List.getElem?_map, List.getElem?_map, here, there, Option.map_some, Option.map_some, same]
  rw [equal, there] at here
  exact ⟨equal, (Option.some.inj here).symm⟩

/-- What follows from toggling a row with children. If it is expanded, the rows before it stay, it
is expanded no more, and the run of rows behind it that stand deeper than its node, which ends
before the first that does not, is taken out. The depth of a row is the level at which its node
stands, in sixteen bits; where these suffice, the run can be told by the depths alone. Toggling the
row once more brings back the rows and what was collapsed. -/
structure TogglesBlock (screen : Screen) (snapshot : Snapshot) (position : Nat) (row : Row) :
    Prop where
  collapses : row.isExpanded = true → ∃ block rest,
    screen.rows = screen.rows.take position ++ row :: (block ++ rest) ∧
    (screen.toggleRow position).rows =
      screen.rows.take position ++ { row with isExpanded := false } :: rest ∧
    (∀ lower ∈ block, snapshot.Deeper lower.node row.node) ∧
    ∀ next ∈ rest.head?, ¬ snapshot.Deeper next.node row.node
  depth : ∀ other ∈ screen.rows, ∃ level, snapshot.StandsAt other.node level ∧
    other.depth = UInt16.ofNat level
  run : row.isExpanded = true → (∀ other ∈ screen.rows, ∀ level,
      snapshot.StandsAt other.node level → level ≤ 65535) →
    (screen.toggleRow position).rows =
      screen.rows.take position ++ { row with isExpanded := false } ::
        (screen.rows.drop (position + 1)).dropWhile (row.depth < ·.depth)
  rows : ((screen.toggleRow position).toggleRow position).rows = screen.rows
  collapsed : ∀ hash, hash ∈ ((screen.toggleRow position).toggleRow position).collapsed ↔
    hash ∈ screen.collapsed

section Tree

variable {screen : Screen} {published : Published} {position : Nat} {row : Row} {hash : UInt32}
  (sound : screen.Sound) (active : screen.browser.stage.active = some published)
  (here : screen.rows[position]? = some row) (children : row.hasChildren = true)
  (present : published.snapshot.hash? row.node = some hash)
include active present

theorem hash?_of_active : screen.hash? row.node = some hash := by
  -- The screen asks the snapshot on display.
  rw [Screen.hash?, Browser.snapshot?_of_active active]
  exact present

include here children

variable (tree : screen.browser.listing.isFlat = false)
include sound tree

omit here children present in
/-- No node has two rows. -/
theorem rows_nodup : (screen.rows.map (·.node)).Nodup := by
  -- The rows are those of a browser that displays a built snapshot.
  obtain ⟨text, browser⟩ := sound.session.browser
  rw [sound.rows]
  exact Browser.rows_nodup active (browser.built _ (Browser.snapshot?_of_active active)) tree

/-- A row with children is expanded exactly if its checksum is not collapsed. -/
theorem isExpanded_iff_of_hash : row.isExpanded = true ↔ hash ∉ screen.collapsed := by
  -- The row is expanded when it has children and its node is open, and it does have children.
  obtain ⟨text, browser⟩ := sound.session.browser
  have built := browser.built _ (Browser.snapshot?_of_active active)
  have member := List.mem_of_getElem? here
  rw [sound.rows] at member
  rw [Browser.isExpanded_iff_of_mem_rows active built tree member, Snapshot.isOpen_iff present]
  exact and_iff_right children

variable (unique : ∀ other, published.snapshot.hash? other = published.snapshot.hash? row.node →
  other = row.node)
include unique

/-- Toggling an expanded row takes out the block behind it. -/
theorem splits_of_expanded (expanded : row.isExpanded = true) :
    ∃ front depth block rest, position = front.length ∧
      row = screen.browser.row screen.collapsed row.node depth ∧
      screen.browser.Splits published.snapshot screen.collapsed (toggleMember screen.collapsed hash)
        row.node front depth block rest screen.rows (screen.toggleRow position).rows := by
  -- The node is open, so that toggling shuts it; what is taken out stands right behind its only
  -- row.
  obtain ⟨text, browser⟩ := sound.session.browser
  have found := Browser.snapshot?_of_active active
  have built := browser.built _ found
  have absent := (isExpanded_iff_of_hash sound active here children present tree).mp expanded
  have member := List.mem_map_of_mem (f := (·.node)) (List.mem_of_getElem? here)
  rw [sound.rows] at member
  obtain ⟨front, depth, block, rest, splits⟩ := Browser.splits_rows found
    (shuts_toggleMember present unique absent) tree built.listed
    (Browser.rows_nodup active built tree) member
  rw [← sound.rows] at splits
  have distinct := rows_nodup sound active tree
  obtain ⟨isFront, isRow⟩ := position_eq splits.rows distinct here rfl
  rw [toggleRow_inner here children (hash?_of_active active present)]
  exact ⟨front, depth, block, rest, isFront, isRow, splits⟩

/-- Toggling a row with children that is not expanded brings in a block behind it. -/
theorem splits_of_closed (closed : row.isExpanded = false) :
    ∃ front depth block rest, position = front.length ∧
      row = screen.browser.row screen.collapsed row.node depth ∧
      screen.browser.Splits published.snapshot (toggleMember screen.collapsed hash) screen.collapsed
        row.node front depth block rest (screen.toggleRow position).rows screen.rows := by
  obtain ⟨text, browser⟩ := sound.session.browser
  have found := Browser.snapshot?_of_active active
  have built := browser.built _ found
  have member : hash ∈ screen.collapsed := by
    by_contra absent
    have expanded := (isExpanded_iff_of_hash sound active here children present tree).mpr absent
    rw [closed] at expanded
    cases expanded
  have shuts := toggleMember_shuts present unique member
  -- The node keeps its row when it is opened, and so the rows that come of that are split there.
  have inRows := List.mem_map_of_mem (f := (·.node)) (List.mem_of_getElem? here)
  rw [sound.rows] at inRows
  obtain ⟨front, depth, block, rest, splits⟩ := Browser.splits_rows found shuts tree built.listed
    (Browser.rows_nodup active built tree)
    (Browser.mem_rows_wide active built tree (browser.fresh _ active) shuts inRows)
  rw [← sound.rows] at splits
  -- Rows are distinct, so that the split is at the position that was toggled.
  have distinct := rows_nodup sound active tree
  obtain ⟨isFront, isRow⟩ := position_eq splits.others distinct here rfl
  rw [toggleRow_inner here children (hash?_of_active active present)]
  exact ⟨front, depth, block, rest, isFront, isRow, splits⟩

/-- After toggling, a row with children of the same node stands in the same place. -/
theorem toggled_row : ∃ next, (screen.toggleRow position).rows[position]? = some next ∧
    next.node = row.node ∧ next.hasChildren = true := by
  -- Toggling takes a block out behind the row or brings one in there, and what is before the row
  -- stays.
  cases expanded : row.isExpanded with
  | true =>
    obtain ⟨front, depth, block, rest, rfl, isRow, splits⟩ :=
      splits_of_expanded sound active here children present tree unique expanded
    rw [isRow] at children
    refine ⟨screen.browser.row (toggleMember screen.collapsed hash) row.node depth, ?_, rfl,
      children⟩
    simp [splits.others]
  | false =>
    obtain ⟨front, depth, block, rest, rfl, isRow, splits⟩ :=
      splits_of_closed sound active here children present tree unique expanded
    rw [isRow] at children
    refine ⟨screen.browser.row (toggleMember screen.collapsed hash) row.node depth, ?_, rfl,
      children⟩
    simp [splits.rows]

/-- Toggling an expanded row leaves the rows before it and takes out the block behind it. -/
theorem collapses_of_expanded (expanded : row.isExpanded = true) : ∃ block rest,
    screen.rows = screen.rows.take position ++ row :: (block ++ rest) ∧
    (screen.toggleRow position).rows =
      screen.rows.take position ++ { row with isExpanded := false } :: rest ∧
    (∀ lower ∈ block, published.snapshot.Deeper lower.node row.node) ∧
    ∀ next ∈ rest.head?, ¬ published.snapshot.Deeper next.node row.node := by
  -- The rows before are the front of the split, and the row itself changes in its expansion alone.
  obtain ⟨text, browser⟩ := sound.session.browser
  have found := Browser.snapshot?_of_active active
  have absent := (isExpanded_iff_of_hash sound active here children present tree).mp expanded
  have shuts := shuts_toggleMember present unique absent
  obtain ⟨front, depth, block, rest, rfl, isRow, splits⟩ :=
    splits_of_expanded sound active here children present tree unique expanded
  have before : screen.rows.take front.length = front := by rw [splits.rows, List.take_left]
  have shut : screen.browser.row (toggleMember screen.collapsed hash) row.node depth =
      { row with isExpanded := false } := by
    rw [Browser.row_shut found shuts.narrow screen.collapsed, ← isRow]
  refine ⟨block, rest, ?_, ?_, splits.deeper, splits.level⟩
  · rw [before, isRow]
    exact splits.rows
  · rw [before, ← shut]
    exact splits.others

/-- Toggling an expanded row takes out the run of deeper rows behind it, as far as depths can be
counted. -/
theorem dropWhile_of_expanded (expanded : row.isExpanded = true)
    (few : ∀ other ∈ screen.rows, ∀ level,
      published.snapshot.StandsAt other.node level → level ≤ 65535) :
    (screen.toggleRow position).rows =
      screen.rows.take position ++ { row with isExpanded := false } ::
        (screen.rows.drop (position + 1)).dropWhile (row.depth < ·.depth) := by
  obtain ⟨block, rest, parts, toggled, deeper, level⟩ :=
    collapses_of_expanded sound active here children present tree unique expanded
  obtain ⟨text, browser⟩ := sound.session.browser
  have built := browser.built _ (Browser.snapshot?_of_active active)
  -- Whether a row is deeper can be told by its depth.
  have deeper_iff : ∀ other ∈ screen.rows,
      (row.depth < other.depth ↔ published.snapshot.Deeper other.node row.node) := by
    have inRows := List.mem_of_getElem? here
    rw [sound.rows] at few inRows ⊢
    exact fun other member => Browser.depth_lt_iff active built tree inRows member few
  -- The block is passed over, and the first row of the rest stops the run.
  have behind : screen.rows.drop position = row :: (block ++ rest) :=
    List.append_cancel_left ((List.take_append_drop position screen.rows).trans parts)
  have tail : ∀ other ∈ block ++ rest, other ∈ screen.rows := fun other member => by
    rw [parts]
    exact List.mem_append_right _ (List.mem_cons_of_mem _ member)
  have whole : ∀ lower ∈ block, decide (row.depth < lower.depth) = true := fun lower member =>
    decide_eq_true ((deeper_iff lower (tail lower (List.mem_append_left _ member))).mpr
      (deeper lower member))
  have stops : rest.dropWhile (row.depth < ·.depth) = rest := by
    cases rest with
    | nil => rfl
    | cons next _ =>
      have shallow := (deeper_iff next (tail next (by simp))).not.mpr (level next rfl)
      exact List.dropWhile_cons_of_neg (by simpa using shallow)
  rw [toggled, ← List.drop_drop, behind, List.drop_one, List.tail_cons,
    List.dropWhile_append_of_pos whole, stops]

/-- A row with children of a tree toggles a block, if no other node has the checksum of its node. -/
theorem togglesBlock_of_unique : screen.TogglesBlock published.snapshot position row := by
  -- One toggle is read off the split, and two of them cancel out because the row keeps its place.
  obtain ⟨text, browser⟩ := sound.session.browser
  have built := browser.built _ (Browser.snapshot?_of_active active)
  obtain ⟨next, there, same, nextChildren⟩ :=
    toggled_row sound active here children present tree unique
  obtain ⟨rows, collapsed⟩ := toggleRow_twice here sound children (hash?_of_active active present)
    there same nextChildren
  exact
    { collapses := collapses_of_expanded sound active here children present tree unique
      depth := fun other member => by
        rw [sound.rows] at member
        exact Browser.exists_level active built tree member
      run := dropWhile_of_expanded sound active here children present tree unique
      rows
      collapsed }

end Tree

/-- In a tree, toggling a row with children takes out one block or brings it in, if no other node
has the checksum of its node, and doing so twice changes nothing. Toggling a row without children
changes nothing at once. -/
theorem Reached.toggleRow_block {screen : Screen} (reached : Reached screen) {snapshot : Snapshot}
    (found : screen.browser.snapshot? = some snapshot)
    (tree : screen.browser.listing.isFlat = false) {position : Nat} {row : Row}
    (here : screen.rows[position]? = some row) :
    (row.hasChildren = true →
      (∀ other, snapshot.hash? other = snapshot.hash? row.node → other = row.node) →
        screen.TogglesBlock snapshot position row) ∧
      (row.hasChildren = false → screen.toggleRow position = screen) := by
  refine ⟨fun children unique => ?_, toggleRow_leaf here⟩
  obtain ⟨published, active, rfl⟩ := Option.map_eq_some_iff.mp found
  -- The node of a row is on display, and so it has a checksum.
  obtain ⟨_, active', readable⟩ := reached.current.held row (List.mem_of_getElem? here)
  rw [active] at active'
  obtain rfl := Option.some.inj active'
  obtain ⟨hash, present⟩ := Snapshot.exists_hash readable.node
  exact togglesBlock_of_unique reached.sound active here children present tree unique

end AnyZone

/-- Collapsing the device between two others takes out the one below it. -/
theorem toggleRow_block_hub :
    hubScreen.rows =
      [⟨1, 0, true, true⟩, ⟨0, 1, true, true⟩, ⟨3, 2, false, false⟩, ⟨2, 1, false, false⟩] ∧
    (hubScreen.toggleRow 1).rows =
      [⟨1, 0, true, true⟩, ⟨0, 1, true, false⟩, ⟨2, 1, false, false⟩] ∧
    hubScreen.TogglesBlock Listing.hubBuilt 1 ⟨0, 1, true, true⟩ ∧
    hubScreen.toggleRow 3 = hubScreen := by
  have displayed : hubScreen.browser.snapshot? = some Listing.hubBuilt := rfl
  have tree : hubScreen.browser.listing.isFlat = false := by decide +kernel
  have inner : hubScreen.rows[1]? = some ⟨0, 1, true, true⟩ := by decide +kernel
  have leaf : hubScreen.rows[3]? = some ⟨2, 1, false, false⟩ := by decide +kernel
  -- The four checksums are compared, and beyond them no number has one.
  have unique : ∀ other, Listing.hubBuilt.hash? other = Listing.hubBuilt.hash? 0 → other = 0 := by
    have ofNodes : ∀ other : Fin 4, Listing.hubBuilt.hash? other = Listing.hubBuilt.hash? 0 →
        (other : Nat) = 0 := by decide +kernel
    intro other same
    rcases Nat.lt_or_ge other Listing.hubBuilt.size with within | beyond
    · exact ofNodes ⟨other, within⟩ same
    · have absent : Listing.hubBuilt.hash? other = none := by
        rw [Snapshot.hash?, Snapshot.node?, Array.getElem?_eq_none beyond, Option.map_none]
      rw [absent] at same
      cases same
  exact ⟨by decide +kernel, by decide +kernel,
    (reached_hubScreen.toggleRow_block displayed tree inner).1 rfl unique,
    (reached_hubScreen.toggleRow_block displayed tree leaf).2 rfl⟩

end Screen

end DeviceBrowser
