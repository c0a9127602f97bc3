import DeviceBrowser.Proofs.Browser.Coherence
import DeviceBrowser.Proofs.Snapshot.Walk
import DeviceBrowser.Screen.Row

/-! The rows of the table depend on what is listed and visible only, they are listed to the end, and
the node of each can be read. -/

namespace DeviceBrowser.Browser

variable {zone : Zone}

/-- Browsers that list the same nodes, with the same checksums and the same nodes shown, have the
same rows. -/
theorem rows_congr {left right : Browser} (flat : left.listing.isFlat = right.listing.isFlat)
    (children : left.children = right.children)
    (hash : ∀ number, left.snapshot?.bind (·.hash? number) =
      right.snapshot?.bind (·.hash? number))
    (size : left.snapshot?.map (·.size) = right.snapshot?.map (·.size))
    (shown : ∀ number, left.isShown number = right.isShown number) (collapsed : List UInt32) :
    left.rows collapsed = right.rows collapsed := by
  have isShown : left.isShown = right.isShown := funext shown
  have row : left.row collapsed = right.row collapsed := by
    funext node depth
    rw [Browser.row, Browser.row, hash, children, isShown]
  have walk : ∀ steps work,
      left.rowsFrom collapsed steps work = right.rowsFrom collapsed steps work := by
    intro steps
    induction steps with
    | zero =>
      intro work
      rfl
    | succ steps ih =>
      intro work
      cases work with
      | nil => rfl
      | cons first rest => simp only [rowsFrom, isShown, row, children, ih]
  -- The walk has a step for each node.
  simp only [rows, flat, children, isShown, walk]
  revert size
  cases left.snapshot? <;> cases right.snapshot? <;> simp +contextual

/-- Browsers that display one snapshot in one listing, with the same nodes shown, have the same
rows. -/
theorem rows_of_same_snapshot {left right : Browser} (snapshot : left.snapshot? = right.snapshot?)
    (listing : left.listing = right.listing)
    (shown : ∀ number, left.isShown number = right.isShown number) (collapsed : List UInt32) :
    left.rows collapsed = right.rows collapsed := by
  -- A walk asks for the nodes below, whether they are shown and how many there are.
  apply rows_congr (by rw [listing]) _ (by simp [snapshot]) (by rw [snapshot]) shown
  funext parent
  rw [Browser.children, Browser.children, snapshot, listing]

/-- A change of the display that leaves the snapshot and what is visible leaves the rows. -/
theorem rows_update (browser : Browser) {change : Published → Published}
    (snapshot : ∀ published, (change published).snapshot = published.snapshot)
    (visible : ∀ published,
      (change published).states.map (·.visible) = published.states.map (·.visible))
    (collapsed : List UInt32) :
    rows { browser with stage := browser.stage.update change } collapsed =
      browser.rows collapsed := by
  -- Whether a node is shown depends on the listing and on what is visible.
  apply rows_of_same_snapshot
  · simp [snapshot?, Stage.snapshot?, Stage.update, Function.comp_def, snapshot]
  · rfl
  · intro number
    have same : ∀ published, (change published).isVisible number = published.isVisible number := by
      intro published
      rw [Published.isVisible_eq, visible, ← Published.isVisible_eq]
    cases active : browser.stage.active with
    | none => simp [isShown, Stage.update, active]
    | some published => simp [isShown, Stage.update, Listing.isShown, active, same]

/-- Selecting a node leaves the rows. -/
@[simp] theorem rows_select (browser : Browser) (number : Nat) (selected : Bool)
    (collapsed : List UInt32) :
    (browser.select number selected).rows collapsed = browser.rows collapsed := by
  -- Only the selected flag is written, which no row asks for.
  apply rows_update
  · intro published
    rfl
  · intro published
    exact published.visible_select number selected

/-- Emptying the selection leaves the rows. -/
@[simp] theorem rows_clearSelection (browser : Browser) (collapsed : List UInt32) :
    browser.clearSelection.rows collapsed = browser.rows collapsed := by
  -- Only selected flags are written, which no row asks for.
  apply rows_update
  · intro published
    rfl
  · intro published
    exact published.visible_clearSelection

/-- Time passing leaves the rows. -/
@[simp] theorem rows_tick (browser : Browser) (elapsed : Duration) (collapsed : List UInt32) :
    (browser.tick elapsed).2.rows collapsed = browser.rows collapsed := by
  -- Time touches highlights only.
  apply rows_of_same_snapshot
  · rfl
  · rfl
  · intro number
    rfl

/-! ## The walk -/

variable {browser : Browser} {snapshot : Snapshot} {collapsed : List UInt32}

/-- In a tree the nodes below a node are those of the snapshot. -/
theorem children_of_tree (tree : browser.listing.isFlat = false)
    (found : browser.snapshot? = some snapshot) (parent : Option Nat) :
    browser.children parent = snapshot.children parent := by
  -- Only a flat listing keeps the nodes in a list of its own.
  simp [children, Listing.children, found, tree]

/-- The nodes below a node that get rows after it: all of them, or none below a row that is not
expanded. -/
def lower (browser : Browser) (collapsed : List UInt32) (node : Nat) (depth : UInt16) : List Nat :=
  if (browser.row collapsed node depth).isExpanded then browser.children (some node) else []

/-- The rows of nodes at their depths as a recursion: the row of a node that is shown comes first,
then the rows of those below it, if it is expanded, then those of the other nodes. A node that is
not shown has no rows, nor has anything below it. -/
inductive Outline (browser : Browser) (collapsed : List UInt32) :
    List (Nat × UInt16) → List Row → Prop
  | done : Outline browser collapsed [] []
  | hide {node : Nat} {depth : UInt16} {rest : List (Nat × UInt16)} {rows : List Row}
      (hidden : browser.isShown node = false) (on : Outline browser collapsed rest rows) :
      Outline browser collapsed ((node, depth) :: rest) rows
  | list {node : Nat} {depth : UInt16} {rest : List (Nat × UInt16)} {below after : List Row}
      (shown : browser.isShown node = true)
      (down : Outline browser collapsed
        ((browser.lower collapsed node depth).map (·, depth + 1)) below)
      (on : Outline browser collapsed rest after) :
      Outline browser collapsed ((node, depth) :: rest)
        (browser.row collapsed node depth :: (below ++ after))

/-- The rows of two lists of nodes in a row are those of the first, then those of the second. -/
theorem Outline.split {front back : List (Nat × UInt16)} {rows : List Row}
    (outline : browser.Outline collapsed (front ++ back) rows) :
    ∃ first second, rows = first ++ second ∧ browser.Outline collapsed front first ∧
      browser.Outline collapsed back second := by
  -- By induction on what waits in front, each part of which has its rows before those of the back.
  induction front generalizing rows with
  | nil => exact ⟨[], rows, rfl, .done, outline⟩
  | cons item rest ih =>
    cases outline with
    | hide hidden on =>
      obtain ⟨first, second, rfl, ofRest, ofBack⟩ := ih on
      exact ⟨first, second, rfl, .hide hidden ofRest, ofBack⟩
    | @list node depth _ below after shown down on =>
      obtain ⟨first, second, rfl, ofRest, ofBack⟩ := ih on
      exact ⟨_, second, by simp, .list shown down ofRest, ofBack⟩

/-- The recursion gives no other rows. -/
theorem Outline.unique {work : List (Nat × UInt16)} {left right : List Row}
    (first : browser.Outline collapsed work left) (second : browser.Outline collapsed work right) :
    left = right := by
  -- Whether a node is shown decides which way the recursion goes.
  induction first generalizing right with
  | done =>
    cases second
    rfl
  | hide hidden _ ih =>
    cases second with
    | hide _ on => exact ih on
    | list shown => rw [hidden] at shown; cases shown
  | list shown _ _ downCase onCase =>
    cases second with
    | hide hidden => rw [shown] at hidden; cases hidden
    | list _ down on => rw [downCase down, onCase on]

/-- What holds of the nodes that wait at their depths, and below each node whose row is expanded,
holds of the node of each row, which is shown; and the row is that node's. -/
theorem Outline.of_mem {P : Nat → UInt16 → Prop} {work : List (Nat × UInt16)} {rows : List Row}
    (below : ∀ node depth, P node depth → (browser.row collapsed node depth).isExpanded = true →
      ∀ child ∈ browser.children (some node), P child (depth + 1))
    (outline : browser.Outline collapsed work rows) (starts : ∀ item ∈ work, P item.1 item.2) :
    ∀ row ∈ rows, P row.node row.depth ∧ browser.isShown row.node = true ∧
      row = browser.row collapsed row.node row.depth := by
  induction outline with
  | done => simp
  | hide _ _ ih => exact ih (List.forall_mem_cons.mp starts).2
  | @list node depth _ _ _ shown _ _ downCase onCase =>
    obtain ⟨first, others⟩ := List.forall_mem_cons.mp starts
    have lower : ∀ item ∈ (browser.lower collapsed node depth).map (·, depth + 1),
        P item.1 item.2 := by
      intro item waits
      obtain ⟨child, member, rfl⟩ := List.mem_map.mp waits
      rw [Browser.lower] at member
      split at member
      · rename_i expanded
        exact below node depth first expanded child member
      · cases member
    -- The row is that of the node itself, one below it, or one of what waits behind.
    intro row member
    rcases List.mem_cons.mp member with rfl | later
    · exact ⟨first, shown, rfl⟩
    · rcases List.mem_append.mp later with inBelow | inAfter
      · exact downCase lower row inBelow
      · exact onCase others row inAfter

/-- A walk that has steps for all nodes not met yet lists the rows that the recursion gives. -/
theorem outline_rowsFrom (listed : snapshot.Listed) (found : browser.snapshot? = some snapshot)
    (tree : browser.listing.isFlat = false) {steps : Nat} {met : List Nat}
    {work : List (Nat × UInt16)} (underway : snapshot.Underway met (work.map (·.1)))
    (enough : snapshot.size ≤ met.length + steps) :
    browser.Outline collapsed work (browser.rowsFrom collapsed steps work) := by
  -- The induction is on the steps, and each step meets a node that was not met before.
  induction steps generalizing met work with
  | zero =>
    -- Every node was met, and so none waits.
    have counted := underway.length_le
    rw [List.length_map] at counted
    have empty : work = [] := List.eq_nil_of_length_eq_zero (by omega)
    rw [empty]
    exact .done
  | succ steps ih =>
    cases work with
    | nil => exact .done
    | cons first rest =>
      obtain ⟨node, depth⟩ := first
      have left : snapshot.size ≤ (node :: met).length + steps := by
        rw [List.length_cons]
        omega
      simp only [rowsFrom]
      split
      · rename_i shown
        -- Below a node that is not expanded the walk does not go.
        have onwards : snapshot.Underway (node :: met)
            (((browser.lower collapsed node depth).map (·, depth + 1) ++ rest).map (·.1)) := by
          rw [lower]
          split
          · simpa [children_of_tree tree found, Function.comp_def] using underway.descend listed
          · exact underway.pass
        obtain ⟨below, after, same, down, on⟩ := (ih onwards left).split
        rw [lower] at same
        rw [same]
        exact .list shown down on
      · rename_i hidden
        exact .hide (Bool.eq_false_iff.mpr hidden) (ih underway.pass left)

/-- A walk that has a step for each node lists the rows that the recursion gives down from the
roots. -/
theorem outline_roots (listed : snapshot.Listed) (found : browser.snapshot? = some snapshot)
    (tree : browser.listing.isFlat = false) {steps : Nat} (enough : snapshot.size ≤ steps) :
    browser.Outline collapsed ((browser.children none).map (·, 0))
      (browser.rowsFrom collapsed steps ((browser.children none).map (·, 0))) := by
  -- At the start the roots wait.
  refine outline_rowsFrom listed found tree (?_ : snapshot.Underway [] _) ?_
  · simpa [children_of_tree tree found, Function.comp_def] using listed.underway
  · simpa using enough

/-- The rows of a tree are those that the recursion gives down from the roots. -/
theorem outline_rows (listed : snapshot.Listed) (found : browser.snapshot? = some snapshot)
    (tree : browser.listing.isFlat = false) :
    browser.Outline collapsed ((browser.children none).map (·, 0)) (browser.rows collapsed) := by
  -- The rows are a walk with a step for each node, which is enough to end it.
  have walk : browser.rows collapsed = browser.rowsFrom collapsed snapshot.size
      ((browser.children none).map (·, 0)) := by
    simp [rows, tree, found]
  rw [walk]
  exact outline_roots listed found tree (Nat.le_refl _)

/-- The rows of a tree are those of a walk that goes on until no node waits: a step for each node is
enough for it. -/
theorem rows_ended (listed : snapshot.Listed) (found : browser.snapshot? = some snapshot)
    (tree : browser.listing.isFlat = false) {steps : Nat} (enough : snapshot.size ≤ steps) :
    browser.rowsFrom collapsed steps ((browser.children none).map (·, 0)) =
      browser.rows collapsed :=
  -- Both walks end, and the outline has only one list of rows.
  (outline_roots listed found tree enough).unique (outline_rows listed found tree)

/-! ## What can be read -/

/-- A number can be read on display: it is that of a node, which has a state, a mark and a
device. -/
structure Readable (listing : Listing) (published : Published) (number : Nat) : Prop where
  node : number < published.snapshot.size
  state : number < published.states.size
  mark : number < listing.shown.size
  device : ∃ device, published.snapshot.device? number = some device

/-- A browser holds a number that can be read on its display. -/
def Holds (browser : Browser) (number : Nat) : Prop :=
  ∃ published, browser.stage.active = some published ∧ Readable browser.listing published number

/-- A sound browser holds the nodes of its snapshot. -/
theorem Sound.holds {text : String} (sound : Sound text browser) {published : Published}
    (active : browser.stage.active = some published) {number : Nat}
    (within : number < published.snapshot.size) : browser.Holds number := by
  -- States and marks are as many as nodes.
  refine ⟨published, active, within, ?_, ?_, ?_⟩
  · rw [sound.size published active]
    exact within
  · rw [(sound.fresh published active).shown]
    simpa [marks] using within
  · exact (sound.built published.snapshot (snapshot?_of_active active)).device within

/-- A sound browser holds the nodes that it lists. -/
theorem Sound.holds_children {text : String} (sound : Sound text browser) {parent : Option Nat}
    {child : Nat} (member : child ∈ browser.children parent) : browser.Holds child := by
  cases active : browser.stage.active with
  | none => simp [children, snapshot?, Stage.snapshot?, active] at member
  | some published =>
    have displayed := snapshot?_of_active active
    apply sound.holds active
    cases flat : browser.listing.isFlat with
    | true =>
      -- A flat listing holds the numbers in their order, and nothing below a node.
      have isListed : child ∈ browser.listing.sorted := by
        cases parent <;> simp [children, displayed, Listing.children, flat] at member
        exact member
      rw [sound.sorted_eq displayed] at isListed
      exact List.mem_range.mp ((published.snapshot.sorted_perm flat).mem_iff.mp isListed)
    | false =>
      rw [children_of_tree flat displayed] at member
      exact (sound.built _ displayed).listed.lt_size member

/-- A sound browser holds the node of each row. -/
theorem Sound.holds_rows {text : String} (sound : Sound text browser) {row : Row}
    (member : row ∈ browser.rows collapsed) : browser.Holds row.node := by
  cases found : browser.snapshot? with
  | none => simp [rows, rowsFrom, children, found] at member
  | some snapshot =>
    cases flat : browser.listing.isFlat with
    | true =>
      -- Rows of a flat listing are those listed first.
      rw [rows, if_pos flat] at member
      obtain ⟨number, shown, rfl⟩ := List.mem_map.mp member
      exact sound.holds_children (List.mem_of_mem_filter shown)
    | false =>
      -- The recursion goes down from the roots to nodes that are listed.
      have outline : browser.Outline collapsed _ _ :=
        outline_rows (sound.built snapshot found).listed found flat
      have holds := outline.of_mem (P := fun node _ => browser.Holds node)
        (fun _ _ _ _ _ inList => sound.holds_children inList)
        (by
          intro item starts
          obtain ⟨root, inList, rfl⟩ := List.mem_map.mp starts
          exact sound.holds_children inList)
      exact (holds row member).1

end DeviceBrowser.Browser
