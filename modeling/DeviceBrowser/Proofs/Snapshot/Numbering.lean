import DeviceBrowser.Proofs.Snapshot.Branches

/-! Numbering branches: each node is linked to the nodes of the devices right below it, and to that
of the device right above it. -/

namespace DeviceBrowser.Numbering

open Branch (forest_induction positions size sizeAll tops)

variable (numbering : Numbering)

/-- The nodes of branches start with that of the first top, before those below it. -/
theorem nodesAll_cons (parent : Option Nat) (first position : Nat) (below rest : List Branch) :
    numbering.nodesAll parent first (.node position below :: rest) =
      { position :=
  -- Numbers are given out top first, then below it, and then to the branches behind.
  position
        hash := numbering.hashOf position
        parent := parent
        children := numbering.arrange (tops (first + 1) below) } ::
      (numbering.nodesAll (some first) (first + 1) below ++
        numbering.nodesAll parent (first + 1 + sizeAll below) rest) := by
  simp [nodesAll, nodes, size, Nat.add_assoc]

/-- Branches have the nodes of their devices. -/
theorem map_position_nodesAll (parent : Option Nat) (first : Nat) (branches : List Branch) :
    (numbering.nodesAll parent first branches).map (·.position) = positions branches := by
  -- By induction on the forest: nodes and positions come in the same order, whatever the numbers
  -- are.
  induction branches using forest_induction generalizing parent first with
  | nil => simp [nodesAll, positions]
  | cons position below rest belowCase restCase =>
    simp [nodesAll_cons, positions, belowCase, restCase]

/-- Branches have as many nodes as devices. -/
@[simp] theorem length_nodesAll (parent : Option Nat) (first : Nat) (branches : List Branch) :
    (numbering.nodesAll parent first branches).length = sizeAll branches := by
  -- There is one node for each position.
  rw [← Branch.length_positions, ← numbering.map_position_nodesAll parent first, List.length_map]

/-- A node of branches has the checksum of its device. -/
theorem hash_of_mem {parent : Option Nat} {first : Nat} {branches : List Branch} {node : Node}
    (member : node ∈ numbering.nodesAll parent first branches) :
    node.hash = numbering.hashOf node.position := by
  -- The induction follows the branches: the top's node is made with its checksum.
  induction branches using forest_induction generalizing parent first with
  | nil => simp [nodesAll] at member
  | cons position below rest belowCase restCase =>
    rw [nodesAll_cons, List.mem_cons, List.mem_append] at member
    rcases member with rfl | inBelow | inRest
    · rfl
    · exact belowCase inBelow
    · exact restCase inRest

/-- Nodes of branches with their numbers. -/
def numbered (parent : Option Nat) (first : Nat) (branches : List Branch) : List (Node × Nat) :=
  (numbering.nodesAll parent first branches).zipIdx first

/-- The numbers of the nodes with a given parent. -/
def numbersUnder (parent : Option Nat) (numbered : List (Node × Nat)) : List Nat :=
  (numbered.filter fun entry => entry.1.parent = parent).map (·.2)

/-- Numbered from zero on, a node's number is its place. -/
theorem mem_numbered {parent : Option Nat} {branches : List Branch} {node : Node} {number : Nat} :
    (node, number) ∈ numbering.numbered parent 0 branches ↔
      (numbering.nodesAll parent 0 branches)[number]? = some node :=
  List.mk_mem_zipIdx_iff_getElem?

/-- The nodes with a given parent are found by their places. -/
theorem mem_numbersUnder {parent other : Option Nat} {branches : List Branch} {number : Nat} :
    number ∈ numbersUnder other (numbering.numbered parent 0 branches) ↔
      ∃ node, (numbering.nodesAll parent 0 branches)[number]? = some node ∧
        node.parent = other := by
  -- A number is paired with the node whose place it is.
  simp only [numbersUnder, List.mem_map, List.mem_filter, decide_eq_true_eq, Prod.exists,
    mem_numbered]
  constructor
  · rintro ⟨node, _, ⟨found, linked⟩, rfl⟩
    exact ⟨node, found, linked⟩
  · rintro ⟨node, found, linked⟩
    exact ⟨node, number, ⟨found, linked⟩, rfl⟩

/-- No number is used twice. -/
theorem numbersUnder_nodup (parent : Option Nat) (first : Nat) (branches : List Branch)
    (other : Option Nat) :
    (numbersUnder other (numbering.numbered parent first branches)).Nodup := by
  -- Each node is paired with its own place.
  have distinct : ((numbering.numbered parent first branches).map (·.2)).Nodup := by
    rw [numbered, List.zipIdx_map_snd]
    exact List.nodup_range'
  exact distinct.sublist (List.filter_sublist.map _)

/-- Numbering starts at the first top, goes on below it and then with the other branches. -/
theorem numbered_cons (parent : Option Nat) (first position : Nat) (below rest : List Branch) :
    numbering.numbered parent first (.node position below :: rest) =
      ({ position :=
  -- As for the nodes, where the branches behind begin with the number that is next.
  position
         hash := numbering.hashOf position
         parent := parent
         children := numbering.arrange (tops (first + 1) below) }, first) ::
      (numbering.numbered (some first) (first + 1) below ++
        numbering.numbered parent (first + 1 + sizeAll below) rest) := by
  simp [numbered, nodesAll_cons, List.zipIdx_append]

/-- Branches take numbers from the first on, one for each device. -/
theorem number_of_mem {parent : Option Nat} {first number : Nat} {branches : List Branch}
    {node : Node} (member : (node, number) ∈ numbering.numbered parent first branches) :
    first ≤ number ∧ number < first + sizeAll branches := by
  -- The numbers are those of a range as long as the nodes are many.
  have range := List.mem_zipIdx member
  rw [length_nodesAll] at range
  exact ⟨range.1, range.2.1⟩

/-- The parent of a node is the one given for the tops or a node numbered before it. -/
theorem parent_of_mem {parent : Option Nat} {first number : Nat} {branches : List Branch}
    {node : Node} (member : (node, number) ∈ numbering.numbered parent first branches) :
    node.parent = parent ∨ ∃ up, node.parent = some up ∧ first ≤ up ∧ up < number := by
  -- Below a top the given parent is that top, whose number comes before theirs.
  induction branches using forest_induction generalizing parent first with
  | nil => simp [numbered, nodesAll] at member
  | cons position below rest belowCase restCase =>
    rw [numbered_cons, List.mem_cons, List.mem_append] at member
    rcases member with isTop | inBelow | inRest
    · cases isTop
      exact .inl rfl
    · -- Right below the top the parent is the first number.
      have later := (numbering.number_of_mem inBelow).1
      rcases belowCase inBelow with isFirst | ⟨up, linked, behind, before⟩
      · exact .inr ⟨first, isFirst, Nat.le_refl _, later⟩
      · exact .inr ⟨up, linked, by omega, before⟩
    · rcases restCase inRest with isOuter | ⟨up, linked, behind, before⟩
      · exact .inl isOuter
      · exact .inr ⟨up, linked, by omega, before⟩

/-- Outside of the branches, only the parent given for the tops has nodes below it. -/
theorem numbersUnder_outside {parent other : Option Nat} (first : Nat) (branches : List Branch)
    (distinct : parent ≠ other)
    (outside : ∀ up, other = some up → up < first ∨ first + sizeAll branches ≤ up) :
    numbersUnder other (numbering.numbered parent first branches) = [] := by
  -- Any other parent of a node is itself numbered within the branches.
  rw [numbersUnder, List.map_eq_nil_iff, List.filter_eq_nil_iff]
  rintro ⟨node, number⟩ member
  have range := numbering.number_of_mem member
  rcases numbering.parent_of_mem member with isOuter | ⟨up, linked, behind, before⟩
  · simpa [isOuter] using distinct
  · simp only [linked, decide_eq_true_eq]
    intro same
    have apart := outside up same.symm
    omega

/-- The nodes with a given parent are found at the first top, below it and among the other
branches. -/
theorem numbersUnder_cons (parent other : Option Nat) (first position : Nat)
    (below rest : List Branch) :
    numbersUnder other (numbering.numbered parent first (.node position below :: rest)) =
      (if parent = other then [first] else []) ++
        (numbersUnder other (numbering.numbered (some first) (first + 1) below) ++
          numbersUnder other (numbering.numbered parent (first + 1 + sizeAll below) rest)) := by
  -- Each of the three parts is searched for itself, and the first top has the parent of all these
  -- branches.
  rw [numbered_cons]
  by_cases same : parent = other <;> simp [numbersUnder, same]

/-- The nodes with the parent given for the tops are the tops. -/
theorem numbersUnder_parent {parent : Option Nat} (first : Nat) (branches : List Branch)
    (before : ∀ up, parent = some up → up < first) :
    numbersUnder parent (numbering.numbered parent first branches) =
      (tops first branches).map (·.1) := by
  -- Further down the parents are nodes of the branches, whose numbers come behind the given one.
  induction branches using forest_induction generalizing first with
  | nil => simp [numbered, nodesAll, numbersUnder, tops]
  | cons position below rest belowCase restCase =>
    have apart : some first ≠ parent := by
      intro same
      exact absurd (before first same.symm) (Nat.lt_irrefl _)
    have inner := numbering.numbersUnder_outside (first + 1) below apart
      (fun up isParent => .inl (Nat.lt_succ_of_lt (before up isParent)))
    have others := restCase (first + 1 + sizeAll below) (by
      intro up isParent
      have less := before up isParent
      omega)
    rw [numbersUnder_cons, if_pos rfl, inner, others, tops]
    simp [size, Nat.add_assoc]

/-- A node's children are arranged from tops whose numbers are those of the nodes below it. -/
theorem children_of_mem {parent : Option Nat} {first number : Nat} {branches : List Branch}
    (before : ∀ up, parent = some up → up < first) {node : Node}
    (member : (node, number) ∈ numbering.numbered parent first branches) :
    ∃ tops, node.children = numbering.arrange tops ∧
      numbersUnder (some number) (numbering.numbered parent first branches) =
        tops.map (·.1) := by
  induction branches using forest_induction generalizing parent first with
  | nil => simp [numbered, nodesAll] at member
  | cons position below rest belowCase restCase =>
    -- The number is not the parent of the tops, and is found in one of three ranges.
    have range := numbering.number_of_mem member
    have apart : parent ≠ some number := by
      intro same
      have less := before number same
      omega
    simp only [numbersUnder_cons, if_neg apart, List.nil_append]
    rw [numbered_cons, List.mem_cons, List.mem_append] at member
    rcases member with isTop | inBelow | inRest
    · -- The top's own children are numbered right below it.
      cases isTop
      refine ⟨tops (number + 1) below, rfl, ?_⟩
      have others := numbering.numbersUnder_outside (number + 1 + sizeAll below) rest apart
        (by simp; omega)
      have inner := numbering.numbersUnder_parent (number + 1) below
        (fun up (isNumber : some number = some up) => by simp at isNumber; omega)
      rw [inner, others, List.append_nil]
    · -- The other branches are numbered behind all that is below the top.
      have inside := numbering.number_of_mem inBelow
      obtain ⟨tops, arranged, under⟩ := belowCase (by simp) inBelow
      have others := numbering.numbersUnder_outside (first + 1 + sizeAll below) rest apart
        (by simp; omega)
      exact ⟨tops, arranged, by rw [under, others, List.append_nil]⟩
    · -- All that is below the top is numbered before the other branches.
      have inside := numbering.number_of_mem inRest
      obtain ⟨tops, arranged, under⟩ := restCase (by
        intro up isParent
        have less := before up isParent
        omega) inRest
      have distinct : some first ≠ some number := by simp; omega
      have inner := numbering.numbersUnder_outside (first + 1) below distinct (by simp; omega)
      exact ⟨tops, arranged, by rw [under, inner, List.nil_append]⟩

/-- In branches that follow an inventory, a node without a parent of its own is a top, and the
parent of any other is the node of its device's parent. -/
theorem above_of_mem {inventory : Inventory} {shows : Nat → Bool} {parent : Option Nat}
    {first number : Nat} {branches : List Branch} (linked : inventory.Linked)
    (follow : Branch.Follow inventory shows branches) {node : Node}
    (member : (node, number) ∈ numbering.numbered parent first branches) :
    (node.parent = parent ∧ node.position ∈ branches.map Branch.position) ∨
      ∃ up above, node.parent = some up ∧
        (above, up) ∈ numbering.numbered parent first branches ∧
        inventory.parent? node.position = some above.position := by
  -- A node right below a top is linked to it, and its device is a child of the top's, as the
  -- branches follow the inventory.
  induction follow generalizing parent first with
  | nil => simp [numbered, nodesAll] at member
  | @cons position below rest shown _ _ belowCase restCase =>
    simp only [numbered_cons, List.mem_cons, List.mem_append] at member ⊢
    rcases member with isTop | inBelow | inRest
    · cases isTop
      left
      simp [Branch.position]
    · right
      rcases belowCase inBelow with ⟨isFirst, isTop⟩ | ⟨up, above, toAbove, aboveIn, found⟩
      · rw [shown, Branch.mem_shown_children linked] at isTop
        exact ⟨first, _, isFirst, .inl rfl, isTop.1⟩
      · exact ⟨up, above, toAbove, .inr (.inl aboveIn), found⟩
    · rcases restCase inRest with ⟨isOuter, isTop⟩ | ⟨up, above, toAbove, aboveIn, found⟩
      · left
        exact ⟨isOuter, by simp [isTop]⟩
      · right
        exact ⟨up, above, toAbove, .inr (.inr aboveIn), found⟩

end DeviceBrowser.Numbering
