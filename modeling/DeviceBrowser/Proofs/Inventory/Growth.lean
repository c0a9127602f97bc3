import DeviceBrowser.Inventory

/-! Inventories grow one device at a time. Following the links of a grown inventory visits exactly
the devices of one parent, in the order in which they were added. -/

namespace DeviceBrowser.Inventory

/-- Inventories made by adding devices one after the other, each as a root or below a device that is
there already. -/
inductive Grown : Inventory → Prop
  | empty : Grown .empty
  | addRoot {inventory : Inventory} (grown : Grown inventory) (device : Device) :
      Grown (inventory.addRoot device)
  | addChild {inventory : Inventory} (grown : Grown inventory) {parent : Nat}
      (present : parent < inventory.size) (device : Device) :
      Grown (inventory.addChild parent device)

/-- The device at a position. -/
def device? (inventory : Inventory) (position : Nat) : Option Device :=
  (inventory.entry? position).map (·.device)

/-- Where a link of the entry at a position leads. -/
def link? (inventory : Inventory) (link : Entry → Option Nat) (position : Nat) : Option Nat :=
  (inventory.entry? position).bind link

/-- The positions whose parent is the given one, in ascending order. -/
def offspring (inventory : Inventory) (position : Nat) : List Nat :=
  (List.range inventory.size).filter fun child => inventory.parent? child = some position

/-! ## What one addition does to the links -/

section Addition

variable (inventory : Inventory) (device : Device)

/-- Behind the last entry there is none. -/
theorem entry?_size : inventory.entry? inventory.size = none := by
  -- The entries end just before the position that equals their number.
  simp [size, entry?]

/-- The entry of a new root carries no link, and the others stay. -/
theorem entry?_addRoot (position : Nat) :
    entry? (inventory.addRoot device) position =
      if position = inventory.size then some (.unlinked device)
      else inventory.entry? position :=
  -- The new entry is pushed behind the others.
  Array.getElem?_push

/-- A new root is linked to nothing, and no link leads to it. -/
theorem link?_addRoot {link : Entry → Option Nat}
    (unlinked : ∀ device, link (.unlinked device) = none) (position : Nat) :
    (inventory.addRoot device).link? link position = inventory.link? link position := by
  -- Only the position that is new is read otherwise, and there neither inventory holds a link.
  rw [link?, entry?_addRoot]
  split
  · rename_i new
    rw [new, link?, entry?_size]
    exact unlinked device
  · rfl

/-- A new root has no parent, and parents stay. -/
theorem parent?_addRoot (position : Nat) :
    (inventory.addRoot device).parent? position = inventory.parent? position :=
  -- An entry without links has no parent, whatever its device is.
  inventory.link?_addRoot device (fun _ => rfl) position

/-- An entry after a child was added below `parent`: the last child before is linked to the new one,
and the parent adopts it. -/
def relinked (parent position : Nat) (entry : Entry) : Entry :=
  let chained :=
    if inventory.link? (·.lastChild) parent = some position then
      { entry with nextSibling := some inventory.size }
    else entry
  if position = parent then chained.adopt inventory.size else chained

/-- Relinking leaves the parent. -/
@[simp] theorem relinked_parent (parent position : Nat) (entry : Entry) :
    (inventory.relinked parent position entry).parent = entry.parent := by
  -- Neither of the two writes is to the parent, whichever of them are made.
  simp only [relinked, Entry.adopt]
  split <;> split <;> rfl

/-- Relinking writes the first child only where the child is adopted. -/
@[simp] theorem relinked_firstChild (parent position : Nat) (entry : Entry) :
    (inventory.relinked parent position entry).firstChild =
      if position = parent then entry.firstChild.or (some inventory.size)
      else entry.firstChild := by
  -- The first child is written by the adoption alone, and only if there was none before.
  simp only [relinked, Entry.adopt]
  split <;> split <;> rfl

/-- Relinking writes the last child only where the child is adopted. -/
@[simp] theorem relinked_lastChild (parent position : Nat) (entry : Entry) :
    (inventory.relinked parent position entry).lastChild =
      if position = parent then some inventory.size else entry.lastChild := by
  -- The adoption writes the last child in any case; the sibling's link is another field.
  simp only [relinked, Entry.adopt]
  split <;> split <;> rfl

/-- Relinking writes the next sibling only of the last child before. -/
@[simp] theorem relinked_nextSibling (parent position : Nat) (entry : Entry) :
    (inventory.relinked parent position entry).nextSibling =
      if inventory.link? (·.lastChild) parent = some position then some inventory.size
      else entry.nextSibling := by
  -- The write asks the last child as it was before the adoption.
  simp only [relinked, Entry.adopt]
  split <;> split <;> rfl

/-- Relinking counts one child more only where the child is adopted. -/
@[simp] theorem relinked_childCount (parent position : Nat) (entry : Entry) :
    (inventory.relinked parent position entry).childCount =
      if position = parent then entry.childCount + 1 else entry.childCount := by
  -- The count is written by the adoption alone.
  simp only [relinked, Entry.adopt]
  split <;> split <;> rfl

/-- A new child is linked to its parent, and the entries beside it and above it to the child. -/
theorem entry?_addChild (parent position : Nat) :
    entry? (inventory.addChild parent device) position =
      (if position = inventory.size then
          some { Entry.unlinked device with parent := some parent }
        else inventory.entry? position).map (inventory.relinked parent position) := by
  -- One entry is pushed, and at most two are modified in place.
  have pushed : (inventory.entries.push
      { Entry.unlinked device with parent := some parent })[position]? =
        if position = inventory.size then
          some { Entry.unlinked device with parent := some parent }
        else inventory.entry? position := Array.getElem?_push
  rw [← pushed]
  have older : inventory.entries[parent]?.bind (·.lastChild) =
      inventory.link? (·.lastChild) parent := rfl
  simp only [addChild, entry?, older]
  generalize inventory.entries.push _ = grown
  cases located : inventory.link? (·.lastChild) parent with
  -- The parent had no child yet: it alone is modified, to name the new one as first and last.
  | none =>
    rw [Array.getElem?_modify]
    cases grown[position]? with
    | none => simp
    | some entry =>
      by_cases adopts : position = parent
      · subst adopts
        simp [relinked, located]
      · simp [relinked, located, adopts, Ne.symm adopts]
  -- It had one: that sibling is modified too, to go on to the new one.
  | some sibling =>
    rw [Array.getElem?_modify, Array.getElem?_modify]
    cases grown[position]? with
    | none => simp
    | some entry =>
      by_cases adopts : position = parent
      · subst adopts
        by_cases follows : sibling = position <;> simp [relinked, located, follows]
      · by_cases follows : sibling = position <;>
          simp [relinked, located, adopts, Ne.symm adopts, follows]

/-- What relinking does not write is read as before. -/
theorem link?_addChild_of_unwritten {link : Entry → Option Nat} {parent position : Nat}
    (earlier : position ≠ inventory.size)
    (unwritten : ∀ entry, link (inventory.relinked parent position entry) = link entry) :
    (inventory.addChild parent device).link? link position = inventory.link? link position := by
  -- The entry at an earlier position is the old one relinked, which the link cannot tell apart.
  rw [link?, link?, entry?_addChild, if_neg earlier, Option.bind_map]
  exact congrArg _ (funext unwritten)

/-- A new child has the parent it was added to, and parents stay. -/
theorem parent?_addChild (parent position : Nat) :
    (inventory.addChild parent device).parent? position =
      if position = inventory.size then some parent else inventory.parent? position := by
  -- The new entry carries its parent with it, and relinking touches no parent of the others.
  split
  · rename_i new
    simp [parent?, entry?_addChild, new]
  · rename_i earlier
    exact link?_addChild_of_unwritten inventory device earlier
      (relinked_parent inventory parent position)

/-- A link down is written at the parent alone. -/
theorem link?_addChild_of_down {link : Entry → Option Nat} {parent : Nat}
    (present : parent < inventory.size)
    (unset : link { Entry.unlinked device with parent := some parent } = none)
    (elsewhere : ∀ position, position ≠ parent → ∀ entry,
      link (inventory.relinked parent position entry) = link entry) (position : Nat) :
    (inventory.addChild parent device).link? link position =
      if position = parent then
        (inventory.entry? parent).bind fun entry => link (inventory.relinked parent parent entry)
      else inventory.link? link position := by
  split
  · rename_i same
    rw [link?, entry?_addChild, same, if_neg (Nat.ne_of_lt present), Option.bind_map]
    rfl
  · -- Away from the parent an entry is new, and then has no link down, or is read as before.
    rename_i other
    by_cases new : position = inventory.size
    · rw [link?, link?, entry?_addChild, if_pos new, Option.map_some, Option.bind_some,
        elsewhere position other, unset, new, entry?_size, Option.bind_none]
    · exact link?_addChild_of_unwritten inventory device new (elsewhere position other)

/-- The parent's first child is the one it had, if any; other first children stay. -/
theorem firstChild_addChild {parent : Nat} (present : parent < inventory.size) (position : Nat) :
    (inventory.addChild parent device).link? (·.firstChild) position =
      if position = parent then (inventory.link? (·.firstChild) parent).or (some inventory.size)
      else inventory.link? (·.firstChild) position := by
  -- Only adoption writes the first child, and only where there was none.
  have adopted : (inventory.entry? parent).bind
      (fun entry => (inventory.relinked parent parent entry).firstChild) =
        (inventory.link? (·.firstChild) parent).or (some inventory.size) := by
    simp only [size] at present
    simp [link?, entry?, present]
  rw [link?_addChild_of_down inventory device present rfl (fun _ other _ => by simp [other]),
    adopted]

/-- The parent's last child is the new one; other last children stay. -/
theorem lastChild_addChild {parent : Nat} (present : parent < inventory.size) (position : Nat) :
    (inventory.addChild parent device).link? (·.lastChild) position =
      if position = parent then some inventory.size
      else inventory.link? (·.lastChild) position := by
  -- Only adoption writes the last child.
  have adopted : (inventory.entry? parent).bind
      (fun entry => (inventory.relinked parent parent entry).lastChild) =
        some inventory.size := by
    simp only [size] at present
    simp [present, entry?]
  rw [link?_addChild_of_down inventory device present rfl (fun _ other _ => by simp [other]),
    adopted]

/-- The last child before is followed by the new one; other siblings stay. -/
theorem nextSibling_addChild {parent : Nat}
    (older : ∀ sibling, inventory.link? (·.lastChild) parent = some sibling →
      sibling < inventory.size) (position : Nat) :
    (inventory.addChild parent device).link? (·.nextSibling) position =
      if inventory.link? (·.lastChild) parent = some position then some inventory.size
      else inventory.link? (·.nextSibling) position := by
  -- Only the last child before is linked to a new sibling.
  by_cases chained : inventory.link? (·.lastChild) parent = some position
  · have within := older position chained
    have new : position ≠ inventory.size := by omega
    rw [link?, entry?_addChild, if_neg new, if_pos chained, Option.bind_map]
    simp only [size] at within
    simp [within, entry?, chained]
  · rw [if_neg chained]
    by_cases new : position = inventory.size
    · have absent : inventory.link? (·.nextSibling) inventory.size = none := by
        simp [link?, entry?_size]
      rw [new] at chained ⊢
      rw [absent, link?, entry?_addChild, if_pos rfl, Option.bind_map]
      simp [chained, Entry.unlinked]
    · exact link?_addChild_of_unwritten inventory device new fun entry => by simp [chained]

end Addition

/-! ## What all additions keep -/

/-- The links of an inventory agree with its parents: a child stands behind its parent, the links
down lead to the first and the last device of a parent, and the links across to the next one. -/
structure Linked (inventory : Inventory) : Prop where
  parent_lt : ∀ {child parent : Nat}, inventory.parent? child = some parent → parent < child
  first : ∀ position,
    inventory.link? (·.firstChild) position = (inventory.offspring position).head?
  last : ∀ position,
    inventory.link? (·.lastChild) position = (inventory.offspring position).getLast?
  next : ∀ {position parent : Nat}, inventory.parent? position = some parent →
    inventory.link? (·.nextSibling) position =
      ((inventory.offspring parent).filter (position < ·)).head?

/-- Only a position of the inventory has a parent. -/
theorem lt_size_of_parent? {inventory : Inventory} {child parent : Nat}
    (linked : inventory.parent? child = some parent) : child < inventory.size := by
  -- Behind the last entry there is no link.
  rcases Nat.lt_or_ge child inventory.size with within | beyond
  · exact within
  · have absent : inventory.entry? child = none := Array.getElem?_eq_none beyond
    simp [parent?, absent] at linked

/-- The children of a position are those whose parent it is. -/
@[simp] theorem mem_offspring {inventory : Inventory} {child parent : Nat} :
    child ∈ inventory.offspring parent ↔ inventory.parent? child = some parent := by
  -- That the child is within the inventory need not be asked, as it has an entry to hold its
  -- parent.
  simp only [offspring, List.mem_filter, List.mem_range, decide_eq_true_eq, and_iff_right_iff_imp]
  exact lt_size_of_parent?

/-- The children of a position stand in ascending order. -/
theorem offspring_pairwise (inventory : Inventory) (position : Nat) :
    (inventory.offspring position).Pairwise (· < ·) :=
  -- A part of an ascending range ascends.
  List.pairwise_lt_range.filter _

/-- A new root is nobody's child. -/
theorem offspring_addRoot (inventory : Inventory) (device : Device) (position : Nat) :
    (inventory.addRoot device).offspring position = inventory.offspring position := by
  -- The range grows by the new position alone, which has no parent and is filtered out.
  have absent : inventory.parent? inventory.size = none := by simp [parent?, entry?_size]
  simp [offspring, List.range_succ, parent?_addRoot, absent]

/-- A new child comes behind the other children of its parent. -/
theorem offspring_addChild (inventory : Inventory) (device : Device) (parent position : Nat) :
    (inventory.addChild parent device).offspring position =
      inventory.offspring position ++ if position = parent then [inventory.size] else [] := by
  -- The old positions keep their parents, and the new one is the last of all.
  have old : (List.range inventory.size).filter
      (fun child => (inventory.addChild parent device).parent? child = some position) =
        inventory.offspring position := by
    apply List.filter_congr
    intro child member
    have other : child ≠ inventory.size := Nat.ne_of_lt (List.mem_range.mp member)
    simp [parent?_addChild, other]
  rw [offspring, size_addChild, List.range_succ, List.filter_append, old]
  by_cases same : position = parent
  · simp [parent?_addChild, same]
  · simp [parent?_addChild, same, Ne.symm same]

/-- In an ascending list, the items above one of them are those behind it. -/
theorem filter_lt_eq {front back : List Nat} {middle : Nat}
    (ascending : (front ++ middle :: back).Pairwise (· < ·)) :
    (front ++ middle :: back).filter (middle < ·) = back := by
  -- Those in front are below it, and those behind are above.
  obtain ⟨_, behind, frontBelow⟩ := List.pairwise_append.mp ascending
  have below : front.filter (middle < ·) = [] := by
    apply List.filter_eq_nil_iff.mpr
    intro item member
    have less := frontBelow item member middle (by simp)
    simp only [decide_eq_true_eq]
    omega
  have above : back.filter (middle < ·) = back := by
    apply List.filter_eq_self.mpr
    intro item member
    simpa using (List.pairwise_cons.mp behind).1 item member
  simp [List.filter_append, below, above]

/-- An inventory without devices is linked. -/
theorem linked_empty : Linked .empty where
  -- There is no entry that could hold a link.
  parent_lt linked := by simp [parent?, entry?, empty] at linked
  first position := by simp [link?, entry?, empty, offspring, size]
  last position := by simp [link?, entry?, empty, offspring, size]
  next linked := by simp [parent?, entry?, empty] at linked

/-- Adding a root keeps the links in agreement. -/
theorem Linked.addRoot {inventory : Inventory} (linked : inventory.Linked) (device : Device) :
    (inventory.addRoot device).Linked where
  -- Each clause is about links and offspring, and a new root changes neither.
  parent_lt found := linked.parent_lt (inventory.parent?_addRoot device _ ▸ found)
  first position := by
    rw [link?_addRoot _ _ (fun _ => rfl), offspring_addRoot]
    exact linked.first position
  last position := by
    rw [link?_addRoot _ _ (fun _ => rfl), offspring_addRoot]
    exact linked.last position
  next found := by
    rw [link?_addRoot _ _ (fun _ => rfl), offspring_addRoot]
    exact linked.next (inventory.parent?_addRoot device _ ▸ found)

/-- The last child of a position is a child of it. -/
theorem Linked.parent?_of_lastChild {inventory : Inventory} (linked : inventory.Linked)
    {position child : Nat} (last : inventory.link? (·.lastChild) position = some child) :
    inventory.parent? child = some position := by
  -- The link agrees with the end of the offspring, so the child is among them.
  rw [linked.last] at last
  exact mem_offspring.mp (List.mem_of_getLast? last)

/-- Behind the last position no child is left. -/
theorem offspring_above (inventory : Inventory) (parent : Nat) :
    (inventory.offspring parent).filter (inventory.size < ·) = [] := by
  -- A child has an entry of its own, and the last entry is just before the size.
  apply List.filter_eq_nil_iff.mpr
  intro child member
  have within := lt_size_of_parent? (mem_offspring.mp member)
  simp only [decide_eq_true_eq]
  omega

/-- A child is followed by its next sibling, or by a new child if it is the last one. -/
theorem Linked.next_or_new {inventory : Inventory} (linked : inventory.Linked)
    {position parent : Nat} (found : inventory.parent? position = some parent) :
    (if inventory.link? (·.lastChild) parent = some position then some inventory.size
      else inventory.link? (·.nextSibling) position) =
      ((inventory.offspring parent).filter (position < ·)).head?.or (some inventory.size) := by
  -- The child splits the others into those before and those behind it.
  obtain ⟨front, back, split⟩ := List.append_of_mem (mem_offspring.mpr found)
  have behind := filter_lt_eq (split ▸ inventory.offspring_pairwise parent)
  rw [linked.last, linked.next found, split, behind]
  cases back with
  | nil => simp
  | cons following rest =>
    have notLast : (following :: rest).getLast? ≠ some position := by
      intro last
      have above := List.mem_of_getLast? last
      rw [← behind] at above
      simpa using (List.mem_filter.mp above).2
    simp [notLast]

/-- Adding a child keeps the links in agreement. -/
theorem Linked.addChild {inventory : Inventory} (linked : inventory.Linked) {parent : Nat}
    (present : parent < inventory.size) (device : Device) :
    (inventory.addChild parent device).Linked where
  parent_lt {child up} found := by
    rw [parent?_addChild] at found
    split at found
    · -- The new child stands behind all others.
      cases found
      omega
    · exact linked.parent_lt found
  first position := by
    -- Under its parent a child comes first only where there was none, which is what the head says.
    rw [firstChild_addChild inventory device present, offspring_addChild]
    split
    · rename_i same
      rw [same, linked.first, List.head?_append]
      rfl
    · rw [linked.first, List.append_nil]
  last position := by
    -- Under its parent the new child ends the offspring, and other offspring end as before.
    rw [lastChild_addChild inventory device present, offspring_addChild]
    split
    · simp
    · rw [linked.last, List.append_nil]
  next {position up} found := by
    -- A sibling to be relinked is an earlier entry, so its link is the only one that is written.
    have older : ∀ sibling, inventory.link? (·.lastChild) parent = some sibling →
        sibling < inventory.size :=
      fun _ last => lt_size_of_parent? (linked.parent?_of_lastChild last)
    rw [nextSibling_addChild inventory device older, offspring_addChild, List.filter_append,
      List.head?_append]
    rw [parent?_addChild] at found
    by_cases new : position = inventory.size
    · -- The new child is the last of its parent.
      subst new
      have notLast : inventory.link? (·.lastChild) parent ≠ some inventory.size := by
        intro last
        exact absurd (older _ last) (Nat.lt_irrefl _)
      have unlinked : inventory.link? (·.nextSibling) inventory.size = none := by
        simp [link?, entry?_size]
      rw [if_neg notLast, unlinked, offspring_above]
      split <;> simp
    · rw [if_neg new] at found
      have within := lt_size_of_parent? found
      by_cases same : up = parent
      · -- Among the children of the parent, only the last one has a new sibling.
        subst same
        rw [linked.next_or_new found, if_pos rfl]
        simp [within]
      · -- The children of other parents keep their siblings.
        have notLast : inventory.link? (·.lastChild) parent ≠ some position := by
          intro last
          have other := linked.parent?_of_lastChild last
          rw [found] at other
          exact same (Option.some.inj other)
        rw [if_neg notLast, linked.next found, if_neg same]
        simp

/-- Every grown inventory is linked. -/
theorem Grown.linked {inventory : Inventory} (grown : inventory.Grown) : inventory.Linked := by
  -- One case for each way to grow; only a new child writes any links.
  induction grown with
  | empty => exact linked_empty
  | addRoot _ device ih => exact ih.addRoot device
  | addChild _ present device ih => exact ih.addChild present device

/-- The root of a grown inventory is a device without a parent. -/
theorem Grown.root {inventory : Inventory} (grown : inventory.Grown) {root : Nat}
    (isRoot : inventory.root = some root) :
    root < inventory.size ∧ inventory.parent? root = none := by
  -- The latest root is added without links, and later children are linked to other positions.
  induction grown with
  | empty => simp [Inventory.empty] at isRoot
  | @addRoot inventory _ device ih =>
    have newest : root = inventory.size := by simpa [Inventory.addRoot, eq_comm] using isRoot
    subst newest
    rw [size_addRoot, parent?_addRoot]
    exact ⟨Nat.lt_succ_self _, by simp [parent?, entry?_size]⟩
  | @addChild inventory _ parent present device ih =>
    obtain ⟨within, unlinked⟩ := ih isRoot
    have other : root ≠ inventory.size := Nat.ne_of_lt within
    rw [size_addChild, parent?_addChild, if_neg other]
    exact ⟨Nat.lt_succ_of_lt within, unlinked⟩

/-- A child is linked to the one that comes next below its parent. -/
theorem Linked.next_of_suffix {inventory : Inventory} (linked : inventory.Linked)
    {position child : Nat} {rest : List Nat}
    (suffix : child :: rest <:+ inventory.offspring position) :
    inventory.link? (·.nextSibling) child = rest.head? := by
  -- The child splits the others into those before and those behind it.
  obtain ⟨front, split⟩ := suffix
  have found : inventory.parent? child = some position := by
    apply mem_offspring.mp
    rw [← split]
    simp
  have behind := filter_lt_eq (split ▸ inventory.offspring_pairwise position)
  rw [linked.next found, ← split, behind]

/-- Following the links from one child on visits it and the younger ones. -/
theorem Linked.siblingsFrom_eq {inventory : Inventory} (linked : inventory.Linked)
    {position : Nat} (children : List Nat) :
    ∀ steps, children.length ≤ steps → children <:+ inventory.offspring position →
      inventory.siblingsFrom steps children.head? = children := by
  -- The link across leads to the head of what is left of the children.
  induction children with
  | nil =>
    intro steps _ _
    cases steps <;> rfl
  | cons child rest ih =>
    intro steps enough suffix
    cases steps with
    | zero => simp at enough
    | succ steps =>
      have across : (inventory.entry? child).bind (·.nextSibling) = rest.head? :=
        linked.next_of_suffix suffix
      have younger : rest <:+ inventory.offspring position :=
        (List.suffix_cons child rest).trans suffix
      simp only [List.head?_cons, siblingsFrom, across]
      rw [ih steps (by simpa using enough) younger]

/-- The children that the links lead to are the devices with that parent, in the order added. -/
theorem Linked.children_eq {inventory : Inventory} (linked : inventory.Linked) (position : Nat) :
    inventory.children position = inventory.offspring position := by
  -- The links start from the first child, and there are no more children than entries.
  have start : (inventory.entry? position).bind (·.firstChild) =
      (inventory.offspring position).head? := linked.first position
  have enough : (inventory.offspring position).length ≤ inventory.size := by
    exact Nat.le_trans (List.length_filter_le _ _) (Nat.le_of_eq List.length_range)
  rw [children, start]
  exact linked.siblingsFrom_eq _ _ enough (List.suffix_refl _)

/-- Nothing stands below a position at which no device was added yet. -/
theorem Linked.children_of_size_le {inventory : Inventory} (linked : inventory.Linked)
    {position : Nat} (beyond : inventory.size ≤ position) : inventory.children position = [] := by
  -- A child there would be found later than its parent, and so beyond the end as well.
  rw [linked.children_eq]
  apply List.eq_nil_iff_forall_not_mem.mpr
  intro child member
  have found := mem_offspring.mp member
  have later := linked.parent_lt found
  have within := lt_size_of_parent? found
  omega

/-- A new root leaves all children. -/
theorem Linked.children_addRoot {inventory : Inventory} (linked : inventory.Linked)
    (device : Device) (position : Nat) :
    (inventory.addRoot device).children position = inventory.children position := by
  -- Children are offspring in both inventories, and the offspring stay.
  rw [(linked.addRoot device).children_eq, linked.children_eq, offspring_addRoot]

/-- A new child comes last below its parent, and all other devices keep their children. -/
theorem Linked.children_addChild {inventory : Inventory} (linked : inventory.Linked) {parent : Nat}
    (present : parent < inventory.size) (device : Device) (position : Nat) :
    (inventory.addChild parent device).children position =
      inventory.children position ++ if position = parent then [inventory.size] else [] := by
  -- Children are offspring before and after, where the new one comes last.
  rw [(linked.addChild present device).children_eq, linked.children_eq, offspring_addChild]

/-- The number that an entry keeps is that of its children. -/
theorem Grown.childCount_eq {inventory : Inventory} (grown : inventory.Grown) {position : Nat}
    {entry : Entry} (found : inventory.entry? position = some entry) :
    entry.childCount = (inventory.children position).length := by
  -- Adopting a child counts it, and nothing else changes a count or the children of an entry.
  induction grown generalizing entry with
  | empty => simp [Inventory.empty, entry?] at found
  | @addRoot inventory grown device ih =>
    rw [entry?_addRoot] at found
    rw [grown.linked.children_addRoot]
    split at found
    · rename_i new
      cases found
      rw [grown.linked.children_of_size_le (Nat.le_of_eq new.symm)]
      rfl
    · exact ih found
  | @addChild inventory grown parent present device ih =>
    rw [entry?_addChild, Option.map_eq_some_iff] at found
    obtain ⟨before, found, rfl⟩ := found
    rw [grown.linked.children_addChild present, relinked_childCount, List.length_append]
    split at found
    · rename_i new
      cases found
      -- The new entry itself has no children, and its parent stands before it.
      have other : position ≠ parent := by omega
      rw [if_neg other, if_neg other, grown.linked.children_of_size_le (Nat.le_of_eq new.symm)]
      rfl
    · rw [ih found]
      split <;> rfl

end DeviceBrowser.Inventory
