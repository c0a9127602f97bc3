import DeviceBrowser.Proofs.Inventory.Tagged
import Mathlib.Data.List.Induction

/-! Inventories represent the additions that made them. The links, which are written one after the
other, say no more than which entry was added below which, and the links that an entry carried
before are left behind. -/

namespace DeviceBrowser.Inventory

/-! ## Writing link by link -/

section Entering

variable {inventory : Inventory}

/-- A new root is entered as a device is added. -/
theorem enterRoot_eq (inventory : Inventory) (entry : Entry) :
    inventory.enterRoot entry = inventory.addRoot entry.device :=
  -- The entry's links are not read: a root is stored with none.
  rfl

/-- The entry pushed last is modified in place. -/
theorem modify_push {α : Type} (items : Array α) (item : α) (change : α → α) :
    (items.push item).modify items.size change = items.push (change item) := by
  -- The arrays agree at the last position, which is modified, and at every other one, which is not.
  apply Array.ext_getElem?
  intro position
  rw [Array.getElem?_modify, Array.getElem?_push, Array.getElem?_push]
  by_cases last : position = items.size
  · simp [last]
  · simp [last, Ne.symm last]

/-- In a linked inventory an entry has a first child exactly if it has a last one. -/
theorem Linked.firstChild_eq_none_iff (linked : inventory.Linked) (position : Nat) :
    inventory.link? (·.firstChild) position = none ↔
      inventory.link? (·.lastChild) position = none := by
  -- Both links lead to children of the entry, if there are any.
  rw [linked.first, linked.last, List.head?_eq_none_iff, List.getLast?_eq_none_iff]

/-- Link by link, a new child is entered as a device is added. -/
theorem Linked.enterChild_eq (linked : inventory.Linked) {parent : Nat}
    (present : parent < inventory.size) (entry : Entry) :
    inventory.enterChild parent entry = inventory.addChild parent entry.device := by
  have entered : (inventory.enter entry).entries.modify inventory.size
      (fun entry => { entry with parent := some parent }) =
        inventory.entries.push { Entry.unlinked entry.device with parent := some parent } :=
    modify_push _ _ _
  -- The parent is not the new entry, so that it is found before the push and after it.
  obtain ⟨above, found⟩ : ∃ above, inventory.entries[parent]? = some above :=
    ⟨_, Array.getElem?_eq_getElem present⟩
  have other : parent ≠ inventory.entries.size := Nat.ne_of_lt present
  have stays : (inventory.entries.push
      { Entry.unlinked entry.device with parent := some parent })[parent]? = some above := by
    rw [Array.getElem?_push, if_neg other, found]
  have links := linked.firstChild_eq_none_iff parent
  simp only [link?, entry?, found, Option.bind_some] at links
  rw [enterChild, Inventory.addChild]
  simp only [entered, stays, found, Option.bind_some]
  congr 1
  generalize inventory.entries.push _ = grown at stays ⊢
  apply Array.ext_getElem?
  intro position
  cases last : above.lastChild with
  | none =>
    -- Without a last child there is no first one, and the new child becomes both.
    have first := links.mpr last
    simp only [Array.getElem?_modify]
    by_cases same : parent = position
    · subst same
      simp [stays, Entry.adopt, first]
    · simp [same]
  | some sibling =>
    -- With a last child there is a first one, which is kept.
    have present : above.firstChild ≠ none := by
      intro absent
      rw [links.mp absent] at last
      cases last
    obtain ⟨child, first⟩ := Option.ne_none_iff_exists'.mp present
    simp only [Array.getElem?_modify]
    by_cases same : parent = position
    · subst same
      by_cases follows : sibling = parent <;> simp [stays, Entry.adopt, first, follows]
    · simp [same]

end Entering

/-! ## Following the links -/

/-- From a link on, the links to the next sibling pass through positions of the inventory, and
end. -/
inductive Chain (inventory : Inventory) : Option Nat → List Nat → Prop
  | ended : Chain inventory none []
  | next {position : Nat} {entry : Entry} {further : List Nat}
      (found : inventory.entry? position = some entry)
      (chain : Chain inventory entry.nextSibling further) :
      Chain inventory (some position) (position :: further)

/-- From one child on, the links pass through it and the younger ones. -/
theorem Linked.chain_of_suffix {inventory : Inventory} (linked : inventory.Linked)
    {position : Nat} {children : List Nat} (suffix : children <:+ inventory.offspring position) :
    inventory.Chain children.head? children := by
  induction children with
  | nil => exact .ended
  | cons child rest ih =>
    -- A child is an entry of the inventory, and its link leads to the head of the rest.
    have within := lt_size_of_parent? (mem_offspring.mp (suffix.subset List.mem_cons_self))
    obtain ⟨entry, found⟩ : ∃ entry, inventory.entry? child = some entry :=
      ⟨_, Array.getElem?_eq_getElem within⟩
    have across : entry.nextSibling = rest.head? := by
      rw [← linked.next_of_suffix suffix, link?, found]
      rfl
    refine .next found ?_
    rw [across]
    exact ih ((List.suffix_cons child rest).trans suffix)

/-- The links to the children of a position pass through all of them and end. -/
theorem Linked.chain_children {inventory : Inventory} (linked : inventory.Linked)
    (position : Nat) :
    inventory.Chain (inventory.link? (·.firstChild) position) (inventory.children position) := by
  -- The first link agrees with the head of the offspring, and from there the whole list is a suffix
  -- of itself.
  rw [linked.first, linked.children_eq]
  exact linked.chain_of_suffix (List.suffix_refl _)

/-- A position has fewer children than there are entries, as it is not below itself. -/
theorem Linked.length_children_lt {inventory : Inventory} (linked : inventory.Linked)
    {position : Nat} (present : position < inventory.size) :
    (inventory.children position).length < inventory.size := by
  -- The children are a part of all positions that leaves out the parent's own.
  have outside : ¬ inventory.parent? position = some position := by
    intro itself
    exact Nat.lt_irrefl position (linked.parent_lt itself)
  rw [linked.children_eq, offspring]
  conv => rhs; rw [← List.length_range (n := inventory.size)]
  apply List.length_filter_lt_length_iff_exists.mpr
  exact ⟨position, List.mem_range.mpr present, by simpa using outside⟩

/-- The next sibling of an entry is one of the inventory. -/
theorem Grown.nextSibling_lt {inventory : Inventory} (grown : inventory.Grown)
    {position sibling : Nat}
    (found : inventory.link? (·.nextSibling) position = some sibling) :
    sibling < inventory.size := by
  -- A link to a sibling is written once, when that one is added as the newest entry.
  induction grown with
  | empty => simp [Inventory.empty, link?, entry?] at found
  | @addRoot inventory _ device ih =>
    rw [link?_addRoot _ _ fun _ => rfl] at found
    rw [size_addRoot]
    exact Nat.lt_succ_of_lt (ih found)
  | @addChild inventory grown parent present device ih =>
    have older : ∀ sibling, inventory.link? (·.lastChild) parent = some sibling →
        sibling < inventory.size :=
      fun _ last => lt_size_of_parent? (grown.linked.parent?_of_lastChild last)
    rw [nextSibling_addChild inventory device older] at found
    rw [size_addChild]
    split at found
    · cases found
      exact Nat.lt_succ_self _
    · exact Nat.lt_succ_of_lt (ih found)

/-- An entry counts fewer children than there are entries, and its links lead to entries, so that
all these numbers have room wherever the number of the entries has. -/
def Fits (inventory : Inventory) (entry : Entry) : Prop :=
  entry.childCount < inventory.size ∧
    ∀ link ∈ [entry.parent, entry.firstChild, entry.lastChild, entry.nextSibling],
      ∀ target, link = some target → target < inventory.size

/-- All entries of a grown inventory fit. -/
theorem Grown.fits {inventory : Inventory} (grown : inventory.Grown) {position : Nat}
    {entry : Entry} (found : inventory.entry? position = some entry) : inventory.Fits entry := by
  have linked := grown.linked
  have present : position < inventory.size := (Array.getElem?_eq_some_iff.mp found).1
  have reads : ∀ link : Entry → Option Nat, inventory.link? link position = link entry := by
    intro link
    rw [link?, found]
    rfl
  -- Links down lead to children, and a parent comes before its child.
  have below : ∀ child ∈ inventory.offspring position, child < inventory.size :=
    fun _ member => lt_size_of_parent? (mem_offspring.mp member)
  refine ⟨?_, ?_⟩
  · rw [grown.childCount_eq found]
    exact linked.length_children_lt present
  · simp only [List.mem_cons, List.not_mem_nil, or_false, forall_eq_or_imp, forall_eq]
    -- The four links in turn, each read through the list that it is an end or a step of.
    refine ⟨?_, ?_, ?_, ?_⟩
    · intro parent isParent
      have up : inventory.parent? position = some parent := (reads (·.parent)).trans isParent
      exact Nat.lt_trans (linked.parent_lt up) present
    · intro child isFirst
      have down := (reads (·.firstChild)).trans isFirst
      rw [linked.first] at down
      exact below child (List.mem_of_head? down)
    · intro child isLast
      have down := (reads (·.lastChild)).trans isLast
      rw [linked.last] at down
      exact below child (List.mem_of_getLast? down)
    · intro sibling isNext
      exact grown.nextSibling_lt ((reads (·.nextSibling)).trans isNext)

/-! ## Sequences of additions -/

/-- An addition to an inventory: of an entry as a root, or below the one at a position. -/
inductive Addition where
  | root (entry : Entry)
  | child (parent : Nat) (entry : Entry)

namespace Addition

/-- The entry that is added, with the links that it carries. -/
def entry : Addition → Entry
  | root entry => entry
  | child _ entry => entry

/-- The position below which the entry is added, if any. -/
def parent? : Addition → Option Nat
  | root _ => none
  | child parent _ => some parent

/-- What is added and where, apart from the links that the entry carries. -/
def plain (addition : Addition) : Option Nat × Device :=
  (addition.parent?, addition.entry.device)

/-- The inventory after an addition. -/
def carryOut (inventory : Inventory) : Addition → Inventory
  | root entry => inventory.enterRoot entry
  | child parent entry => inventory.enterChild parent entry

end Addition

/-- The inventory that additions make, from an empty one on. -/
def ofAdditions (additions : List Addition) : Inventory :=
  additions.foldl Addition.carryOut .empty

/-- Adds a device below the one at a position, or as a root. -/
def add (inventory : Inventory) : Option Nat × Device → Inventory
  | (none, device) => inventory.addRoot device
  | (some parent, device) => inventory.addChild parent device

/-- The parent that an entry of the inventory was added below. -/
def parentIn? (additions : List Addition) (position : Nat) : Option Nat :=
  additions[position]?.bind Addition.parent?

/-- Every child is added below an entry that is there already. -/
def InRange (additions : List Addition) : Prop :=
  ∀ position parent, parentIn? additions position = some parent → parent < position

/-- The positions of the entries that were added below a position, in the order added. -/
def childrenIn (additions : List Addition) (position : Nat) : List Nat :=
  (List.range additions.length).filter fun child => parentIn? additions child = some position

section Sequences

variable {inventory : Inventory} {additions : List Addition} {addition : Addition}

/-- The addition made last is carried out on what the others made. -/
theorem ofAdditions_concat (additions : List Addition) (addition : Addition) :
    ofAdditions (additions ++ [addition]) = addition.carryOut (ofAdditions additions) := by
  -- Folding over a list with one more item carries that item out last.
  rw [ofAdditions, List.foldl_append]
  rfl

/-- The item at the end of a list stands behind all others. -/
theorem getElem?_concat {α : Type} (items : List α) (item : α) (position : Nat) :
    (items ++ [item])[position]? =
      if position = items.length then some item else items[position]? := by
  -- Behind the first list there is the one item, at the position that equals the length.
  rw [List.getElem?_append]
  grind

/-- The addition made last tells the parent of the newest entry only. -/
theorem parentIn?_concat (additions : List Addition) (addition : Addition) (position : Nat) :
    parentIn? (additions ++ [addition]) position =
      if position = additions.length then addition.parent?
      else parentIn? additions position := by
  -- Only the last position holds the new addition.
  rw [parentIn?, getElem?_concat]
  split <;> rfl

/-- Nothing was added yet at the next position. -/
theorem parentIn?_length (additions : List Addition) :
    parentIn? additions additions.length = none := by
  -- There is no item at the position that equals the length.
  simp [parentIn?]

/-- One addition more is in range if the others are and its parent is there already. -/
theorem inRange_concat : InRange (additions ++ [addition]) ↔
    InRange additions ∧ ∀ parent, addition.parent? = some parent → parent < additions.length := by
  -- The earlier additions are judged alike in both lists, and the newest one against all the
  -- others.
  constructor
  · intro inRange
    refine ⟨?_, ?_⟩
    · intro position parent found
      have other : position ≠ additions.length := by
        rintro rfl
        rw [parentIn?_length] at found
        cases found
      apply inRange position parent
      rw [parentIn?_concat, if_neg other, found]
    · intro parent found
      apply inRange additions.length parent
      rw [parentIn?_concat, if_pos rfl, found]
  · rintro ⟨inRange, present⟩ position parent found
    rw [parentIn?_concat] at found
    split at found
    · rename_i newest
      rw [newest]
      exact present parent found
    · exact inRange position parent found

/-- One addition more puts its position behind the other children of its parent. -/
theorem childrenIn_concat (additions : List Addition) (addition : Addition) (position : Nat) :
    childrenIn (additions ++ [addition]) position = childrenIn additions position ++
      if addition.parent? = some position then [additions.length] else [] := by
  -- The earlier positions keep their parents, and the newest one is the last of all.
  have earlier : (List.range additions.length).filter
      (fun child => parentIn? (additions ++ [addition]) child = some position) =
        childrenIn additions position := by
    apply List.filter_congr
    intro child member
    rw [parentIn?_concat, if_neg (Nat.ne_of_lt (List.mem_range.mp member))]
  rw [childrenIn, List.length_append, List.length_singleton, List.range_succ, List.filter_append,
    earlier]
  simp [parentIn?_concat, List.filter_cons]

/-- An inventory records additions when it has grown by as many devices, each the one that was added
and below the parent that it was added to. -/
structure Records (inventory : Inventory) (additions : List Addition) : Prop where
  grown : inventory.Grown
  size : inventory.size = additions.length
  device : ∀ position,
    inventory.device? position = additions[position]?.map fun addition => addition.entry.device
  parent : ∀ position, inventory.parent? position = parentIn? additions position

/-- An addition that is carried out is recorded. -/
theorem Records.carryOut (records : inventory.Records additions)
    (present : ∀ parent, addition.parent? = some parent → parent < additions.length) :
    (addition.carryOut inventory).Records (additions ++ [addition]) := by
  -- What the links say about the newest entry is what was asked for.
  have linked := records.grown.linked
  cases addition with
  | root entry =>
    -- A root leaves every link as it was, and the newest position has no parent.
    rw [Addition.carryOut, enterRoot_eq]
    constructor
    · exact records.grown.addRoot entry.device
    · rw [size_addRoot, records.size, List.length_append]
      rfl
    · intro position
      rw [device?_addRoot, getElem?_concat, records.size, records.device]
      split <;> rfl
    · intro position
      rw [parent?_addRoot, parentIn?_concat, records.parent]
      split
      · rename_i newest
        rw [newest, parentIn?_length]
        rfl
      · rfl
  | child parent entry =>
    -- A child is linked below its parent, and the parents of all others stay.
    have within : parent < inventory.size := records.size ▸ present parent rfl
    rw [Addition.carryOut, linked.enterChild_eq within]
    constructor
    · exact records.grown.addChild within entry.device
    · rw [size_addChild, records.size, List.length_append]
      rfl
    · intro position
      rw [device?_addChild, getElem?_concat, records.size, records.device]
      split <;> rfl
    · intro position
      rw [parent?_addChild, parentIn?_concat, records.size, records.parent]
      rfl

/-- All additions in range are recorded. -/
theorem records_ofAdditions (inRange : InRange additions) :
    (ofAdditions additions).Records additions := by
  -- The induction is on the end of the list, where the next addition meets what the others made.
  induction additions using List.reverseRecOn with
  | nil =>
    exact ⟨.empty, rfl, fun _ => rfl, fun _ => rfl⟩
  | append_singleton additions addition ih =>
    obtain ⟨earlier, present⟩ := inRange_concat.mp inRange
    rw [ofAdditions_concat]
    exact (ih earlier).carryOut present

/-- The links lead to the children that were added. -/
theorem Records.children_eq (records : inventory.Records additions) (position : Nat) :
    inventory.children position = childrenIn additions position := by
  -- Both list the positions whose parent it is, in ascending order.
  rw [records.grown.linked.children_eq, offspring, childrenIn, records.size]
  simp only [records.parent]

/-- Carried out link by link, additions in range add their devices. -/
theorem ofAdditions_eq_foldl_add (inRange : InRange additions) :
    ofAdditions additions = (additions.map Addition.plain).foldl add .empty := by
  -- What the earlier additions made is linked, so that the links are written as for a device.
  induction additions using List.reverseRecOn with
  | nil => rfl
  | append_singleton additions addition ih =>
    obtain ⟨earlier, present⟩ := inRange_concat.mp inRange
    have records := records_ofAdditions earlier
    rw [ofAdditions_concat, List.map_append, List.foldl_append, ← ih earlier]
    cases addition with
    | root entry => rfl
    | child parent entry =>
      exact records.grown.linked.enterChild_eq (records.size ▸ present parent rfl) entry

/-- Whether additions are in range does not depend on the links that the entries carry. -/
theorem InRange.of_plain {others : List Addition} (inRange : InRange additions)
    (same : others.map Addition.plain = additions.map Addition.plain) : InRange others := by
  -- What is out of range is told by the parents alone, which are plain.
  have read : ∀ (additions : List Addition) (position : Nat), parentIn? additions position =
      (additions.map Addition.plain)[position]?.bind (·.1) := by
    intro additions position
    rw [parentIn?, List.getElem?_map, Option.bind_map]
    rfl
  intro position parent found
  apply inRange position parent
  rw [read, ← same, ← read, found]

end Sequences

/-- What an inventory that was made by additions says. Its entries are those that were added, each
below the parent that it was added to. The links from an entry down and across pass through its
children and end: they are the entries that were added below it, once each and in the order added,
the first and the last child are the ends of this list, so that both are absent where it is empty,
and the count is its length. One addition more gives its parent a last child, and leaves the
children of all other entries. The links that the entries carried when they were added do not
matter: the inventory is the one that their devices make. All numbers have room where that of the
entries has. -/
structure Represents (additions : List Addition) : Prop where
  size : (ofAdditions additions).size = additions.length
  device : ∀ position, (ofAdditions additions).device? position =
    additions[position]?.map fun addition => addition.entry.device
  parent : ∀ position, (ofAdditions additions).parent? position = parentIn? additions position
  children : ∀ position,
    (ofAdditions additions).children position = childrenIn additions position
  ends : ∀ position, (ofAdditions additions).Chain
    ((ofAdditions additions).link? (·.firstChild) position)
    ((ofAdditions additions).children position)
  first : ∀ position, (ofAdditions additions).link? (·.firstChild) position =
    ((ofAdditions additions).children position).head?
  last : ∀ position, (ofAdditions additions).link? (·.lastChild) position =
    ((ofAdditions additions).children position).getLast?
  count : ∀ position entry, Inventory.entry? (ofAdditions additions) position = some entry →
    entry.childCount = ((ofAdditions additions).children position).length
  further : ∀ addition,
    (∀ parent, addition.parent? = some parent → parent < additions.length) → ∀ position,
    (ofAdditions (additions ++ [addition])).children position =
      (ofAdditions additions).children position ++
        if addition.parent? = some position then [additions.length] else []
  unlinked : ∀ others, others.map Addition.plain = additions.map Addition.plain →
    ofAdditions others = ofAdditions additions
  devices : ofAdditions additions = (additions.map Addition.plain).foldl add .empty
  fits : ∀ position entry, Inventory.entry? (ofAdditions additions) position = some entry →
    (ofAdditions additions).Fits entry

/-- The inventory that additions in range make represents them. -/
theorem ofAdditions_represents {additions : List Addition} (inRange : InRange additions) :
    Represents additions := by
  have records := records_ofAdditions inRange
  have linked := records.grown.linked
  -- Each clause is read off the records, or off the links that agree with them.
  constructor
  · exact records.size
  · exact records.device
  · exact records.parent
  · exact records.children_eq
  · exact linked.chain_children
  · intro position
    rw [linked.first, linked.children_eq]
  · intro position
    rw [linked.last, linked.children_eq]
  · intro position entry found
    exact records.grown.childCount_eq found
  · intro addition present position
    rw [(records_ofAdditions (inRange_concat.mpr ⟨inRange, present⟩)).children_eq,
      records.children_eq, childrenIn_concat]
  · intro others same
    rw [ofAdditions_eq_foldl_add inRange, ofAdditions_eq_foldl_add (inRange.of_plain same), same]
  · exact ofAdditions_eq_foldl_add inRange
  · intro position entry found
    exact records.grown.fits found

/-- An entry as it may come from another inventory, with links that mean nothing here. -/
def strayEntry (id : String) : Entry where
  device := .ofId id false
  parent := some 9
  firstChild := some 0
  lastChild := some 7
  nextSibling := some 3
  childCount := 5

/-- Additions of stray entries below two hubs in turn, with another root between them. -/
def strayAdditions : List Addition :=
  [.root (strayEntry "PC"), .child 0 (strayEntry "Hub"), .child 0 (strayEntry "Dock"),
    .child 1 (strayEntry "Pen"), .child 2 (strayEntry "Fan"), .root (strayEntry "Lamp"),
    .child 1 (strayEntry "Disk"), .child 0 (strayEntry "Port")]

/-- They are in range, and their inventory represents them. -/
theorem ofAdditions_represents_stray :
    InRange strayAdditions ∧ Represents strayAdditions ∧
    (List.range 8).map (ofAdditions strayAdditions).children =
      [[1, 2, 7], [3, 6], [4], [], [], [], [], []] := by
  have inRange : InRange strayAdditions := by
    -- Eight additions are looked at one by one; beyond them there is none.
    intro position parent found
    match position with
    | 0 | 5 => cases found
    | 1 | 2 | 3 | 4 | 6 | 7 =>
      cases found
      decide
    | _ + 8 => cases found
  exact ⟨inRange, ofAdditions_represents inRange, by decide +kernel⟩

end DeviceBrowser.Inventory
