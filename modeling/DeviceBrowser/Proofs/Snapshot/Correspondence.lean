import Mathlib.Data.List.Forall2
import DeviceBrowser.Proofs.Snapshot.WellFormed

/-! Two inventories that correspond device by device have snapshots that correspond node by node.
Building looks at the checksum of a device, at the lower case of its name, at whether it is shown
and at its children in their order; it never compares positions. -/

namespace DeviceBrowser

open List (Forall₂)

variable {zone : Zone}

/-- Lists that are related item by item have related items at each place. -/
theorem rel_getElem? {α β : Type} {rel : α → β → Prop} {left : List α} {right : List β}
    (related : Forall₂ rel left right) (place : Nat) :
    Option.Rel rel left[place]? right[place]? := by
  -- The place counts down along both lists, which end together.
  induction related generalizing place with
  | nil => exact .none
  | cons first _ ih =>
    cases place with
    | zero => exact .some first
    | succ place => exact ih place

section Related

variable {α β γ : Type} {rel : α → β → Prop} {left : Option α} {right : Option β}
  (related : Option.Rel rel left right)

include related

/-- What related values lead to is the same, if it is the same for any two that are related. -/
theorem bind_eq_of_rel {read : α → Option γ} {readOther : β → Option γ}
    (same : ∀ {value other}, rel value other → read value = readOther other) :
    left.bind read = right.bind readOther := by
  -- Either both are absent, or both are there and related.
  cases related with
  | none => rfl
  | some here => exact same here

/-- What is read off related values is the same, if it is the same for any two that are related. -/
theorem map_eq_of_rel {read : α → γ} {readOther : β → γ}
    (same : ∀ {value other}, rel value other → read value = readOther other) :
    left.map read = right.map readOther := by
  -- Either both are absent, or both are there and related.
  cases related with
  | none => rfl
  | some here => exact congrArg some (same here)

end Related

variable {alike : Nat → Nat → Prop}

/-- Two inventories correspond under preferences by a relation of their positions: alike devices
have one checksum and one name but for its case, are both shown or both not, and have alike children
in the same order; and the roots are alike. -/
structure Inventory.Correspond [Zone] (alike : Nat → Nat → Prop) (preferences : Preferences)
    (left right : Inventory) : Prop where
  hash : ∀ {position other}, alike position other →
    Snapshot.hashAt left position = Snapshot.hashAt right other
  name : ∀ {position other}, alike position other →
    Text.lowerChars (Snapshot.nameAt left position).toList =
      Text.lowerChars (Snapshot.nameAt right other).toList
  shows : ∀ {position other}, alike position other →
    Snapshot.shows left preferences position = Snapshot.shows right preferences other
  children : ∀ {position other}, alike position other →
    Forall₂ alike (left.children position) (right.children other)
  root : Option.Rel alike left.root right.root

/-- Two nodes correspond when their devices are alike and they have one checksum and the same
links. -/
structure Node.Correspond (alike : Nat → Nat → Prop) (left right : Node) : Prop where
  position : alike left.position right.position
  hash : left.hash = right.hash
  parent : left.parent = right.parent
  children : left.children = right.children

/-- Nodes that correspond still do when the links of both are renumbered alike. -/
theorem Node.Correspond.relink {left right : Node} (same : Node.Correspond alike left right)
    (renumber : Nat → Nat) :
    Node.Correspond alike (Snapshot.relink renumber left) (Snapshot.relink renumber right) where
  -- The links are equal before, and the same function is applied to both.
  position := same.position
  hash := same.hash
  parent := by simp only [Snapshot.relink, same.parent]
  children := by simp only [Snapshot.relink, same.children]

/-- Branches correspond when they have one shape and alike devices at the same places. -/
inductive Branch.Correspond (alike : Nat → Nat → Prop) : List Branch → List Branch → Prop
  | nil : Correspond alike [] []
  | cons {position other : Nat} {below otherBelow rest otherRest : List Branch}
      (top : alike position other) (corresponds : Correspond alike below otherBelow)
      (others : Correspond alike rest otherRest) :
      Correspond alike (.node position below :: rest) (.node other otherBelow :: otherRest)

/-- Numbered siblings correspond when they have one number and their devices are alike. -/
def Branch.SameTop (alike : Nat → Nat → Prop) (item other : Nat × Nat) : Prop :=
  item.1 = other.1 ∧ alike item.2 other.2

/-! ## Branches -/

section Branches

variable {left right : Inventory} {preferences : Preferences}

/-- Alike devices have alike shown children. -/
theorem Inventory.Correspond.shownChildren
    (correspond : Inventory.Correspond alike preferences left right) {position other : Nat}
    (same : alike position other) :
    Forall₂ alike ((left.children position).filter (Snapshot.shows left preferences))
      ((right.children other).filter (Snapshot.shows right preferences)) := by
  -- A child is left out on both sides or on none.
  apply List.rel_filter _ (correspond.children same)
  intro child otherChild sameChild
  simp only [correspond.shows sameChild]

/-- Branches that follow corresponding inventories correspond, if their tops do. -/
theorem Branch.Follow.correspond (correspond : Inventory.Correspond alike preferences left right)
    {branches others : List Branch}
    (follow : Follow left (Snapshot.shows left preferences) branches)
    (follows : Follow right (Snapshot.shows right preferences) others)
    (tops : Forall₂ alike (branches.map Branch.position) (others.map Branch.position)) :
    Branch.Correspond alike branches others := by
  -- Below alike tops stand the shown children of both, which are alike.
  induction follow generalizing others with
  | nil =>
    cases follows with
    | nil => exact .nil
    | cons _ _ _ => cases tops
  | cons children _ _ belowCase restCase =>
    cases follows with
    | nil => cases tops
    | cons otherChildren followsBelow followsRest =>
      obtain ⟨top, rest⟩ := List.forall₂_cons.mp tops
      refine .cons top (belowCase followsBelow ?_) (restCase followsRest rest)
      rw [children, otherChildren]
      exact correspond.shownChildren top

/-- Corresponding inventories have corresponding branches to show. -/
theorem Inventory.Correspond.shownBranches
    (correspond : Inventory.Correspond alike preferences left right) (linked : left.Linked)
    (rightLinked : right.Linked) :
    Branch.Correspond alike (Snapshot.shownBranches left preferences)
      (Snapshot.shownBranches right preferences) := by
  apply Branch.Follow.correspond correspond (Snapshot.shownBranches_follow linked)
    (Snapshot.shownBranches_follow rightLinked)
  -- At the top stand the roots or their shown children.
  have roots := correspond.root
  rw [Snapshot.shownBranches, Snapshot.shownBranches]
  generalize left.root = root, right.root = other at roots ⊢
  cases roots with
  | none => exact .nil
  | some same =>
    simp only [Snapshot.map_position_branches]
    split
    · exact .cons same .nil
    · exact correspond.shownChildren same

end Branches

/-! ## Nodes before they are put in order -/

section Numbering

variable {branches others : List Branch}

/-- Corresponding branches have as many devices. -/
theorem Branch.Correspond.sizeAll_eq (correspond : Branch.Correspond alike branches others) :
    sizeAll branches = sizeAll others := by
  -- A branch has one device more than there are below its top.
  induction correspond with
  | nil => rfl
  | cons _ _ _ belowCase restCase => simp only [sizeAll, size, belowCase, restCase]

/-- Corresponding branches have corresponding tops. -/
theorem Branch.Correspond.tops (correspond : Branch.Correspond alike branches others)
    (first : Nat) : Forall₂ (SameTop alike) (tops first branches) (tops first others) := by
  -- In front of each top stand as many devices on both sides.
  induction correspond generalizing first with
  | nil => exact .nil
  | cons top below _ _ restCase =>
    simp only [Branch.tops, size, below.sizeAll_eq]
    exact .cons ⟨rfl, top⟩ (restCase _)

/-- Corresponding branches have corresponding nodes, if alike devices have one checksum and
corresponding siblings are arranged alike. -/
theorem Branch.Correspond.nodesAll (correspond : Branch.Correspond alike branches others)
    {numbering other : Numbering}
    (hash : ∀ {position place}, alike position place →
      numbering.hashOf position = other.hashOf place)
    (arrange : ∀ {items places : List (Nat × Nat)}, Forall₂ (SameTop alike) items places →
      numbering.arrange items = other.arrange places)
    (parent : Option Nat) (first : Nat) :
    Forall₂ (Node.Correspond alike) (numbering.nodesAll parent first branches)
      (other.nodesAll parent first others) := by
  -- Below a top and behind its branch, numbering goes on at the same number on both sides.
  induction correspond generalizing parent first with
  | nil => exact .nil
  | cons top below _ belowCase restCase =>
    rw [Numbering.nodesAll_cons, Numbering.nodesAll_cons, below.sizeAll_eq]
    exact .cons ⟨top, hash top, rfl, arrange (below.tops _)⟩
      (List.rel_append (belowCase _ _) (restCase _ _))

end Numbering

namespace Snapshot

variable {preferences : Preferences}

/-- A device's checksum is looked up by its position. -/
theorem hashAt_eq (inventory : Inventory) (position : Nat) :
    hashAt inventory position = ((inventory.device? position).map (·.hash)).getD 0 := by
  -- An entry has just one device, so asking for either first comes to the same.
  rw [hashAt, Inventory.device?]
  cases inventory.entry? position <;> rfl

/-- A device's name is looked up by its position. -/
theorem lowerChars_nameAt (inventory : Inventory) (position : Nat) :
    Text.lowerChars (nameAt inventory position).toList =
      ((inventory.device? position).map fun device => Text.lowerChars device.name.toList).getD
        [] := by
  -- Without an entry the name is empty, and so is its lower case.
  rw [nameAt, Inventory.device?]
  cases inventory.entry? position <;> rfl

/-- Whether a device is shown is looked up by its position. -/
theorem shows_eq (inventory : Inventory) (preferences : Preferences) (position : Nat) :
    shows inventory preferences position =
      ((inventory.device? position).map preferences.includes).getD false := by
  -- Without an entry nothing is shown.
  rw [shows, Inventory.device?]
  cases inventory.entry? position <;> rfl

/-- What the order of siblings looks at: the number of a sibling and the lower case of its name. -/
def siblingKey [Zone] (inventory : Inventory) (item : Nat × Nat) : Nat × List Char :=
  (item.1, Text.lowerChars (nameAt inventory item.2).toList)

/-- Siblings are arranged by what the order looks at. -/
theorem arrangement_eq_keys (inventory : Inventory) (preferences : Preferences)
    (items : List (Nat × Nat)) : arrangement inventory preferences items =
      ((if preferences.sortChildren then
          orderBy (fun left right => compare left.2 right.2 == .lt)
            (items.map (siblingKey inventory))
        else items.map (siblingKey inventory)).map (·.1)) := by
  -- Names are compared by their lower case, so that the keys are ordered as the siblings are.
  rw [arrangement]
  split
  · rw [← orderBy_map, List.map_map]
    rfl
  · rw [List.map_map]
    rfl

/-- Corresponding siblings are arranged alike. -/
theorem arrangement_correspond {left right : Inventory}
    (correspond : Inventory.Correspond alike preferences left right)
    {items places : List (Nat × Nat)} (same : Forall₂ (Branch.SameTop alike) items places) :
    arrangement left preferences items = arrangement right preferences places := by
  -- Corresponding siblings have one key.
  have keys : items.map (siblingKey left) = places.map (siblingKey right) := by
    rw [← List.forall₂_eq_eq_eq, List.forall₂_map_left_iff, List.forall₂_map_right_iff]
    exact same.imp fun _ _ both => Prod.ext both.1 (correspond.name both.2)
  rw [arrangement_eq_keys, arrangement_eq_keys, keys]

/-- Corresponding inventories have corresponding drafts. -/
theorem drafts_correspond {left right : Inventory}
    (correspond : Inventory.Correspond alike preferences left right) (linked : left.Linked)
    (rightLinked : right.Linked) :
    Forall₂ (Node.Correspond alike) (drafts left preferences) (drafts right preferences) :=
  -- The branches correspond, and numbering them needs no more than checksums and the order of
  -- siblings.
  (correspond.shownBranches linked rightLinked).nodesAll correspond.hash
    (arrangement_correspond correspond) none 0

/-! ## Nodes in order -/

section Order

variable {nodes others : List Node}

/-- Of nodes with the same checksums at the same places, the same ones have a checksum less than
another. -/
theorem hashLess_congr (same : nodes.map (·.hash) = others.map (·.hash)) :
    hashLess nodes.toArray = hashLess others.toArray := by
  -- A node is compared by its checksum.
  have byHash : ∀ (nodes : List Node) left right, hashLess nodes.toArray left right =
      (nodes.map (·.hash))[left]?.elim false fun leftHash =>
        (nodes.map (·.hash))[right]?.elim false fun rightHash => decide (leftHash < rightHash) := by
    intro nodes left right
    rw [hashLess, List.getElem?_toArray, List.getElem?_toArray, List.getElem?_map,
      List.getElem?_map]
    cases nodes[left]? <;> cases nodes[right]? <;> rfl
  funext left right
  rw [byHash, byHash, same]

variable (correspond : Forall₂ (Node.Correspond alike) nodes others)

include correspond

/-- Corresponding nodes have the same order. -/
theorem hashOrder_correspond : hashOrder nodes.toArray = hashOrder others.toArray := by
  -- The order depends on how many nodes there are and on how their checksums compare.
  have hashes : nodes.map (·.hash) = others.map (·.hash) := by
    rw [← List.forall₂_eq_eq_eq, List.forall₂_map_left_iff, List.forall₂_map_right_iff]
    exact correspond.imp fun _ _ same => same.hash
  rw [hashOrder, hashOrder, hashLess_congr hashes, List.size_toArray,
    List.size_toArray, correspond.length_eq]

/-- Corresponding nodes get the same new numbers. -/
theorem renumber_correspond : renumber nodes.toArray = renumber others.toArray := by
  -- New numbers are read off the order of the checksums and the number of nodes, which both agree.
  funext old
  rw [renumber, renumber, hashOrder_correspond correspond, List.size_toArray, List.size_toArray,
    correspond.length_eq]

/-- Corresponding nodes still correspond once they are put in order. -/
theorem ofNodes_correspond (edition other : Edition) (roots : List Nat) :
    Forall₂ (Node.Correspond alike) (ofNodes edition nodes.toArray roots).nodes.toList
      (ofNodes other others.toArray roots).nodes.toList := by
  -- At each place of the order stand corresponding nodes, which are linked anew in the same way.
  simp only [ofNodes_eq, hashOrder_correspond correspond, renumber_correspond correspond]
  rw [List.forall₂_map_left_iff, List.forall₂_map_right_iff]
  have relinked := correspond.imp fun _ _ same => same.relink (renumber others.toArray)
  refine List.rel_filterMap (R := Eq) ?_ (List.forall₂_refl _)
  rintro old _ rfl
  simp only [List.getElem?_toArray]
  exact rel_getElem? relinked old

end Order

/-- Snapshots of corresponding inventories have corresponding nodes at the same numbers, and the
same roots. -/
theorem build_correspond {edition other : Edition}
    (correspond : Inventory.Correspond alike preferences edition.inventory other.inventory)
    (linked : edition.inventory.Linked) (otherLinked : other.inventory.Linked) :
    Forall₂ (Node.Correspond alike) (build edition preferences).nodes.toList
        (build other preferences).nodes.toList ∧
      (build edition preferences).roots = (build other preferences).roots := by
  -- Both snapshots put corresponding drafts in order, and roots that were arranged alike.
  have drafts := drafts_correspond correspond linked otherLinked
  have tops := (correspond.shownBranches linked otherLinked).tops 0
  have roots := arrangement_correspond correspond tops
  rw [build_eq, build_eq, roots]
  refine ⟨ofNodes_correspond drafts _ _ _, ?_⟩
  rw [ofNodes_eq, ofNodes_eq, renumber_correspond drafts]

end Snapshot

end DeviceBrowser
