import DeviceBrowser.Proofs.View.Sorting

/-! Sorting the nodes of a snapshot in the other direction turns their order around, only that nodes
without a value stay behind those that have one. -/

namespace DeviceBrowser

namespace Device

/-- Comparing names and checksums the other way round turns the outcome around. -/
theorem compareNames_swap [Zone] (left right : Device) :
    left.compareNames right = (right.compareNames left).swap := by
  -- First the names and then the checksums are turned around.
  rw [compareNames, compareNames, Ordering.swap_then]
  exact congrArg₂ Ordering.then Std.OrientedOrd.eq_swap Std.OrientedOrd.eq_swap

/-- In the other direction, devices that both have a value, or both have none, are compared the
other way round; by name all devices are. -/
theorem compare_descending [Zone] {column : PropertyClass} {left right : Device}
    (alike : column = .name ∨
      (left.property column).isValid = (right.property column).isValid) :
    compare ⟨column, .descending⟩ left right = compare ⟨column, .ascending⟩ right left := by
  -- Whether there are values is a tie, and all that is compared behind it turns around.
  by_cases byName : column = .name
  · subst byName
    calc compare ⟨.name, .descending⟩ left right
        = (left.compareNames right).swap := rfl
      _ = right.compareNames left := (right.compareNames_swap left).symm
      _ = compare ⟨.name, .ascending⟩ right left := rfl
  · rw [compare_by_value (by simp) byName, compare_by_value (by simp) byName,
      alike.resolve_left byName]
    congr 1
    calc (((left.property column).compare (right.property column)).then
            (left.compareNames right)).swap
        = ((left.property column).compare (right.property column)).swap.then
            (left.compareNames right).swap := Ordering.swap_then _ _
      _ = ((right.property column).compare (left.property column)).then
            (right.compareNames left) := by
        rw [← Property.compare_swap, ← compareNames_swap]

end Device

namespace Snapshot

section AnyZone

variable {zone : Zone}

/-- Whether the device of a node has a value in a column. -/
def hasValue (snapshot : Snapshot) (column : PropertyClass) (number : Nat) : Bool :=
  match snapshot.device? number with
  | some device => (device.property column).isValid
  | none => false

/-- No two nodes have the same checksum. -/
def HashesApart (snapshot : Snapshot) : Prop := (snapshot.nodes.toList.map (·.hash)).Nodup

variable {snapshot : Snapshot}

/-- Where no two nodes have the same checksum, nodes whose devices do are one. -/
theorem HashesApart.eq_of_hash (apart : snapshot.HashesApart) (built : snapshot.Built)
    {left right : Nat} {leftDevice rightDevice : Device}
    (leftFound : snapshot.device? left = some leftDevice)
    (rightFound : snapshot.device? right = some rightDevice)
    (same : leftDevice.hash = rightDevice.hash) : left = right := by
  -- Both nodes have the checksum of their devices, and so they have one place in the list.
  have listed : ∀ number : Nat,
      (snapshot.nodes.toList.map (·.hash))[number]? = snapshot.hash? number := by
    intro number
    simp [hash?, node?]
  have leftHash := built.hash?_of_device leftFound
  have rightHash := built.hash?_of_device rightFound
  rw [same] at leftHash
  apply (List.getElem?_inj _ apart).mp
  · rw [listed, listed, leftHash, rightHash]
  · rw [← listed] at leftHash
    exact (List.getElem?_eq_some_iff.mp leftHash).1

section Sorted

variable {column : PropertyClass}

/-- Under a sorting with a direction, no two nodes tie. -/
theorem eq_of_sortLess (built : snapshot.Built) (tagged : snapshot.WellTagged)
    (apart : snapshot.HashesApart) {sorting : Sorting} (active : sorting.isActive = true)
    {left right : Nat} (leftIn : left ∈ List.range snapshot.size)
    (rightIn : right ∈ List.range snapshot.size)
    (notLess : snapshot.sortLess sorting left right = false)
    (notGreater : snapshot.sortLess sorting right left = false) : left = right := by
  obtain ⟨leftDevice, leftFound, leftTagged⟩ := tagged left (List.mem_range.mp leftIn)
  obtain ⟨rightDevice, rightFound, rightTagged⟩ := tagged right (List.mem_range.mp rightIn)
  rw [sortLess_eq_false leftFound rightFound leftTagged rightTagged] at notLess
  rw [sortLess_eq_false rightFound leftFound rightTagged leftTagged] at notGreater
  rw [Device.compare_swap sorting rightTagged leftTagged] at notLess
  -- Neither is less, and so they tie.
  have tie : Device.compare sorting leftDevice rightDevice = .eq := by
    cases order : Device.compare sorting leftDevice rightDevice with
    | lt => rw [order] at notLess; cases notLess
    | eq => rfl
    | gt => rw [order] at notGreater; cases notGreater
  exact apart.eq_of_hash built leftFound rightFound
    (Device.hash_eq_of_compare (Sorting.isActive_iff.mp active) tie)

/-- The nodes in order are what sorting gives, from wherever it starts. -/
theorem orderBy_eq_of_pairwise (built : snapshot.Built) (tagged : snapshot.WellTagged)
    (apart : snapshot.HashesApart) {sorting : Sorting} (active : sorting.isActive = true)
    {before order : List Nat} (start : before.Perm (List.range snapshot.size))
    (perm : order.Perm (List.range snapshot.size))
    (ordered : order.Pairwise fun earlier later =>
      snapshot.sortLess sorting later earlier = false) :
    orderBy (snapshot.sortLess sorting) before = order :=
  -- No two nodes tie, so there is only one order.
  orderBy_eq (sortLess_ranks tagged sorting)
    (fun _ leftIn _ rightIn => eq_of_sortLess built tagged apart active leftIn rightIn)
    start perm ordered

/-- In the other direction, nodes that both have a value, or both have none, are compared the other
way round; by name all nodes are. -/
theorem sortLess_descending {left right : Nat}
    (alike : column = .name ∨ snapshot.hasValue column left = snapshot.hasValue column right) :
    snapshot.sortLess ⟨column, .descending⟩ left right =
      snapshot.sortLess ⟨column, .ascending⟩ right left := by
  -- Without a device on either side no node is less.
  cases leftFound : snapshot.device? left with
  | none => simp [sortLess, leftFound]
  | some leftDevice =>
    cases rightFound : snapshot.device? right with
    | none => simp [sortLess, leftFound, rightFound]
    | some rightDevice =>
      simp only [hasValue, leftFound, rightFound] at alike
      simp only [sortLess, leftFound, rightFound, Device.compare_descending alike]

/-- In both directions, a node with a value is less than one without. -/
theorem sortLess_of_hasValue (tagged : snapshot.WellTagged) {sorting : Sorting}
    (active : sorting.isActive = true) (other : sorting.column ≠ .name) {left right : Nat}
    (leftIn : left < snapshot.size) (rightIn : right < snapshot.size)
    (valued : snapshot.hasValue sorting.column left = true)
    (valueless : snapshot.hasValue sorting.column right = false) :
    snapshot.sortLess sorting left right = true := by
  -- Whether there is a value is asked before the direction.
  obtain ⟨leftDevice, leftFound, _⟩ := tagged left leftIn
  obtain ⟨rightDevice, rightFound, _⟩ := tagged right rightIn
  simp only [hasValue, leftFound, rightFound] at valued valueless
  simp only [sortLess, leftFound, rightFound]
  rw [Device.compare_of_isValid (Sorting.isActive_iff.mp active) other valued valueless]
  rfl

/-- In ascending direction, the nodes behind the first without a value have none. -/
theorem hasValue_dropWhile (tagged : snapshot.WellTagged) (other : column ≠ .name) :
    ∀ number ∈ (snapshot.sorted ⟨column, .ascending⟩).dropWhile (snapshot.hasValue column),
      snapshot.hasValue column number = false := by
  -- A node with a value behind one without would be less than that.
  apply unmarked_dropWhile
  have perm : (snapshot.sorted ⟨column, .ascending⟩).Perm (List.range snapshot.size) :=
    snapshot.sorted_perm rfl
  apply (sorted_inOrder tagged _).imp_of_mem
  intro earlier later earlierIn laterIn notLess laterValued
  rw [perm.mem_iff, List.mem_range] at earlierIn laterIn
  cases earlierValued : snapshot.hasValue column earlier with
  | true => rfl
  | false =>
    have less : snapshot.sortLess ⟨column, .ascending⟩ later earlier = true :=
      sortLess_of_hasValue tagged rfl other laterIn earlierIn laterValued earlierValued
    rw [less] at notLess
    cases notLess

/-- Nodes in order one way are in order the other way once they are turned around, if they are
compared the other way round there. -/
theorem inOrder_reverse {numbers : List Nat}
    (ordered : numbers.Pairwise fun earlier later =>
      snapshot.sortLess ⟨column, .ascending⟩ later earlier = false)
    (alike : column = .name ∨ ∀ left ∈ numbers, ∀ right ∈ numbers,
      snapshot.hasValue column left = snapshot.hasValue column right) :
    numbers.reverse.Pairwise fun earlier later =>
      snapshot.sortLess ⟨column, .descending⟩ later earlier = false := by
  -- What comes later now came earlier, and it is compared the other way round.
  rw [List.pairwise_reverse]
  apply ordered.imp_of_mem
  intro earlier later earlierIn laterIn notLess
  rw [sortLess_descending (alike.imp_right fun alike => alike earlier earlierIn later laterIn)]
  exact notLess

/-- The nodes sorted in ascending direction come apart into those with a value and those without,
and are in order in descending direction once each part is turned around. -/
theorem inOrder_parts (tagged : snapshot.WellTagged) (other : column ≠ .name)
    {valued valueless : List Nat}
    (whole : snapshot.sorted ⟨column, .ascending⟩ = valued ++ valueless)
    (allValued : ∀ number ∈ valued, snapshot.hasValue column number = true)
    (noneValued : ∀ number ∈ valueless, snapshot.hasValue column number = false) :
    (valued.reverse ++ valueless.reverse).Pairwise fun earlier later =>
      snapshot.sortLess ⟨column, .descending⟩ later earlier = false := by
  have ordered := sorted_inOrder tagged ⟨column, .ascending⟩
  have perm : (snapshot.sorted ⟨column, .ascending⟩).Perm (List.range snapshot.size) :=
    snapshot.sorted_perm rfl
  rw [whole] at ordered perm
  obtain ⟨valuedOrdered, valuelessOrdered, _⟩ := List.pairwise_append.mp ordered
  have within : ∀ number ∈ valued ++ valueless, number < snapshot.size := fun number member =>
    List.mem_range.mp (perm.mem_iff.mp member)
  refine List.pairwise_append.mpr ⟨inOrder_reverse valuedOrdered (.inr ?_),
    inOrder_reverse valuelessOrdered (.inr ?_), ?_⟩
  · intro left leftIn right rightIn
    rw [allValued left leftIn, allValued right rightIn]
  · intro left leftIn right rightIn
    rw [noneValued left leftIn, noneValued right rightIn]
  · -- A node with a value is less, and so the one without is not.
    intro left leftIn right rightIn
    rw [List.mem_reverse] at leftIn rightIn
    have leftWithin := within left (List.mem_append_left _ leftIn)
    have rightWithin := within right (List.mem_append_right _ rightIn)
    exact (sortLess_ranks tagged ⟨column, .descending⟩).asymm left (List.mem_range.mpr leftWithin)
      right (List.mem_range.mpr rightWithin) (sortLess_of_hasValue tagged rfl other leftWithin
        rightWithin (allValued left leftIn) (noneValued right rightIn))

/-- What sorting by a column gives in both directions, whatever order the nodes are sorted from: all
nodes, and in descending direction the ascending ones turned around. By a column other than that of
the names, the nodes with a value stay in front of those without, and each part is turned around. -/
structure SortsBothWays [Zone] (snapshot : Snapshot) (column : PropertyClass)
    (ascending descending : List Nat) : Prop where
  ascendingPerm : ascending.Perm (List.range snapshot.size)
  descendingPerm : descending.Perm (List.range snapshot.size)
  ascendingFrom : ∀ before : List Nat, before.Perm (List.range snapshot.size) →
    orderBy (snapshot.sortLess ⟨column, .ascending⟩) before = ascending
  descendingFrom : ∀ before : List Nat, before.Perm (List.range snapshot.size) →
    orderBy (snapshot.sortLess ⟨column, .descending⟩) before = descending
  byName : column = .name → descending = ascending.reverse
  byValue : column ≠ .name → ∃ valued valueless, ascending = valued ++ valueless ∧
    (∀ number ∈ valued, snapshot.hasValue column number = true) ∧
    (∀ number ∈ valueless, snapshot.hasValue column number = false) ∧
    descending = valued.reverse ++ valueless.reverse

/-- Where no two nodes have the same checksum, listing a snapshot by a column in descending
direction mirrors listing it in ascending direction. -/
theorem sortBy_mirrors (built : snapshot.Built) (tagged : snapshot.WellTagged)
    (apart : snapshot.HashesApart) (listing : Listing) (column : PropertyClass) :
    SortsBothWays snapshot column
      (listing.sortBy ⟨column, .ascending⟩ (some snapshot)).sorted
      (listing.sortBy ⟨column, .descending⟩ (some snapshot)).sorted := by
  show SortsBothWays snapshot column (snapshot.sorted ⟨column, .ascending⟩)
    (snapshot.sorted ⟨column, .descending⟩)
  have ascendingPerm : (snapshot.sorted ⟨column, .ascending⟩).Perm (List.range snapshot.size) :=
    snapshot.sorted_perm rfl
  have descendingPerm : (snapshot.sorted ⟨column, .descending⟩).Perm (List.range snapshot.size) :=
    snapshot.sorted_perm rfl
  -- In descending direction too there is but one order, and so it is enough to give one.
  have isDescending : ∀ {order : List Nat}, order.Perm (List.range snapshot.size) →
      (order.Pairwise fun earlier later =>
        snapshot.sortLess ⟨column, .descending⟩ later earlier = false) →
      snapshot.sorted ⟨column, .descending⟩ = order := fun perm ordered =>
    orderBy_eq_of_pairwise built tagged apart rfl (.refl _) perm ordered
  refine ⟨ascendingPerm, descendingPerm, ?_, ?_, ?_, ?_⟩
  · intro before start
    exact orderBy_eq_of_pairwise built tagged apart rfl start ascendingPerm
      (sorted_inOrder tagged _)
  · intro before start
    exact orderBy_eq_of_pairwise built tagged apart rfl start descendingPerm
      (sorted_inOrder tagged _)
  · -- By name all nodes are compared the other way round, with a value or without.
    intro byName
    exact isDescending ((List.reverse_perm _).trans ascendingPerm)
      (inOrder_reverse (sorted_inOrder tagged _) (.inl byName))
  · intro other
    let ascending := snapshot.sorted ⟨column, .ascending⟩
    let valued := ascending.takeWhile (snapshot.hasValue column)
    let valueless := ascending.dropWhile (snapshot.hasValue column)
    have whole : ascending = valued ++ valueless := List.takeWhile_append_dropWhile.symm
    have allValued : ∀ number ∈ valued, snapshot.hasValue column number = true :=
      List.all_eq_true.mp List.all_takeWhile
    have noneValued : ∀ number ∈ valueless, snapshot.hasValue column number = false :=
      hasValue_dropWhile tagged other
    refine ⟨valued, valueless, whole, allValued, noneValued, ?_⟩
    apply isDescending
    · have parts := (List.reverse_perm valued).append (List.reverse_perm valueless)
      rw [← whole] at parts
      exact parts.trans ascendingPerm
    · exact inOrder_parts tagged other whole allValued noneValued

end Sorted

end AnyZone

/-- A device above three others, of which two have a number. -/
def ports : Inventory :=
  (((Inventory.empty.addRoot (Device.unnumbered "PC").1).addChild 0
    (Device.numbered "A" 7).1).addChild 0 (Device.unnumbered "C").1).addChild 0
    (Device.numbered "B" 3).1

/-- The snapshot of these devices. -/
def portsBuilt : Snapshot := build ⟨1, ports⟩ (Preferences.standard.set .showDisconnected true)

/-- From the highest number down the ports are turned around, those without one again last. -/
theorem sortBy_mirrors_ports :
    let listed := fun direction =>
      ((Listing.start .standard .standard).sortBy ⟨.uiNumber, direction⟩ (some portsBuilt)).sorted
    portsBuilt.Built ∧ portsBuilt.WellTagged ∧ portsBuilt.HashesApart ∧
    listed .ascending = [3, 1] ++ [2, 0] ∧ listed .descending = [1, 3] ++ [0, 2] ∧
    SortsBothWays portsBuilt .uiNumber (listed .ascending) (listed .descending) := by
  -- Two of the four devices have a number.
  have grown : ports.Grown :=
    .addChild (.addChild (.addChild (.addRoot .empty _) (by decide) _) (by decide) _) (by decide) _
  have tagged : ports.WellTagged :=
    (((Inventory.wellTagged_empty.addRoot (Device.unnumbered "PC").2).addChild 0
      (Device.numbered "A" 7).2).addChild 0 (Device.unnumbered "C").2).addChild 0
      (Device.numbered "B" 3).2
  have built : portsBuilt.Built := built_build grown _
  have allTagged : portsBuilt.WellTagged := wellTagged_build grown tagged _
  have apart : portsBuilt.HashesApart := by
    rw [HashesApart]
    decide +kernel
  exact ⟨built, allTagged, apart, by decide +kernel, by decide +kernel,
    sortBy_mirrors built allTagged apart _ .uiNumber⟩

end Snapshot

end DeviceBrowser
