import DeviceBrowser.Proofs.Inventory.Tagged
import DeviceBrowser.Proofs.Order
import DeviceBrowser.Proofs.Snapshot.WellFormed
import DeviceBrowser.View.Listing

/-! The order of devices under a sorting is a total one as long as every value has the kind of its
class, so that sorting a snapshot by it puts no node before a lesser one. -/

namespace DeviceBrowser

/-- A sorting orders the list if it has a direction. -/
theorem Sorting.isActive_iff {sorting : Sorting} :
    sorting.isActive = true ↔ sorting.direction ≠ .unsorted :=
  bne_iff_ne

namespace Value

/-- Comparing two values the other way round turns the outcome around. -/
theorem compare_swap (left right : Value) : left.compare right = (right.compare left).swap := by
  -- Values of two kinds tie, and those of one kind are ordered by an order that turns around.
  cases left <;> cases right <;> first | rfl | exact Std.OrientedOrd.eq_swap

/-- Among values of one kind the order carries on. -/
theorem compare_trans {left middle right : Value} (leftKind : left.kind = middle.kind)
    (rightKind : middle.kind = right.kind) (first : (left.compare middle).isLE)
    (second : (middle.compare right).isLE) : (left.compare right).isLE := by
  -- Three values of one kind are ordered by the order of that kind.
  cases left <;> cases middle <;> try contradiction
  all_goals cases right <;> try contradiction
  all_goals exact Std.TransOrd.isLE_trans first second

end Value

namespace Property

/-- Comparing two properties the other way round turns the outcome around. -/
theorem compare_swap (left right : Property) : left.compare right = (right.compare left).swap := by
  -- Missing values are treated apart; where both are there, they are compared.
  obtain ⟨_, leftValue⟩ := left
  obtain ⟨_, rightValue⟩ := right
  cases leftValue <;> cases rightValue
  · rfl
  · rfl
  · rfl
  · exact Value.compare_swap _ _

/-- Among properties whose values are of one kind the order carries on. -/
theorem compare_trans {left middle right : Property} {kind : Kind}
    (leftKind : ∀ value, left.value = some value → value.kind = kind)
    (middleKind : ∀ value, middle.value = some value → value.kind = kind)
    (rightKind : ∀ value, right.value = some value → value.kind = kind)
    (first : (left.compare middle).isLE) (second : (middle.compare right).isLE) :
    (left.compare right).isLE := by
  -- A property without a value is behind all others, so that only three values are left to compare.
  obtain ⟨_, leftValue⟩ := left
  obtain ⟨_, middleValue⟩ := middle
  obtain ⟨_, rightValue⟩ := right
  cases leftValue <;> cases middleValue <;> cases rightValue <;> try trivial
  rename_i left middle right
  exact Value.compare_trans ((leftKind left rfl).trans (middleKind middle rfl).symm)
    ((middleKind middle rfl).trans (rightKind right rfl).symm) first second

end Property

namespace Device

section AnyZone

variable {zone : Zone}

/-- The devices whose values have the kinds of their classes. -/
abbrev Tagged : Type := { device : Device // device.WellTagged }

/-- Devices are totally ordered by their properties of one class. -/
instance (cls : PropertyClass) : Std.TransCmp fun left right : Tagged =>
    (left.1.property cls).compare (right.1.property cls) where
  eq_swap := Property.compare_swap _ _
  isLE_trans {left middle right} first second :=
    Property.compare_trans (left.2 cls) (middle.2 cls) (right.2 cls) first second

/-- Devices are totally ordered by name and checksum. -/
instance [Zone] : Std.TransCmp fun left right : Tagged => left.1.compareNames right.1 :=
  inferInstanceAs (Std.TransCmp (compareLex
    (compareOn fun device : Tagged => Text.lowerChars device.1.name.toList)
    (compareOn fun device : Tagged => device.1.hash)))

/-- An order that is turned around is still total. -/
instance {α : Type} (direction : Direction) (cmp : α → α → Ordering) [Std.TransCmp cmp] :
    Std.TransCmp fun left right => directed direction (cmp left right) := by
  -- Turned around, the order compares the two the other way round.
  by_cases turned : direction = .descending
  · have flipped : (fun left right => directed direction (cmp left right)) =
        fun left right => cmp right left := by
      funext left right
      rw [directed, if_pos turned, ← Std.OrientedCmp.eq_swap]
    rw [flipped]
    infer_instance
  · have kept : (fun left right => directed direction (cmp left right)) = cmp := by
      funext left right
      rw [directed, if_neg turned]
    rw [kept]
    infer_instance

/-- By a column other than that of the names, devices are ordered by whether they have a value, then
in the direction by value, name and checksum. -/
theorem compare_by_value {sorting : Sorting} (active : sorting.direction ≠ .unsorted)
    (other : sorting.column ≠ .name) (left right : Device) :
    compare sorting left right =
      (Ord.compare (!(left.property sorting.column).isValid)
        (!(right.property sorting.column).isValid)).then
      (directed sorting.direction
        (((left.property sorting.column).compare (right.property sorting.column)).then
          (left.compareNames right))) := by
  -- Where both have a value or none has, whether they are valid is a tie.
  simp only [compare, if_neg active, if_neg other]
  cases (left.property sorting.column).isValid <;>
    cases (right.property sorting.column).isValid <;> rfl

/-- Under any sorting, devices are totally ordered. -/
instance [Zone] (sorting : Sorting) :
    Std.TransCmp fun left right : Tagged => compare sorting left.1 right.1 := by
  -- Without a direction all devices tie; the column of the names compares nothing but names.
  by_cases unsorted : sorting.direction = .unsorted
  · have tied : (fun left right : Tagged => compare sorting left.1 right.1) =
        fun _ _ => .eq := by
      funext left right
      rw [compare, if_pos unsorted]
    rw [tied]
    exact { eq_swap := rfl, isLE_trans := fun _ _ => rfl }
  · by_cases byName : sorting.column = .name
    · have named : (fun left right : Tagged => compare sorting left.1 right.1) =
          fun left right => directed sorting.direction (left.1.compareNames right.1) := by
        funext left right
        rw [compare, if_neg unsorted, if_pos byName]
      rw [named]
      infer_instance
    · have valued : (fun left right : Tagged => compare sorting left.1 right.1) =
          compareLex (compareOn fun device : Tagged => !(device.1.property sorting.column).isValid)
            (fun left right => directed sorting.direction
              (compareLex (fun left right : Tagged =>
                  (left.1.property sorting.column).compare (right.1.property sorting.column))
                (fun left right => left.1.compareNames right.1) left right)) := by
        funext left right
        exact compare_by_value unsorted byName left.1 right.1
      rw [valued]
      infer_instance

/-- Comparing two devices the other way round turns the outcome around. -/
theorem compare_swap [Zone] (sorting : Sorting) {left right : Device}
    (leftTagged : left.WellTagged) (rightTagged : right.WellTagged) :
    compare sorting left right = (compare sorting right left).swap :=
  -- The devices are tagged, as the law asks.
  @Std.OrientedCmp.eq_swap Tagged (fun left right => compare sorting left.1 right.1) _
    ⟨left, leftTagged⟩ ⟨right, rightTagged⟩

/-- The order of devices carries on. -/
theorem compare_trans (sorting : Sorting) {left middle right : Device}
    (leftTagged : left.WellTagged) (middleTagged : middle.WellTagged)
    (rightTagged : right.WellTagged) (first : (compare sorting left middle).isLE)
    (second : (compare sorting middle right).isLE) : (compare sorting left right).isLE :=
  -- The devices are tagged, as the law asks.
  @Std.TransCmp.isLE_trans Tagged (fun left right => compare sorting left.1 right.1) _
    ⟨left, leftTagged⟩ ⟨middle, middleTagged⟩ ⟨right, rightTagged⟩ first second

/-- Turning an outcome around makes no tie and breaks none. -/
theorem directed_eq_eq {direction : Direction} {order : Ordering} :
    directed direction order = .eq ↔ order = .eq := by
  -- Ascending leaves the outcome, and descending swaps it.
  rw [directed]
  split
  · exact Ordering.swap_eq_eq
  · rfl

/-- Names and checksums tie only where the checksums do. -/
theorem hash_eq_of_compareNames {left right : Device} (tie : left.compareNames right = .eq) :
    left.hash = right.hash :=
  -- The checksums are compared last, where equal means the same.
  Std.LawfulEqOrd.eq_of_compare (Ordering.then_eq_eq.mp tie).2

/-- Under a sorting with a direction, only devices of one checksum tie. -/
theorem hash_eq_of_compare {sorting : Sorting} (active : sorting.direction ≠ .unsorted)
    {left right : Device} (tie : compare sorting left right = .eq) : left.hash = right.hash := by
  -- Names and checksums are compared last by every column.
  by_cases byName : sorting.column = .name
  · rw [compare, if_neg active, if_pos byName, directed_eq_eq] at tie
    exact hash_eq_of_compareNames tie
  · rw [compare_by_value active byName, Ordering.then_eq_eq, directed_eq_eq,
      Ordering.then_eq_eq] at tie
    exact hash_eq_of_compareNames tie.2.2

/-- A device with a value is less than one without, in both directions. -/
theorem compare_of_isValid {sorting : Sorting} (active : sorting.direction ≠ .unsorted)
    (other : sorting.column ≠ .name) {left right : Device}
    (valued : (left.property sorting.column).isValid = true)
    (valueless : (right.property sorting.column).isValid = false) :
    compare sorting left right = .lt := by
  -- Whether there is a value is compared first, and never turned around.
  rw [compare_by_value active other, valued, valueless]
  rfl

/-- A sorting orders devices totally: of two devices one is not greater than the other, comparing
them the other way round turns the outcome around, and the order carries on. Only devices of one
checksum tie, and by a column other than that of the names a device without a value comes last. -/
structure TotallyOrders [Zone] (sorting : Sorting) : Prop where
  total : ∀ left right : Tagged,
    (compare sorting left.1 right.1).isLE ∨ (compare sorting right.1 left.1).isLE
  swap : ∀ left right : Tagged,
    compare sorting right.1 left.1 = (compare sorting left.1 right.1).swap
  trans : ∀ left middle right : Tagged, (compare sorting left.1 middle.1).isLE →
    (compare sorting middle.1 right.1).isLE → (compare sorting left.1 right.1).isLE
  strict : ∀ left middle right : Tagged, compare sorting left.1 middle.1 = .lt →
    compare sorting middle.1 right.1 = .lt → compare sorting left.1 right.1 = .lt
  ties : ∀ left right : Tagged, compare sorting left.1 right.1 = .eq → left.1.hash = right.1.hash
  valued : sorting.column ≠ .name → ∀ left right : Tagged,
    (left.1.property sorting.column).isValid = true →
    (right.1.property sorting.column).isValid = false → compare sorting left.1 right.1 = .lt

/-- Every sorting with a direction orders devices totally. -/
theorem compare_totallyOrders {sorting : Sorting} (active : sorting.isActive = true) :
    TotallyOrders sorting where
  -- Each clause is one of the laws above; values of each device have the kinds of their classes.
  total left right := by
    rw [compare_swap sorting right.2 left.2]
    cases compare sorting left.1 right.1 <;> decide
  swap left right := compare_swap sorting right.2 left.2
  trans left middle right := compare_trans sorting left.2 middle.2 right.2
  strict left middle right := @Std.TransCmp.lt_trans Tagged
    (fun left right => compare sorting left.1 right.1) _ left middle right
  ties left right tie := hash_eq_of_compare (Sorting.isActive_iff.mp active) tie
  valued other _ _ := compare_of_isValid (Sorting.isActive_iff.mp active) other

end AnyZone

/-- A device that has a number. -/
def numbered (id : String) (number : UInt32) : Tagged :=
  ⟨(ofId id false).set .uiNumber (.uint32 number), (wellTagged_ofId id false).set rfl⟩

/-- A device that has none. -/
def unnumbered (id : String) : Tagged := ⟨ofId id false, wellTagged_ofId id false⟩

/-- From the highest number down devices are ordered totally, one without a number last. -/
theorem compare_totallyOrders_numbers :
    (Sorting.mk .uiNumber .descending).isActive = true ∧
    TotallyOrders ⟨.uiNumber, .descending⟩ ∧
    compare ⟨.uiNumber, .descending⟩ (numbered "A" 7).1 (numbered "B" 3).1 = .lt ∧
    compare ⟨.uiNumber, .descending⟩ (numbered "B" 3).1 (unnumbered "C").1 = .lt ∧
    compare ⟨.uiNumber, .descending⟩ (numbered "A" 7).1 (unnumbered "C").1 = .lt := by
  -- Seven is more than three, and a number is before none.
  have orders : TotallyOrders ⟨.uiNumber, .descending⟩ := compare_totallyOrders rfl
  have first : compare ⟨.uiNumber, .descending⟩ (numbered "A" 7).1 (numbered "B" 3).1 = .lt := by
    decide +kernel
  have second := orders.valued (by decide) (numbered "B" 3) (unnumbered "C") rfl rfl
  exact ⟨rfl, orders, first, second, orders.strict _ _ _ first second⟩

end Device

namespace Snapshot

variable {zone : Zone}

/-- Every node has a device whose values have the kinds of their classes. -/
def WellTagged (snapshot : Snapshot) : Prop :=
  ∀ number < snapshot.size, ∃ device, snapshot.device? number = some device ∧ device.WellTagged

/-- A snapshot that is built of well tagged devices is well tagged. -/
theorem wellTagged_build {edition : Edition} (grown : edition.inventory.Grown)
    (tagged : edition.inventory.WellTagged) (preferences : Preferences) :
    (build edition preferences).WellTagged := by
  -- The device of a node is one of the inventory.
  intro number within
  obtain ⟨device, found⟩ := (built_build grown preferences).device within
  obtain ⟨node, _, present⟩ := device?_eq_some_iff.mp found
  rw [edition_build] at present
  exact ⟨device, found, tagged node.position device present⟩

/-- A node is not less than another exactly if the other comes first or ties with it. -/
theorem sortLess_eq_false {snapshot : Snapshot} {sorting : Sorting} {left right : Nat}
    {leftDevice rightDevice : Device} (leftFound : snapshot.device? left = some leftDevice)
    (rightFound : snapshot.device? right = some rightDevice)
    (leftTagged : leftDevice.WellTagged) (rightTagged : rightDevice.WellTagged) :
    snapshot.sortLess sorting left right = false ↔
      (Device.compare sorting rightDevice leftDevice).isLE := by
  -- Turned around, less is greater.
  have swap := Device.compare_swap sorting leftTagged rightTagged
  simp only [sortLess, leftFound, rightFound, swap]
  cases Device.compare sorting rightDevice leftDevice <;> decide

/-- The order of nodes under a sorting agrees with itself. -/
theorem sortLess_ranks {snapshot : Snapshot} (tagged : snapshot.WellTagged) (sorting : Sorting) :
    Ranks (snapshot.sortLess sorting) (List.range snapshot.size) where
  -- Numbers in range have well tagged devices, which are ordered without contradiction.
  asymm left leftIn right rightIn less := by
    obtain ⟨leftDevice, leftFound, leftTagged⟩ := tagged left (List.mem_range.mp leftIn)
    obtain ⟨rightDevice, rightFound, rightTagged⟩ := tagged right (List.mem_range.mp rightIn)
    rw [sortLess_eq_false rightFound leftFound rightTagged leftTagged]
    simp only [sortLess, leftFound, rightFound, beq_iff_eq] at less
    rw [less]
    rfl
  trans left leftIn middle middleIn right rightIn first second := by
    obtain ⟨leftDevice, leftFound, leftTagged⟩ := tagged left (List.mem_range.mp leftIn)
    obtain ⟨middleDevice, middleFound, middleTagged⟩ := tagged middle (List.mem_range.mp middleIn)
    obtain ⟨rightDevice, rightFound, rightTagged⟩ := tagged right (List.mem_range.mp rightIn)
    rw [sortLess_eq_false leftFound middleFound leftTagged middleTagged] at first
    rw [sortLess_eq_false middleFound rightFound middleTagged rightTagged] at second
    rw [sortLess_eq_false leftFound rightFound leftTagged rightTagged]
    exact Device.compare_trans sorting rightTagged middleTagged leftTagged second first

/-- Sorting loses and repeats no node. -/
theorem sorted_perm [Zone] (snapshot : Snapshot) {sorting : Sorting}
    (active : sorting.isActive = true) :
    (snapshot.sorted sorting).Perm (List.range snapshot.size) := by
  -- Sorting moves numbers only.
  rw [sorted, if_pos active]
  exact orderBy_perm _ _

/-- Without a direction no node is listed. -/
theorem sorted_inactive (snapshot : Snapshot) {sorting : Sorting}
    (inactive : sorting.isActive = false) : snapshot.sorted sorting = [] := by
  -- Sorting is left out then.
  rw [sorted, if_neg (by simp [inactive])]

/-- Sorting puts the nodes in order. -/
theorem sorted_inOrder [Zone] {snapshot : Snapshot} (tagged : snapshot.WellTagged)
    (sorting : Sorting) :
    (snapshot.sorted sorting).Pairwise fun earlier later =>
      snapshot.sortLess sorting later earlier = false := by
  -- Where sorting is left out there is nothing to be in order.
  rw [sorted]
  split
  · exact orderBy_pairwise (sortLess_ranks tagged sorting)
  · exact List.Pairwise.nil

/-- Sorting puts no node before a lesser one. -/
theorem sorted_pairwise {snapshot : Snapshot} (tagged : snapshot.WellTagged) (sorting : Sorting) :
    (snapshot.sorted sorting).Pairwise fun earlier later => ∃ earlierDevice laterDevice,
      snapshot.device? earlier = some earlierDevice ∧ snapshot.device? later = some laterDevice ∧
      Device.compare sorting earlierDevice laterDevice ≠ .gt := by
  -- Every number listed is that of a node, whose device is well tagged.
  cases active : sorting.isActive with
  | false =>
    rw [sorted_inactive snapshot active]
    exact List.Pairwise.nil
  | true =>
    have perm := sorted_perm snapshot active
    apply (sorted_inOrder tagged sorting).imp_of_mem
    intro earlier later earlierIn laterIn notLess
    rw [perm.mem_iff, List.mem_range] at earlierIn laterIn
    obtain ⟨earlierDevice, earlierFound, earlierTagged⟩ := tagged earlier earlierIn
    obtain ⟨laterDevice, laterFound, laterTagged⟩ := tagged later laterIn
    rw [sortLess_eq_false laterFound earlierFound laterTagged earlierTagged] at notLess
    -- The later device is not less, so that the earlier one is not greater.
    refine ⟨earlierDevice, laterDevice, earlierFound, laterFound, ?_⟩
    intro greater
    rw [greater] at notLess
    cases notLess

end Snapshot

end DeviceBrowser
