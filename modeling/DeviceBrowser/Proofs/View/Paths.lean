import DeviceBrowser.Proofs.Browser.Coherence

/-! A search keeps the paths to what it finds: marking upwards from each visible node, in whatever
order the nodes stand, marks just the nodes at or above visible ones. -/

namespace DeviceBrowser

namespace Snapshot

variable {snapshot : Snapshot} {visible marks result : Array Bool} {numbers : List Nat}

/-- A node stands at or below another: the lists lead down to it from the other. -/
abbrev Below (snapshot : Snapshot) : Nat → Nat → Prop :=
  Relation.ReflTransGen fun child up => child ∈ snapshot.children (some up)

/-- A climb from a node, if there is one, marks the nodes on its way and ends above the roots or at
the first node that is marked. -/
inductive Climbs (snapshot : Snapshot) : Option Nat → Array Bool → Array Bool → Prop
  | out (marks : Array Bool) : Climbs snapshot none marks marks
  | met {number : Nat} {marks : Array Bool} (marked : marks[number]? = some true) :
      Climbs snapshot (some number) marks marks
  | mark {number : Nat} {marks result : Array Bool} (unmarked : marks[number]? = some false)
      (further : Climbs snapshot (snapshot.parent? number) (marks.setIfInBounds number true)
        result) : Climbs snapshot (some number) marks result

/-- Marking spreads from some nodes in turn: from each visible one a climb starts at its parent. -/
inductive Spreads (snapshot : Snapshot) (visible : Array Bool) :
    List Nat → Array Bool → Array Bool → Prop
  | done (marks : Array Bool) : Spreads snapshot visible [] marks marks
  | pass {number : Nat} {rest : List Nat} {marks result : Array Bool}
      (hidden : visible[number]? = some false)
      (later : Spreads snapshot visible rest marks result) :
      Spreads snapshot visible (number :: rest) marks result
  | climb {number : Nat} {rest : List Nat} {marks climbed result : Array Bool}
      (isVisible : visible[number]? = some true)
      (climbs : Climbs snapshot (snapshot.parent? number) marks climbed)
      (later : Spreads snapshot visible rest climbed result) :
      Spreads snapshot visible (number :: rest) marks result

/-! ## Marking ends -/

/-- A mark that is set is no longer among those that are not. -/
theorem count_false_setIfInBounds {number : Nat} (unmarked : marks[number]? = some false) :
    (marks.setIfInBounds number true).count false + 1 = marks.count false := by
  obtain ⟨within, mark⟩ := Array.getElem?_eq_some_iff.mp unmarked
  -- The mark was counted before, so that there is one to take away.
  have counted : 0 < marks.count false := by
    rw [Array.count_pos_iff, ← mark]
    exact Array.getElem_mem within
  rw [Array.setIfInBounds_def, dif_pos within, Array.count_set, mark]
  simp
  omega

/-- The parent of a node is a node. -/
theorem Listed.lt_size_of_parent? (listed : snapshot.Listed) {number up : Nat}
    (linked : snapshot.parent? number = some up) : up < snapshot.size := by
  -- Links up lead to nodes.
  obtain ⟨node, found, toUp⟩ := Option.bind_eq_some_iff.mp linked
  exact listed.parent_lt found toUp

/-- Marking upwards in as many steps as there are nodes without a mark is a climb. -/
theorem Listed.climbs_markUp (listed : snapshot.Listed) {steps : Nat} {start : Option Nat}
    (size : marks.size = snapshot.size)
    (within : ∀ number, start = some number → number < snapshot.size)
    (enough : marks.count false ≤ steps) :
    snapshot.Climbs start marks (snapshot.markUp steps start marks) := by
  -- The induction is on the steps, each of which sets a mark.
  induction steps generalizing start marks with
  | zero =>
    cases start with
    | none => exact .out marks
    | some number =>
      -- No node is left without a mark.
      have present : number < marks.size := by
        rw [size]
        exact within number rfl
      have none : false ∉ marks := by
        rw [← Array.count_eq_zero]
        omega
      have marked : marks[number] = true := by
        cases mark : marks[number] with
        | true => rfl
        | false => exact absurd (mark ▸ Array.getElem_mem present) none
      exact .met (by rw [Array.getElem?_eq_getElem present, marked])
  | succ steps ih =>
    cases start with
    | none => exact .out marks
    | some number =>
      have present : number < marks.size := by
        rw [size]
        exact within number rfl
      rw [markUp]
      split
      · rename_i unmarked
        have fewer := count_false_setIfInBounds unmarked
        refine .mark unmarked (ih ?_ ?_ ?_)
        · simpa using size
        · exact fun up linked => listed.lt_size_of_parent? linked
        · omega
      · rename_i marked
        have mark : marks[number]? = some marks[number] := Array.getElem?_eq_getElem present
        rw [mark] at marked
        exact .met (by rw [mark]; simpa using marked)

/-- The marks of the nodes that a tree shows come about by marking from all nodes in turn. -/
theorem Listed.spreads_reachable (listed : snapshot.Listed) (size : visible.size = snapshot.size) :
    snapshot.Spreads visible (List.range snapshot.size) visible (snapshot.reachable visible) := by
  -- The induction is on the nodes whose turn is still to come; each climb leaves a mark per node.
  have general : ∀ (numbers : List Nat) (marks : Array Bool),
      (∀ number ∈ numbers, number < snapshot.size) → marks.size = snapshot.size →
        snapshot.Spreads visible numbers marks (numbers.foldl (fun marks number =>
          if visible[number]? = some true then
            snapshot.markUp snapshot.size ((snapshot.node? number).bind (·.parent)) marks
          else marks) marks) := by
    intro numbers
    induction numbers with
    | nil =>
      intro marks _ _
      exact .done marks
    | cons number rest ih =>
      intro marks within marksSize
      obtain ⟨numberWithin, restWithin⟩ := List.forall_mem_cons.mp within
      rw [List.foldl_cons]
      split
      · rename_i isVisible
        -- There are at most as many nodes without a mark as there are nodes.
        have enough : marks.count false ≤ snapshot.size := by
          rw [← marksSize]
          exact Array.count_le_size
        have climbs : snapshot.Climbs (snapshot.parent? number) marks
            (snapshot.markUp snapshot.size (snapshot.parent? number) marks) :=
          listed.climbs_markUp marksSize (fun up linked => listed.lt_size_of_parent? linked) enough
        exact .climb isVisible climbs (ih _ restWithin (by simpa using marksSize))
      · rename_i isHidden
        have present : number < visible.size := by
          rw [size]
          exact numberWithin
        have mark : visible[number]? = some visible[number] := Array.getElem?_eq_getElem present
        rw [mark] at isHidden
        exact .pass (by rw [mark]; simpa using isHidden) (ih _ restWithin marksSize)
  exact general _ _ (fun number member => List.mem_range.mp member) size

/-! ## What is marked -/

/-- A mark that is set reads as set, and the others as before. -/
theorem marked_setIfInBounds {number other : Nat} (unmarked : marks[number]? = some false) :
    (marks.setIfInBounds number true)[other]? = some true ↔
      other = number ∨ marks[other]? = some true := by
  -- The number is that of an unmarked node, so it is within the bounds.
  have within := (Array.getElem?_eq_some_iff.mp unmarked).1
  rw [Array.getElem?_setIfInBounds]
  by_cases same : number = other
  · subst same
    simp [within]
  · simp [same, Ne.symm same]

/-- A climb takes no mark away. -/
theorem Climbs.keeps_marked {start : Option Nat} (climbs : snapshot.Climbs start marks result)
    {number : Nat} (marked : marks[number]? = some true) : result[number]? = some true := by
  -- Along the climb marks are only set.
  induction climbs with
  | out => exact marked
  | met => exact marked
  | mark unmarked _ ih => exact ih ((marked_setIfInBounds unmarked).mpr (.inr marked))

/-- A climb marks nodes at or above its start only. -/
theorem Climbs.marks_above (listed : snapshot.Listed) {start : Option Nat}
    (climbs : snapshot.Climbs start marks result) {number : Nat}
    (marked : result[number]? = some true) :
    marks[number]? = some true ∨ ∃ lower, start = some lower ∧ snapshot.Below lower number := by
  -- The way from a node's parent is one step longer than that from the parent's parent.
  induction climbs with
  | out => exact .inl marked
  | met => exact .inl marked
  | @mark first marks result unmarked _ ih =>
    rcases ih marked with before | ⟨up, linked, below⟩
    · rcases (marked_setIfInBounds unmarked).mp before with rfl | before
      · exact .inr ⟨number, rfl, .refl⟩
      · exact .inl before
    · obtain ⟨node, found, toUp⟩ := Option.bind_eq_some_iff.mp linked
      have inList := (listed.mem_iff (some up) first).mpr ⟨node, found, toUp⟩
      exact .inr ⟨first, rfl, .head inList below⟩

/-- The marks are closed upwards but for some nodes: of any other marked node the parent is marked
too. -/
def ClosedExcept (snapshot : Snapshot) (waits : Nat → Prop) (marks : Array Bool) : Prop :=
  ∀ child up, snapshot.parent? child = some up → marks[child]? = some true →
    marks[up]? = some true ∨ waits child

/-- A climb from a node's parent closes the marks at that node. -/
theorem Climbs.closes {start : Option Nat} (climbs : snapshot.Climbs start marks result)
    {others : Nat → Prop}
    (closed : snapshot.ClosedExcept (fun child => snapshot.parent? child = start ∨ others child)
      marks) : snapshot.ClosedExcept others result := by
  -- Where the climb stands, the nodes right below are the only ones left open besides the others.
  induction climbs with
  | out =>
    intro child up linked marked
    rcases closed child up linked marked with done | unlinked | isOpen
    · exact .inl done
    · rw [linked] at unlinked
      cases unlinked
    · exact .inr isOpen
  | @met number marks met =>
    -- The climb ends at a marked node, above which all is closed or still to be.
    intro child up linked marked
    rcases closed child up linked marked with done | toNumber | isOpen
    · exact .inl done
    · rw [linked] at toNumber
      cases toNumber
      exact .inl met
    · exact .inr isOpen
  | @mark number marks result unmarked _ ih =>
    apply ih
    intro child up linked marked
    simp only [marked_setIfInBounds unmarked] at marked ⊢
    -- The node that is marked here is open until its own parent is marked.
    rcases marked with rfl | marked
    · exact .inr (.inl rfl)
    · rcases closed child up linked marked with done | toNumber | isOpen
      · exact .inl (.inr done)
      · rw [linked] at toNumber
        exact .inl (.inl (Option.some.inj toNumber))
      · exact .inr (.inr isOpen)

/-- Marking from some nodes in turn takes no mark away. -/
theorem Spreads.keeps_marked (spreads : snapshot.Spreads visible numbers marks result)
    {number : Nat}
    (marked : marks[number]? = some true) : result[number]? = some true := by
  -- From node to node marks are only set.
  induction spreads with
  | done => exact marked
  | pass _ _ ih => exact ih marked
  | climb _ climbs _ ih => exact ih (climbs.keeps_marked marked)

/-- Marking from some nodes in turn marks nodes at or above visible ones only. -/
theorem Spreads.marks_above (listed : snapshot.Listed)
    (spreads : snapshot.Spreads visible numbers marks result)
    (started : ∀ number, marks[number]? = some true →
      ∃ lower, snapshot.Below lower number ∧ visible[lower]? = some true) :
    ∀ number, result[number]? = some true →
      ∃ lower, snapshot.Below lower number ∧ visible[lower]? = some true := by
  induction spreads with
  | done => exact started
  | pass _ _ ih => exact ih started
  | @climb first rest marks climbed result isVisible climbs _ ih =>
    -- A climb marks nodes above the parent of the visible node that it starts from.
    apply ih
    intro number marked
    rcases climbs.marks_above listed marked with before | ⟨up, linked, below⟩
    · exact started number before
    · obtain ⟨node, found, toUp⟩ := Option.bind_eq_some_iff.mp linked
      have inList := (listed.mem_iff (some up) first).mpr ⟨node, found, toUp⟩
      exact ⟨first, .head inList below, isVisible⟩

/-- Marking from all nodes that wait closes the marks upwards. -/
theorem Spreads.closes (spreads : snapshot.Spreads visible numbers marks result)
    (closed : snapshot.ClosedExcept
      (fun child => child ∈ numbers ∧ visible[child]? = some true) marks) :
    snapshot.ClosedExcept (fun _ => False) result := by
  -- A visible node waits for its turn, and the climb that starts then closes the marks at it.
  induction spreads with
  | done =>
    intro child up linked marked
    rcases closed child up linked marked with done | ⟨impossible, _⟩
    · exact .inl done
    · cases impossible
  | @pass number rest marks result hidden _ ih =>
    apply ih
    intro child up linked marked
    rcases closed child up linked marked with done | ⟨waits, isVisible⟩
    · exact .inl done
    · rcases List.mem_cons.mp waits with rfl | later
      · -- A node that is passed over is not visible, and so is not the one that was waited for.
        rw [hidden] at isVisible
        cases isVisible
      · exact .inr ⟨later, isVisible⟩
  | @climb number rest marks climbed result _ climbs _ ih =>
    apply ih
    apply climbs.closes
    intro child up linked marked
    rcases closed child up linked marked with done | ⟨waits, isVisible⟩
    · exact .inl done
    · rcases List.mem_cons.mp waits with rfl | later
      · exact .inr (.inl rfl)
      · exact .inr (.inr ⟨later, isVisible⟩)

/-- Where the marks are closed upwards, a node above a marked one is marked. -/
theorem ClosedExcept.marked_above (listed : snapshot.Listed)
    (closed : snapshot.ClosedExcept (fun _ => False) marks) {lower number : Nat}
    (below : snapshot.Below lower number) (marked : marks[lower]? = some true) :
    marks[number]? = some true := by
  -- Each step up leads from a child to its parent.
  induction below with
  | refl => exact marked
  | @tail child up _ inList ih =>
    obtain ⟨node, found, toUp⟩ := (listed.mem_iff (some up) child).mp inList
    have linked : snapshot.parent? child = some up := by simp [parent?, found, toUp]
    exact (closed child up linked ih).resolve_right not_false

/-- The nodes that a tree shows are just those at or above visible ones. -/
theorem Listed.reachable_iff (listed : snapshot.Listed) (size : visible.size = snapshot.size)
    (number : Nat) : (snapshot.reachable visible)[number]? = some true ↔
      ∃ lower, snapshot.Below lower number ∧ visible[lower]? = some true := by
  have spreads := listed.spreads_reachable size
  constructor
  · intro marked
    exact spreads.marks_above listed (fun number isVisible => ⟨number, .refl, isVisible⟩) number
      marked
  · rintro ⟨lower, below, isVisible⟩
    -- At the start every marked node is visible and waits for its turn.
    have closed := spreads.closes (by
      intro child up _ marked
      have within := (Array.getElem?_eq_some_iff.mp marked).1
      rw [size] at within
      exact .inr ⟨List.mem_range.mpr within, marked⟩)
    exact closed.marked_above listed below (spreads.keeps_marked isVisible)

/-- In a built snapshot just the numbers of nodes are marked as matching whose devices have, in a
shown column, what is looked for, if anything is. -/
theorem Built.matching_iff [Zone] (built : snapshot.Built) (search : Option SearchTerm)
    (columns : Columns) (number : Nat) :
    (snapshot.matching search columns)[number]? = some true ↔
      ∃ device, snapshot.device? number = some device ∧
        ∀ term, search = some term → term.matchesDevice columns.shown device = true := by
  rcases Nat.lt_or_ge number snapshot.size with within | beyond
  · -- The mark of a node is the answer of its device.
    obtain ⟨device, found⟩ := built.device within
    cases search <;> simp [matching, within, found]
  · -- Beyond the nodes there is neither a mark nor a device.
    have unmarked : (snapshot.matching search columns)[number]? = none :=
      Array.getElem?_eq_none (by simpa using beyond)
    have absent : snapshot.device? number = none := by
      simp [device?, Snapshot.entry?, node?, Array.getElem?_eq_none beyond]
    simp [unmarked, absent]

end Snapshot

namespace Listing

/-- What matching the nodes of a display makes of a listing and the display: it shows the paths to
what is visible. Only the marks of the listing and what is visible are renewed. A node is visible
exactly if it has a device that matches the search, if there is one. Each node has a mark, which is
set exactly if the node itself or one below it is visible. The marks come about by marking from all
nodes in turn, which ends, and matching once more changes nothing. -/
structure ShowsPaths [Zone] (listing : Listing) (published : Published)
    (after : Listing × Published) : Prop where
  listing_eq : after.1 = { listing with shown := after.1.shown }
  snapshot_eq : after.2.snapshot = published.snapshot
  selected : ∀ number, after.2.isSelected number = published.isSelected number
  visible : ∀ number, after.2.isVisible number = true ↔
    ∃ device, published.snapshot.device? number = some device ∧
      ∀ term, listing.search = some term → term.matchesDevice listing.columns.shown device = true
  size : after.1.shown.size = published.snapshot.size
  shown : ∀ number, after.1.shown[number]? = some true ↔
    ∃ lower, published.snapshot.Below lower number ∧ after.2.isVisible lower = true
  ended : published.snapshot.Spreads (after.2.states.map (·.visible))
    (List.range published.snapshot.size) (after.2.states.map (·.visible)) after.1.shown
  again : after.1.filter after.2 = after

/-- Matching the nodes of a built snapshot shows just the paths to those that match. -/
theorem filter_showsPaths [Zone] {published : Published} (built : published.snapshot.Built)
    (states : published.states.size = published.snapshot.size) (listing : Listing) :
    ShowsPaths listing published (listing.filter published) := by
  have fresh : Browser.Fresh (listing.filter published).1 (listing.filter published).2 :=
    Browser.fresh_filter states
  have listed := built.listed
  have size : (Browser.marks listing published.snapshot).size = published.snapshot.size :=
    Snapshot.size_matching _ _ _
  constructor
  · rfl
  · rfl
  · exact published.isSelected_filter listing
  · intro number
    rw [fresh.isVisible_iff]
    exact built.matching_iff _ _ number
  · rw [fresh.shown, Snapshot.size_reachable]
    exact size
  · -- What is visible afterwards is what was marked as matching.
    intro number
    simp only [fresh.isVisible_iff]
    rw [fresh.shown]
    exact listed.reachable_iff size number
  · rw [fresh.visible, fresh.shown]
    exact listed.spreads_reachable size
  · exact fresh.filter_eq

/-- The snapshot of four devices, one of which stands between two others. -/
def hubBuilt : Snapshot :=
  .build ⟨1, Snapshot.hub⟩ (Preferences.standard.set .showDisconnected true)

/-- They were added one after the other. -/
theorem built_hubBuilt : hubBuilt.Built := Snapshot.built_build Snapshot.hub_grown _

/-- Their display. -/
def hubDisplay : Published := ⟨hubBuilt, Array.replicate 4 .fresh⟩

/-- The listing that looks for one of them. -/
def hubListing : Listing :=
  { Listing.start .standard .standard with search := SearchTerm.ofText? " Pen" }

/-- Of four devices the last in the order of the checksums is visible. It is shown with the two
above it, of which the upper one comes behind the lower one in that order. -/
theorem filter_showsPaths_hub :
    hubDisplay.snapshot.Built ∧ hubDisplay.states.size = hubDisplay.snapshot.size ∧
    hubBuilt.nodes.map (·.parent) = #[some 1, none, some 1, some 0] ∧
    (hubListing.filter hubDisplay).2.states.map (·.visible) = #[false, false, false, true] ∧
    (hubListing.filter hubDisplay).1.shown = #[true, true, false, true] ∧
    ShowsPaths hubListing hubDisplay (hubListing.filter hubDisplay) := by
  -- The marks are computed; that they show the paths holds of any display.
  have states : hubDisplay.states.size = hubDisplay.snapshot.size := by decide +kernel
  exact ⟨built_hubBuilt, states, by decide +kernel, by decide +kernel, by decide +kernel,
    filter_showsPaths built_hubBuilt states hubListing⟩

end Listing

end DeviceBrowser
