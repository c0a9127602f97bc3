import DeviceBrowser.Proofs.Browser.Frame
import DeviceBrowser.Proofs.Snapshot.WellFormed
import DeviceBrowser.Proofs.View.Listing
import DeviceBrowser.Proofs.View.Sorting

/-! Whatever the browser does, its view is what a fresh computation over the snapshot on display,
the text looked for, the columns and the sorting would make it. -/

namespace DeviceBrowser.Browser

section AnyZone

variable {zone : Zone}

/-- The marks of the nodes of a snapshot under the search and the columns of a listing. -/
def marks [Zone] (listing : Listing) (snapshot : Snapshot) : Array Bool :=
  snapshot.matching listing.search listing.columns

/-- The states on display are fresh: they are visible as the listing matches their nodes, and the
listing's own marks are those of the nodes at or above visible ones. -/
structure Fresh [Zone] (listing : Listing) (published : Published) : Prop where
  visible : published.states.map (·.visible) = marks listing published.snapshot
  shown : listing.shown = published.snapshot.reachable (marks listing published.snapshot)

/-- A browser is ready to be matched anew for a text: it looks for that text, its order is that of
its sorting, and it displays a built snapshot with one state for each node. -/
structure Ready [Zone] (text : String) (browser : Browser) : Prop where
  search : ∃ typed, browser.listing.search = SearchTerm.ofText? typed ∧
    SearchTerm.isSame (SearchTerm.ofText? text) (SearchTerm.ofText? typed) = true
  sorted : browser.listing.resort browser.snapshot? = browser.listing
  size : ∀ published, browser.stage.active = some published →
    published.states.size = published.snapshot.size
  built : ∀ snapshot, browser.snapshot? = some snapshot → snapshot.Built

/-- A browser is sound for a text when it is ready and the states on display are fresh. -/
structure Sound [Zone] (text : String) (browser : Browser) : Prop extends Ready text browser where
  fresh : ∀ published, browser.stage.active = some published → Fresh browser.listing published

/-- Matching makes states fresh. -/
theorem fresh_filter {listing : Listing} {published : Published}
    (size : published.states.size = published.snapshot.size) :
    Fresh (listing.filter published).1 (listing.filter published).2 where
  -- Matching writes each mark into the state of its node.
  visible := by
    apply Array.ext
    · simp [Listing.filter, marks, size]
    · intro number within other
      have marked : number < (marks listing published.snapshot).size := other
      have mark : (marks listing published.snapshot)[number]? =
          some (marks listing published.snapshot)[number] := Array.getElem?_eq_getElem marked
      simp only [Listing.filter, Array.getElem_map, Array.getElem_mapIdx]
      exact congrArg (·.getD true) mark
  shown := rfl

/-- Matching a browser that is ready makes it sound. -/
theorem Ready.refilter {text : String} {browser : Browser} (ready : Ready text browser) :
    Sound text browser.refilter := by
  -- Without a display there is nothing to match; otherwise only marks and what is visible change.
  cases active : browser.stage.active with
  | none =>
    have same : browser.refilter = browser := by simp [Browser.refilter, active]
    rw [same]
    exact { ready with fresh := fun published found => by rw [active] at found; cases found }
  | some published =>
    have size := ready.size published active
    have snapshot := snapshot?_of_active active
    have sorted := ready.sorted
    have built := ready.built published.snapshot snapshot
    rw [snapshot] at sorted
    simp only [Browser.refilter, active]
    refine { search := ready.search, sorted := ?_, size := ?_, built := ?_, fresh := ?_ }
    · -- The order does not depend on the marks.
      have kept := congrArg Listing.sorted sorted
      simp only [snapshot?, Stage.snapshot?, Listing.filter, Listing.resort, Option.map_some]
        at kept ⊢
      rw [kept]
    · rintro _ ⟨⟩
      simpa [Listing.filter] using size
    · rintro _ ⟨⟩
      exact built
    · rintro _ ⟨⟩
      exact fresh_filter size

/-- A browser is sound at its start. -/
theorem sound_start (preferences : Preferences) (columns : Columns) (sorting : Sorting)
    (elevated : Bool) : Sound "" (start preferences columns sorting elevated) where
  -- Nothing is on display, and no text is looked for.
  search := ⟨"", rfl, rfl⟩
  sorted := rfl
  size _ impossible := by cases impossible
  built _ impossible := by cases impossible
  fresh _ impossible := by cases impossible

/-- What is put on display is the published snapshot, with one state for each node. -/
theorem published_of_publish {stage : Stage} {next : Snapshot} {preferences : Preferences}
    {now : FileTime} {published : Published}
    (active : (stage.publish next preferences now).1.active = some published) :
    published.snapshot = next ∧ published.states.size = next.size := by
  -- A first snapshot starts with fresh states, and a later one gets one for each of its nodes.
  rw [Stage.publish] at active
  split at active
  · cases active
    exact ⟨rfl, Array.size_replicate⟩
  · cases active
    exact ⟨rfl, Array.size_map⟩

section Steps

variable {text : String} {browser : Browser}

/-- Publishing a built snapshot keeps a browser sound. -/
theorem Sound.publish (sound : Sound text browser) {next : Snapshot} (built : next.Built)
    (now : FileTime) : Sound text (browser.publish next now).1 := by
  -- The snapshot comes with its order, and is matched at last.
  apply Ready.refilter
  have displayed : (browser.stage.publish next browser.preferences now).1.snapshot? =
      some next := by
    simp only [Stage.snapshot?, Stage.publish]
    split <;> rfl
  -- What is put on display is sorted, and its states are as many as its nodes.
  refine { search := sound.search, sorted := ?_, size := ?_, built := ?_ }
  · exact congrArg (Listing.resort _) displayed
  · intro published active
    obtain ⟨snapshot, size⟩ := published_of_publish active
    rw [size, snapshot]
  · intro snapshot found
    cases displayed.symm.trans found
    exact built

/-- With another search or other columns a browser is ready to be matched anew. -/
theorem Sound.relist (sound : Sound text browser) {sought : String} {search : Option SearchTerm}
    (looksFor : ∃ typed, search = SearchTerm.ofText? typed ∧
      SearchTerm.isSame (SearchTerm.ofText? sought) (SearchTerm.ofText? typed) = true)
    (columns : Columns) :
    Ready sought { browser with listing := { browser.listing with search, columns } } where
  -- The order asks for neither the search nor the columns; only the marks may be outdated now.
  search := looksFor
  sorted := by
    have kept := congrArg Listing.sorted sound.sorted
    simp only [Listing.resort, snapshot?] at kept ⊢
    rw [kept]
  size := sound.size
  built := sound.built

/-- Looking for a text, and leaving it where it is looked for already, keeps a browser sound. -/
theorem Sound.lookFor (sound : Sound text browser) (sought : String) :
    Sound sought ((browser.lookFor? sought).getD browser) := by
  -- Nothing comes of a text that is looked for already: the term in use then looks for the same.
  obtain ⟨typed, search, same⟩ := sound.search
  cases isSame : SearchTerm.isSame (SearchTerm.ofText? sought) browser.listing.search with
  | true =>
    have unchanged : browser.lookFor? sought = none := by
      simp [lookFor?, Listing.lookFor?, isSame]
    rw [unchanged, Option.getD_none]
    exact { sound with search := ⟨typed, search, by rw [← search]; exact isSame⟩ }
  | false =>
    have changed : browser.lookFor? sought = some (refilter { browser with
        listing := { browser.listing with search := SearchTerm.ofText? sought } }) := by
      simp [lookFor?, Listing.lookFor?, isSame]
    rw [changed, Option.getD_some]
    exact (sound.relist ⟨sought, rfl, by simp [SearchTerm.isSame]⟩ browser.listing.columns).refilter

/-- Showing or hiding a column keeps a browser sound. -/
theorem Sound.showColumn (sound : Sound text browser) (cls : PropertyClass) (visible : Bool) :
    Sound text ((browser.showColumn? cls visible).getD browser) := by
  -- A change of the columns leaves the search and the order.
  cases changed : browser.listing.columns.change? cls visible with
  | none =>
    have unchanged : browser.showColumn? cls visible = none := by simp [showColumn?, changed]
    rw [unchanged]
    exact sound
  | some columns =>
    have shown : browser.showColumn? cls visible = some (refilter { browser with
        listing := { browser.listing with columns } }) := by simp [showColumn?, changed]
    rw [shown, Option.getD_some]
    exact (sound.relist sound.search columns).refilter

/-- Sorting keeps a browser sound. -/
theorem Sound.sortBy (sound : Sound text browser) (sorting : Sorting) :
    Sound text (browser.sortBy sorting) where
  -- The marks do not ask for the order, which is made anew.
  search := sound.search
  sorted := rfl
  size := sound.size
  built := sound.built
  fresh published active :=
    ⟨(sound.fresh published active).visible, (sound.fresh published active).shown⟩

/-- Other preferences keep a browser sound. -/
theorem Sound.prefer (sound : Sound text browser) (preferences : Preferences) :
    Sound text { browser with preferences } :=
  -- No part of being sound speaks of the preferences.
  { sound with }

/-- Matching anew keeps a browser sound. -/
theorem Sound.refilter (sound : Sound text browser) : Sound text browser.refilter :=
  -- What is sound was ready to be matched already.
  sound.toReady.refilter

/-- A change of the display that leaves the snapshot and what is visible keeps a browser sound. -/
theorem Sound.update (sound : Sound text browser) {change : Published → Published}
    (snapshot : ∀ published, (change published).snapshot = published.snapshot)
    (visible : ∀ published,
      (change published).states.map (·.visible) = published.states.map (·.visible)) :
    Sound text { browser with stage := browser.stage.update change } := by
  -- Neither the marks nor the order depend on anything else of the display.
  have displayed : (browser.stage.update change).snapshot? = browser.stage.snapshot? := by
    simp [Stage.snapshot?, Stage.update, Function.comp_def, snapshot]
  refine { search := sound.search, sorted := ?_, size := ?_, built := ?_, fresh := ?_ }
  · exact (congrArg (Listing.resort _) displayed).trans sound.sorted
  · intro published active
    obtain ⟨old, oldActive, rfl⟩ := Option.map_eq_some_iff.mp active
    have size := congrArg Array.size (visible old)
    rw [Array.size_map, Array.size_map] at size
    rw [size, snapshot]
    exact sound.size old oldActive
  · intro found isFound
    exact sound.built found (displayed.symm.trans isFound)
  · intro published active
    obtain ⟨old, oldActive, rfl⟩ := Option.map_eq_some_iff.mp active
    have fresh := sound.fresh old oldActive
    constructor
    · rw [visible, snapshot]
      exact fresh.visible
    · rw [snapshot]
      exact fresh.shown

/-- Selecting a node keeps a browser sound. -/
theorem Sound.select (sound : Sound text browser) (number : Nat) (selected : Bool) :
    Sound text (browser.select number selected) := by
  -- Only the selected flag is written, which neither the snapshot nor the marks ask for.
  apply sound.update
  · intro published
    rfl
  · intro published
    exact published.visible_select number selected

/-- Emptying the selection keeps a browser sound. -/
theorem Sound.clearSelection (sound : Sound text browser) : Sound text browser.clearSelection := by
  -- Only selected flags are written.
  apply sound.update
  · intro published
    rfl
  · intro published
    exact published.visible_clearSelection

/-- Time passing keeps a browser sound. -/
theorem Sound.tick (sound : Sound text browser) (elapsed : Duration) :
    Sound text (browser.tick elapsed).2 :=
  -- Time touches highlights only.
  { sound with }

end Steps

/-- The browsers that operations lead to from a new one, with the text that was looked for last. -/
inductive Viewed [Zone] : String → Browser → Prop
  | start (preferences : Preferences) (columns : Columns) (sorting : Sorting) (elevated : Bool) :
      Viewed "" (start preferences columns sorting elevated)
  | publish {text : String} {browser : Browser} (viewed : Viewed text browser) {next : Snapshot}
      (built : next.Built) (now : FileTime) : Viewed text (browser.publish next now).1
  | lookFor {text : String} {browser : Browser} (viewed : Viewed text browser) (sought : String) :
      Viewed sought ((browser.lookFor? sought).getD browser)
  | showColumn {text : String} {browser : Browser} (viewed : Viewed text browser)
      (cls : PropertyClass) (visible : Bool) :
      Viewed text ((browser.showColumn? cls visible).getD browser)
  | sortBy {text : String} {browser : Browser} (viewed : Viewed text browser) (sorting : Sorting) :
      Viewed text (browser.sortBy sorting)
  | prefer {text : String} {browser : Browser} (viewed : Viewed text browser)
      (preferences : Preferences) : Viewed text { browser with preferences }
  | refilter {text : String} {browser : Browser} (viewed : Viewed text browser) :
      Viewed text browser.refilter
  | select {text : String} {browser : Browser} (viewed : Viewed text browser) (number : Nat)
      (selected : Bool) : Viewed text (browser.select number selected)
  | selectOnly {text : String} {browser : Browser} (viewed : Viewed text browser) (number : Nat) :
      Viewed text (browser.selectOnly number)
  | clearSelection {text : String} {browser : Browser} (viewed : Viewed text browser) :
      Viewed text browser.clearSelection
  | tick {text : String} {browser : Browser} (viewed : Viewed text browser) (elapsed : Duration) :
      Viewed text (browser.tick elapsed).2

/-- Every operation keeps a browser sound. -/
theorem Viewed.sound {text : String} {browser : Browser} (viewed : Viewed text browser) :
    Sound text browser := by
  -- One case for each operation, settled by the lemma about it.
  induction viewed with
  | start preferences columns sorting elevated =>
    exact sound_start preferences columns sorting elevated
  | publish _ built now ih => exact ih.publish built now
  | lookFor _ sought ih => exact ih.lookFor sought
  | showColumn _ cls visible ih => exact ih.showColumn cls visible
  | sortBy _ sorting ih => exact ih.sortBy sorting
  | prefer _ preferences ih => exact ih.prefer preferences
  | refilter _ ih => exact ih.refilter
  | select _ number selected ih => exact ih.select number selected
  | selectOnly _ number ih => exact ih.clearSelection.select number true
  | clearSelection _ ih => exact ih.clearSelection
  | tick _ elapsed ih => exact ih.tick elapsed

/-- Fresh states are as matching anew would make them. -/
theorem Fresh.filter_eq {listing : Listing} {published : Published}
    (fresh : Fresh listing published) : listing.filter published = (listing, published) := by
  -- The marks that matching would write stand in the states already.
  have states : (listing.filter published).2.states = published.states := by
    apply Array.ext
    · simp [Listing.filter]
    · intro number within other
      have mark : (marks listing published.snapshot)[number]? =
          some published.states[number].visible := by
        rw [← fresh.visible, Array.getElem?_map, Array.getElem?_eq_getElem other]
        rfl
      simp only [Listing.filter, Array.getElem_mapIdx]
      rw [show (published.snapshot.matching listing.search listing.columns)[number]? = _ from mark]
      rfl
  have listed : (listing.filter published).1 = listing := by
    have shown : published.snapshot.reachable
        (published.snapshot.matching listing.search listing.columns) = listing.shown :=
      fresh.shown.symm
    simp only [Listing.filter, shown]
  refine Prod.ext listed ?_
  simp only [Listing.filter] at states ⊢
  rw [states]

/-- A fresh state is visible exactly if its node is marked. -/
theorem Fresh.isVisible_iff {listing : Listing} {published : Published}
    (fresh : Fresh listing published) (number : Nat) :
    published.isVisible number = true ↔
      (marks listing published.snapshot)[number]? = some true := by
  -- The visible flags are the marks, number by number.
  rw [← fresh.visible, Array.getElem?_map, Published.isVisible]
  cases published.states[number]? <;> simp

/-- The order of a sound browser is that of its sorting. -/
theorem Sound.sorted_eq {text : String} {browser : Browser} (sound : Sound text browser)
    {snapshot : Snapshot} (found : browser.snapshot? = some snapshot) :
    browser.listing.sorted = snapshot.sorted browser.listing.sorting := by
  -- Sorting anew would change nothing, so the order is what sorting would make it.
  have resorted := sound.sorted
  rw [found] at resorted
  exact (congrArg Listing.sorted resorted).symm

/-- The view of a browser is coherent for a text: matching and sorting anew would change nothing;
there is one state and one mark for each node; a node is visible exactly if no text is looked for or
its text in a shown column contains the one that is; and the order lists every node once, or none
where there is no direction. As long as every value has the kind of its class, no node comes before
a lesser one. -/
structure Coherent [Zone] (text : String) (browser : Browser) : Prop where
  refiltered : browser.refilter = browser
  resorted : browser.listing.resort browser.snapshot? = browser.listing
  states_size : ∀ published, browser.stage.active = some published →
    published.states.size = published.snapshot.size
  shown_size : ∀ published, browser.stage.active = some published →
    browser.listing.shown.size = published.snapshot.size
  visible : ∀ published, browser.stage.active = some published →
    ∀ number < published.snapshot.size, published.isVisible number = true ↔
      SearchTerm.ofText? text = none ∨ ∃ term, SearchTerm.ofText? text = some term ∧
        ∃ cls ∈ browser.listing.columns.shown,
          Text.containsIgnoringCase (browser.cellText number cls) term.needle = true
  perm : ∀ snapshot, browser.snapshot? = some snapshot → browser.listing.sorting.isActive = true →
    browser.listing.sorted.Perm (List.range snapshot.size)
  ordered : ∀ snapshot, browser.snapshot? = some snapshot →
    (∀ number device, snapshot.device? number = some device → device.WellTagged) →
    browser.listing.sorted.Pairwise fun earlier later => ∃ earlierDevice laterDevice,
      snapshot.device? earlier = some earlierDevice ∧ snapshot.device? later = some laterDevice ∧
      Device.compare browser.listing.sorting earlierDevice laterDevice ≠ .gt
  unsorted : browser.listing.sorting.isActive = false → browser.listing.sorted = []

/-- After any operations the view of a browser is coherent for the text looked for last. -/
theorem Viewed.coherent {text : String} {browser : Browser} (viewed : Viewed text browser) :
    Coherent text browser where
  refiltered := by
    cases active : browser.stage.active with
    | none => simp [Browser.refilter, active]
    | some published =>
      have same := (viewed.sound.fresh published active).filter_eq
      simp only [Browser.refilter, active, same]
      rw [← active]
  resorted := viewed.sound.sorted
  states_size := viewed.sound.size
  shown_size published active := by
    rw [(viewed.sound.fresh published active).shown]
    simp [marks]
  visible published active number within := by
    -- The term in use may be typed otherwise than the text looked for last, but looks for the same.
    obtain ⟨typed, search, same⟩ := viewed.sound.search
    have displayed := snapshot?_of_active active
    have cell : ∀ cls, browser.cellText number cls = published.snapshot.cellText number cls := by
      intro cls
      rw [cellText, device?, displayed]
      rfl
    simp only [(viewed.sound.fresh published active).isVisible_iff number, marks, search, cell]
    rw [← published.snapshot.matching_congr _ (SearchTerm.needle_of_isSame same)]
    exact Snapshot.matching_eq_true within
  perm snapshot found active := by
    rw [viewed.sound.sorted_eq found]
    exact snapshot.sorted_perm active
  ordered snapshot found tagged := by
    -- Every node of a built snapshot has a device, which is well tagged as all are.
    rw [viewed.sound.sorted_eq found]
    apply Snapshot.sorted_pairwise
    intro number within
    obtain ⟨device, present⟩ := (viewed.sound.built snapshot found).device within
    exact ⟨device, present, tagged number device present⟩
  unsorted inactive := by
    cases found : browser.snapshot? with
    | some snapshot =>
      rw [viewed.sound.sorted_eq found]
      exact snapshot.sorted_inactive inactive
    | none =>
      have resorted := viewed.sound.sorted
      rw [found] at resorted
      exact (congrArg Listing.sorted resorted).symm

end AnyZone

/-- A browser that looks for a text which one of four devices holds. That one is selected, and so is
the one above it. -/
def hubSearched : Browser :=
  let showing := Preferences.standard.set .showDisconnected true
  let started := start showing .standard .standard false
  let searching := ((started.lookFor? "pa").getD started).sortBy ⟨.name, .ascending⟩
  ((searching.publish (.build ⟨1, Snapshot.hub⟩ showing) default).1.select 1 true).select 2 true

/-- The browser when the device between two others is gone, and with it the one below it. -/
def hublessSearched : Browser :=
  (hubSearched.publish (.build ⟨2, Snapshot.hubless⟩ hubSearched.preferences) default).1

/-- What is left is displayed by name, with the match visible and both selections kept. -/
theorem coherent_hublessSearched :
    hubSearched.listing.sorted = [0, 2, 1, 3] ∧
    (List.range 4).filter hubSearched.isVisible = [2] ∧
    hublessSearched.listing.sorted = [1, 0] ∧
    (List.range 2).filter hublessSearched.isSelected = [0, 1] ∧
    hublessSearched.selection = [1] ∧
    Viewed "pa" hublessSearched ∧ Coherent "pa" hublessSearched := by
  let showing := Preferences.standard.set .showDisconnected true
  have searching := ((Viewed.start showing .standard .standard false).lookFor "pa").sortBy
    ⟨.name, .ascending⟩
  -- Both inventories were grown, so that their snapshots may be published.
  have first : (Snapshot.build ⟨1, Snapshot.hub⟩ showing).Built :=
    Snapshot.built_build Snapshot.hub_grown showing
  have next : (Snapshot.build ⟨2, Snapshot.hubless⟩ showing).Built :=
    Snapshot.built_build Snapshot.hubless_grown showing
  have selected : Viewed "pa" hubSearched :=
    ((searching.publish first default).select 1 true).select 2 true
  have replaced : Viewed "pa" hublessSearched := selected.publish next default
  exact ⟨by decide +kernel, by decide +kernel, by decide +kernel, by decide +kernel,
    by decide +kernel, replaced, replaced.coherent⟩

end DeviceBrowser.Browser
