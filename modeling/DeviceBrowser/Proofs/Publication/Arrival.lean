import DeviceBrowser.Proofs.Highlights
import DeviceBrowser.Proofs.Publication.Run

/-! Which highlights run after any events: those that a publication started, whose time is not
spent, and whose device was on display ever since. -/

namespace DeviceBrowser.Stage

section AnyZone

variable {zone : Zone}

namespace Event

/-- Whether an event starts the highlight of a checksum: it publishes a node of that checksum whose
device has just arrived, under preferences that highlight for some time. -/
def Lights (hash : UInt32) : Event → Prop
  | publish next preferences now =>
    (∃ number, next.hash? number = some hash ∧ hasArrived next now number = true) ∧
      preferences.highlightFor ≠ .zero
  | tick _ => False
  | write _ => False

/-- Whether a checksum stays on display: a snapshot that is published has a node of it. -/
def Keeps (hash : UInt32) : Event → Prop
  | publish next _ _ => ∃ number, next.hash? number = some hash
  | tick _ => True
  | write _ => True

/-- The nanoseconds that pass. -/
def nanos : Event → Nat
  | publish _ _ _ => 0
  | tick elapsed => elapsed.nanos
  | write _ => 0

end Event

/-- The nanoseconds that pass through events. -/
def spent : List Event → Nat
  | [] => 0
  | event :: rest => event.nanos + spent rest

/-- A highlight of a checksum runs since a publication that came after `before`. It was not the
first publication, and of those that start this highlight it is the last. Every snapshot published
later has a node of the checksum, the time that passed since is less than that of the highlight,
which has the difference left, and the color is the one preferred at that publication. -/
structure LitSince (hash : UInt32) (highlight : Highlight) (before : List Event) (next : Snapshot)
    (preferences : Preferences) (now : FileTime) (later : List Event) : Prop where
  again : before.any (·.isPublication) = true
  lights : (Event.publish next preferences now).Lights hash
  last : ∀ event ∈ later, ¬ event.Lights hash
  kept : ∀ event ∈ later, event.Keeps hash
  unspent : spent later < preferences.highlightFor.nanos
  remaining : highlight.remaining = ⟨preferences.highlightFor.nanos - spent later⟩
  color : highlight.color = preferences.colors.arrived

/-- A highlight of a checksum runs after events: it runs since one of them. -/
def Lit (events : List Event) (hash : UInt32) (highlight : Highlight) : Prop :=
  ∃ before next preferences now later, events = before ++ .publish next preferences now :: later ∧
    LitSince hash highlight before next preferences now later

/-- A highlight that an event starts. -/
def Event.Starts (event : Event) (hash : UInt32) (highlight : Highlight) : Prop :=
  match event with
  | publish next preferences now => (publish next preferences now).Lights hash ∧
      highlight = ⟨preferences.highlightFor, preferences.colors.arrived⟩
  | tick _ => False
  | write _ => False

/-- A highlight that an event leaves running, with less time left where time passes. -/
def Event.Leaves (event : Event) (hash : UInt32) (running highlight : Highlight) : Prop :=
  ¬ event.Lights hash ∧ event.Keeps hash ∧ event.nanos < running.remaining.nanos ∧
    highlight = { running with remaining := ⟨running.remaining.nanos - event.nanos⟩ }

/-! ## What one event does -/

variable {events : List Event} {hash : UInt32} {highlight : Highlight}

@[simp] theorem spent_append_singleton (events : List Event) (event : Event) :
    spent (events ++ [event]) = spent events + event.nanos := by
  -- Time is summed from the front, so the end is reached by induction.
  induction events with
  | nil => simp [spent]
  | cons first rest ih => simp [spent, ih, Nat.add_assoc]

/-- A publication among events and one more is the last one or came before it. -/
theorem split_append_singleton {event published : Event} {before later : List Event}
    (split : events ++ [event] = before ++ published :: later) :
    (before = events ∧ published = event ∧ later = []) ∨
      ∃ rest, later = rest ++ [event] ∧ events = before ++ published :: rest := by
  -- What comes later is nothing, or it ends with the last event.
  rcases List.eq_nil_or_concat later with rfl | ⟨rest, last, rfl⟩
  · obtain ⟨same, single⟩ := List.append_inj' split rfl
    exact .inl ⟨same.symm, (List.singleton_inj.mp single).symm, rfl⟩
  · have longer : events ++ [event] = (before ++ published :: rest) ++ [last] := by
      simpa using split
    obtain ⟨same, single⟩ := List.append_inj' longer rfl
    rw [List.singleton_inj.mp single]
    exact .inr ⟨rest, by simp, same⟩

/-- Only a publication starts a highlight, and for some time. -/
theorem Event.Starts.publication {event : Event} (starts : event.Starts hash highlight) :
    ∃ next preferences now, event = .publish next preferences now ∧ event.Lights hash ∧
      highlight = ⟨preferences.highlightFor, preferences.colors.arrived⟩ := by
  -- Time and writing start nothing.
  cases event with
  | publish next preferences now => exact ⟨next, preferences, now, rfl, starts⟩
  | tick elapsed => exact starts.elim
  | write change => exact starts.elim

theorem Event.Starts.pos {event : Event} (starts : event.Starts hash highlight) :
    0 < highlight.remaining.nanos := by
  obtain ⟨next, preferences, now, rfl, lights, rfl⟩ := starts.publication
  -- The time of a highlight that starts is not none at all.
  apply Nat.pos_of_ne_zero
  intro none
  exact lights.2 (congrArg Duration.mk none)

theorem Event.Leaves.pos {event : Event} {running : Highlight}
    (leaves : event.Leaves hash running highlight) : 0 < highlight.remaining.nanos := by
  -- The event took less time than was left.
  obtain ⟨_, _, left, rfl⟩ := leaves
  exact Nat.sub_pos_of_lt left

/-- A highlight that the last event starts is lit. -/
theorem Event.Starts.lit {event : Event} (starts : event.Starts hash highlight)
    (again : events.any (·.isPublication) = true) : Lit (events ++ [event]) hash highlight := by
  obtain ⟨next, preferences, now, rfl, lights, rfl⟩ := starts.publication
  -- Nothing came later.
  exact ⟨events, next, preferences, now, [], rfl, again, lights, by simp, by simp, starts.pos,
    rfl, rfl⟩

/-- A highlight that the last event leaves running was lit and still is. -/
theorem Event.Leaves.lit {event : Event} {running : Highlight}
    (leaves : event.Leaves hash running highlight) (lit : Lit events hash running) :
    Lit (events ++ [event]) hash highlight := by
  obtain ⟨notLights, keeps, left, rfl⟩ := leaves
  obtain ⟨before, next, preferences, now, later, rfl, since⟩ := lit
  have total := spent_append_singleton later event
  have unspent := since.unspent
  rw [since.remaining] at left ⊢
  replace left : event.nanos < preferences.highlightFor.nanos - spent later := left
  -- The same publication lit it; one event more has come since, and its time is spent as well.
  refine ⟨before, next, preferences, now, later ++ [event], by simp, since.again, since.lights,
    ?_, ?_, ?_, ?_, since.color⟩
  · exact List.forall_mem_append.mpr ⟨since.last, List.forall_mem_singleton.mpr notLights⟩
  · exact List.forall_mem_append.mpr ⟨since.kept, List.forall_mem_singleton.mpr keeps⟩
  · omega
  · rw [total, ← Nat.sub_sub]

/-- After one more event those highlights are lit that the event started or left running. -/
theorem lit_append_singleton (event : Event) :
    Lit (events ++ [event]) hash highlight ↔
      (events.any (·.isPublication) = true ∧ event.Starts hash highlight) ∨
        ∃ running, Lit events hash running ∧ event.Leaves hash running highlight := by
  constructor
  · rintro ⟨before, next, preferences, now, later, split, since⟩
    obtain ⟨remaining, color⟩ := highlight
    obtain rfl : remaining = _ := since.remaining
    obtain rfl : color = _ := since.color
    rcases split_append_singleton split with ⟨rfl, rfl, rfl⟩ | ⟨rest, rfl, rfl⟩
    · exact .inl ⟨since.again, since.lights, rfl⟩
    · -- It ran before the last event, with the time left that this event spends.
      have total := spent_append_singleton rest event
      have unspent := since.unspent
      obtain ⟨restLast, notLights⟩ := List.forall_mem_append.mp since.last
      obtain ⟨restKept, keeps⟩ := List.forall_mem_append.mp since.kept
      have left : event.nanos < preferences.highlightFor.nanos - spent rest := by omega
      refine .inr ⟨⟨⟨preferences.highlightFor.nanos - spent rest⟩, preferences.colors.arrived⟩,
        ⟨before, next, preferences, now, rest, rfl, since.again, since.lights, restLast, restKept,
          by omega, rfl, rfl⟩,
        notLights event List.mem_cons_self, keeps event List.mem_cons_self, left, ?_⟩
      rw [total, Nat.sub_sub]
  · rintro (⟨again, starts⟩ | ⟨running, lit, leaves⟩)
    · exact starts.lit again
    · exact leaves.lit lit

/-- The highlights of a stage are in order: they run in the dark never, for some time left, and for
checksums on display only. -/
structure Tidy (stage : Stage) : Prop where
  ascending : stage.highlights.Ascending
  dark : stage.active = none → stage.highlights = .none
  running : ∀ hash highlight, stage.highlights.find? hash = some highlight →
    0 < highlight.remaining.nanos
  shown : ∀ hash highlight, stage.highlights.find? hash = some highlight →
    ∃ number, stage.hash? number = some hash

/-- Over a new snapshot those highlights run that start, and those of checksums it has that ran
before. -/
theorem find?_carriedHighlights {next : Snapshot} (built : next.Built) (highlights : Highlights)
    (preferences : Preferences) (now : FileTime) :
    (carriedHighlights highlights next preferences now).find? hash = some highlight ↔
      ((Event.publish next preferences now).Lights hash ∧
        highlight = ⟨preferences.highlightFor, preferences.colors.arrived⟩) ∨
      (¬ (Event.publish next preferences now).Lights hash ∧
        (Event.publish next preferences now).Keeps hash ∧
        highlights.find? hash = some highlight) := by
  let arrived := (next.nodes.zipIdx.filter fun item => hasArrived next now item.2).toList
  -- The checksums whose highlights start are those of the nodes just arrived.
  have lights_iff : (Event.publish next preferences now).Lights hash ↔
      preferences.highlightFor ≠ .zero ∧ hash ∈ arrived.map (·.1.hash) := by
    simp only [Event.Lights, arrived, List.mem_map, Array.mem_toList_iff, Array.mem_filter,
      Array.mem_zipIdx_iff_getElem?]
    constructor
    · rintro ⟨⟨number, present, hasArrived⟩, time⟩
      obtain ⟨node, found, same⟩ := Option.map_eq_some_iff.mp present
      exact ⟨time, (node, number), ⟨found, hasArrived⟩, same⟩
    · rintro ⟨time, ⟨node, number⟩, ⟨found, hasArrived⟩, rfl⟩
      have present : next.hash? number = some node.hash := by
        simp [Snapshot.hash?, Snapshot.node?, found]
      exact ⟨⟨number, present, hasArrived⟩, time⟩
  -- What is kept is retained first and the new ones are started over it, so that a start decides.
  have carried : carriedHighlights highlights next preferences now =
      arrived.foldl (fun (running : Highlights) item =>
          running.start item.1.hash preferences.highlightFor preferences.colors.arrived)
        (highlights.retain fun hash => (next.lookup hash).isSome) := by
    rw [Array.foldl_toList]
    rfl
  have keeps_iff : (next.lookup hash).isSome = true ↔
      (Event.publish next preferences now).Keeps hash :=
    (built.finds hash).isSome_iff
  rw [carried, Highlights.find?_startAll, Table.find?_retain]
  by_cases lights : (Event.publish next preferences now).Lights hash
  · rw [if_pos (lights_iff.mp lights), Option.some.injEq]
    constructor
    · intro same
      exact .inl ⟨lights, same.symm⟩
    · rintro (⟨_, same⟩ | ⟨notLights, _⟩)
      · exact same.symm
      · exact absurd lights notLights
  · rw [if_neg (fun starts => lights (lights_iff.mpr starts))]
    by_cases keeps : (Event.publish next preferences now).Keeps hash
    · simp [lights, keeps, if_pos (keeps_iff.mpr keeps)]
    · simp [lights, keeps, if_neg (fun found => keeps (keeps_iff.mp found))]

/-- After an event those highlights run that it starts over a display and that it leaves running. -/
theorem find?_apply {stage : Stage} (tidy : stage.Tidy) {event : Event} (built : event.Built) :
    (event.apply stage).highlights.find? hash = some highlight ↔
      (stage.active.isSome = true ∧ event.Starts hash highlight) ∨
        ∃ running, stage.highlights.find? hash = some running ∧
          event.Leaves hash running highlight := by
  cases event with
  | publish next preferences now =>
    cases active : stage.active with
    | none =>
      -- In the dark nothing runs, and the first publication starts nothing.
      have nothing := tidy.dark active
      simp [Event.apply, publish, active, nothing, Highlights.none]
    | some old =>
      have carried : (Event.apply stage (.publish next preferences now)).highlights =
          carriedHighlights stage.highlights next preferences now := by
        simp [Event.apply, publish, active]
      rw [carried, find?_carriedHighlights built]
      simp only [Option.isSome_some, true_and, Event.Starts, Event.Leaves, Event.nanos,
        Nat.sub_zero]
      apply or_congr_right
      constructor
      · rintro ⟨notLights, keeps, found⟩
        exact ⟨highlight, found, notLights, keeps, tidy.running hash highlight found, rfl⟩
      · rintro ⟨running, found, notLights, keeps, _, rfl⟩
        exact ⟨notLights, keeps, found⟩
  | tick elapsed =>
    have ticked : (Event.apply stage (.tick elapsed)).highlights =
        (stage.highlights.tick elapsed).2 := rfl
    rw [ticked, Highlights.find?_tick tidy.ascending]
    simp [Event.Starts, Event.Leaves, Event.Lights, Event.Keeps, Event.nanos, Duration.less]
  | write change =>
    -- Time does not pass, and a highlight that runs has some time left.
    simp only [Event.apply, update, Event.Starts, Event.Leaves, Event.Lights, Event.Keeps,
      Event.nanos, and_false, false_or, Nat.sub_zero]
    constructor
    · intro found
      exact ⟨highlight, found, id, trivial, tidy.running hash highlight found, rfl⟩
    · rintro ⟨running, found, _, _, _, rfl⟩
      exact found

/-- A checksum whose highlight an event starts is on display after it. -/
theorem Event.Starts.shown {event : Event} (starts : event.Starts hash highlight) (stage : Stage) :
    ∃ number, (event.apply stage).hash? number = some hash := by
  -- Its publication puts a snapshot on display that has the checksum.
  obtain ⟨next, preferences, now, rfl, ⟨⟨number, present, _⟩, _⟩, rfl⟩ := starts.publication
  exact ⟨number, by simpa [hash?, Event.apply] using present⟩

/-- A checksum whose highlight an event leaves running stays on display. -/
theorem Event.Leaves.shown {event : Event} {running : Highlight} {stage : Stage}
    (leaves : event.Leaves hash running highlight)
    (before : ∃ number, stage.hash? number = some hash) :
    ∃ number, (event.apply stage).hash? number = some hash := by
  -- A publication keeps the checksum, and other events leave the snapshot.
  obtain ⟨_, keeps, _, _⟩ := leaves
  cases event with
  | publish next preferences now => simpa [hash?, Event.apply, Event.Keeps] using keeps
  | tick elapsed => exact before
  | write change => simpa [hash?] using before

theorem tidy_dark : dark.Tidy where
  ascending := Table.ascending_empty
  dark _ := rfl
  running _ _ impossible := by cases impossible
  shown _ _ impossible := by cases impossible

/-- Every event keeps the highlights in order. -/
theorem Tidy.apply {stage : Stage} (tidy : stage.Tidy) {event : Event} (built : event.Built) :
    (event.apply stage).Tidy where
  ascending := by
    cases event with
    | publish next preferences now =>
      simp only [Event.apply, publish]
      split
      · exact Table.ascending_empty
      · simp only [carriedHighlights, ← Array.foldl_toList]
        exact Highlights.ascending_startAll _ (fun item : Node × Nat => item.1.hash) _ _
          (tidy.ascending.retain _)
    | tick elapsed => exact Highlights.ascending_tick tidy.ascending elapsed
    | write change => exact tidy.ascending
  dark isDark := by
    cases event with
    | publish next preferences now =>
      -- After a publication it is not dark.
      simp only [Event.apply, publish] at isDark
      split at isDark <;> cases isDark
    | tick elapsed =>
      have none := tidy.dark isDark
      simp [Event.apply, tick, none, Highlights.tick, Highlights.none, Table.empty]
    | write change => exact tidy.dark (Option.map_eq_none_iff.mp isDark)
  running hash highlight found := by
    -- What runs after an event was started by it, or ran before and was left.
    rcases (find?_apply tidy built).mp found with ⟨_, starts⟩ | ⟨running, _, leaves⟩
    · exact starts.pos
    · exact leaves.pos
  shown hash highlight found := by
    rcases (find?_apply tidy built).mp found with ⟨_, starts⟩ | ⟨running, ran, leaves⟩
    · exact starts.shown stage
    · exact leaves.shown (tidy.shown hash running ran)

/-- The highlights are in order after any events. -/
theorem tidy_ofEvents {events : List Event} (built : ∀ event ∈ events, event.Built) :
    (ofEvents events).Tidy := by
  -- By induction on the events from the last one back, each of which keeps the order.
  induction events using List.reverseRecOn with
  | nil => exact tidy_dark
  | append_singleton events event ih =>
    obtain ⟨earlier, last⟩ := List.forall_mem_append.mp built
    rw [ofEvents_append_singleton]
    exact (ih earlier).apply (last event List.mem_cons_self)

/-- After any events, those highlights are found that are lit. -/
theorem find?_ofEvents {events : List Event} (built : ∀ event ∈ events, event.Built) :
    (ofEvents events).highlights.find? hash = some highlight ↔ Lit events hash highlight := by
  -- By induction on the events from the last one back: what it leaves or starts is just what is lit
  -- after it.
  induction events using List.reverseRecOn generalizing highlight with
  | nil =>
    constructor
    · intro impossible
      cases impossible
    · rintro ⟨before, next, preferences, now, later, split, _⟩
      exact absurd split (by simp)
  | append_singleton events event ih =>
    obtain ⟨earlier, last⟩ := List.forall_mem_append.mp built
    rw [ofEvents_append_singleton,
      find?_apply (tidy_ofEvents earlier) (last event List.mem_cons_self), lit_append_singleton,
      active_ofEvents]
    simp only [ih earlier]

/-- After any events a node on display is highlighted exactly as its checksum is lit, and so not at
all where it is not; and highlights run for checksums on display only. -/
structure Arrivals (events : List Event) : Prop where
  highlighted : ∀ number hash highlight, (ofEvents events).hash? number = some hash →
    ((ofEvents events).highlight? number = some highlight ↔ Lit events hash highlight)
  normal : ∀ number hash, (ofEvents events).hash? number = some hash →
    ((ofEvents events).highlight? number = none ↔ ∀ highlight, ¬ Lit events hash highlight)
  shown : ∀ row ∈ (ofEvents events).highlights.rows,
    ∃ number, (ofEvents events).hash? number = some row.1

/-- Whatever is published and however much time passes, the highlights on display are those of
arrivals whose time is not spent. -/
theorem arrivals_ofEvents {events : List Event} (built : ∀ event ∈ events, event.Built) :
    Arrivals events := by
  -- A node's highlight is looked up under its checksum.
  have read : ∀ number hash, (ofEvents events).hash? number = some hash →
      (ofEvents events).highlight? number = (ofEvents events).highlights.find? hash := by
    intro number hash present
    simp only [hash?] at present
    obtain ⟨snapshot, displayed, has⟩ := Option.bind_eq_some_iff.mp present
    simp [highlight?, displayed, has]
  constructor
  · intro number hash highlight present
    rw [read number hash present]
    exact find?_ofEvents built
  · intro number hash present
    rw [read number hash present, Option.eq_none_iff_forall_ne_some]
    exact forall_congr' fun highlight => not_congr (find?_ofEvents built)
  · intro row member
    have tidy := tidy_ofEvents built
    exact tidy.shown row.1 row.2 (tidy.ascending.find?_eq_some_iff.mpr member)

end AnyZone

/-- An edition with one device, which arrived at a time. -/
def arrivedAt (arrival : FileTime) : Edition :=
  ⟨1, Inventory.empty.addRoot ((Device.ofId "A" false).set .lastArrivalDate (.time arrival))⟩

theorem grown_arrivedAt (arrival : FileTime) : (arrivedAt arrival).inventory.Grown :=
  .addRoot .empty _

/-- A device that arrives while another snapshot is on display is highlighted for a while. -/
theorem arrivals_second_publication : ∃ events, (∀ event ∈ events, event.Built) ∧
    ((ofEvents events).highlight? 0).map (·.remaining) = some (.ofMillis 2750) ∧
    Arrivals events := by
  -- The first snapshot is empty, so the device of the second one is an arrival; 250 ms have passed
  -- since.
  have built : ∀ event ∈ [Event.publish .empty .standard ⟨1⟩,
      .publish (.build (arrivedAt ⟨2⟩) .standard) .standard ⟨3⟩,
      .tick (.ofMillis 250)], event.Built := by
    simp [Event.Built, Snapshot.built_empty, Snapshot.built_build (grown_arrivedAt _)]
  exact ⟨_, built, by decide +kernel, arrivals_ofEvents built⟩

end DeviceBrowser.Stage
