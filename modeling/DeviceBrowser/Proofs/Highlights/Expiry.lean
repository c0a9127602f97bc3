import Mathlib.Algebra.GroupWithZero.Nat
import DeviceBrowser.Proofs.Highlights
import Mathlib.Data.List.Induction

/-! When highlights end: each at the first tick by which its time is spent, and at no other. Time
that passes in two ticks ends the same highlights as time that passes in one. -/

namespace DeviceBrowser.Highlights

/-- What can be done to highlights. -/
inductive Operation where
  | start (hash : UInt32) (span : Duration) (color : Color)
  | tick (elapsed : Duration)
  | retain (keep : UInt32 → Bool)
  | clear

namespace Operation

/-- Whether an operation starts the highlight of a checksum. One of no time at all does not. -/
def Starts (hash : UInt32) : Operation → Prop
  | start other span _ => other = hash ∧ span ≠ .zero
  | tick _ => False
  | retain _ => False
  | clear => False

/-- Whether an operation drops the highlight of a checksum before its time is spent. -/
def Drops (hash : UInt32) : Operation → Prop
  | start _ _ _ => False
  | tick _ => False
  | retain keep => keep hash = false
  | clear => True

/-- The nanoseconds that pass. -/
def nanos : Operation → Nat
  | start _ _ _ => 0
  | tick elapsed => elapsed.nanos
  | retain _ => 0
  | clear => 0

/-- The highlights after an operation. -/
def apply (highlights : Highlights) : Operation → Highlights
  | start hash span color => highlights.start hash span color
  | tick elapsed => (highlights.tick elapsed).2
  | retain keep => Table.retain highlights keep
  | clear => none

end Operation

/-- The nanoseconds that pass through operations. -/
def spent (operations : List Operation) : Nat := (operations.map (·.nanos)).sum

/-- The highlights that operations lead to from none. -/
def ofOperations (operations : List Operation) : Highlights := operations.foldl Operation.apply none

/-- The checksums that a tick after operations reports as ended. -/
def endedBy (operations : List Operation) (elapsed : Duration) : List UInt32 :=
  ((ofOperations operations).tick elapsed).1

/-- The highlight of a checksum that is started for a span goes on through later operations: they
neither start it anew nor drop it. -/
structure Unbroken (hash : UInt32) (span : Duration) (later : List Operation) : Prop where
  lasts : span ≠ .zero
  last : ∀ operation ∈ later, ¬ operation.Starts hash
  kept : ∀ operation ∈ later, ¬ operation.Drops hash

/-- How the highlights end that operations lead to. One that runs has the difference between its
span and the time that passed since its last start, and that is not none. A tick reports it exactly
if that time reaches its span by the tick and did not before. So where nothing else ends a
highlight, one tick alone reports it. The report ascends, and two ticks in turn leave the highlights
that one tick of their sum leaves: what that one reports, one of the two does, and not both. -/
structure Expires (operations : List Operation) : Prop where
  positive : ∀ hash highlight, (ofOperations operations).find? hash = some highlight →
    0 < highlight.remaining.nanos
  running_iff : ∀ hash highlight, (ofOperations operations).find? hash = some highlight ↔
    ∃ before span color later, operations = before ++ .start hash span color :: later ∧
      Unbroken hash span later ∧ spent later < span.nanos ∧
      highlight = ⟨⟨span.nanos - spent later⟩, color⟩
  ended_iff : ∀ elapsed hash, hash ∈ endedBy operations elapsed ↔
    ∃ before span color later, operations = before ++ .start hash span color :: later ∧
      Unbroken hash span later ∧ spent later < span.nanos ∧
      span.nanos ≤ spent later + elapsed.nanos
  once : ∀ before hash span color later, operations = before ++ .start hash span color :: later →
    Unbroken hash span later → span.nanos ≤ spent later →
      ∃! first, ∃ elapsed rest, later = first ++ .tick elapsed :: rest ∧
        hash ∈ endedBy (before ++ .start hash span color :: first) elapsed
  ascending : ∀ elapsed, (endedBy operations elapsed).Pairwise (· < ·)
  joined : ∀ first second, ofOperations (operations ++ [.tick first, .tick second]) =
    ofOperations (operations ++ [.tick (first.add second)])
  ended_joined : ∀ first second hash, hash ∈ endedBy operations (first.add second) ↔
    hash ∈ endedBy operations first ∨ hash ∈ endedBy (operations ++ [.tick first]) second
  disjoint : ∀ first second, List.Disjoint (endedBy operations first)
    (endedBy (operations ++ [.tick first]) second)

variable {highlights : Highlights} {operations later : List Operation} {hash : UInt32}
  {span elapsed : Duration} {color : Color} {highlight : Highlight}

/-! ## One tick -/

/-- A tick reports the highlights that run and have no more left than the time that passes. -/
theorem mem_tick_iff (ascending : highlights.Ascending) :
    hash ∈ (highlights.tick elapsed).1 ↔
      ∃ running, highlights.find? hash = some running ∧
        running.remaining.nanos ≤ elapsed.nanos := by
  have ends : ∀ remaining : Duration,
      remaining.less elapsed = .zero ↔ remaining.nanos ≤ elapsed.nanos := by
    intro remaining
    simp only [Duration.less, Duration.zero, Duration.mk.injEq]
    omega
  -- A row is reported when nothing of it is left, and rows are what is found.
  simp only [tick, List.mem_map, List.mem_filter, decide_eq_true_eq]
  constructor
  · rintro ⟨_, ⟨⟨⟨key, running⟩, member, rfl⟩, ended⟩, rfl⟩
    exact ⟨running, ascending.find?_eq_some_iff.mpr member, (ends running.remaining).mp ended⟩
  · rintro ⟨running, found, ended⟩
    exact ⟨_, ⟨⟨(hash, running), ascending.find?_eq_some_iff.mp found, rfl⟩,
      (ends running.remaining).mpr ended⟩, rfl⟩

/-- What a tick reports ascends. -/
theorem pairwise_tick (ascending : highlights.Ascending) (elapsed : Duration) :
    (highlights.tick elapsed).1.Pairwise (· < ·) := by
  -- The checksums are keys of rows, which ascend, and time changes none of them.
  simp only [tick]
  rw [List.pairwise_map]
  apply List.Pairwise.filter
  rw [List.pairwise_map]
  exact ascending.imp Std.compare_eq_lt.mp

/-- Two ticks leave the highlights that one tick leaves in which as much time passes. -/
theorem tick_tick (highlights : Highlights) (first second : Duration) :
    ((highlights.tick first).2.tick second).2 = (highlights.tick (first.add second)).2 := by
  obtain ⟨rows⟩ := highlights
  refine congrArg Table.mk ?_
  simp only [tick]
  induction rows with
  | nil => rfl
  | cons row rest ih =>
    -- A highlight that ends at the first tick would have ended at the longer one as well.
    have ended : row.2.remaining.less first = .zero →
        row.2.remaining.less (first.add second) = .zero := by
      intro spent
      simp only [Duration.less, Duration.zero, Duration.add, Duration.mk.injEq] at spent ⊢
      omega
    by_cases spent : row.2.remaining.less first = .zero
    · simpa [spent, ended spent] using ih
    · by_cases later : row.2.remaining.less (first.add second) = .zero
      · simpa [spent, later, Duration.less_less] using ih
      · simpa [spent, later, Duration.less_less] using ih

/-- What ends by one tick ends by the first or by the second of two in which as much time passes. -/
theorem mem_tick_add_iff (ascending : highlights.Ascending) (first second : Duration) :
    hash ∈ (highlights.tick (first.add second)).1 ↔
      hash ∈ (highlights.tick first).1 ∨ hash ∈ ((highlights.tick first).2.tick second).1 := by
  rw [mem_tick_iff ascending, mem_tick_iff ascending, mem_tick_iff (ascending_tick ascending first)]
  simp only [find?_tick ascending]
  -- Either the first tick takes all that is left, or the second one takes what the first leaves.
  constructor
  · rintro ⟨running, found, ended⟩
    replace ended : running.remaining.nanos ≤ first.nanos + second.nanos := ended
    by_cases early : running.remaining.nanos ≤ first.nanos
    · exact .inl ⟨running, found, early⟩
    · refine .inr ⟨_, ⟨running, found, Nat.lt_of_not_le early, rfl⟩, ?_⟩
      simp only [Duration.less]
      omega
  · rintro (⟨running, found, ended⟩ | ⟨_, ⟨running, found, _, rfl⟩, ended⟩)
    · exact ⟨running, found, Nat.le_add_right_of_le ended⟩
    · refine ⟨running, found, ?_⟩
      simp only [Duration.less, Duration.add] at ended ⊢
      omega

/-- What the first of two ticks reports, the second does not. -/
theorem disjoint_tick_tick (ascending : highlights.Ascending) (first second : Duration) :
    List.Disjoint (highlights.tick first).1 ((highlights.tick first).2.tick second).1 := by
  -- A highlight that ended at the first tick does not run any more.
  intro hash early late
  obtain ⟨running, found, ended⟩ := (mem_tick_iff ascending).mp early
  obtain ⟨left, stillFound, _⟩ := (mem_tick_iff (ascending_tick ascending first)).mp late
  obtain ⟨same, alsoFound, unspent, _⟩ := (find?_tick ascending first).mp stillFound
  obtain rfl : running = same := Option.some.inj (found.symm.trans alsoFound)
  omega

/-! ## Any operations -/

/-- Highlights are in order: their checksums ascend, and each has some time left. -/
structure Tidy (highlights : Highlights) : Prop where
  ascending : highlights.Ascending
  positive : ∀ hash highlight, highlights.find? hash = some highlight →
    0 < highlight.remaining.nanos

theorem tidy_none : Tidy none where
  ascending := Table.ascending_empty
  positive _ _ impossible := by cases impossible

/-- A span is not none at all exactly if it has some nanoseconds. -/
theorem pos_of_ne_zero (lasts : span ≠ .zero) : 0 < span.nanos := by
  -- A span of zero nanoseconds is no span.
  apply Nat.pos_of_ne_zero
  intro none
  exact lasts (congrArg Duration.mk none)

theorem Operation.Starts.exists_start {operation : Operation} (starts : operation.Starts hash) :
    ∃ span color, operation = .start hash span color ∧ span ≠ .zero := by
  -- Only a start starts a highlight.
  cases operation with
  | start other span color =>
    obtain ⟨rfl, lasts⟩ := starts
    exact ⟨span, color, rfl, lasts⟩
  | tick elapsed => exact starts.elim
  | retain keep => exact starts.elim
  | clear => exact starts.elim

/-- A start puts a highlight with the whole span under its checksum. -/
theorem find?_start (lasts : span ≠ .zero) (highlights : Highlights) :
    (highlights.start hash span color).find? hash = some ⟨span, color⟩ := by
  -- The row is written under the checksum, over an older one if need be.
  rw [start, if_neg lasts]
  exact Table.find?_insert_self _ _ _

/-- An operation that neither starts nor drops a highlight leaves it with less of its time, if it
runs and some of it is left. -/
theorem Tidy.find?_apply (tidy : highlights.Tidy) {operation : Operation}
    (notStarts : ¬ operation.Starts hash) (notDrops : ¬ operation.Drops hash) :
    (operation.apply highlights).find? hash = some highlight ↔
      ∃ running, highlights.find? hash = some running ∧
        operation.nanos < running.remaining.nanos ∧
        highlight = { running with remaining := ⟨running.remaining.nanos - operation.nanos⟩ } := by
  -- Where no time passes the highlight stays as it is, and it has some time left.
  have stays : highlights.find? hash = some highlight ↔
      ∃ running, highlights.find? hash = some running ∧ 0 < running.remaining.nanos ∧
        highlight = { running with remaining := ⟨running.remaining.nanos - 0⟩ } := by
    constructor
    · intro found
      exact ⟨highlight, found, tidy.positive hash highlight found, rfl⟩
    · rintro ⟨running, found, _, rfl⟩
      exact found
  cases operation with
  | start other span color =>
    have same : (highlights.start other span color).find? hash = highlights.find? hash := by
      rw [Highlights.start]
      split
      · rfl
      · rename_i lasts
        exact Table.find?_insert_ne _ (fun here => notStarts ⟨here.symm, lasts⟩) _
    simpa [Operation.apply, same, Operation.nanos] using stays
  | tick elapsed => exact find?_tick tidy.ascending elapsed
  | retain keep =>
    have kept : keep hash = true := by simpa [Operation.Drops] using notDrops
    simpa [Operation.apply, Table.find?_retain, kept, Operation.nanos] using stays
  | clear => exact absurd trivial notDrops

/-- A highlight that an operation drops does not run any more. -/
theorem find?_apply_of_drops {operation : Operation} (drops : operation.Drops hash) :
    (operation.apply highlights).find? hash = Option.none := by
  -- Retaining leaves the checksum out, and clearing leaves out all.
  cases operation with
  | start other span color => exact drops.elim
  | tick elapsed => exact drops.elim
  | retain keep =>
    have dropped : keep hash = false := drops
    simp [Operation.apply, Table.find?_retain, dropped]
  | clear => rfl

/-- Every operation keeps highlights in order. -/
theorem Tidy.apply (tidy : highlights.Tidy) (operation : Operation) :
    (operation.apply highlights).Tidy where
  ascending := by
    cases operation with
    | start hash span color => exact ascending_start tidy.ascending hash span color
    | tick elapsed => exact ascending_tick tidy.ascending elapsed
    | retain keep => exact tidy.ascending.retain keep
    | clear => exact Table.ascending_empty
  positive := by
    intro hash highlight found
    by_cases drops : operation.Drops hash
    · rw [find?_apply_of_drops drops] at found
      cases found
    by_cases starts : operation.Starts hash
    · -- What starts has the whole span left, which is not none at all.
      obtain ⟨span, color, rfl, lasts⟩ := starts.exists_start
      rw [Operation.apply, find?_start lasts] at found
      cases found
      exact pos_of_ne_zero lasts
    · obtain ⟨running, _, left, rfl⟩ := (tidy.find?_apply starts drops).mp found
      exact Nat.sub_pos_of_lt left

@[simp] theorem ofOperations_append_singleton (operations : List Operation)
    (operation : Operation) :
    ofOperations (operations ++ [operation]) = operation.apply (ofOperations operations) := by
  -- Operations are applied from the front to the end.
  simp [ofOperations]

@[simp] theorem spent_nil : spent [] = 0 := rfl

@[simp] theorem spent_append (first second : List Operation) :
    spent (first ++ second) = spent first + spent second := by
  -- Time is a sum over the operations.
  simp [spent]

@[simp] theorem spent_cons (operation : Operation) (operations : List Operation) :
    spent (operation :: operations) = operation.nanos + spent operations := by
  -- Time is a sum over the operations.
  simp [spent]

theorem tidy_ofOperations (operations : List Operation) : (ofOperations operations).Tidy := by
  -- By induction on the operations from the last one back.
  induction operations using List.reverseRecOn with
  | nil => exact tidy_none
  | append_singleton operations operation ih =>
    rw [ofOperations_append_singleton]
    exact ih.apply operation

/-! ## Since the last start -/

theorem Unbroken.concat (unbroken : Unbroken hash span later) {operation : Operation}
    (notStarts : ¬ operation.Starts hash) (notDrops : ¬ operation.Drops hash) :
    Unbroken hash span (later ++ [operation]) where
  -- One operation more neither starts the highlight nor drops it.
  lasts := unbroken.lasts
  last := List.forall_mem_append.mpr ⟨unbroken.last, List.forall_mem_singleton.mpr notStarts⟩
  kept := List.forall_mem_append.mpr ⟨unbroken.kept, List.forall_mem_singleton.mpr notDrops⟩

theorem Unbroken.append_left {first rest : List Operation}
    (unbroken : Unbroken hash span (first ++ rest)) : Unbroken hash span first where
  -- What no operation does, none of the first ones does.
  lasts := unbroken.lasts
  last := (List.forall_mem_append.mp unbroken.last).1
  kept := (List.forall_mem_append.mp unbroken.kept).1

/-- A highlight has the difference between its span and the time that passed since its last start,
as long as there is one. -/
theorem Unbroken.find?_iff (unbroken : Unbroken hash span later) (before : List Operation) :
    (ofOperations (before ++ .start hash span color :: later)).find? hash = some highlight ↔
      spent later < span.nanos ∧ highlight = ⟨⟨span.nanos - spent later⟩, color⟩ := by
  -- The induction is on what came after the start, from its last operation back.
  induction later using List.reverseRecOn generalizing highlight with
  | nil =>
    rw [ofOperations_append_singleton, Operation.apply, find?_start unbroken.lasts]
    simp [pos_of_ne_zero unbroken.lasts, eq_comm]
  | append_singleton rest operation ih =>
    -- The newest operation neither starts nor drops it, and so takes its time off what was left.
    have notStarts := unbroken.last operation (by simp)
    have notDrops := unbroken.kept operation (by simp)
    have regrouped : before ++ .start hash span color :: (rest ++ [operation]) =
        (before ++ .start hash span color :: rest) ++ [operation] := by simp
    rw [regrouped, ofOperations_append_singleton,
      (tidy_ofOperations _).find?_apply notStarts notDrops]
    simp only [ih unbroken.append_left, spent_append, spent_cons, spent_nil, Nat.add_zero]
    constructor
    · rintro ⟨_, ⟨_, rfl⟩, left, rfl⟩
      replace left : operation.nanos < span.nanos - spent rest := left
      exact ⟨by omega, by simp [Nat.sub_sub]⟩
    · rintro ⟨left, rfl⟩
      refine ⟨_, ⟨by omega, rfl⟩, ?_, by simp [Nat.sub_sub]⟩
      exact Nat.lt_sub_of_add_lt (by omega)

/-- A highlight that runs does so from one of its starts on. -/
theorem exists_unbroken (found : (ofOperations operations).find? hash = some highlight) :
    ∃ before span color later, operations = before ++ .start hash span color :: later ∧
      Unbroken hash span later := by
  induction operations using List.reverseRecOn generalizing highlight with
  | nil => cases found
  | append_singleton operations operation ih =>
    rw [ofOperations_append_singleton] at found
    by_cases drops : operation.Drops hash
    · rw [find?_apply_of_drops drops] at found
      cases found
    by_cases starts : operation.Starts hash
    · obtain ⟨span, color, rfl, lasts⟩ := starts.exists_start
      exact ⟨operations, span, color, [], rfl, lasts, by simp, by simp⟩
    · -- It ran before this operation already.
      obtain ⟨running, ran, _⟩ := ((tidy_ofOperations operations).find?_apply starts drops).mp found
      obtain ⟨before, span, color, later, rfl, unbroken⟩ := ih ran
      exact ⟨before, span, color, later ++ [operation], by simp, unbroken.concat starts drops⟩

/-- A tick reports a highlight exactly if the time since its last start reaches its span by it, and
did not before. -/
theorem Unbroken.mem_endedBy_iff (unbroken : Unbroken hash span later) (before : List Operation) :
    hash ∈ endedBy (before ++ .start hash span color :: later) elapsed ↔
      spent later < span.nanos ∧ span.nanos ≤ spent later + elapsed.nanos := by
  -- What is left is the span less the time since its start.
  rw [endedBy, mem_tick_iff (tidy_ofOperations _).ascending]
  simp only [unbroken.find?_iff]
  constructor
  · rintro ⟨_, ⟨left, rfl⟩, ended⟩
    replace ended : span.nanos - spent later ≤ elapsed.nanos := ended
    exact ⟨left, by omega⟩
  · rintro ⟨left, reached⟩
    refine ⟨_, ⟨left, rfl⟩, ?_⟩
    exact Nat.sub_le_of_le_add (by omega)

/-- Time that adds up to some amount reaches it by one of the ticks. -/
theorem exists_reaching {amount : Nat} (some : 0 < amount) (enough : amount ≤ spent later) :
    ∃ first elapsed rest, later = first ++ .tick elapsed :: rest ∧ spent first < amount ∧
      amount ≤ spent first + elapsed.nanos := by
  induction later using List.reverseRecOn with
  | nil =>
    rw [spent_nil] at enough
    omega
  | append_singleton front operation ih =>
    by_cases early : amount ≤ spent front
    · obtain ⟨first, elapsed, rest, rfl, before, reached⟩ := ih early
      exact ⟨first, elapsed, rest ++ [operation], by simp, before, reached⟩
    · -- It is the last operation that reaches the amount, and only a tick takes time.
      simp only [spent_append, spent_cons, spent_nil, Nat.add_zero] at enough
      cases operation with
      | tick elapsed => exact ⟨front, elapsed, [], rfl, Nat.lt_of_not_le early, enough⟩
      | start hash span color => exact absurd enough early
      | retain keep => exact absurd enough early
      | clear => exact absurd enough early

/-- No more than one tick reaches an amount that the time before it does not. -/
theorem reaching_unique {amount : Nat} {first second rest others : List Operation}
    {elapsed passed : Duration}
    (same : first ++ .tick elapsed :: rest = second ++ .tick passed :: others)
    (firstBefore : spent first < amount) (firstReaches : amount ≤ spent first + elapsed.nanos)
    (secondBefore : spent second < amount) (secondReaches : amount ≤ spent second + passed.nanos) :
    first = second := by
  -- Otherwise one of the ticks would be among the operations before the other.
  rcases List.append_eq_append_iff.mp same with ⟨middle, rfl, tail⟩ | ⟨middle, rfl, tail⟩
  · cases middle with
    | nil => simp
    | cons operation middle =>
      obtain ⟨rfl, _⟩ := List.cons_eq_cons.mp tail
      simp only [spent_append, spent_cons, Operation.nanos] at secondBefore
      omega
  · cases middle with
    | nil => simp
    | cons operation middle =>
      obtain ⟨rfl, _⟩ := List.cons_eq_cons.mp tail
      simp only [spent_append, spent_cons, Operation.nanos] at firstBefore
      omega

/-- Where later operations spend the span of a highlight, just one tick among them reports it. -/
theorem Unbroken.existsUnique_tick (unbroken : Unbroken hash span later)
    (spentAll : span.nanos ≤ spent later) (before : List Operation) :
    ∃! first, ∃ elapsed rest, later = first ++ .tick elapsed :: rest ∧
      hash ∈ endedBy (before ++ .start hash span color :: first) elapsed := by
  obtain ⟨first, elapsed, rest, rfl, left, reached⟩ :=
    exists_reaching (pos_of_ne_zero unbroken.lasts) spentAll
  refine ⟨first, ⟨elapsed, rest, rfl, ?_⟩, ?_⟩
  · exact (unbroken.append_left.mem_endedBy_iff before).mpr ⟨left, reached⟩
  · rintro second ⟨passed, others, same, ended⟩
    -- The tick after these operations reaches the span as well, and there is one such tick.
    have shorter : Unbroken hash span second := by
      rw [same] at unbroken
      exact unbroken.append_left
    obtain ⟨otherLeft, otherReached⟩ := (shorter.mem_endedBy_iff before).mp ended
    exact (reaching_unique same left reached otherLeft otherReached).symm

/-- After any operations, highlights end when their time is spent, each by one tick alone, and as
well by two ticks in turn as by one. -/
theorem expires_ofOperations (operations : List Operation) : Expires operations := by
  have tidy := tidy_ofOperations operations
  constructor
  · exact tidy.positive
  · intro hash highlight
    constructor
    · intro found
      -- What runs was started at some point, and nothing has stopped it since.
      obtain ⟨before, span, color, later, rfl, unbroken⟩ := exists_unbroken found
      exact ⟨before, span, color, later, rfl, unbroken, (unbroken.find?_iff before).mp found⟩
    · rintro ⟨before, span, color, later, rfl, unbroken, left⟩
      exact (unbroken.find?_iff before).mpr left
  · intro elapsed hash
    constructor
    · -- What ends was running before.
      intro ended
      obtain ⟨running, found, _⟩ := (mem_tick_iff tidy.ascending).mp ended
      obtain ⟨before, span, color, later, rfl, unbroken⟩ := exists_unbroken found
      exact ⟨before, span, color, later, rfl, unbroken, (unbroken.mem_endedBy_iff before).mp ended⟩
    · rintro ⟨before, span, color, later, rfl, unbroken, reached⟩
      exact (unbroken.mem_endedBy_iff before).mpr reached
  · -- Of the ticks since the start, the first that leaves none of the time ends it.
    rintro before hash span color later rfl unbroken spentAll
    exact unbroken.existsUnique_tick spentAll before
  · exact pairwise_tick tidy.ascending
  · intro first second
    simpa [ofOperations, Operation.apply] using tick_tick (ofOperations operations) first second
  · intro first second hash
    rw [endedBy, endedBy, endedBy, ofOperations_append_singleton]
    exact mem_tick_add_iff tidy.ascending first second
  · intro first second
    rw [endedBy, endedBy, ofOperations_append_singleton]
    exact disjoint_tick_tick tidy.ascending first second

/-- A highlight ends at the tick by which just its span has passed. -/
example : endedBy [.start 7 (.ofMillis 500) ⟨0, 0, 0⟩, .tick (.ofMillis 250)] (.ofMillis 249) = [] ∧
    endedBy [.start 7 (.ofMillis 500) ⟨0, 0, 0⟩, .tick (.ofMillis 250)] (.ofMillis 250) = [7] := by
  decide

end DeviceBrowser.Highlights
