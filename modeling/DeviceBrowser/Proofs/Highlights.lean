import DeviceBrowser.Highlights
import DeviceBrowser.Proofs.Table

/-! What is found among highlights after some are started and after time has passed. -/

namespace DeviceBrowser.Highlights

theorem ascending_start {highlights : Highlights} (ascending : highlights.Ascending)
    (hash : UInt32) (span : Duration) (color : Color) :
    (highlights.start hash span color).Ascending := by
  -- A start of no span changes nothing, and another one enters its checksum in place.
  rw [start]
  split
  · exact ascending
  · exact ascending.insert hash _

section Starting

variable {ι : Type} (items : List ι) (key : ι → UInt32) (span : Duration) (color : Color)

theorem ascending_startAll {highlights : Highlights} (ascending : highlights.Ascending) :
    (items.foldl (fun running item => running.start (key item) span color)
      highlights).Ascending := by
  -- By induction on the items, each of which may start a highlight.
  induction items generalizing highlights with
  | nil => exact ascending
  | cons item rest ih => exact ih (ascending_start ascending (key item) span color)

/-- Highlights that are started in turn all run from then on, for the same time and in the same
color, unless the time is none at all. Others stay as they are. -/
theorem find?_startAll (highlights : Highlights) (hash : UInt32) :
    (items.foldl (fun running item => running.start (key item) span color) highlights).find? hash =
      if span ≠ .zero ∧ hash ∈ items.map key then some ⟨span, color⟩
      else highlights.find? hash := by
  -- A later start under the same checksum starts the highlight for the same time again.
  by_cases none : span = .zero
  · have same : ∀ running : Highlights, items.foldl (fun running item =>
        running.start (key item) span color) running = running := by
      intro running
      induction items generalizing running with
      | nil => rfl
      | cons item rest ih => rw [List.foldl_cons, start, if_pos none, ih]
    rw [same, if_neg (fun starts => starts.1 none)]
  · induction items generalizing highlights with
    | nil => simp
    | cons item rest ih =>
      rw [List.foldl_cons, ih, start, if_neg none]
      by_cases later : hash ∈ rest.map key
      · simp [none, later]
      · by_cases here : hash = key item
        · subst here
          simp [none, later]
        · rw [Table.find?_insert_ne _ here]
          simp [none, later, here]

end Starting

/-- The rows of the highlights that go on after some time, each with what is left of it. -/
theorem rows_tick (highlights : Highlights) (elapsed : Duration) :
    (highlights.tick elapsed).2.rows =
      (highlights.rows.map fun row =>
        (row.1, { row.2 with remaining := row.2.remaining.less elapsed })).filter fun row =>
          !decide (row.2.remaining = Duration.zero) := rfl

theorem ascending_tick {highlights : Highlights} (ascending : highlights.Ascending)
    (elapsed : Duration) : (highlights.tick elapsed).2.Ascending := by
  -- Time changes no key.
  rw [Table.Ascending, rows_tick]
  apply List.Pairwise.filter
  rw [List.pairwise_map]
  exact ascending

/-- After some time those highlights run that had more left, and less of each is left. -/
theorem find?_tick {highlights : Highlights} (ascending : highlights.Ascending)
    (elapsed : Duration) {hash : UInt32} {highlight : Highlight} :
    (highlights.tick elapsed).2.find? hash = some highlight ↔
      ∃ running, highlights.find? hash = some running ∧
        elapsed.nanos < running.remaining.nanos ∧
        highlight = { running with remaining := running.remaining.less elapsed } := by
  -- Something is left exactly if less time passes than there was.
  have goesOn : ∀ remaining : Duration,
      remaining.less elapsed ≠ .zero ↔ elapsed.nanos < remaining.nanos := by
    intro remaining
    simp only [Duration.less, Duration.zero, ne_eq, Duration.mk.injEq]
    omega
  rw [(ascending_tick ascending elapsed).find?_eq_some_iff, rows_tick]
  simp only [List.mem_filter, List.mem_map, Bool.not_eq_true', decide_eq_false_iff_not,
    Prod.mk.injEq]
  constructor
  · rintro ⟨⟨⟨_, running⟩, member, rfl, rfl⟩, left⟩
    exact ⟨running, ascending.find?_eq_some_iff.mpr member, (goesOn running.remaining).mp left, rfl⟩
  · rintro ⟨running, found, left, rfl⟩
    exact ⟨⟨(hash, running), ascending.find?_eq_some_iff.mp found, rfl, rfl⟩,
      (goesOn running.remaining).mpr left⟩

end DeviceBrowser.Highlights
