import DeviceBrowser.Refresh

/-! What requests ask for and what answers bring: which preferences ask for the same tree, how the
requests that wait lead from the preferences of one snapshot to those in effect, and what is on
display once answers were taken in. -/

namespace DeviceBrowser

namespace Preferences

/-- Two preferences ask for the same tree. -/
def SameTree (left right : Preferences) : Prop := left.asksOtherTree right = false

/-- The same tree is asked for by the same switches for devices, root and order. -/
theorem sameTree_iff {left right : Preferences} : left.SameTree right ↔
    left.showDisconnected = right.showDisconnected ∧
    left.showSoftwareComponents = right.showSoftwareComponents ∧
    left.showInterfaces = right.showInterfaces ∧
    left.showDisabledInterfaces = right.showDisabledInterfaces ∧
    left.showRoot = right.showRoot ∧ left.sortChildren = right.sortChildren := by
  -- Six switches are compared one by one.
  simp [SameTree, asksOtherTree, and_assoc]

/-- Preferences ask for the tree that they ask for. -/
theorem SameTree.refl (preferences : Preferences) : preferences.SameTree preferences := by
  -- Each switch is as it is.
  simp [sameTree_iff]

/-- Asking for the same tree goes both ways. -/
theorem SameTree.symm {left right : Preferences} (same : left.SameTree right) :
    right.SameTree left := by
  -- Equality of each switch goes both ways.
  simp_all [sameTree_iff]

/-- Asking for the same tree carries on. -/
theorem SameTree.trans {left middle right : Preferences} (first : left.SameTree middle)
    (second : middle.SameTree right) : left.SameTree right := by
  -- Equality of each switch carries on.
  simp_all [sameTree_iff]

/-- A switch that asks for no new tree leaves the tree that is asked for. -/
theorem sameTree_set {toggle : Toggle} (noRebuild : toggle.effect ≠ .rebuild)
    (preferences : Preferences) (on : Bool) :
    preferences.SameTree (preferences.set toggle on) := by
  -- Of the switches just those are compared that ask for a new tree.
  cases toggle <;> simp_all [sameTree_iff, set, Toggle.effect]

end Preferences

/-- Preferences that ask for the same tree have it built. -/
theorem Preferences.SameTree.build_eq [Zone] {left right : Preferences} (same : left.SameTree right)
    (edition : Edition) : Snapshot.build edition left = Snapshot.build edition right := by
  -- Building reads the preferences only to decide whether the root stands on top, which devices are
  -- shown and how siblings are arranged.
  obtain ⟨disconnected, software, interfaces, disabled, root, order⟩ :=
    Preferences.sameTree_iff.mp same
  have includes : left.includes = right.includes := by
    funext device
    simp [Preferences.includes, disconnected, software, interfaces, disabled]
  have shows : ∀ inventory, Snapshot.shows inventory left = Snapshot.shows inventory right := by
    intro inventory
    funext position
    simp [Snapshot.shows, includes]
  have arrangement : ∀ inventory,
      Snapshot.arrangement inventory left = Snapshot.arrangement inventory right := by
    intro inventory
    funext tops
    simp [Snapshot.arrangement, order]
  simp only [Snapshot.build, Snapshot.branches, shows, arrangement, root]

namespace RefreshRequest

/-- Requests lead from preferences to others: each one that is not forced keeps the tree that is
asked for, and so do the preferences after the last. -/
def Lead (start goal : Preferences) : List RefreshRequest → Prop
  | [] => start.SameTree goal
  | request :: rest =>
    (request.force = true ∨ start.SameTree request.preferences) ∧
      Lead request.preferences goal rest

/-- Requests lead on to preferences that ask for the same tree as where they ended. -/
theorem Lead.to_sameTree {start goal other : Preferences} {requests : List RefreshRequest}
    (same : goal.SameTree other) (lead : Lead start goal requests) :
    Lead start other requests := by
  -- By induction on the requests; only where they end matters.
  induction requests generalizing start with
  | nil => exact lead.trans same
  | cons request rest ih => exact ⟨lead.1, ih lead.2⟩

/-- One more request leads on to its preferences, if it is forced or keeps the tree. -/
theorem Lead.append {start goal : Preferences} {requests : List RefreshRequest}
    (lead : Lead start goal requests) {request : RefreshRequest}
    (follows : request.force = true ∨ goal.SameTree request.preferences) :
    Lead start request.preferences (requests ++ [request]) := by
  -- The preferences after the last request so far are those that the new one sets out from.
  induction requests generalizing start with
  | nil =>
    refine ⟨?_, Preferences.SameTree.refl _⟩
    rcases follows with forced | keeps
    · exact .inl forced
    · exact .inr (lead.trans keeps)
  | cons first rest ih => exact ⟨lead.1, ih lead.2⟩

/-- Requests that are merged lead where they led one by one. -/
theorem Lead.merge {start goal : Preferences} {first second : RefreshRequest}
    {rest : List RefreshRequest} (lead : Lead start goal (first :: second :: rest)) :
    Lead start goal (first.merge second :: rest) := by
  -- The merged request is forced if one of the two is, and else both keep the tree.
  obtain ⟨toFirst, toSecond, later⟩ := lead
  refine ⟨?_, later⟩
  rcases toFirst with forced | keepsFirst
  · simp [RefreshRequest.merge, forced]
  · rcases toSecond with forced | keepsSecond
    · simp [RefreshRequest.merge, forced]
    · exact .inr (keepsFirst.trans keepsSecond)

end RefreshRequest

/-- A request is answered with a snapshot, unless it is not forced and about the current edition. -/
theorem Snapshot.buildIfStale_cases [Zone] (current : Edition) (active : Option Edition)
    (force : Bool)
    (preferences : Preferences) :
    Snapshot.buildIfStale current active force preferences =
        some (Snapshot.build current preferences) ∨
      Snapshot.buildIfStale current active force preferences = none ∧ force = false ∧
        ∃ edition, active = some edition ∧ edition.isSame current = true := by
  -- With an edition on display, the answer depends on force and on whether that edition is current.
  cases active with
  | none => simp [Snapshot.buildIfStale]
  | some edition =>
    cases force <;> cases same : edition.isSame current <;> simp [Snapshot.buildIfStale, same]

namespace RefreshAnswer

/-- The snapshot that an answer brings, if it brings one. -/
def snapshot? : RefreshAnswer → Option Snapshot
  | built _ snapshot _ => some snapshot
  | unchanged _ => none

/-- The answer to a request brings a snapshot if one is built. -/
@[simp] theorem snapshot?_ofRequest [Zone] (request : RefreshRequest) (current : Edition) :
    (ofRequest request current).snapshot? =
      Snapshot.buildIfStale current request.active request.force request.preferences := by
  -- The answer holds what was built, or says that nothing was.
  rw [ofRequest]
  split <;> simp [snapshot?, *]

/-- The snapshot on display once answers were taken in. -/
def latest (active : Option Snapshot) (answers : List RefreshAnswer) : Option Snapshot :=
  answers.foldl (fun active answer => answer.snapshot?.or active) active

/-- Answers are taken in one after the other. -/
@[simp] theorem latest_append (active : Option Snapshot) (front back : List RefreshAnswer) :
    latest active (front ++ back) = latest (latest active front) back :=
  List.foldl_append

/-- What is on display after answers was so before, or an answer brought it. -/
theorem latest_cases {active : Option Snapshot} {answers : List RefreshAnswer}
    {snapshot : Snapshot} (found : latest active answers = some snapshot) :
    active = some snapshot ∨ ∃ answer ∈ answers, answer.snapshot? = some snapshot := by
  -- A later answer decides; only if none brings a snapshot, the first one or the display does.
  induction answers generalizing active with
  | nil => exact .inl found
  | cons answer rest ih =>
    rcases ih found with isActive | ⟨later, laterIn, brought⟩
    · cases brings : answer.snapshot? with
      | none => exact .inl (by simpa [brings] using isActive)
      | some new => exact .inr ⟨answer, by simp, by simpa [brings] using isActive⟩
    · exact .inr ⟨later, by simp [laterIn], brought⟩

end RefreshAnswer

end DeviceBrowser
