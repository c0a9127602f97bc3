import DeviceBrowser.Proofs.Refresh

/-! Accounts of answers for requests: each answer is for the next few requests, merged into one, and
so each request is covered by exactly one answer, the first whose number is not below its own. -/

namespace DeviceBrowser

variable {zone : Zone}

namespace RefreshRequest

/-- Requests are numbered one after the other, from a number on. -/
def Numbered (start : Nat) (requests : List RefreshRequest) : Prop :=
  requests.map (·.number) = List.range' start requests.length

/-- Requests are numbered when the first of them are, and the others go on from there. -/
theorem numbered_append {start : Nat} {front back : List RefreshRequest} :
    Numbered start (front ++ back) ↔
      Numbered start front ∧ Numbered (start + front.length) back := by
  -- The numbers are a range, which splits where the first part ends.
  simp only [Numbered, List.map_append, List.length_append, ← List.range'_append_1]
  constructor
  · intro same
    exact List.append_inj same (by simp)
  · rintro ⟨first, second⟩
    rw [first, second]

/-- The numbers of requests lie between the first and the last. -/
theorem Numbered.bounds {start : Nat} {requests : List RefreshRequest}
    (numbered : Numbered start requests) {request : RefreshRequest} (member : request ∈ requests) :
    start ≤ request.number ∧ request.number < start + requests.length := by
  -- The numbers are those of a range.
  have inRange := List.mem_map_of_mem (f := (·.number)) member
  rw [numbered] at inRange
  simpa using inRange

/-- Only no requests at all are merged into none. -/
theorem mergeAll_eq_none_iff {requests : List RefreshRequest} :
    mergeAll requests = none ↔ requests = [] := by
  -- A first request is always merged into something.
  cases requests <;> simp [mergeAll]

/-- Merging goes on with one more request. -/
theorem mergeAll_concat {requests : List RefreshRequest} {merged : RefreshRequest}
    (isMerged : mergeAll requests = some merged) (next : RefreshRequest) :
    mergeAll (requests ++ [next]) = some (merged.merge next) := by
  -- Merging goes from the front to the end.
  cases requests with
  | nil => cases isMerged
  | cons first others =>
    cases isMerged
    simp [mergeAll]

/-- A merged request is forced if one of those merged is. -/
theorem force_foldl_merge (first : RefreshRequest) (others : List RefreshRequest) :
    (others.foldl merge first).force = (first :: others).any (·.force) := by
  -- By induction on the others, with what was merged so far in place of the first.
  induction others generalizing first with
  | nil => simp
  | cons next rest ih => simp [ih, merge, Bool.or_assoc]

/-- A merged request is made under the preferences of the last of those merged. -/
theorem preferences_foldl_merge (first : RefreshRequest) (others : List RefreshRequest) :
    ∃ last ∈ (first :: others).getLast?,
      (others.foldl merge first).preferences = last.preferences := by
  induction others generalizing first with
  | nil => exact ⟨first, rfl, rfl⟩
  | cons next rest ih =>
    obtain ⟨last, isLast, same⟩ := ih (first.merge next)
    -- Merged with the first one, the next request still gives its own preferences.
    cases rest with
    | nil => exact ⟨next, rfl, rfl⟩
    | cons third rest => exact ⟨last, isLast, same⟩

/-- A merged request has the number of the last of those merged, if they are numbered. -/
theorem number_foldl_merge {first : RefreshRequest} {others : List RefreshRequest}
    (numbered : Numbered (first.number + 1) others) :
    (others.foldl merge first).number = first.number + others.length := by
  -- By induction on the others: the greater number is kept, and each is the next one.
  induction others generalizing first with
  | nil => rfl
  | cons next rest ih =>
    obtain ⟨isNext, later⟩ : next.number = first.number + 1 ∧
        Numbered (first.number + 1 + 1) rest := by
      simpa [Numbered, List.range'_succ] using numbered
    have merged : (first.merge next).number = first.number + 1 := by
      simp [merge, isNext]
    rw [List.foldl_cons, ih (by rwa [merged]), merged, List.length_cons]
    omega

/-- What a merged request has of the requests merged: the number and the preferences of the last,
and the force of any. -/
structure Merges (requests : List RefreshRequest) (merged : RefreshRequest) : Prop where
  last : ∃ last ∈ requests, last.number = merged.number ∧ last.preferences = merged.preferences
  forced : ∀ request ∈ requests, request.force = true → merged.force = true
  highest : ∀ request ∈ requests, request.number ≤ merged.number

/-- Numbered requests are merged into one with the number of the last. -/
theorem merges_of_mergeAll {start : Nat} {requests : List RefreshRequest} {merged : RefreshRequest}
    (isMerged : mergeAll requests = some merged) (numbered : Numbered start requests) :
    Merges requests merged ∧ merged.number + 1 = start + requests.length := by
  cases requests with
  | nil => cases isMerged
  | cons first others =>
    cases isMerged
    obtain ⟨isFirst, later⟩ : first.number = start ∧ Numbered (start + 1) others := by
      simpa [Numbered, List.range'_succ] using numbered
    have number := number_foldl_merge (isFirst ▸ later)
    obtain ⟨last, isLast, preferences⟩ := preferences_foldl_merge first others
    refine ⟨⟨⟨last, List.mem_of_mem_getLast? isLast, ?_, preferences.symm⟩, ?_, ?_⟩, ?_⟩
    · -- As the numbers leave no gap, the last request has the number of the merged one.
      obtain ⟨front, split⟩ := List.getLast?_eq_some_iff.mp isLast
      have length := congrArg List.length split
      have isEnd : last.number = start + front.length := by
        rw [split, numbered_append] at numbered
        simpa [Numbered] using numbered.2
      simp only [List.length_cons, List.length_append, List.length_nil] at length
      omega
    · intro request member forced
      -- One forced request forces the merged one.
      rw [force_foldl_merge]
      exact List.any_eq_true.mpr ⟨request, member, forced⟩
    · intro request member
      -- None of them has a higher number than the last.
      have bounds := numbered.bounds member
      rw [number]
      simp at bounds
      omega
    · rw [number, isFirst, List.length_cons]
      omega

end RefreshRequest

namespace RefreshAnswer

/-- An answer to a request has its number. -/
@[simp] theorem number_ofRequest (request : RefreshRequest) (current : Edition) :
    (ofRequest request current).number = request.number := by
  -- Both sorts of answers carry the number.
  rw [ofRequest]
  split <;> rfl

/-- A forced request is answered with a snapshot under its preferences. -/
theorem ofRequest_of_force {request : RefreshRequest} (forced : request.force = true)
    (current : Edition) : ofRequest request current =
      .built request.number (Snapshot.build current request.preferences) true := by
  -- Only an unforced request may be left without a snapshot.
  rcases Snapshot.buildIfStale_cases current request.active request.force request.preferences with
    builds | ⟨_, unforced, _⟩
  · rw [ofRequest, builds, forced]
  · rw [forced] at unforced
    cases unforced

/-- The highest of a number and the numbers of answers. -/
def highest (start : Nat) (answers : List RefreshAnswer) : Nat :=
  answers.foldl (fun highest answer => max highest answer.number) start

/-- More answers go on from the highest number so far. -/
@[simp] theorem highest_append (start : Nat) (front back : List RefreshAnswer) :
    highest start (front ++ back) = highest (highest start front) back :=
  List.foldl_append

/-- The highest number is not below the one it starts from. -/
theorem le_highest (start : Nat) (answers : List RefreshAnswer) :
    start ≤ highest start answers := by
  -- By induction on the answers, none of which lowers the highest number.
  induction answers generalizing start with
  | nil => exact Nat.le_refl start
  | cons answer rest ih => exact Nat.le_trans (Nat.le_max_left _ _) (ih _)

/-- An answer covers a request when it is the first whose number is not below that of the request.
-/
structure CoveredAt (answers : List RefreshAnswer) (request : RefreshRequest) (position : Nat) :
    Prop where
  covers : ∃ answer, answers[position]? = some answer ∧ request.number ≤ answer.number
  first : ∀ earlier < position, ∀ answer, answers[earlier]? = some answer →
    answer.number < request.number

section Covered

variable {answers : List RefreshAnswer} {request : RefreshRequest}

/-- A request is covered at no more than one position. -/
theorem CoveredAt.unique {position other : Nat} (covered : CoveredAt answers request position)
    (alsoCovered : CoveredAt answers request other) : position = other := by
  -- At the later of two positions the earlier answer would be below the request.
  rcases Nat.lt_trichotomy position other with before | same | after
  · obtain ⟨answer, found, covers⟩ := covered.covers
    exact absurd (alsoCovered.first position before answer found) (Nat.not_lt.mpr covers)
  · exact same
  · obtain ⟨answer, found, covers⟩ := alsoCovered.covers
    exact absurd (covered.first other after answer found) (Nat.not_lt.mpr covers)

/-- A request is covered at a position where there is an answer. -/
theorem CoveredAt.lt_length {position : Nat} (covered : CoveredAt answers request position) :
    position < answers.length := by
  -- The answer that covers it is found there.
  obtain ⟨answer, found, _⟩ := covered.covers
  exact (List.getElem?_eq_some_iff.mp found).1

/-- One more answer leaves the requests covered that were. -/
theorem CoveredAt.append {position : Nat} (covered : CoveredAt answers request position)
    (next : RefreshAnswer) : CoveredAt (answers ++ [next]) request position := by
  -- The answers up to that position stay where they are.
  obtain ⟨answer, found, covers⟩ := covered.covers
  have within := covered.lt_length
  refine ⟨⟨answer, by rwa [List.getElem?_append_left within], covers⟩, ?_⟩
  intro earlier before other isOther
  rw [List.getElem?_append_left (by omega)] at isOther
  exact covered.first earlier before other isOther

/-- One more answer covers the requests that lie between it and all earlier ones. -/
theorem coveredAt_length {next : RefreshAnswer}
    (above : ∀ answer ∈ answers, answer.number < request.number)
    (covers : request.number ≤ next.number) :
    CoveredAt (answers ++ [next]) request answers.length := by
  -- The new answer is the first that reaches it.
  refine ⟨⟨next, by simp, covers⟩, ?_⟩
  intro earlier before answer found
  rw [List.getElem?_append_left before] at found
  exact above answer (List.mem_of_getElem? found)

end Covered

/-- Answers account for requests when each of them answers the next few, merged into one, from some
edition. -/
inductive Accounts [Zone] : List RefreshRequest → List RefreshAnswer → Prop
  | none : Accounts [] []
  | answer {requests group : List RefreshRequest} {answers : List RefreshAnswer}
      {merged : RefreshRequest} (accounts : Accounts requests answers)
      (isMerged : RefreshRequest.mergeAll group = some merged) (edition : Edition) :
      Accounts (requests ++ group) (answers ++ [.ofRequest merged edition])

section Accounts

variable {requests group : List RefreshRequest} {answers : List RefreshAnswer}
  {merged : RefreshRequest}

/-- The numbers of answers ascend, and the highest is the number of requests accounted for. -/
theorem Accounts.ascending (accounts : Accounts requests answers)
    (numbered : RefreshRequest.Numbered 1 requests) :
    answers.Pairwise (·.number < ·.number) ∧
      (∀ answer ∈ answers, answer.number ≤ requests.length) ∧
      highest 0 answers = requests.length := by
  induction accounts with
  | none => simp [highest]
  | @answer requests group answers merged accounts isMerged edition ih =>
    -- The new answer has the number of the last request that it is for.
    obtain ⟨first, later⟩ := RefreshRequest.numbered_append.mp numbered
    obtain ⟨merges, number⟩ := RefreshRequest.merges_of_mergeAll isMerged later
    obtain ⟨ascending, within, isHighest⟩ := ih first
    obtain ⟨last, member, _⟩ := merges.last
    have filled : 0 < group.length := List.length_pos_of_mem member
    rw [List.length_append, highest_append, isHighest]
    refine ⟨List.pairwise_append.mpr ⟨ascending, List.pairwise_singleton _ _, ?_⟩, ?_, ?_⟩
    · intro earlier isEarlier next isNext
      -- Earlier answers are for requests before the group, whose last is numbered behind them.
      have := within earlier isEarlier
      rw [List.mem_singleton.mp isNext, number_ofRequest]
      omega
    · intro answer isAnswer
      rcases List.mem_append.mp isAnswer with earlier | isNext
      · have := within answer earlier
        omega
      · rw [List.mem_singleton.mp isNext, number_ofRequest]
        omega
    · simp only [highest, List.foldl_cons, List.foldl_nil, number_ofRequest]
      omega

/-- The next answer covers the requests that it is for. -/
theorem Accounts.covers_group (accounts : Accounts requests answers)
    (numbered : RefreshRequest.Numbered 1 (requests ++ group))
    (isMerged : RefreshRequest.mergeAll group = some merged) (edition : Edition)
    {request : RefreshRequest} (member : request ∈ group) :
    CoveredAt (answers ++ [ofRequest merged edition]) request answers.length := by
  obtain ⟨first, later⟩ := RefreshRequest.numbered_append.mp numbered
  obtain ⟨merges, _⟩ := RefreshRequest.merges_of_mergeAll isMerged later
  -- The requests of the group are numbered on from those that earlier answers cover.
  apply coveredAt_length
  · intro answer isAnswer
    have within := (accounts.ascending first).2.1 answer isAnswer
    have above := (later.bounds member).1
    omega
  · rw [number_ofRequest]
    exact merges.highest request member

/-- Every request accounted for is covered. -/
theorem Accounts.covered (accounts : Accounts requests answers)
    (numbered : RefreshRequest.Numbered 1 requests) {request : RefreshRequest}
    (member : request ∈ requests) : ∃ position, CoveredAt answers request position := by
  -- By induction on the accounts: a request is of an earlier group, or of the last one, which its
  -- answer covers.
  induction accounts with
  | none => cases member
  | answer accounts isMerged edition ih =>
    rcases List.mem_append.mp member with old | new
    · obtain ⟨position, covered⟩ := ih (RefreshRequest.numbered_append.mp numbered).1 old
      exact ⟨position, covered.append _⟩
    · exact ⟨_, accounts.covers_group numbered isMerged edition new⟩

/-- Each answer covers a latest request, whose number it has, and if it covers a forced request at
all, it brings a snapshot that was built under the preferences of the latest. -/
theorem Accounts.latest (accounts : Accounts requests answers)
    (numbered : RefreshRequest.Numbered 1 requests) {position : Nat} {answer : RefreshAnswer}
    (found : answers[position]? = some answer) :
    ∃ latest ∈ requests, latest.number = answer.number ∧ CoveredAt answers latest position ∧
      ∀ request ∈ requests, request.force = true → CoveredAt answers request position →
        ∃ edition, answer =
          .built latest.number (Snapshot.build edition latest.preferences) true := by
  induction accounts with
  | none => simp at found
  | @answer requests group answers merged accounts isMerged edition ih =>
    obtain ⟨first, later⟩ := RefreshRequest.numbered_append.mp numbered
    have groupCovered := fun {request} (member : request ∈ group) =>
      accounts.covers_group numbered isMerged edition member
    rcases Nat.lt_or_ge position answers.length with old | new
    · -- An earlier answer covers what it covered before.
      rw [List.getElem?_append_left old] at found
      obtain ⟨latest, member, number, covered, builds⟩ := ih first found
      refine ⟨latest, List.mem_append_left _ member, number, covered.append _, ?_⟩
      intro request inRequests forced coveredHere
      rcases List.mem_append.mp inRequests with isOld | isNew
      · -- The first position that covers a request stays the first.
        obtain ⟨before, coveredBefore⟩ := accounts.covered first isOld
        rw [(coveredBefore.append _).unique coveredHere] at coveredBefore
        exact builds request isOld forced coveredBefore
      · exact absurd (coveredHere.unique (groupCovered isNew)) (Nat.ne_of_lt old)
    · -- The new answer covers those that it is for.
      obtain ⟨merges, _⟩ := RefreshRequest.merges_of_mergeAll isMerged later
      obtain ⟨latest, member, number, preferences⟩ := merges.last
      have here : position = answers.length := by
        have within := (List.getElem?_eq_some_iff.mp found).1
        simp at within
        omega
      subst here
      have isAnswer : ofRequest merged edition = answer := by simpa using found
      subst isAnswer
      refine ⟨latest, List.mem_append_right _ member, by rw [number_ofRequest, number],
        groupCovered member, ?_⟩
      intro request inRequests forced coveredHere
      rcases List.mem_append.mp inRequests with isOld | isNew
      · obtain ⟨before, coveredBefore⟩ := accounts.covered first isOld
        have same := (coveredBefore.append (ofRequest merged edition)).unique coveredHere
        exact absurd same (Nat.ne_of_lt coveredBefore.lt_length)
      · exact ⟨edition, by
          rw [number, preferences, ofRequest_of_force (merges.forced request isNew forced)]⟩

end Accounts

end RefreshAnswer

end DeviceBrowser
