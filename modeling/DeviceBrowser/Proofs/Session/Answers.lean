import DeviceBrowser.Proofs.Refresh.Accounts
import DeviceBrowser.Proofs.Session.Convergence

/-! The requests that a session makes over a run and the answers that its worker makes: in whatever
order the steps come, the answers account for the requests, and what the session counts as answered
keeps up with them. -/

namespace DeviceBrowser

open RefreshRequest (Numbered mergeAll)
open RefreshAnswer (Accounts CoveredAt)

namespace Session

variable {zone : Zone}

/-- Between two of its states a session has handed requests to its worker, numbered on from those
before, and has neither taken an answer in nor changed anything else of the worker. -/
structure Asks (before after : Session) (sent : List RefreshRequest) : Prop where
  worker : after.worker = { before.worker with queue := before.worker.queue ++ sent }
  requested : after.requested = before.requested + sent.length
  numbered : Numbered (before.requested + 1) sent
  answered : after.answered = before.answered

section Asks

variable {before after : Session} {sent : List RefreshRequest}

/-- A session that leaves its worker and its counts asks for nothing. -/
theorem asks_nothing (worker : after.worker = before.worker)
    (requested : after.requested = before.requested) (answered : after.answered = before.answered) :
    before.Asks after [] :=
  -- Nothing is added to the queue, and nothing is numbered.
  ⟨by rw [worker, List.append_nil], requested, rfl, answered⟩

/-- A request is asked after all that was asked before. -/
theorem Asks.request (asks : before.Asks after sent) (force : Bool) :
    ∃ more, before.Asks (after.request force) more := by
  -- The request has the next number, and goes behind those that were sent before it.
  refine ⟨sent ++ [⟨after.requested + 1, force, after.preferences,
    after.browser.stage.edition?⟩], ?_, ?_, ?_, asks.answered⟩
  · simp [Session.request, Worker.submit, asks.worker]
  · simp [Session.request, asks.requested, Nat.add_assoc]
  · refine RefreshRequest.numbered_append.mpr ⟨asks.numbered, ?_⟩
    simp [Numbered, asks.requested, Nat.add_right_comm]

/-- What follows without a word to the worker leaves what was asked. -/
theorem Asks.quiet (asks : before.Asks after sent) {next : Session}
    (worker : next.worker = after.worker) (requested : next.requested = after.requested)
    (answered : next.answered = after.answered) : before.Asks next sent :=
  -- The three parts that are spoken of stay as they are.
  ⟨worker.trans asks.worker, requested.trans asks.requested, asks.numbered,
    answered.trans asks.answered⟩

end Asks

section Steps

variable (session : Session)

/-- Showing or hiding the tab asks for something or nothing. -/
theorem asks_showTab (visible : Bool) : ∃ sent, session.Asks (session.showTab visible) sent := by
  -- Appearing asks for one snapshot more than setting the flag, which asks for none.
  apply showTab_cases (motive := fun next => ∃ sent, session.Asks next sent)
  · exact ⟨[], asks_nothing rfl rfl rfl⟩
  · rintro next ⟨sent, asks⟩
    exact asks.request false

/-- Hearing of a change asks for something or nothing. -/
theorem asks_notify : ∃ sent, session.Asks session.notify.2 sent := by
  -- A change is passed on as one request or ignored.
  apply notify_cases (motive := fun next => ∃ sent, session.Asks next sent)
  · exact ⟨[], asks_nothing rfl rfl rfl⟩
  · rintro next ⟨sent, asks⟩
    exact asks.request false

/-- Time passing asks for something or nothing. -/
theorem asks_tick (elapsed : Duration) : ∃ sent, session.Asks (session.tick elapsed).2 sent := by
  -- The clock itself asks for nothing, and one request may follow.
  apply tick_cases (motive := fun next => ∃ sent, session.Asks next sent)
  · exact ⟨[], asks_nothing rfl rfl rfl⟩
  · rintro next ⟨sent, asks⟩
    exact asks.request false

/-- Setting a switch asks for something or nothing. -/
theorem asks_setToggle (toggle : Toggle) (on : Bool) :
    ∃ sent, session.Asks (session.setToggle toggle on) sent := by
  -- Storing the switch and putting it into effect are no matter of the worker.
  have nothing : session.Asks ((session.save (Settings.toggleName toggle)
      (Settings.flagSetting on)).prefer (session.preferences.set toggle on)) [] :=
    asks_nothing rfl rfl rfl
  apply setToggle_cases (motive := fun next => ∃ sent, session.Asks next sent)
  · exact ⟨[], asks_nothing rfl rfl rfl⟩
  · intro _
    exact nothing.request true
  · intro _
    exact ⟨[], nothing.quiet rfl rfl rfl⟩
  · intro _
    exact ⟨[], nothing⟩

/-- Reloading stored preferences asks for something or nothing. -/
theorem asks_reload : ∃ sent, session.Asks session.reload sent := by
  -- Putting preferences into effect asks for nothing; a request follows if the tree may be another.
  have nothing : session.Asks (session.prefer session.store.preferences) [] :=
    asks_nothing rfl rfl rfl
  rw [reload]
  split
  · exact ⟨[], asks_nothing rfl rfl rfl⟩
  · split
    · exact nothing.request true
    · exact ⟨[], nothing.quiet rfl rfl rfl⟩

/-- Following up on a menu command asks for something or nothing. -/
theorem asks_follow (outcome : Outcome) : ∃ sent, session.Asks (session.follow outcome) sent := by
  -- A switch may ask, and the republishing may ask once more.
  apply follow_cases (motive := fun next => ∃ sent, session.Asks next sent)
  · intro _
    exact ⟨[], asks_nothing rfl rfl rfl⟩
  · intro toggle _
    exact session.asks_setToggle toggle _
  · rintro next ⟨sent, asks⟩
    exact asks.request true

/-- Of the answers taken in the highest number is remembered. -/
theorem answered_acceptAll (now : FileTime) (answers : List RefreshAnswer) :
    (session.acceptAll now answers).2.answered =
      RefreshAnswer.highest session.answered answers := by
  -- By induction on the answers, with the highest number so far as what both sides start from.
  induction answers generalizing session with
  | nil => rfl
  | cons answer rest ih =>
    have first : (session.accept now answer).2.answered = max session.answered answer.number := by
      cases answer <;> rfl
    rw [RefreshAnswer.highest, List.foldl_cons, ← first]
    exact ih (session.accept now answer).2

end Steps

end Session

namespace System

section AnyZone

variable {zone : Zone}

/-- The requests that a step hands to the worker: those behind the queue as it was. -/
def sentBetween (before after : System) : List RefreshRequest :=
  after.worker.queue.drop before.worker.queue.length

/-- The answer that a step makes: the one held back now, if none was before. -/
def madeBetween (before after : System) : List RefreshAnswer :=
  if before.outgoing.isNone then after.outgoing.toList else []

/-- Runs from a session that has just started, with the requests made and the answers made in them,
each in their order. Of the answers that wait any number that may be collected at once is taken. -/
inductive Chronicle [Zone] : System → List RefreshRequest → List RefreshAnswer → Prop
  | start (store : SettingsStore) (elevated : Bool) (source : Source) :
      Chronicle (start store elevated source) [] []
  | step {system next : System} {asked : List RefreshRequest} {answered : List RefreshAnswer}
      (chronicle : Chronicle system asked answered) (step : Step system next) :
      Chronicle next (asked ++ system.sentBetween next) (answered ++ system.madeBetween next)
  | collect {system : System} {asked : List RefreshRequest} {answered : List RefreshAnswer}
      (chronicle : Chronicle system asked answered) {count : Nat}
      (few : count ≤ Session.answersAtOnce) (now : FileTime) :
      Chronicle (system.withSession (system.session.collectUpTo count now).2) asked answered

/-- The books are in order when the requests are numbered, those that were answered come before
those that the worker has merged into one, and these before those that wait, and when the answers
collected come before those that wait and the one held back. -/
structure Ordered [Zone] (system : System) (asked : List RefreshRequest)
    (answered : List RefreshAnswer) : Prop where
  numbered : Numbered 1 asked
  requested : asked.length = system.session.requested
  requests : ∃ closed taken, asked = closed ++ taken ++ system.worker.queue ∧
    Accounts closed answered ∧ mergeAll taken = system.worker.working
  answers : ∃ collected, answered = collected ++ (system.worker.answers ++ system.outgoing.toList) ∧
    system.session.answered = RefreshAnswer.highest 0 collected
  free : system.worker.working ≠ none → system.outgoing = none

section Steps

variable {system : System} {asked : List RefreshRequest} {answered : List RefreshAnswer}

/-- Asking keeps the books in order. -/
theorem Ordered.ask (ordered : Ordered system asked answered) {after : Session}
    {sent : List RefreshRequest} (asks : system.session.Asks after sent) :
    Ordered (system.withSession after) (asked ++ sent) answered where
  numbered := by
    refine RefreshRequest.numbered_append.mpr ⟨ordered.numbered, ?_⟩
    rw [ordered.requested, Nat.add_comm]
    exact asks.numbered
  requested := by
    rw [List.length_append, ordered.requested]
    exact asks.requested.symm
  requests := by
    obtain ⟨closed, taken, split, accounts, merged⟩ := ordered.requests
    -- What is sent stands at the end of the queue, so the books are split where they were.
    refine ⟨closed, taken, ?_, accounts, ?_⟩
    · simp [withSession, worker, asks.worker, split]
    · simpa [withSession, worker, asks.worker] using merged
  answers := by
    obtain ⟨collected, split, highest⟩ := ordered.answers
    refine ⟨collected, ?_, asks.answered.trans highest⟩
    simpa [withSession, worker, asks.worker] using split
  free := by
    intro working
    apply ordered.free
    simpa [withSession, worker, asks.worker] using working

/-- Collecting keeps the books in order. -/
theorem Ordered.collect (ordered : Ordered system asked answered) (count : Nat) (now : FileTime) :
    Ordered (system.withSession (system.session.collectUpTo count now).2) asked answered := by
  -- The answers that are taken move from those that wait to those collected.
  have counted : (system.session.collectUpTo count now).2.answered =
      RefreshAnswer.highest system.session.answered (system.worker.answers.take count) :=
    Session.answered_acceptAll _ now _
  obtain ⟨_, worker, requested, _⟩ := system.session.collectUpTo_effect count now
  refine ⟨ordered.numbered, ordered.requested.trans requested.symm, ?_, ?_, ?_⟩
  · simpa only [System.worker, withSession, worker] using ordered.requests
  · obtain ⟨collected, split, highest⟩ := ordered.answers
    refine ⟨collected ++ system.worker.answers.take count, ?_, ?_⟩
    · rw [split]
      simp only [System.worker, withSession, worker, List.append_assoc]
      rw [← List.append_assoc (List.take _ _), List.take_append_drop]
    · rw [RefreshAnswer.highest_append, ← highest]
      exact counted
  · simpa only [System.worker, withSession, worker] using ordered.free

/-- A worker that takes the first request keeps the books in order. -/
theorem Ordered.receive (ordered : Ordered system asked answered)
    (idle : system.worker.working = none) (free : system.outgoing = none) :
    Ordered (system.withWorker (system.worker.receive 1)) asked answered := by
  have received : system.worker.receive 1 = { system.worker with
      queue := system.worker.queue.drop 1
      working := mergeAll (system.worker.queue.take 1) } := by
    rw [Worker.receive, idle]
  rw [received]
  refine ⟨ordered.numbered, ordered.requested, ?_, ordered.answers, fun _ => free⟩
  obtain ⟨closed, taken, split, accounts, merged⟩ := ordered.requests
  -- A worker without work has merged nothing, so what it takes is next to those answered.
  rw [idle, RefreshRequest.mergeAll_eq_none_iff] at merged
  subst merged
  refine ⟨closed, system.worker.queue.take 1, ?_, accounts, rfl⟩
  rw [split, List.append_nil, List.append_assoc]
  exact congrArg (closed ++ ·) (List.take_append_drop 1 system.worker.queue).symm

/-- A worker that folds in the next request keeps the books in order. -/
theorem Ordered.fold (ordered : Ordered system asked answered) {request next : RefreshRequest}
    {rest : List RefreshRequest} (working : system.worker.working = some request)
    (queued : system.worker.queue = next :: rest) :
    Ordered (system.withWorker
      { system.worker with queue := rest, working := some (request.merge next) })
      asked answered := by
  refine ⟨ordered.numbered, ordered.requested, ?_, ordered.answers, fun _ => ?_⟩
  · obtain ⟨closed, taken, split, accounts, merged⟩ := ordered.requests
    -- The next request moves from those that wait to those merged.
    refine ⟨closed, taken ++ [next], ?_, accounts, ?_⟩
    · rw [split, queued]
      simp [withWorker, withSession, worker]
    · exact RefreshRequest.mergeAll_concat (merged.trans working) next
  · exact ordered.free (by simp [working])

/-- A worker that answers keeps the books in order. -/
theorem Ordered.answer (ordered : Ordered system asked answered) {request : RefreshRequest}
    (working : system.worker.working = some request) :
    Ordered (system.answer request) asked
      (answered ++ [.ofRequest request (system.source.take request.force).1]) := by
  refine ⟨ordered.numbered, ordered.requested, ?_, ?_, fun impossible => absurd rfl impossible⟩
  · -- The requests that the worker has merged are now answered.
    obtain ⟨closed, taken, split, accounts, merged⟩ := ordered.requests
    refine ⟨closed ++ taken, [], ?_, accounts.answer (merged.trans working) _, rfl⟩
    rw [split, List.append_nil]
    rfl
  · obtain ⟨collected, split, highest⟩ := ordered.answers
    have free := ordered.free (by simp [working])
    refine ⟨collected, ?_, highest⟩
    rw [split, free]
    simp [System.answer, withWorker, withSession, worker]

/-- A worker that hands its answer over keeps the books in order. -/
theorem Ordered.send (ordered : Ordered system asked answered) {answer : RefreshAnswer}
    (made : system.outgoing = some answer) :
    Ordered { system.withWorker { system.worker with
      answers := system.worker.answers ++ [answer] } with outgoing := none } asked answered := by
  refine ⟨ordered.numbered, ordered.requested, ordered.requests, ?_, fun _ => rfl⟩
  obtain ⟨collected, split, highest⟩ := ordered.answers
  -- The answer held back was the last of all, and becomes the last of those that wait.
  refine ⟨collected, ?_, highest⟩
  rw [split, made]
  simp [withWorker, withSession, worker]

/-- With a queue that is no longer than before, nothing was handed to the worker. -/
theorem sentBetween_of_length_le {next : System}
    (shorter : next.worker.queue.length ≤ system.worker.queue.length) :
    system.sentBetween next = [] :=
  -- Requests are added at the end, so nothing stands behind the old length.
  List.drop_eq_nil_of_le shorter

/-- An answer that is held back was made before. -/
theorem madeBetween_of_held {next : System} (held : system.outgoing = none → next.outgoing = none) :
    system.madeBetween next = [] := by
  -- An answer is new only where none was held back before.
  rw [madeBetween]
  split
  · rename_i free
    rw [held (Option.isNone_iff_eq_none.mp free)]
    rfl
  · rfl

/-- A step of the session keeps the books in order, with the requests that it adds. -/
theorem Ordered.withSession (ordered : Ordered system asked answered) {after : Session}
    (asks : ∃ sent, system.session.Asks after sent) :
    Ordered (system.withSession after) (asked ++ system.sentBetween (system.withSession after))
      (answered ++ system.madeBetween (system.withSession after)) := by
  -- What was sent is what the queue grew by, and the session makes no answer.
  obtain ⟨sent, asks⟩ := asks
  have sends : system.sentBetween (system.withSession after) = sent := by
    simp [sentBetween, worker, System.withSession, asks.worker]
  have makes : system.madeBetween (system.withSession after) = [] := madeBetween_of_held id
  rw [sends, makes, List.append_nil]
  exact ordered.ask asks

/-- A step that is not the session's and makes no answer leaves the books as they are. -/
theorem Ordered.unchanged {next : System} (ordered : Ordered next asked answered)
    (shorter : next.worker.queue.length ≤ system.worker.queue.length)
    (held : system.outgoing = none → next.outgoing = none) :
    Ordered next (asked ++ system.sentBetween next) (answered ++ system.madeBetween next) := by
  -- Neither book gets an entry.
  rw [sentBetween_of_length_le shorter, madeBetween_of_held held, List.append_nil, List.append_nil]
  exact ordered

/-- Every step keeps the books in order, with the requests and the answer that it adds. -/
theorem Ordered.step {next : System} (ordered : Ordered system asked answered)
    (step : Step system next) :
    Ordered next (asked ++ system.sentBetween next) (answered ++ system.madeBetween next) := by
  -- Only the session adds requests, and only an answering worker adds an answer.
  cases step with
  | showTab visible => exact ordered.withSession (system.session.asks_showTab visible)
  | notify => exact ordered.withSession system.session.asks_notify
  | tick elapsed => exact ordered.withSession (system.session.asks_tick elapsed)
  | request force => exact ordered.withSession ((Session.asks_nothing rfl rfl rfl).request force)
  | setToggle toggle on => exact ordered.withSession (system.session.asks_setToggle toggle on)
  | put name setting => exact ordered.withSession ⟨[], Session.asks_nothing rfl rfl rfl⟩
  | reload => exact ordered.withSession system.session.asks_reload
  | execute menu actions state command =>
    exact ordered.withSession (system.session.asks_follow _)
  | collect now =>
    have worker := (system.session.collectUpTo_effect Session.answersAtOnce now).2.1
    have same := congrArg (·.queue.length) worker
    exact (ordered.collect Session.answersAtOnce now).unchanged (Nat.le_of_eq same) id
  | receive idle free =>
    -- Taking and folding requests makes the queue shorter, so that nothing counts as sent.
    have received : (system.worker.receive 1).queue = system.worker.queue.drop 1 := by
      rw [Worker.receive, idle]
    have shorter : (system.worker.receive 1).queue.length ≤ system.worker.queue.length := by
      rw [received, List.length_drop]
      omega
    exact (ordered.receive idle free).unchanged shorter id
  | @fold request first rest working queued =>
    have shorter : rest.length ≤ system.worker.queue.length := by
      rw [queued, List.length_cons]
      omega
    exact (ordered.fold working queued).unchanged shorter id
  | @answer request working =>
    -- While the worker is at a request no answer waits to be handed over, so that this one is new.
    have free := ordered.free (by simp [working])
    have makes : system.madeBetween (system.answer request) =
        [.ofRequest request (system.source.take request.force).1] := by
      simp [madeBetween, free, System.answer]
    have sends : system.sentBetween (system.answer request) = [] :=
      sentBetween_of_length_le (Nat.le_refl _)
    rw [makes, sends, List.append_nil]
    exact ordered.answer working
  | send made room => exact (ordered.send made).unchanged (Nat.le_refl _) (fun _ => rfl)
  | replace inventory =>
    exact Ordered.unchanged ⟨ordered.numbered, ordered.requested, ordered.requests,
      ordered.answers, ordered.free⟩ (Nat.le_refl _) id
  | withFile file =>
    exact Ordered.unchanged ⟨ordered.numbered, ordered.requested, ordered.requests,
      ordered.answers, ordered.free⟩ (Nat.le_refl _) id

/-- A run from a start has its books in order. -/
theorem Chronicle.ordered (chronicle : Chronicle system asked answered) :
    Ordered system asked answered := by
  -- By induction on the run, from the two empty books of the start.
  induction chronicle with
  | start store elevated source =>
    exact ⟨rfl, rfl, ⟨[], [], rfl, .none, rfl⟩, ⟨[], rfl, rfl⟩, fun _ => rfl⟩
  | step _ step ih => exact ih.step step
  | collect _ _ now ih => exact ih.collect _ now

end Steps

/-- A request still waits when no answer covers it, and it waits for the worker or is one of those
that the worker has merged into the one it is working on. -/
def Waits (system : System) (answered : List RefreshAnswer) (request : RefreshRequest) : Prop :=
  (∀ answer ∈ answered, answer.number < request.number) ∧
    (request ∈ system.worker.queue ∨
      ∃ working, system.worker.working = some working ∧ request.number ≤ working.number)

/-- Every request is answered exactly once: the numbers of the answers ascend, and a request that no
longer waits is covered by one answer alone. Each answer has the number of the latest request that
it covers, and if it covers a forced one, it brings a snapshot that was built under the preferences
of the latest. What the session counts as answered is never ahead of what it has asked, and once
nothing is on its way no request is left open. -/
structure AnsweredOnce [Zone] (system : System) (asked : List RefreshRequest)
    (answered : List RefreshAnswer) : Prop where
  numbered : asked.map (·.number) = List.range' 1 system.session.requested
  ascending : answered.Pairwise (·.number < ·.number)
  once : ∀ request ∈ asked, system.Waits answered request ∨ ∃ position,
    CoveredAt answered request position ∧
      ∀ other, CoveredAt answered request other → other = position
  latest : ∀ position answer, answered[position]? = some answer →
    ∃ latest ∈ asked, latest.number = answer.number ∧ CoveredAt answered latest position ∧
      ∀ request ∈ asked, CoveredAt answered request position →
        request.number ≤ latest.number ∧ (request.force = true → ∃ edition, answer =
          .built latest.number (Snapshot.build edition latest.preferences) true)
  bounded : system.session.answered ≤ system.session.requested
  settled : system.Settled → system.session.answered = system.session.requested ∧
    system.session.isPending = false ∧
      ∀ request ∈ asked, ∃ position, CoveredAt answered request position

/-- In whatever order the requests of a session, its worker's steps and the collections of answers
come, every request is answered exactly once. -/
theorem Chronicle.answeredOnce {system : System} {asked : List RefreshRequest}
    {answered : List RefreshAnswer} (chronicle : Chronicle system asked answered) :
    AnsweredOnce system asked answered := by
  obtain ⟨numbered, requested, ⟨closed, taken, split, accounts, merged⟩,
    ⟨collected, sorted, counted⟩, _⟩ := chronicle.ordered
  subst split
  rw [List.append_assoc] at numbered ⊢
  obtain ⟨numberedClosed, numberedOpen⟩ := RefreshRequest.numbered_append.mp numbered
  obtain ⟨ascending, within, isHighest⟩ := accounts.ascending numberedClosed
  -- The closed requests are those covered, and all others wait.
  have isWaiting : ∀ request ∈ taken ++ system.worker.queue, system.Waits answered request := by
    intro request isOpen
    refine ⟨?_, ?_⟩
    · intro answer isAnswer
      have above := (numberedOpen.bounds isOpen).1
      have isWithin := within answer isAnswer
      omega
    · rcases List.mem_append.mp isOpen with isTaken | isQueued
      · -- The worker has merged the request into the one it is working on.
        right
        cases working : system.worker.working with
        | none =>
          rw [working, RefreshRequest.mergeAll_eq_none_iff] at merged
          rw [merged] at isTaken
          cases isTaken
        | some current =>
          have numberedTaken := (RefreshRequest.numbered_append.mp numberedOpen).1
          have merges :=
            (RefreshRequest.merges_of_mergeAll (merged.trans working) numberedTaken).1
          exact ⟨current, rfl, merges.highest request isTaken⟩
      · exact .inl isQueued
  refine ⟨?_, ascending, ?_, ?_, ?_, ?_⟩
  · rw [← requested, List.append_assoc]
    exact numbered
  · intro request member
    rcases List.mem_append.mp member with isClosed | isOpen
    · obtain ⟨position, covered⟩ := accounts.covered numberedClosed isClosed
      exact .inr ⟨position, covered, fun other alsoCovered => alsoCovered.unique covered⟩
    · exact .inl (isWaiting request isOpen)
  · intro position answer found
    obtain ⟨latest, isClosed, number, covered, builds⟩ := accounts.latest numberedClosed found
    refine ⟨latest, by simp [isClosed], number, covered, ?_⟩
    intro request member coveredHere
    obtain ⟨other, isOther, covers⟩ := coveredHere.covers
    cases found.symm.trans isOther
    refine ⟨number ▸ covers, fun forced => ?_⟩
    rcases List.mem_append.mp member with isClosed | isOpen
    · exact builds request isClosed forced coveredHere
    · -- A request that waits is covered nowhere.
      have below := (isWaiting request isOpen).1 answer (List.mem_of_getElem? found)
      exact absurd covers (Nat.not_le.mpr below)
  · -- What was collected is part of the answers, whose highest number is that of closed requests.
    have counts := RefreshAnswer.le_highest (RefreshAnswer.highest 0 collected)
      (system.worker.answers ++ system.outgoing.toList)
    rw [← RefreshAnswer.highest_append, ← sorted, isHighest, ← counted] at counts
    simp only [List.length_append] at requested
    omega
  · intro settled
    -- All requests are closed now, and all answers collected.
    have noneTaken : taken = [] :=
      RefreshRequest.mergeAll_eq_none_iff.mp (merged.trans settled.working)
    have all : answered = collected := by
      rw [sorted, settled.answers, settled.outgoing]
      simp
    have same : system.session.answered = system.session.requested := by
      rw [counted, ← all, isHighest, ← requested, noneTaken, settled.queue]
      simp
    refine ⟨same, by simp [Session.isPending, same], ?_⟩
    intro request member
    rw [noneTaken, settled.queue, List.append_nil] at member
    exact accounts.covered numberedClosed (by simpa using member)

end AnyZone

/-- Of three requests the first is answered alone and the others, made meanwhile, together. -/
theorem answeredOnce_of_three : ∃ system asked answered, Chronicle system asked answered ∧
    AnsweredOnce system asked answered ∧ system.Settled ∧ asked.map (·.number) = [1, 2, 3] ∧
    asked.map (·.force) = [false, true, false] ∧ answered.map (·.number) = [1, 3] ∧
    system.session.answered = 3 := by
  have started := Chronicle.start (.inMemory .empty) false (.holding .empty)
  have asked := (started.step (.request _ false)).step (.receive _ rfl rfl)
  have more := (asked.step (.request _ true)).step (.request _ false)
  have first := (more.step (.answer _ rfl)).step (.send _ rfl (by decide))
  have folded := (first.step (.receive _ rfl rfl)).step (.fold _ rfl rfl)
  have second := (folded.step (.answer _ rfl)).step (.send _ rfl (by decide))
  -- One answer is collected alone and the other one with what else there might be.
  have one := second.collect (show 1 ≤ Session.answersAtOnce by decide) default
  have both := one.collect (show 4 ≤ Session.answersAtOnce by decide) default
  exact ⟨_, _, _, both, both.answeredOnce, ⟨rfl, rfl, rfl, rfl⟩, rfl, rfl, rfl, rfl⟩

end System

end DeviceBrowser
