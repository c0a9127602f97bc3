import Mathlib.Algebra.GroupWithZero.Nat
import DeviceBrowser.Proofs.Publication.Arrival
import DeviceBrowser.Proofs.Screen.Run
import DeviceBrowser.Proofs.Session.Convergence

/-! Frames of a screen: while no answer comes, all that counts is how much time passes in them, and
not how it is divided among them. -/

namespace DeviceBrowser

namespace Session

/-- A session whose requests wait behind those of a worker. -/
def behind (worker : Worker) (session : Session) : Session :=
  { session with worker := { worker with queue := worker.queue ++ session.worker.queue } }

/-- The session with a worker that has nothing to do. -/
def apart (session : Session) : Session := { session with worker := .idle }

@[simp] theorem apart_behind (worker : Worker) (session : Session) :
    (session.behind worker).apart = session.apart := rfl

/-- A session is what it is apart from its worker, with that worker. -/
theorem behind_apart (session : Session) : session.apart.behind session.worker = session := by
  -- Taking the worker off and putting it back leaves each field as it was.
  obtain ⟨browser, worker, store, preferences, tabVisible, sinceRefresh, requested, answered⟩ :=
    session
  simp [apart, behind, Worker.idle]

theorem request_behind (worker : Worker) (session : Session) (force : Bool) :
    (session.behind worker).request force = (session.request force).behind worker := by
  -- A request is made of what the session knows apart from its worker, and goes to the end of the
  -- queue.
  simp [request, behind, Worker.submit]

/-- What a tick does depends on no worker, and a request that it makes goes to the end. -/
theorem tick_behind (worker : Worker) (session : Session) (elapsed : Duration) :
    ((session.behind worker).tick elapsed).2 = (session.tick elapsed).2.behind worker := by
  -- Whether a request is due is read off the session alone.
  simp only [tick]
  rw [apply_ite (behind worker), ← request_behind]
  rfl

/-- Without an answer that waits there is nothing to collect. -/
theorem collect_of_silent [Zone] {session : Session} (silent : session.worker.answers = [])
    (now : FileTime) : session.collect now = (none, session) := by
  -- Taking from no answers leaves none and takes none in.
  obtain ⟨browser, ⟨queue, working, answers⟩, store, preferences, tabVisible, sinceRefresh,
    requested, answered⟩ := session
  obtain rfl : answers = [] := silent
  rfl

end Session

namespace Screen

section AnyZone

variable {zone : Zone}

variable {screen last : Screen}

/-- The screen after so many nanoseconds in which no answer comes. -/
def pass (screen : Screen) (nanos : Nat) : Screen :=
  let total := screen.sinceTick.nanos + nanos
  { screen with
    session := (tickTimes screen.session (total / tickInterval.nanos)).2
    sinceTick := ⟨total % tickInterval.nanos⟩ }

/-- The screen after frames: in each it moves on at some clock by some time. -/
def advanceAll [Zone] (screen : Screen) : List (FileTime × Duration) → Screen
  | [] => screen
  | (now, elapsed) :: rest => (screen.advance now elapsed).2.advanceAll rest

/-- The screen with a worker that has nothing to do. -/
def apart (screen : Screen) : Screen := { screen with session := screen.session.apart }

/-- The nanoseconds of several spans. -/
def total (spans : List Duration) : Nat := (spans.map (·.nanos)).sum

/-- Frames in which no answer is there to be collected. Between them the worker may take up requests
and do anything else but hand over an answer. `asked` are the requests that the screen makes. -/
inductive Frames [Zone] : Screen → List Duration → List RefreshRequest → Screen → Prop
  | done (screen : Screen) : Frames screen [] [] screen
  | work {screen last : Screen} {spans : List Duration} {asked : List RefreshRequest}
      (worker : Worker) (keeps : worker.answers = screen.session.worker.answers)
      (on : Frames { screen with session := { screen.session with worker } } spans asked last) :
      Frames screen spans asked last
  | frame {screen last : Screen} {spans : List Duration} {asked later : List RefreshRequest}
      (silent : screen.session.worker.answers = []) (now : FileTime) (elapsed : Duration)
      (asks : (screen.advance now elapsed).2.session.worker.queue =
        screen.session.worker.queue ++ asked)
      (on : Frames (screen.advance now elapsed).2 spans later last) :
      Frames screen (elapsed :: spans) (asked ++ later) last

/-- A screen does not depend on how time is divided among frames. Where no answer waits, two lists
of frames that take the same time lead to one state, and also where no more answers wait than the
first frame collects, at one clock. And whatever the worker does between frames short of an answer,
they lead to states that agree in all but the worker: in the time left over, which is less than an
interval, in the highlights with what is left of them, in the time since the last request and in
anything else; and the requests made on the way are the same. -/
structure FrameRateFree [Zone] (screen : Screen) : Prop where
  state : screen.session.worker.answers = [] → ∀ first second : List (FileTime × Duration),
    total (first.map (·.2)) = total (second.map (·.2)) →
      screen.advanceAll first = screen.advanceAll second
  collected : screen.session.worker.answers.length ≤ Session.answersAtOnce →
    ∀ now firstSpan secondSpan, ∀ first second : List (FileTime × Duration),
      total (firstSpan :: first.map (·.2)) = total (secondSpan :: second.map (·.2)) →
        screen.advanceAll ((now, firstSpan) :: first) =
          screen.advanceAll ((now, secondSpan) :: second)
  agree : ∀ first second : List Duration, total first = total second →
    ∀ firstAsked secondAsked firstLast secondLast, Frames screen first firstAsked firstLast →
      Frames screen second secondAsked secondLast →
        firstLast.apart = secondLast.apart ∧ firstAsked = secondAsked
  left : ∀ spans asked last, Frames screen spans asked last →
    last.sinceTick.nanos < tickInterval.nanos

/-! ## Time that passes -/

/-- Ticks that are made in two rounds are made one after the other. -/
theorem tickTimes_add (session : Session) (first second : Nat) :
    (tickTimes session (first + second)).2 =
      (tickTimes (tickTimes session first).2 second).2 := by
  -- By induction on the first round, whose ticks are made before the second one begins.
  induction first generalizing session with
  | zero => rw [Nat.zero_add, tickTimes]
  | succ first ih => simp only [Nat.succ_add_eq_add_succ, Nat.add_succ, tickTimes, ih]

theorem tickTimes_behind (worker : Worker) (session : Session) (times : Nat) :
    (tickTimes (session.behind worker) times).2 = (tickTimes session times).2.behind worker := by
  -- By induction on the ticks, each of which may only add a request to the queue.
  induction times generalizing session with
  | zero => rfl
  | succ times ih => simp only [tickTimes, Session.tick_behind, ih]

/-- Ticks collect no answers. -/
theorem answers_tickTimes (session : Session) (times : Nat) :
    (tickTimes session times).2.worker.answers = session.worker.answers := by
  -- Apart from its worker the session has no answers, and the worker's own stay.
  rw [← session.behind_apart, tickTimes_behind]
  rfl

/-- Time that passes twice is time that passes once, as what is left of an interval counts later. -/
theorem pass_pass (screen : Screen) (first second : Nat) :
    (screen.pass first).pass second = screen.pass (first + second) := by
  have ticks : (screen.sinceTick.nanos + first) / tickInterval.nanos +
      ((screen.sinceTick.nanos + first) % tickInterval.nanos + second) / tickInterval.nanos =
        (screen.sinceTick.nanos + (first + second)) / tickInterval.nanos := by
    simp only [tickInterval, Duration.ofMillis]
    omega
  have left : ((screen.sinceTick.nanos + first) % tickInterval.nanos + second) %
      tickInterval.nanos = (screen.sinceTick.nanos + (first + second)) % tickInterval.nanos := by
    rw [Nat.mod_add_mod, Nat.add_assoc]
  -- The ticks add up, and so does what is left of an interval.
  simp only [pass, ← tickTimes_add, ticks, left]

/-- No tick is made while what is left of an interval stays less than one. -/
theorem pass_zero (part : screen.sinceTick.nanos < tickInterval.nanos) :
    screen.pass 0 = screen := by
  -- Less than one interval makes no tick and is all left over.
  simp only [pass, Nat.add_zero, Nat.div_eq_of_lt part, Nat.mod_eq_of_lt part, tickTimes]

/-- A frame collects answers and lets time pass. -/
theorem advance_eq_pass (screen : Screen) (now : FileTime) (elapsed : Duration) :
    (screen.advance now elapsed).2 = (screen.collect now).2.pass elapsed.nanos := rfl

/-- Collecting leaves the answers behind that are more than can be collected at once. -/
theorem answers_collect (screen : Screen) (now : FileTime) :
    (screen.collect now).2.session.worker.answers =
      screen.session.worker.answers.drop Session.answersAtOnce := by
  -- Whether the rows are listed anew or not, the session is the one that collected.
  obtain ⟨_, worker, _, _⟩ := screen.session.collectUpTo_effect Session.answersAtOnce now
  have session : (screen.collect now).2.session = (screen.session.collect now).2 := by
    rw [collect]
    simp only
    split
    · rfl
    · rfl
  rw [session, Session.collect, worker]

theorem sinceTick_pass (screen : Screen) (nanos : Nat) :
    (screen.pass nanos).sinceTick.nanos < tickInterval.nanos :=
  Nat.mod_lt _ (by decide)

/-- Where no answer waits, a frame only lets time pass, and its clock does not matter. -/
theorem advance_of_silent (silent : screen.session.worker.answers = []) (now : FileTime)
    (elapsed : Duration) : (screen.advance now elapsed).2 = screen.pass elapsed.nanos := by
  -- Collecting does nothing then, and the clock is read for nothing else.
  rw [advance_eq_pass, collect, Session.collect_of_silent silent]

/-- Frames of a screen where no answer waits let their total time pass. -/
theorem advanceAll_of_silent (silent : screen.session.worker.answers = [])
    (part : screen.sinceTick.nanos < tickInterval.nanos) (frames : List (FileTime × Duration)) :
    screen.advanceAll frames = screen.pass (total (frames.map (·.2))) := by
  -- By induction on the frames: no frame brings an answer, and the time of two frames adds up.
  induction frames generalizing screen with
  | nil => exact (pass_zero part).symm
  | cons frame rest ih =>
    obtain ⟨now, elapsed⟩ := frame
    have stillSilent : (screen.pass elapsed.nanos).session.worker.answers = [] :=
      (answers_tickTimes _ _).trans silent
    rw [advanceAll, advance_of_silent silent, ih stillSilent (sinceTick_pass _ _), pass_pass]
    rfl

/-- Frames of which the first collects all answers that wait let their total time pass then. -/
theorem advanceAll_of_few (few : screen.session.worker.answers.length ≤ Session.answersAtOnce)
    (now : FileTime) (span : Duration) (rest : List (FileTime × Duration)) :
    screen.advanceAll ((now, span) :: rest) =
      (screen.collect now).2.pass (total (span :: rest.map (·.2))) := by
  -- After the first frame no answer waits any more, which is the case that was settled before.
  have silent : (screen.collect now).2.session.worker.answers = [] := by
    rw [answers_collect, List.drop_eq_nil_of_le few]
  have stillSilent : ((screen.collect now).2.pass span.nanos).session.worker.answers = [] :=
    (answers_tickTimes _ _).trans silent
  rw [advanceAll, advance_eq_pass, advanceAll_of_silent stillSilent (sinceTick_pass _ _), pass_pass]
  rfl

/-- Passing time depends on no worker, and the requests made meanwhile go to the end. -/
theorem pass_apart (screen : Screen) (nanos : Nat) :
    (screen.pass nanos).session =
      (screen.apart.pass nanos).session.behind screen.session.worker := by
  -- Ticks were seen not to depend on the worker.
  have same := tickTimes_behind screen.session.worker screen.session.apart
    ((screen.sinceTick.nanos + nanos) / tickInterval.nanos)
  rw [screen.session.behind_apart] at same
  exact same

theorem apart_pass (screen : Screen) (nanos : Nat) :
    (screen.pass nanos).apart = (screen.apart.pass nanos).apart := by
  -- What passing time does to the worker is forgotten on both sides.
  have same := congrArg Session.apart (screen.pass_apart nanos)
  rw [Session.apart_behind] at same
  simp only [apart, same]
  rfl

/-- Frames let their total time pass: what they lead to apart from the worker, and which requests
are made, is read off the screen apart from its worker. -/
theorem Frames.eq_pass {spans : List Duration} {asked : List RefreshRequest}
    (frames : Frames screen spans asked last)
    (part : screen.sinceTick.nanos < tickInterval.nanos) :
    last.apart = (screen.apart.pass (total spans)).apart ∧
      asked = (screen.apart.pass (total spans)).session.worker.queue ∧
      last.sinceTick.nanos < tickInterval.nanos := by
  induction frames with
  | done screen =>
    have still : screen.apart.pass (total []) = screen.apart := pass_zero part
    rw [still]
    exact ⟨rfl, rfl, part⟩
  | work worker keeps on ih => exact ih part
  | @frame screen last spans asked later silent now elapsed asks on ih =>
    rw [advance_of_silent silent] at asks ih
    obtain ⟨state, requests, left⟩ := ih (sinceTick_pass screen elapsed.nanos)
    -- The first frame makes the requests that it makes apart from the worker, and the later ones go
    -- on from there.
    have first : asked = (screen.apart.pass elapsed.nanos).session.worker.queue := by
      rw [pass_apart] at asks
      exact (List.append_cancel_left asks).symm
    -- Passing the first span and then the rest is passing the sum.
    have joined : screen.apart.pass (total (elapsed :: spans)) =
        (screen.apart.pass elapsed.nanos).pass (total spans) := (pass_pass _ _ _).symm
    rw [screen.apart_pass elapsed.nanos] at state requests
    rw [joined, apart_pass, pass_apart _ (total spans)]
    refine ⟨state, ?_, left⟩
    rw [first, requests]
    rfl

/-! ## Any run -/

/-- Collapsing or expanding a row takes no time. -/
theorem sinceTick_toggleRow (screen : Screen) (position : Nat) :
    (screen.toggleRow position).sinceTick = screen.sinceTick := by
  -- Rows and collapsed checksums are all that may change.
  rw [toggleRow]
  split
  · split
    · split
      · rfl
      · rfl
    · rfl
  · rfl

/-- Executing a command of a menu takes no time. -/
theorem sinceTick_runCommand (screen : Screen) (menu : Menu) (command : Command) :
    (screen.runCommand menu command).sinceTick = screen.sinceTick := by
  -- With or without listing the rows anew, the clock is not touched.
  rw [runCommand]
  simp only
  split
  · rfl
  · rfl

/-- A step that is not one in time takes none, and one in time leaves less than an interval. -/
theorem Step.sinceTick_cases {next : Screen} (step : Step screen next) :
    next.sinceTick = screen.sinceTick ∨ next.sinceTick.nanos < tickInterval.nanos := by
  -- An advance keeps a remainder. All other steps carry the field over, also where they do nothing
  -- because there is no row, no menu or no change.
  cases step with
  | advance now elapsed => exact .inr (Nat.mod_lt _ (by decide))
  | work worker built waiting => exact .inl rfl
  | toggleRow position => exact .inl (screen.sinceTick_toggleRow position)
  | click position extend =>
    rw [Screen.click]
    split
    · exact .inl rfl
    · exact .inl rfl
  | clearSelection => exact .inl rfl
  | edit searchText => exact .inl rfl
  | search =>
    rw [Screen.search]
    simp only
    split
    · exact .inl rfl
    · exact .inl rfl
  | clickHeader column => exact .inl rfl
  | showColumn cls visible =>
    rw [Screen.showColumn]
    simp only
    split
    · exact .inl rfl
    · exact .inl rfl
  | flip toggle => exact .inl rfl
  | refresh => exact .inl rfl
  | openMenu node column => exact .inl rfl
  | closeMenu => exact .inl rfl
  | runCommand menu command => exact .inl (screen.sinceTick_runCommand menu command)
  | runOpenMenu command =>
    rw [Screen.runOpenMenu]
    split
    · exact .inl (screen.closeMenu.sinceTick_runCommand _ command)
    · exact .inl rfl
  | exportTo path writable =>
    rw [Screen.exportTo]
    split
    · exact .inl rfl
    · exact .inl rfl

/-- What is left over is less than an interval after any run. -/
theorem Reached.sinceTick_lt (reached : Reached screen) :
    screen.sinceTick.nanos < tickInterval.nanos := by
  -- By induction on the run: a step leaves the time as it is or leaves a remainder.
  induction reached with
  | start store elevated => exact (by decide : Duration.zero.nanos < tickInterval.nanos)
  | step _ step ih =>
    rcases step.sinceTick_cases with same | part
    · rw [same]
      exact ih
    · exact part

/-- After any run, a screen does not depend on how time is divided among frames. -/
theorem Reached.frameRateFree (reached : Reached screen) : screen.FrameRateFree := by
  have part := reached.sinceTick_lt
  -- Frames without answers let their total time pass, and so does each stretch between arrivals;
  -- only totals are left to compare.
  constructor
  · intro silent first second same
    rw [advanceAll_of_silent silent part, advanceAll_of_silent silent part, same]
  · intro few now firstSpan secondSpan first second same
    rw [advanceAll_of_few few, advanceAll_of_few few, same]
  · intro first second same firstAsked secondAsked firstLast secondLast one other
    obtain ⟨oneState, oneAsked, _⟩ := one.eq_pass part
    obtain ⟨otherState, otherAsked, _⟩ := other.eq_pass part
    rw [oneState, oneAsked, otherState, otherAsked, same]
    exact ⟨rfl, rfl⟩
  · intro spans asked last frames
    exact (frames.eq_pass part).2.2

end AnyZone

/-- When a device has arrived and a highlight runs, two frames of which the second makes a request
for a snapshot may as well be one. -/
theorem frameRateFree_arrival : ∃ screen, Reached screen ∧ screen.hasHighlights = true ∧
    screen.session.worker.answers = [] ∧
    (screen.advanceAll
      [(default, .ofMillis 1900), (default, .ofMillis 350)]).session.worker.queue.length = 1 ∧
    screen.FrameRateFree := by
  let request : RefreshRequest := ⟨1, true, .standard, none⟩
  let answers := [RefreshAnswer.ofRequest request ⟨1, Snapshot.rerooted⟩,
    RefreshAnswer.ofRequest request (Stage.arrivedAt ⟨2⟩)]
  have brings : ∀ answer ∈ answers, answer.Built := by
    intro answer member
    rcases List.mem_cons.mp member with rfl | later
    · exact RefreshAnswer.built_ofRequest _ Snapshot.rerooted_grown
    · cases List.mem_singleton.mp later
      exact RefreshAnswer.built_ofRequest _ (Stage.grown_arrivedAt _)
  -- Two snapshots come at once, and the device that only the later one has arrives.
  have started := Reached.start (.inMemory .empty) false
  have answered := started.step (.work _ ⟨[], none, answers⟩ brings rfl)
  have arrived := answered.step (.advance _ ⟨3⟩ .zero)
  exact ⟨_, arrived, by decide +kernel,
    List.eq_nil_of_length_eq_zero (by decide +kernel), by decide +kernel, arrived.frameRateFree⟩

end Screen

end DeviceBrowser
