import DeviceBrowser.Proofs.Browser.Frame
import DeviceBrowser.Proofs.Session.Run
import DeviceBrowser.Proofs.Session.Steps
import DeviceBrowser.Proofs.Session.Traffic
import DeviceBrowser.Proofs.Snapshot.WellFormed

/-! However the steps of a session, its worker and a source are interleaved, once every request is
answered the snapshot on display is the current one. -/

namespace DeviceBrowser

namespace Session

variable {zone : Zone}

/-- A session changed nothing that its worker or the source could notice, preferences excepted. -/
structure Calm (before after : Session) : Prop where
  snapshot : after.browser.snapshot? = before.browser.snapshot?
  worker : after.worker = before.worker
  requested : after.requested = before.requested

/-- Storing settings is calm. -/
theorem calm_save (session : Session) (name : String) (setting : Setting) :
    session.Calm (session.save name setting) :=
  ⟨rfl, rfl, rfl⟩

/-- Putting preferences into effect is calm. -/
theorem calm_prefer (session : Session) (preferences : Preferences) :
    session.Calm (session.prefer preferences) :=
  ⟨rfl, rfl, rfl⟩

/-- Matching anew is calm. -/
theorem calm_redraw (session : Session) : session.Calm session.redraw :=
  -- Matching changes the browser, but not the snapshot it displays.
  ⟨session.browser.snapshot?_refilter, rfl, rfl⟩

/-- Calm changes add up. -/
theorem Calm.trans {first second third : Session} (before : first.Calm second)
    (after : second.Calm third) : first.Calm third :=
  -- Each of the three parts stays as it was, twice.
  ⟨after.snapshot.trans before.snapshot, after.worker.trans before.worker,
    after.requested.trans before.requested⟩

/-- A step of a session keeps up with its preferences: after a calm change it forces a request under
those in effect then, or the change is all, and they ask for the same tree as before. -/
def KeepsUp (before after : Session) : Prop :=
  (∃ next, before.Calm next ∧ after = next.request true) ∨
    (before.Calm after ∧ before.preferences.SameTree after.preferences)

/-- Setting a switch keeps up: one that may ask for another tree forces a request, and no other
does. -/
theorem keepsUp_setToggle (session : Session) (toggle : Toggle) (on : Bool) :
    session.KeepsUp (session.setToggle toggle on) := by
  -- Storing the switch and putting it into effect is calm, and so is what follows without a
  -- request.
  have set := (session.calm_save (Settings.toggleName toggle) (Settings.flagSetting on)).trans
    (calm_prefer _ (session.preferences.set toggle on))
  apply setToggle_cases (motive := session.KeepsUp)
  · exact .inr ⟨⟨rfl, rfl, rfl⟩, .refl _⟩
  · intro _
    exact .inl ⟨_, set, rfl⟩
  · intro redraw
    have noRebuild : toggle.effect ≠ .rebuild := by simp [redraw]
    exact .inr ⟨set.trans (calm_redraw _), Preferences.sameTree_set noRebuild _ on⟩
  · intro nothing
    have noRebuild : toggle.effect ≠ .rebuild := by simp [nothing]
    exact .inr ⟨set, Preferences.sameTree_set noRebuild _ on⟩

/-- Reloading stored preferences keeps up. -/
theorem keepsUp_reload (session : Session) : session.KeepsUp session.reload := by
  -- Without a request the preferences ask for the same tree as before.
  rw [reload]
  split
  · exact .inr ⟨⟨rfl, rfl, rfl⟩, .refl _⟩
  · have preferred := session.calm_prefer session.store.preferences
    split
    · exact .inl ⟨_, preferred, rfl⟩
    · rename_i same
      have sameTree : session.store.preferences.SameTree session.preferences := by
        simpa [Preferences.SameTree] using same
      exact .inr ⟨preferred.trans (calm_redraw _), sameTree.symm⟩

/-- Taking an answer in puts its snapshot on display. -/
theorem snapshot?_accept (session : Session) (now : FileTime) (answer : RefreshAnswer) :
    (session.accept now answer).2.browser.snapshot? =
      answer.snapshot?.or session.browser.snapshot? := by
  -- An answer brings a snapshot, which is published, or none.
  cases answer <;> simp [accept, RefreshAnswer.snapshot?]

/-- Taking an answer in leaves the preferences. -/
theorem preferences_accept (session : Session) (now : FileTime) (answer : RefreshAnswer) :
    (session.accept now answer).2.preferences = session.preferences := by
  -- Publishing is up to the browser.
  cases answer <;> rfl

/-- Taking answers in leaves the worker, the number of requests and the preferences, and puts the
latest snapshot on display. -/
theorem acceptAll_effect (session : Session) (now : FileTime) (answers : List RefreshAnswer) :
    (session.acceptAll now answers).2.browser.snapshot? =
        RefreshAnswer.latest session.browser.snapshot? answers ∧
      (session.acceptAll now answers).2.worker = session.worker ∧
      (session.acceptAll now answers).2.requested = session.requested ∧
      (session.acceptAll now answers).2.preferences = session.preferences := by
  -- Answers are taken in one by one, and each replaces what is on display or leaves it.
  induction answers generalizing session with
  | nil => exact ⟨rfl, rfl, rfl, rfl⟩
  | cons answer rest ih =>
    obtain ⟨snapshot, worker, requested, preferences⟩ := ih (session.accept now answer).2
    rw [snapshot?_accept] at snapshot
    rw [preferences_accept] at preferences
    refine ⟨snapshot, worker.trans ?_, requested.trans ?_, preferences⟩
    · cases answer <;> rfl
    · cases answer <;> rfl

/-- Collecting takes the first answers from the worker and puts the latest of them on display. -/
theorem collectUpTo_effect [Zone] (session : Session) (count : Nat) (now : FileTime) :
    (session.collectUpTo count now).2.browser.snapshot? =
        RefreshAnswer.latest session.browser.snapshot? (session.worker.answers.take count) ∧
      (session.collectUpTo count now).2.worker =
        { session.worker with answers := session.worker.answers.drop count } ∧
      (session.collectUpTo count now).2.requested = session.requested ∧
      (session.collectUpTo count now).2.preferences = session.preferences :=
  -- The answers are taken from the worker before they are taken in.
  acceptAll_effect _ now _

end Session

namespace System

section AnyZone

variable {zone : Zone}

/-- The traffic between the session of a system and its worker. -/
def traffic (system : System) : Traffic where
  current := system.source.edition
  seen := system.seen
  active := system.session.browser.snapshot?
  coming := system.worker.answers ++ system.outgoing.toList
  pending := system.worker.working.toList ++ system.worker.queue
  preferences := system.session.preferences
  requested := system.session.requested

/-- A system is sound when its traffic is, and a working worker holds no answer back. -/
structure Sound [Zone] (system : System) : Prop where
  traffic : system.traffic.Sound
  free : system.worker.working ≠ none → system.outgoing = none

section Session

variable {system : System} {before after : Session}

/-- A calm change keeps a system sound, if the preferences ask for the same tree. -/
theorem Sound.calm (sound : (system.withSession before).Sound) (calm : before.Calm after)
    (same : before.preferences.SameTree after.preferences) :
    (system.withSession after).Sound where
  -- The traffic is the same but for the preferences, under which the same tree is asked for.
  traffic := by
    have preferred := sound.traffic.prefer same
    simpa [System.traffic, withSession, worker, calm.snapshot, calm.worker, calm.requested]
      using preferred
  free working := sound.free (by simpa [worker, withSession, calm.worker] using working)

/-- A request after a calm change keeps a system sound, if it is forced or the preferences ask for
the same tree. -/
theorem Sound.ask (sound : (system.withSession before).Sound) (calm : before.Calm after)
    {force : Bool} (follows : force = true ∨ before.preferences.SameTree after.preferences) :
    (system.withSession (after.request force)).Sound where
  -- The request is the one that the traffic allows: about what is on display, under the preferences
  -- in effect.
  traffic := by
    let request : RefreshRequest :=
      ⟨after.requested + 1, force, after.preferences, after.browser.stage.edition?⟩
    have active : request.active = (system.withSession before).traffic.active.map (·.edition) :=
      congrArg (Option.map Snapshot.edition) calm.snapshot
    have asked := sound.traffic.request follows active
    simpa [System.traffic, withSession, worker, Session.request, Worker.submit, request,
      calm.snapshot, calm.worker, calm.requested] using asked
  free working := sound.free (by
    simpa [worker, withSession, Session.request, Worker.submit, calm.worker] using working)

/-- A step that keeps up with the preferences keeps a system sound. -/
theorem Sound.keepsUp (sound : (system.withSession before).Sound) (keeps : before.KeepsUp after) :
    (system.withSession after).Sound := by
  -- Either a forced request is made after the change, or the change is all and the tree stays.
  rcases keeps with ⟨next, calm, rfl⟩ | ⟨calm, same⟩
  · exact sound.ask calm (.inl rfl)
  · exact sound.calm calm same

/-- Following up on a menu command keeps a system sound: the request that may follow is forced. -/
theorem Sound.follow {session : Session} (sound : (system.withSession session).Sound)
    (outcome : Outcome) : (system.withSession (session.follow outcome)).Sound := by
  -- A switch keeps up with the preferences, and republishing forces its request.
  apply Session.follow_cases (motive := fun next => (system.withSession next).Sound)
  · intro _
    exact sound
  · intro toggle _
    exact sound.keepsUp (session.keepsUp_setToggle toggle _)
  · intro next followed
    exact followed.ask ⟨rfl, rfl, rfl⟩ (.inl rfl)

/-- A request that is not forced keeps a system sound, as the preferences are those before. -/
theorem Sound.askAgain {session : Session} (sound : (system.withSession session).Sound) :
    (system.withSession (session.request false)).Sound :=
  sound.ask ⟨rfl, rfl, rfl⟩ (.inr (Preferences.SameTree.refl _))

/-- Collecting answers keeps a system sound. -/
theorem Sound.collect {session : Session} (sound : (system.withSession session).Sound)
    (now : FileTime) : (system.withSession (session.collect now).2).Sound := by
  -- The answers collected are the first ones on their way; a held one stays behind all others.
  obtain ⟨snapshot, worker, requested, preferences⟩ :=
    session.collectUpTo_effect Session.answersAtOnce now
  rw [Session.collect]
  constructor
  · have split : (system.withSession session).traffic.coming =
        session.worker.answers.take Session.answersAtOnce ++
          (session.worker.answers.drop Session.answersAtOnce ++ system.outgoing.toList) := by
      rw [← List.append_assoc, List.take_append_drop]
      rfl
    have collected := sound.traffic.collect split
    simpa [System.traffic, withSession, System.worker, snapshot, worker, requested, preferences]
      using collected
  · intro working
    apply sound.free
    simpa [System.worker, withSession, worker] using working

end Session

/-- A source that hands out no earlier edition keeps a system sound. -/
theorem Sound.advance {system : System} (sound : system.Sound) {source : Source}
    (later : system.source.edition.UpTo source.edition) :
    Sound { system with source } where
  -- Only what the source looks at moves on, and it does not go back.
  traffic := sound.traffic.advance later
  free := sound.free

/-- A worker that takes the first request that waits keeps a system sound. -/
theorem Sound.receive {system : System} (sound : system.Sound)
    (idle : system.worker.working = none) (free : system.outgoing = none) :
    (system.withWorker (system.worker.receive 1)).Sound where
  traffic := by
    -- The request moves from the queue into the hands of the worker, and stays the first.
    have same : (system.withWorker (system.worker.receive 1)).traffic = system.traffic := by
      cases queue : system.worker.queue <;>
        simp_all [System.traffic, withWorker, withSession, worker, Worker.receive,
          RefreshRequest.mergeAll]
    rw [same]
    exact sound.traffic
  free _ := free

/-- A worker that folds the next request into the one it has taken keeps a system sound. -/
theorem Sound.fold {system : System} (sound : system.Sound) {request next : RefreshRequest}
    {rest : List RefreshRequest} (working : system.worker.working = some request)
    (queued : system.worker.queue = next :: rest) :
    (system.withWorker
      { system.worker with queue := rest, working := some (request.merge next) }).Sound where
  traffic := by
    -- The request in hand and the first in the queue are the first two pending.
    have pending : system.traffic.pending = request :: next :: rest := by
      simp [System.traffic, working, queued]
    exact sound.traffic.merge pending
  free _ := sound.free (by simp [working])

/-- A worker that answers the request it has taken keeps a system sound. -/
theorem Sound.answer {system : System} (sound : system.Sound) {request : RefreshRequest}
    (working : system.worker.working = some request) : (system.answer request).Sound where
  traffic := by
    -- A working worker holds no answer back, so that its own is the last on the way.
    have free : system.outgoing = none := sound.free (by simp [working])
    have pending : system.traffic.pending = request :: system.worker.queue := by
      simp [System.traffic, working]
    have answered := sound.traffic.answer pending (system.source.upTo_take request.force)
    simpa [System.traffic, System.answer, withWorker, withSession, worker, free,
      Source.edition_take] using answered
  free isWorking := absurd rfl isWorking

/-- A worker that hands over the answer it has made keeps a system sound. -/
theorem Sound.send {system : System} (sound : system.Sound) {answer : RefreshAnswer}
    (made : system.outgoing = some answer) :
    Sound { system.withWorker { system.worker with
      answers := system.worker.answers ++ [answer] } with outgoing := none } where
  traffic := by
    -- The answer was the last on its way before, and still is.
    have traffic := sound.traffic
    simpa [System.traffic, withWorker, withSession, worker, made] using traffic
  free _ := rfl

/-- Every step keeps a system sound. -/
theorem Sound.step {system next : System} (sound : system.Sound) (step : Step system next) :
    next.Sound := by
  -- The steps of the session, of the worker and of the source are treated in this order.
  have same : (system.withSession system.session).Sound := sound
  cases step with
  | showTab visible =>
    apply Session.showTab_cases (motive := fun next => (system.withSession next).Sound)
    · exact same.calm ⟨rfl, rfl, rfl⟩ (.refl _)
    · exact fun _ shown => shown.askAgain
  | notify =>
    apply Session.notify_cases (motive := fun next => (system.withSession next).Sound)
    · exact same
    · exact fun _ again => again.askAgain
  | tick elapsed =>
    apply Session.tick_cases (motive := fun next => (system.withSession next).Sound)
    · exact same.calm ⟨rfl, rfl, rfl⟩ (.refl _)
    · exact fun _ passed => passed.askAgain
  | request force => exact same.ask ⟨rfl, rfl, rfl⟩ (.inr (.refl _))
  | setToggle toggle on => exact same.keepsUp (system.session.keepsUp_setToggle toggle on)
  | put name setting => exact same.calm ⟨rfl, rfl, rfl⟩ (.refl _)
  | reload => exact same.keepsUp system.session.keepsUp_reload
  | execute menu actions state command => exact same.follow _
  | collect now => exact same.collect now
  | receive idle free => exact sound.receive idle free
  | fold working queued => exact sound.fold working queued
  | answer working => exact sound.answer working
  | send made => exact sound.send made
  | replace inventory => exact sound.advance (system.source.upTo_replace inventory)
  | withFile file => exact sound.advance (by rw [Source.edition_withFile]; exact .refl _)

/-- A system that has just started is sound: nothing is on its way or on display. -/
theorem sound_start (store : SettingsStore) (elevated : Bool) (source : Source) :
    (start store elevated source).Sound where
  -- The queues are empty and nothing is on display, so that no clause has anything to speak of.
  traffic := by
    refine ⟨rfl, ?_, ?_, ?_, ?_⟩
    · intro seen impossible
      cases impossible
    · rintro edition (⟨_, impossible, _⟩ | ⟨_, impossible, _⟩ | ⟨_, impossible, _⟩) <;>
        cases impossible
    · refine ⟨(Session.start store elevated).preferences, .refl _, ?_⟩
      intro snapshot impossible
      cases impossible
    · intro impossible
      cases impossible
  free _ := rfl

/-- Every system that a run leads to is sound. -/
theorem Reachable.sound {system : System} (reachable : system.Reachable) : system.Sound := by
  -- By induction on the run.
  induction reachable with
  | start store elevated source => exact sound_start store elevated source
  | step _ step ih => exact ih.step step

/-- A system is settled when nothing is on its way: no request waits or is being worked on, and no
answer is held back or waits to be collected. -/
structure Settled (system : System) : Prop where
  queue : system.worker.queue = []
  working : system.worker.working = none
  outgoing : system.outgoing = none
  answers : system.worker.answers = []

/-- In whatever order the steps of a run come, once it has settled after a request, the snapshot on
display is of the edition that the source returned at the worker's last call, and it is what the
preferences in effect make of that edition. -/
theorem Reachable.converged {system : System} (reachable : system.Reachable)
    (issued : 0 < system.session.requested) (settled : system.Settled) :
    ∃ edition snapshot, system.seen = some edition ∧
      system.session.browser.snapshot? = some snapshot ∧ snapshot.edition = edition ∧
      snapshot = Snapshot.build edition system.session.preferences := by
  -- Settled, the traffic is empty.
  have noRequests : system.traffic.pending = [] := by
    simp [traffic, settled.working, settled.queue]
  have noAnswers : system.traffic.coming = [] := by
    simp [traffic, settled.answers, settled.outgoing]
  obtain ⟨edition, seen, displayed⟩ :=
    reachable.sound.traffic.settled issued noRequests noAnswers
  exact ⟨edition, _, seen, displayed, Snapshot.edition_build _ _, rfl⟩

end AnyZone

/-- A root that was given up for another one, below which stand two devices. -/
def twoBelow : Inventory := Snapshot.rerooted.addChild 2 (.ofId "E" false)

/-- A session whose tab came into view. The answer waits to be collected. -/
def shown : Session :=
  (((Session.start (.inMemory .empty) false).showTab true).work (.holding Snapshot.rerooted) 1).2.1

/-- The source after another device was found. -/
def replaced : Source := (Source.holding Snapshot.rerooted).replace twoBelow

/-- The session that asks for disconnected devices, and then once more. -/
def asking : Session := (shown.setToggle .showDisconnected true).request false

/-- Both requests are answered as one, all answers are collected, and another request is made. -/
def askingAgain : Session := ((asking.work replaced 2).2.1.collect default).2.request false

/-- The session after that request, which brings nothing new. -/
def refreshed : Session := ((askingAgain.work replaced 1).2.1.collect default).2

/-- It is reached in single steps of the session, its worker and the source. -/
theorem reachable_refreshed : ∃ seen, Reachable ⟨refreshed, replaced, none, seen⟩ := by
  have started := Reachable.start (.inMemory .empty) false (.holding Snapshot.rerooted)
  obtain ⟨before, answered⟩ := (started.step (.showTab _ true)).work rfl rfl (by decide) 1
  have here : Reachable ⟨shown, .holding Snapshot.rerooted, none, before⟩ := answered
  -- The inventory is replaced between two requests, and there is room for each answer.
  have flipped := (here.step (.setToggle _ .showDisconnected true)).step (.replace _ twoBelow)
  have asked : Reachable ⟨asking, replaced, none, before⟩ := flipped.step (.request _ false)
  have room : asking.worker.answers.length < answersAtMost := by decide +kernel
  obtain ⟨folded, collected⟩ := asked.work rfl rfl room 2
  have askedAgain : Reachable ⟨askingAgain, replaced, none, folded⟩ :=
    (collected.step (.collect _ default)).step (.request _ false)
  have roomAgain : askingAgain.worker.answers.length < answersAtMost := by decide +kernel
  obtain ⟨seen, settled⟩ := askedAgain.work rfl rfl roomAgain 1
  exact ⟨seen, settled.step (.collect _ default)⟩

/-- Once all has come to rest, the later root stands on display with both devices below it. -/
theorem converged_refreshed : ∃ system : System, system.Reachable ∧
    0 < system.session.requested ∧ system.Settled ∧ system.session.requested = 4 ∧
    system.session.browser.snapshot?.map (·.size) = some 3 ∧
    ∃ edition snapshot, system.seen = some edition ∧
      system.session.browser.snapshot? = some snapshot ∧ snapshot.edition = edition ∧
      snapshot = Snapshot.build edition system.session.preferences := by
  -- The counts are computed, and at rest the theorem tells what is on display.
  obtain ⟨seen, reachable⟩ := reachable_refreshed
  have requested : refreshed.requested = 4 := by decide +kernel
  have issued : 0 < refreshed.requested := by decide +kernel
  have size : refreshed.browser.snapshot?.map (·.size) = some 3 := by decide +kernel
  have settled : Settled ⟨refreshed, replaced, none, seen⟩ := ⟨rfl, rfl, rfl, rfl⟩
  exact ⟨_, reachable, issued, settled, requested, size, reachable.converged issued settled⟩

end System

end DeviceBrowser
