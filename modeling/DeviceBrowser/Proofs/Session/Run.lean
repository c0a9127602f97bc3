import Mathlib.Logic.Relation
import DeviceBrowser.Session

/-! Runs of a session with its worker and a source, in which the steps of all three may come in any
order. -/

namespace DeviceBrowser

/-- A session and the source that its worker asks. `outgoing` is an answer that the worker has made
and not handed over yet, and `seen` is the edition that the source returned at the worker's last
call. -/
structure System where
  session : Session
  source : Source
  outgoing : Option RefreshAnswer
  seen : Option Edition

namespace System

/-- How many answers may wait to be collected. A worker that made one more holds it back. -/
def answersAtMost : Nat := 64

/-- A session that has just started. -/
def start (store : SettingsStore) (elevated : Bool) (source : Source) : System :=
  ⟨.start store elevated, source, none, none⟩

/-- The system with another session. -/
def withSession (system : System) (session : Session) : System := { system with session }

/-- The system with another worker. -/
def withWorker (system : System) (worker : Worker) : System :=
  system.withSession { system.session with worker }

/-- The worker of the session. -/
def worker (system : System) : Worker := system.session.worker

/-- The worker builds what a request asks for, from the source as it is. -/
def answer [Zone] (system : System) (request : RefreshRequest) : System :=
  let (current, source) := system.source.take request.force
  { system.withWorker { system.worker with working := none } with
    source := source
    outgoing := some (.ofRequest request current)
    seen := some current }

/-- One step: of the session, of its worker, or of what the source looks at. -/
inductive Step [Zone] : System → System → Prop
  | showTab (system : System) (visible : Bool) :
      Step system (system.withSession (system.session.showTab visible))
  | notify (system : System) : Step system (system.withSession system.session.notify.2)
  | tick (system : System) (elapsed : Duration) :
      Step system (system.withSession (system.session.tick elapsed).2)
  | request (system : System) (force : Bool) :
      Step system (system.withSession (system.session.request force))
  | setToggle (system : System) (toggle : Toggle) (on : Bool) :
      Step system (system.withSession (system.session.setToggle toggle on))
  | put (system : System) (name : String) (setting : Setting) :
      Step system (system.withSession (system.session.put name setting))
  | reload (system : System) : Step system (system.withSession system.session.reload)
  | execute (system : System) {σ : Type} (menu : Menu) (actions : Actions σ) (state : σ)
      (command : Command) :
      Step system (system.withSession (system.session.execute menu actions state command).2.2)
  | collect (system : System) (now : FileTime) :
      Step system (system.withSession (system.session.collect now).2)
  | receive (system : System) (idle : system.worker.working = none)
      (free : system.outgoing = none) : Step system (system.withWorker (system.worker.receive 1))
  | fold (system : System) {request next : RefreshRequest} {rest : List RefreshRequest}
      (working : system.worker.working = some request)
      (queued : system.worker.queue = next :: rest) :
      Step system (system.withWorker
        { system.worker with queue := rest, working := some (request.merge next) })
  | answer (system : System) {request : RefreshRequest}
      (working : system.worker.working = some request) : Step system (system.answer request)
  | send (system : System) {answer : RefreshAnswer} (made : system.outgoing = some answer)
      (room : system.worker.answers.length < answersAtMost) :
      Step system { system.withWorker
        { system.worker with answers := system.worker.answers ++ [answer] } with outgoing := none }
  | replace (system : System) (inventory : Inventory) :
      Step system { system with source := system.source.replace inventory }
  | withFile (system : System) (file : DumpFile) :
      Step system { system with source := system.source.withFile file }

/-- The systems that runs lead to from a session that has just started, over any source. -/
inductive Reachable [Zone] : System → Prop
  | start (store : SettingsStore) (elevated : Bool) (source : Source) :
      Reachable (start store elevated source)
  | step {system next : System} (reached : Reachable system) (step : Step system next) :
      Reachable next

/-- What further steps lead to is reached as well. -/
theorem Reachable.steps [Zone] {system next : System} (reached : system.Reachable)
    (steps : Relation.ReflTransGen Step system next) : next.Reachable := by
  -- The further steps are taken one after the other.
  induction steps with
  | refl => exact reached
  | tail _ step ih => exact ih.step step

/-- A worker may fold as many of the next requests into the one it has taken as it finds. -/
theorem fold_steps [Zone] {system : System} {request : RefreshRequest}
    {front rest : List RefreshRequest} (working : system.worker.working = some request)
    (queued : system.worker.queue = front ++ rest) :
    Relation.ReflTransGen Step system (system.withWorker { system.worker with
      queue := rest
      working := some (front.foldl RefreshRequest.merge request) }) := by
  -- The worker folds one request after the other.
  induction front generalizing system request with
  | nil =>
    have same : system.withWorker { system.worker with queue := rest, working := some request } =
        system := by
      rw [← working, show rest = system.worker.queue from queued.symm]
      rfl
    rw [List.foldl_nil, same]
  | cons next others ih =>
    have folded := Step.fold system working (queued : _ = next :: (others ++ rest))
    exact .head folded (ih rfl rfl)

/-- The worker's answer to the first requests that wait is a run: it takes one, folds the others
into it, makes the answer and hands it over. -/
theorem work_steps [Zone] {system : System} (idle : system.worker.working = none)
    (free : system.outgoing = none) (room : system.worker.answers.length < answersAtMost)
    (count : Nat) :
    ∃ seen, Relation.ReflTransGen Step system
      { session := (system.session.work system.source count).2.1
        source := (system.session.work system.source count).2.2
        outgoing := none
        seen := seen } := by
  obtain ⟨session, source, outgoing, seen⟩ := system
  obtain ⟨browser, ⟨queue, working, answers⟩, store, preferences, tabVisible, sinceRefresh,
    requested, answered⟩ := session
  simp only [worker] at idle free room
  subst idle free
  have queued := List.take_append_drop count queue
  cases taken : queue.take count with
  | nil =>
    -- With nothing to take, the worker stays idle.
    rw [taken, List.nil_append] at queued
    refine ⟨seen, ?_⟩
    simp only [Session.work, Worker.receive, taken, queued, RefreshRequest.mergeAll, Worker.respond]
    exact .refl
  | cons first others =>
    rw [taken] at queued
    generalize behind : queue.drop count = rest at queued
    subst queued
    -- The worker takes the first request, folds the others into it, answers and hands over.
    let start : System := ⟨⟨browser, ⟨first :: others ++ rest, none, answers⟩, store, preferences,
      tabVisible, sinceRefresh, requested, answered⟩, source, none, seen⟩
    let merged := others.foldl RefreshRequest.merge first
    have received : Step start (start.withWorker ⟨others ++ rest, some first, answers⟩) :=
      .receive start rfl rfl
    have folded : Relation.ReflTransGen Step
        (start.withWorker ⟨others ++ rest, some first, answers⟩)
        (start.withWorker ⟨rest, some merged, answers⟩) :=
      fold_steps rfl rfl
    have made : Step (start.withWorker ⟨rest, some merged, answers⟩)
        ((start.withWorker ⟨rest, some merged, answers⟩).answer merged) :=
      .answer _ rfl
    have sent := Step.send
      ((start.withWorker ⟨rest, some merged, answers⟩).answer merged) rfl room
    refine ⟨some (source.take merged.force).1, .head received ((folded.tail made).tail ?_)⟩
    simp only [Session.work, Worker.receive, taken, behind, RefreshRequest.mergeAll,
      Worker.respond]
    exact sent

/-- What the worker does all at once is reached in steps. -/
theorem Reachable.work [Zone] {system : System} (reached : system.Reachable)
    (idle : system.worker.working = none) (free : system.outgoing = none)
    (room : system.worker.answers.length < answersAtMost) (count : Nat) :
    ∃ seen, Reachable
      { session :=
  -- Reaching goes on along the steps of the worker.
  (system.session.work system.source count).2.1
        source := (system.session.work system.source count).2.2
        outgoing := none
        seen := seen } := by
  obtain ⟨seen, steps⟩ := work_steps idle free room count
  exact ⟨seen, reached.steps steps⟩

end System

end DeviceBrowser
