import DeviceBrowser.Snapshot

/-! Refreshing: requests for a new snapshot, their merging while they wait, and the worker that
answers them one merged request at a time. -/

namespace DeviceBrowser

variable [Zone]

/-- A request for a snapshot under the preferences of the moment. `active` is the edition on display
when the request was made, and a forced request is answered with a snapshot even if that edition is
still the current one. -/
structure RefreshRequest where
  number : Nat
  force : Bool
  preferences : Preferences
  active : Option Edition

namespace RefreshRequest

/-- Two requests answered together: the later one decides what is asked, and force is kept. -/
def merge (earlier later : RefreshRequest) : RefreshRequest where
  number := max earlier.number later.number
  -- A forced request that waits must not be lost to a later one that is not.
  force := earlier.force || later.force
  preferences := later.preferences
  active := later.active

/-- All of a list of requests in one, if there are any. -/
def mergeAll : List RefreshRequest → Option RefreshRequest
  | [] => none
  | first :: rest => some (rest.foldl merge first)

end RefreshRequest

/-- The answer to a request: a snapshot, or that there is nothing new. -/
inductive RefreshAnswer where
  | built (number : Nat) (snapshot : Snapshot) (forced : Bool)
  | unchanged (number : Nat)

namespace RefreshAnswer

/-- The number of the request answered. -/
def number : RefreshAnswer → Nat
  | built number _ _ => number
  | unchanged number => number

/-- The answer to a request, given the current edition. -/
def ofRequest (request : RefreshRequest) (current : Edition) : RefreshAnswer :=
  match Snapshot.buildIfStale current request.active request.force request.preferences with
  | some snapshot => built request.number snapshot request.force
  | none => unchanged request.number

end RefreshAnswer

/-- The worker: requests that wait, the one it is working on, and answers not yet collected. -/
structure Worker where
  queue : List RefreshRequest
  working : Option RefreshRequest
  answers : List RefreshAnswer

namespace Worker

/-- A worker with nothing to do. -/
def idle : Worker := ⟨[], none, []⟩

/-- Hands a request to the worker. -/
def submit (worker : Worker) (request : RefreshRequest) : Worker :=
  { worker with queue := worker.queue ++ [request] }

/-- Takes the first requests that wait, `count` of them at most, as one. A worker that is working
takes none. -/
def receive (worker : Worker) (count : Nat) : Worker :=
  match worker.working with
  | some _ => worker
  | none =>
    { worker with
      queue := worker.queue.drop count
      working := RefreshRequest.mergeAll (worker.queue.take count) }

/-- Answers the request that the worker is working on, from the source as it is now. -/
def respond (worker : Worker) (source : Source) : Worker × Source :=
  match worker.working with
  | none => (worker, source)
  | some request =>
    let (current, source) := source.take request.force
    ({ worker with working := none, answers := worker.answers ++ [.ofRequest request current] },
      source)

end Worker

end DeviceBrowser
