import DeviceBrowser.Proofs.Inventory.Dump
import DeviceBrowser.Proofs.Inventory.Source
import Mathlib.Data.List.Induction
import Mathlib.Data.List.Pairwise

/-! Reading a dump file while it is written and removed: a reader hands out what it loaded last, and
the number of an edition tells it from all that came before. -/

namespace DeviceBrowser

/-- Whether two editions are the same does not depend on their order. -/
theorem Edition.isSame_comm (left right : Edition) : left.isSame right = right.isSame left :=
  -- Numbers are compared, and equality of numbers has no direction.
  BEq.comm

namespace DumpFile

/-- The bytes of the file, if there is one. -/
def content? : DumpFile → Option ByteArray
  | file content _ => some content
  | _ => none

/-- What a file gives to hand out: its inventory, or an empty one where loading fails. -/
def inventory (file : DumpFile) : Inventory :=
  match file.load with
  | .ok inventory => inventory
  | .error _ => .empty

/-- Loading a file fails. -/
def Fails (file : DumpFile) : Prop := ∃ fault, file.load = .error fault

/-- Files of the same bytes give the same inventory, whatever their times. -/
theorem inventory_congr {left right : DumpFile} (same : left.content? = right.content?) :
    left.inventory = right.inventory := by
  -- Loading reads nothing but the bytes, and fails without them.
  cases left <;> cases right <;> cases same <;> rfl

/-- Only an empty inventory is handed out without devices. -/
theorem inventory_eq_empty {file : DumpFile} (none : file.inventory.size = 0) :
    file.inventory = .empty := by
  -- What is loaded is the inventory of a dump, and that has a device at its top.
  rw [inventory] at none ⊢
  split
  · rename_i inventory loaded
    obtain ⟨dump, rfl⟩ := exists_dump_of_load loaded
    simp only [loaded, dump.grown_inventory.2] at none
    cases dump with
    | node id isInterface values children =>
      rw [Dump.count] at none
      omega
  · rfl

/-- Where loading fails an empty inventory is handed out. -/
theorem Fails.inventory {file : DumpFile} (fails : file.Fails) : file.inventory = .empty := by
  -- What a failing file gives is empty by definition.
  obtain ⟨fault, failed⟩ := fails
  rw [DumpFile.inventory, failed]

end DumpFile

namespace DumpReader

/-- Whether a reader that is asked for its edition loads the file. -/
def loads (reader : DumpReader) (file : DumpFile) (force : Bool) : Bool :=
  !(reader.loaded && !force && file.modified? == reader.modified)

/-- A reader that does not load the file hands out what it has. -/
theorem take_of_kept {reader : DumpReader} {file : DumpFile} {force : Bool}
    (kept : reader.loads file force = false) : reader.take file force = (reader.edition, reader) :=
  -- Not loading is the first branch of the call.
  if_pos (by rwa [loads, Bool.not_eq_false'] at kept)

/-- A reader that loads the file hands out a renewed edition, and remembers the file's time. -/
theorem take_of_loads {reader : DumpReader} {file : DumpFile} {force : Bool}
    (loaded : reader.loads file force = true) : reader.take file force =
      (renew reader.edition file.load, ⟨renew reader.edition file.load, file.modified?, true⟩) :=
  -- Loading is the second branch of the call.
  if_neg (by
    rw [loads, Bool.not_eq_true'] at loaded
    rw [loaded]
    exact Bool.false_ne_true)

/-- A call to a reader: the file that stands there, whether loading is forced, whether the reader
loads the file, and the edition it hands out. -/
structure Call where
  file : DumpFile
  force : Bool
  loads : Bool
  edition : Edition

/-- What happens when a reader is asked for its edition. -/
def call (reader : DumpReader) (file : DumpFile) (force : Bool) : Call :=
  ⟨file, force, reader.loads file force, (reader.take file force).1⟩

/-- The last of some calls that loaded the file. -/
def lastLoad? (calls : List Call) : Option Call := calls.reverse.find? (·.loads)

/-- A call after some others has to load the file: it is forced, nothing was loaded before, or the
file's time is not the one of the last loading. A file that is missing has no time. -/
def Call.MustLoad (call : Call) (earlier : List Call) : Prop :=
  call.force = true ∨ lastLoad? earlier = none ∨
    ∃ last, lastLoad? earlier = some last ∧ call.file.modified? ≠ last.file.modified?

/-- What can become of a dump file and its reader, with the calls so far: the file is written or
removed, or the reader is asked for its edition. -/
inductive History : List Call → DumpFile → DumpReader → Prop
  | start : History [] .missing .start
  | write {calls : List Call} {file : DumpFile} {reader : DumpReader}
      (history : History calls file reader) (content : ByteArray) (modified : Int) :
      History calls (.file content modified) reader
  | remove {calls : List Call} {file : DumpFile} {reader : DumpReader}
      (history : History calls file reader) : History calls .missing reader
  | ask {calls : List Call} {file : DumpFile} {reader : DumpReader}
      (history : History calls file reader) (force : Bool) :
      History (calls ++ [reader.call file force]) file (reader.take file force).2

/-- A reader has the edition and the time of the last loading, and nothing before the first one. -/
structure Tracks (calls : List Call) (reader : DumpReader) : Prop where
  loaded : reader.loaded = (lastLoad? calls).isSome
  first : lastLoad? calls = none → reader.edition.inventory = .empty
  last : ∀ last, lastLoad? calls = some last →
    reader.modified = last.file.modified? ∧ reader.edition = last.edition ∧
      last.edition.inventory = last.file.inventory

variable {calls : List Call} {file : DumpFile} {reader : DumpReader}

/-- The last call that loaded is the newest one if that did. -/
theorem lastLoad?_concat (calls : List Call) (call : Call) :
    lastLoad? (calls ++ [call]) = if call.loads then some call else lastLoad? calls := by
  -- The calls are searched from the newest one back.
  rw [lastLoad?, List.reverse_append, List.reverse_singleton, List.singleton_append,
    List.find?_cons]
  cases call.loads <;> rfl

/-- What a reader has is empty if it is without devices. -/
theorem Tracks.eq_empty (tracks : Tracks calls reader) (none : reader.edition.inventory.size = 0) :
    reader.edition.inventory = .empty := by
  -- Before the first loading it is empty anyway, and later on it is what a file gave.
  cases isLast : lastLoad? calls with
  | none => exact tracks.first isLast
  | some last =>
    obtain ⟨_, same, fresh⟩ := tracks.last last isLast
    rw [same, fresh] at none ⊢
    exact DumpFile.inventory_eq_empty none

/-- Loading a file makes the reader hand out what the file gives. -/
theorem Tracks.inventory_renew (tracks : Tracks calls reader) (file : DumpFile) :
    (renew reader.edition file.load).inventory = file.inventory := by
  -- A failure keeps the edition only if that is empty already.
  cases loaded : file.load with
  | ok inventory => simp [renew, Edition.succeededBy, DumpFile.inventory, loaded]
  | error fault =>
    rw [renew, DumpFile.inventory, loaded]
    split
    · rename_i none
      exact tracks.eq_empty none
    · rfl

/-- A reader keeps track when it is asked. -/
theorem Tracks.ask (tracks : Tracks calls reader) (file : DumpFile) (force : Bool) :
    Tracks (calls ++ [reader.call file force]) (reader.take file force).2 := by
  have newest := lastLoad?_concat calls (reader.call file force)
  cases loads : reader.loads file force with
  | false =>
    -- Nothing is loaded, so that the last loading stays what it was.
    rw [show (reader.call file force).loads = false from loads, if_neg Bool.false_ne_true] at newest
    rw [take_of_kept loads]
    exact ⟨newest ▸ tracks.loaded, newest ▸ tracks.first, newest ▸ tracks.last⟩
  | true =>
    rw [show (reader.call file force).loads = true from loads, if_pos rfl] at newest
    -- The load is the last one now, and its inventory is that of the file that was read.
    have taken := take_of_loads loads
    have fresh : (reader.call file force).edition.inventory = file.inventory := by
      simp only [call, taken]
      exact tracks.inventory_renew file
    refine ⟨?_, ?_, ?_⟩
    · rw [newest, taken]
      rfl
    · rw [newest]
      intro none
      cases none
    · rw [newest]
      intro last isLast
      cases isLast
      refine ⟨?_, ?_, fresh⟩
      · rw [taken]
        rfl
      · simp only [call, taken]

/-- Whatever becomes of the file, its reader keeps track. -/
theorem History.tracks (history : History calls file reader) : Tracks calls reader := by
  -- Only asking the reader changes anything that it has.
  induction history with
  | start => exact ⟨rfl, fun _ => rfl, fun last isLast => by cases isLast⟩
  | write _ _ _ ih => exact ih
  | remove _ ih => exact ih
  | ask _ force ih => exact ih.ask _ force

/-- What is handed out does not come before what was handed out earlier. -/
theorem History.ordered (history : History calls file reader) :
    (calls.Pairwise fun earlier later => earlier.edition.UpTo later.edition) ∧
      ∀ call ∈ calls, call.edition.UpTo reader.edition := by
  -- The reader's edition is not before any that was handed out, and asking only moves it on.
  induction history with
  | start => exact ⟨.nil, fun call member => by cases member⟩
  | write _ _ _ ih => exact ih
  | remove _ ih => exact ih
  | @ask calls file reader _ force ih =>
    obtain ⟨ordered, upTo⟩ := ih
    have later : ∀ call ∈ calls, call.edition.UpTo (reader.call file force).edition :=
      fun call member => (upTo call member).trans (Source.upTo_take (.dump file reader) force)
    have kept : (reader.take file force).2.edition = (reader.call file force).edition :=
      Source.edition_take (.dump file reader) force
    refine ⟨List.pairwise_append.mpr ⟨ordered, List.pairwise_singleton _ _, ?_⟩, ?_⟩
    · intro call member newest isNewest
      rw [List.mem_singleton.mp isNewest]
      exact later call member
    · intro call member
      rw [kept]
      rcases List.mem_append.mp member with old | isNewest
      · exact later call old
      · rw [List.mem_singleton.mp isNewest]
        exact .refl _

/-- The newest call was made to a reader that had come so far. -/
theorem History.newest {call : Call} (history : History (calls ++ [call]) file reader) :
    ∃ before, History calls call.file before ∧ call = before.call call.file call.force ∧
      reader = (before.take call.file call.force).2 := by
  -- What happens to the file after the call leaves the calls and the reader.
  generalize split : calls ++ [call] = all at history
  induction history with
  | start => simp at split
  | write _ _ _ ih => exact ih split
  | remove _ ih => exact ih split
  | @ask earlier file reader history force ih =>
    obtain ⟨rfl, isCall⟩ := List.append_inj' split rfl
    cases isCall
    exact ⟨reader, history, rfl, rfl⟩

/-- Leaving away the newest calls leaves a history. -/
theorem History.before {earlier later : List Call}
    (history : History (earlier ++ later) file reader) :
    ∃ file before, History earlier file before := by
  -- One call at a time is left away, the newest first.
  induction later using List.reverseRecOn generalizing file reader with
  | nil =>
    rw [List.append_nil] at history
    exact ⟨file, reader, history⟩
  | append_singleton later newest ih =>
    rw [← List.append_assoc] at history
    obtain ⟨before, history, _⟩ := history.newest
    exact ih history

/-- Each call was made to a reader that had come so far. -/
theorem History.asked {earlier later : List Call} {call : Call}
    (history : History (earlier ++ call :: later) file reader) :
    ∃ before, Tracks earlier before ∧ call = before.call call.file call.force := by
  -- Without the calls that came later, this one is the newest.
  rw [List.append_cons] at history
  obtain ⟨_, _, history⟩ := history.before
  obtain ⟨before, history, isCall, _⟩ := history.newest
  exact ⟨before, history.tracks, isCall⟩

/-- A reader loads the file exactly when it has to. -/
theorem Tracks.loads_iff (tracks : Tracks calls reader) (file : DumpFile) (force : Bool) :
    reader.loads file force = true ↔ (reader.call file force).MustLoad calls := by
  -- The reader remembers the time of the last loading, and that is what the history compares with.
  rw [Call.MustLoad, loads, tracks.loaded]
  cases isLast : lastLoad? calls with
  | none => simp
  | some last =>
    rw [(tracks.last last isLast).1]
    cases force <;> simp [call]

/-- A reader that does not load the file hands out the edition of the last loading. -/
theorem Tracks.kept (tracks : Tracks calls reader) {file : DumpFile} {force : Bool}
    (kept : reader.loads file force = false) :
    ∃ last, lastLoad? calls = some last ∧ (reader.call file force).edition = last.edition := by
  cases isLast : lastLoad? calls with
  | none =>
    -- Without an earlier loading the reader would have had to load.
    rw [loads, tracks.loaded, isLast] at kept
    cases kept
  | some last =>
    refine ⟨last, rfl, ?_⟩
    simp only [call, take_of_kept kept]
    exact (tracks.last last isLast).2.1

/-- A reader hands out what the file gives if it loads the file, or loaded the same bytes last. -/
theorem Tracks.fresh (tracks : Tracks calls reader) {file : DumpFile} {force : Bool}
    (current : reader.loads file force = true ∨
      ∃ last, lastLoad? calls = some last ∧ file.content? = last.file.content?) :
    (reader.call file force).edition.inventory = file.inventory := by
  cases loads : reader.loads file force with
  | true =>
    -- What is loaded is handed out, and a failure empties what is served.
    simp only [call, take_of_loads loads]
    exact tracks.inventory_renew file
  | false =>
    -- What is kept came from the same bytes, which would load to the same again.
    rw [loads] at current
    obtain ⟨last, isLast, same⟩ := current.resolve_left Bool.false_ne_true
    obtain ⟨_, handedOut, fresh⟩ := tracks.last last isLast
    simp only [call, take_of_kept loads]
    rw [handedOut, fresh, DumpFile.inventory_congr same]

/-- A reader keeps an empty edition when loading fails. -/
theorem edition_of_fails (empty : reader.edition.inventory = .empty) {file : DumpFile}
    {force : Bool} (fails : reader.loads file force = true → file.Fails) :
    (reader.call file force).edition = reader.edition := by
  cases loads : reader.loads file force with
  | false => simp only [call, take_of_kept loads]
  | true =>
    -- A failure renews an edition only if that has devices.
    obtain ⟨fault, failed⟩ := fails loads
    simp only [call, take_of_loads loads, failed, renew, empty]
    rfl

/-- From a loading that fails until one succeeds, a reader hands out one edition. -/
theorem History.stalled {earlier between : List Call} {first : Call}
    (history : History (earlier ++ first :: between) file reader) (loads : first.loads = true)
    (fails : first.file.Fails) (allFail : ∀ call ∈ between, call.loads = true → call.file.Fails) :
    reader.edition = first.edition ∧ ∀ call ∈ between, call.edition = first.edition := by
  -- The induction is on the calls behind the failed one, and carries the edition the reader has.
  induction between using List.reverseRecOn generalizing file reader with
  | nil =>
    obtain ⟨before, _, isFirst, rfl⟩ := history.newest
    refine ⟨?_, fun call member => by cases member⟩
    rw [isFirst]
    exact Source.edition_take (.dump first.file before) first.force
  | append_singleton between newest ih =>
    -- The edition that the reader has is that of the failed loading, and so it is empty.
    rw [← List.cons_append, ← List.append_assoc] at history
    obtain ⟨before, shorter, isNewest, rfl⟩ := history.newest
    obtain ⟨same, others⟩ := ih shorter fun call member => allFail call (by simp [member])
    have empty : before.edition.inventory = .empty := by
      obtain ⟨asked, tracks, isFirst⟩ := shorter.asked
      rw [same, ← fails.inventory, isFirst]
      exact tracks.fresh (.inl (by rw [isFirst] at loads; exact loads))
    have kept : newest.edition = first.edition := by
      rw [isNewest, ← same]
      apply edition_of_fails empty
      intro loads
      exact allFail newest (by simp) (by rw [isNewest]; exact loads)
    refine ⟨?_, ?_⟩
    · rw [← kept, isNewest]
      exact Source.edition_take (.dump newest.file before) newest.force
    · intro call member
      rcases List.mem_append.mp member with old | isNewest
      · exact others call old
      · rw [List.mem_singleton.mp isNewest]
        exact kept

/-- What a reader hands out. It loads the file exactly when it has to, and keeps the edition of the
last loading otherwise; what it hands out is what the file gives, if it had to load or the bytes are
those of the last loading. Editions of one number have one content, an edition that was replaced
does not come again, and from a loading that fails until one succeeds there is one edition. -/
structure Serves (calls : List Call) : Prop where
  loads : ∀ earlier call later, calls = earlier ++ call :: later →
    (call.loads = true ↔ call.MustLoad earlier)
  kept : ∀ earlier call later, calls = earlier ++ call :: later → call.loads = false →
    ∃ last, lastLoad? earlier = some last ∧ call.edition = last.edition
  fresh : ∀ earlier call later, calls = earlier ++ call :: later →
    (call.MustLoad earlier ∨
      ∃ last, lastLoad? earlier = some last ∧ call.file.content? = last.file.content?) →
    call.edition.inventory = call.file.inventory
  content : ∀ left ∈ calls, ∀ right ∈ calls, left.edition.isSame right.edition = true →
    left.edition.inventory = right.edition.inventory
  replaced : ∀ first second third, [first, second, third].Sublist calls →
    first.edition.isSame second.edition = false → first.edition.isSame third.edition = false
  failing : ∀ earlier first between later, calls = earlier ++ first :: between ++ later →
    first.loads = true → first.file.Fails →
    (∀ call ∈ between, call.loads = true → call.file.Fails) →
    ∀ call ∈ between, call.edition = first.edition

/-- However a dump file is written and removed between calls, its reader serves what is there. -/
theorem History.serves (history : History calls file reader) : Serves calls where
  loads earlier call later split := by
    subst split
    obtain ⟨before, tracks, isCall⟩ := history.asked
    rw [isCall]
    exact tracks.loads_iff call.file call.force
  kept earlier call later split kept := by
    subst split
    obtain ⟨before, tracks, isCall⟩ := history.asked
    rw [isCall] at kept ⊢
    exact tracks.kept kept
  fresh earlier call later split current := by
    subst split
    obtain ⟨before, tracks, isCall⟩ := history.asked
    rw [isCall] at current ⊢
    exact tracks.fresh (current.imp_left (tracks.loads_iff call.file call.force).mpr)
  content := by
    -- Of two calls one is the earlier.
    have : Std.Symm fun left right : Call => left.edition.isSame right.edition = true →
        left.edition.inventory = right.edition.inventory :=
      ⟨fun left right same isSame => (same (by rwa [Edition.isSame_comm])).symm⟩
    apply List.Pairwise.forall_of_forall
    · intro call _ _
      rfl
    · exact history.ordered.1.imp fun upTo same =>
        congrArg Edition.inventory ((Edition.UpTo.refl _).eq_of_isSame upTo same)
  replaced first second third inOrder other := by
    -- An edition that comes again has been there all the time.
    have ordered := history.ordered.1.sublist inOrder
    simp only [List.pairwise_cons, List.mem_cons, forall_eq_or_imp] at ordered
    obtain ⟨⟨before, _, _⟩, ⟨after, _⟩, _⟩ := ordered
    cases again : first.edition.isSame third.edition with
    | false => rfl
    | true =>
      rw [before.eq_of_isSame after again, again] at other
      cases other
  failing earlier first between later split loads fails allFail := by
    subst split
    obtain ⟨_, _, history⟩ := history.before
    exact (history.stalled loads fails allFail).2

/-- The bytes of a dump with one device. -/
def soloDump : ByteArray := "\x7b\"instance_id\":\"PC\"\x7d".toUTF8

/-- A dump is served until loading is forced, although the file was emptied without a change of its
time; then an empty edition is, also while the file is missing, and the dump again once it is there.
-/
theorem serves_rewritten : ∃ calls file reader, History calls file reader ∧ Serves calls ∧
    calls.map (·.force) = [false, false, true, false, true, false] ∧
    calls.map (·.loads) = [true, false, true, true, true, true] ∧
    calls.map (·.edition.number) = [2, 2, 3, 3, 3, 4] ∧
    calls.map (·.edition.inventory.size) = [1, 1, 0, 0, 0, 1] := by
  -- Six calls, with the file written, emptied, removed and written again between them.
  have written := (History.start.write soloDump 5).ask false
  have emptied := ((written.write .empty 5).ask false).ask true
  have removed := (emptied.remove.ask false).ask true
  have again := (removed.write soloDump 5).ask false
  exact ⟨_, _, _, again, again.serves, rfl, by decide +kernel, by decide +kernel,
    by decide +kernel⟩

end DumpReader

end DeviceBrowser
