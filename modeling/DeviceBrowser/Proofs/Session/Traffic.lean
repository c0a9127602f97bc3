import DeviceBrowser.Proofs.Inventory.Source
import DeviceBrowser.Proofs.Refresh
import DeviceBrowser.Proofs.Snapshot.Renumbering

/-! The traffic between a session and its worker: the requests on their way to the worker, the
answers on their way back, and what they have in common with the snapshot on display. -/

namespace DeviceBrowser

open RefreshAnswer (latest)

variable {zone : Zone}

/-- The traffic of a session: the edition that the source would hand out unasked, the one that it
handed out at the worker's last call, the snapshot on display, the answers and the requests on their
way, the preferences in effect and the number of requests ever made. -/
structure Traffic where
  current : Edition
  seen : Option Edition
  active : Option Snapshot
  coming : List RefreshAnswer
  pending : List RefreshRequest
  preferences : Preferences
  requested : Nat

namespace Traffic

/-- The snapshot on display once all answers on their way were taken in. -/
def newest (traffic : Traffic) : Option Snapshot := latest traffic.active traffic.coming

/-- An edition that the snapshot on display, an answer or a request is about. -/
def Mentions (traffic : Traffic) (edition : Edition) : Prop :=
  (∃ snapshot, traffic.active = some snapshot ∧ snapshot.edition = edition) ∨
    (∃ answer ∈ traffic.coming, ∃ snapshot, answer.snapshot? = some snapshot ∧
      snapshot.edition = edition) ∨
    ∃ request ∈ traffic.pending, request.active = some edition

/-- Traffic is sound when the newest snapshot is of the edition seen last, no edition on its way is
later than that one, and the newest snapshot was built under preferences from which the requests on
their way lead to those in effect. -/
structure Sound [Zone] (traffic : Traffic) : Prop where
  seen_eq : traffic.seen = traffic.newest.map (·.edition)
  behind : ∀ seen, traffic.seen = some seen → seen.UpTo traffic.current
  known : ∀ edition, traffic.Mentions edition →
    ∃ seen, traffic.seen = some seen ∧ edition.UpTo seen
  built : ∃ start, RefreshRequest.Lead start traffic.preferences traffic.pending ∧
    ∀ snapshot, traffic.newest = some snapshot →
      snapshot = Snapshot.build snapshot.edition start
  asked : 0 < traffic.requested → traffic.pending ≠ [] ∨ traffic.newest ≠ none

/-- Requests that are about editions mentioned before mention nothing new. -/
theorem Mentions.of_pending {traffic : Traffic} {pending : List RefreshRequest} {edition : Edition}
    (mention : Mentions { traffic with pending } edition)
    (asks : ∀ request ∈ pending, request.active = some edition → traffic.Mentions edition) :
    traffic.Mentions edition := by
  -- The display and the answers are as before.
  rcases mention with onDisplay | inAnswer | ⟨request, member, about⟩
  · exact .inl onDisplay
  · exact .inr (.inl inAnswer)
  · exact asks request member about

/-- Preferences that ask for the same tree may take effect. -/
theorem Sound.prefer {traffic : Traffic} (sound : traffic.Sound) {preferences : Preferences}
    (same : traffic.preferences.SameTree preferences) :
    Sound { traffic with preferences } where
  -- Requests lead on to preferences that ask for the same tree.
  seen_eq := sound.seen_eq
  behind := sound.behind
  known := sound.known
  built := by
    obtain ⟨start, lead, isBuilt⟩ := sound.built
    exact ⟨start, lead.to_sameTree same, isBuilt⟩
  asked := sound.asked

/-- A request may be made under other preferences, if it is forced or these ask for the same
tree. -/
theorem Sound.request {traffic : Traffic} (sound : traffic.Sound) {request : RefreshRequest}
    (follows : request.force = true ∨ traffic.preferences.SameTree request.preferences)
    (active : request.active = traffic.active.map (·.edition)) :
    Sound { traffic with
      pending := traffic.pending ++ [request]
      preferences := request.preferences
      requested := traffic.requested + 1 } where
  seen_eq := sound.seen_eq
  behind := sound.behind
  known edition mention := by
    -- The request is about the snapshot on display.
    apply sound.known edition
    apply Mentions.of_pending mention
    intro other member about
    rcases List.mem_append.mp member with old | new
    · exact .inr (.inr ⟨other, old, about⟩)
    · cases List.mem_singleton.mp new
      rw [active, Option.map_eq_some_iff] at about
      exact .inl about
  built := by
    obtain ⟨start, lead, isBuilt⟩ := sound.built
    exact ⟨start, lead.append follows, isBuilt⟩
  asked _ := .inl (by simp)

/-- The first two requests may be merged. -/
theorem Sound.merge {traffic : Traffic} (sound : traffic.Sound)
    {first second : RefreshRequest} {rest : List RefreshRequest}
    (pending : traffic.pending = first :: second :: rest) :
    Sound { traffic with pending := first.merge second :: rest } where
  seen_eq := sound.seen_eq
  behind := sound.behind
  known edition mention := by
    -- The merged request is about what the second one is about.
    apply sound.known edition
    apply Mentions.of_pending mention
    intro other member about
    rcases List.mem_cons.mp member with rfl | later
    · exact .inr (.inr ⟨second, by simp [pending], about⟩)
    · exact .inr (.inr ⟨other, by simp [pending, later], about⟩)
  built := by
    obtain ⟨start, lead, isBuilt⟩ := sound.built
    exact ⟨start, (pending ▸ lead).merge, isBuilt⟩
  asked _ := .inl (by simp)

/-- The source may come to hold a later edition. -/
theorem Sound.advance {traffic : Traffic} (sound : traffic.Sound) {next : Edition}
    (later : traffic.current.UpTo next) : Sound { traffic with current := next } where
  -- What was handed out before comes up to the current edition, and that to the next one.
  seen_eq := sound.seen_eq
  behind seen isSeen := (sound.behind seen isSeen).trans later
  known := sound.known
  built := sound.built
  asked := sound.asked

/-- The first answers on their way may be taken in. -/
theorem Sound.collect {traffic : Traffic} (sound : traffic.Sound)
    {front back : List RefreshAnswer} (coming : traffic.coming = front ++ back) :
    Sound { traffic with active := latest traffic.active front, coming := back } := by
  -- What is newest stays the same, as the answers are only moved to the display.
  have newest : latest (latest traffic.active front) back = traffic.newest := by
    rw [Traffic.newest, coming, RefreshAnswer.latest_append]
  refine ⟨sound.seen_eq.trans (by rw [← newest]; rfl), sound.behind, ?_, ?_, ?_⟩
  · rintro edition (⟨snapshot, onDisplay, isEdition⟩ | ⟨answer, member, inAnswer⟩ | inRequest)
    · -- What is on display now was so before, or was on its way.
      rcases RefreshAnswer.latest_cases onDisplay with wasActive | ⟨answer, member, brought⟩
      · exact sound.known edition (.inl ⟨snapshot, wasActive, isEdition⟩)
      · exact sound.known edition
          (.inr (.inl ⟨answer, by simp [coming, member], snapshot, brought, isEdition⟩))
    · exact sound.known edition (.inr (.inl ⟨answer, by simp [coming, member], inAnswer⟩))
    · exact sound.known edition (.inr (.inr inRequest))
  · obtain ⟨start, lead, isBuilt⟩ := sound.built
    exact ⟨start, lead, fun snapshot found => isBuilt snapshot (newest ▸ found)⟩
  · intro issued
    rcases sound.asked issued with waiting | present
    · exact .inl waiting
    · exact .inr (fun absent => present (newest ▸ absent))

/-- An edition that is mentioned once the first request is answered was mentioned before, or the
answer brings a snapshot of it. -/
theorem Mentions.of_answered {traffic : Traffic} {request : RefreshRequest}
    {rest : List RefreshRequest} (pending : traffic.pending = request :: rest)
    {next edition : Edition}
    {answer : RefreshAnswer}
    (mention : Mentions { traffic with
      current := next
      seen := some next
      coming := traffic.coming ++ [answer]
      pending := rest } edition) :
    traffic.Mentions edition ∨
      ∃ snapshot, answer.snapshot? = some snapshot ∧ snapshot.edition = edition := by
  -- The display is as before, and only the last of the answers is new.
  rcases mention with onDisplay | ⟨other, member, inAnswer⟩ | ⟨other, member, about⟩
  · exact .inl (.inl onDisplay)
  · rcases List.mem_append.mp member with old | new
    · exact .inl (.inr (.inl ⟨other, old, inAnswer⟩))
    · cases List.mem_singleton.mp new
      exact .inr inAnswer
  · exact .inl (.inr (.inr ⟨other, by simp [pending, member], about⟩))

/-- The worker may answer the first request with a snapshot of an edition that is not earlier than
the source's. -/
theorem Sound.rebuild {traffic : Traffic} (sound : traffic.Sound) {request : RefreshRequest}
    {rest : List RefreshRequest} (pending : traffic.pending = request :: rest) {next : Edition}
    (later : traffic.current.UpTo next) {answer : RefreshAnswer}
    (brings : answer.snapshot? = some (.build next request.preferences)) :
    Sound { traffic with
      current := next
      seen := some next
      coming := traffic.coming ++ [answer]
      pending := rest } := by
  -- The new snapshot is the newest, and every edition mentioned before comes up to its own.
  have newest : latest traffic.active (traffic.coming ++ [answer]) =
      some (.build next request.preferences) := by
    simp [latest, brings]
  refine ⟨?_, ?_, ?_, ?_, ?_⟩
  · simp [Traffic.newest, newest]
  · rintro seen ⟨⟩
    exact .refl next
  · intro edition mention
    refine ⟨next, rfl, ?_⟩
    rcases mention.of_answered pending with before | ⟨snapshot, brought, isEdition⟩
    · obtain ⟨seen, isSeen, upToSeen⟩ := sound.known edition before
      exact upToSeen.trans ((sound.behind seen isSeen).trans later)
    · rw [brings] at brought
      cases brought
      rw [← isEdition, Snapshot.edition_build]
      exact .refl next
  · -- The requests that are left lead on from the one answered.
    obtain ⟨start, lead, _⟩ := sound.built
    rw [pending] at lead
    refine ⟨request.preferences, lead.2, ?_⟩
    intro snapshot found
    rw [Traffic.newest, newest] at found
    cases found
    rw [Snapshot.edition_build]
  · intro _
    right
    simp [Traffic.newest, newest]

/-- The worker may leave the first request without a snapshot, if the request is not forced and
about the edition that the source hands out: the newest snapshot is of that edition. -/
theorem Sound.keep {traffic : Traffic} (sound : traffic.Sound) {request : RefreshRequest}
    {rest : List RefreshRequest} (pending : traffic.pending = request :: rest) {next : Edition}
    (later : traffic.current.UpTo next) {answer : RefreshAnswer}
    (brings : answer.snapshot? = none) (unforced : request.force = false) {edition : Edition}
    (active : request.active = some edition) (same : edition.isSame next = true) :
    Sound { traffic with
      current := next
      seen := some next
      coming := traffic.coming ++ [answer]
      pending := rest } := by
  have newest : latest traffic.active (traffic.coming ++ [answer]) = traffic.newest := by
    rw [RefreshAnswer.latest_append, ← Traffic.newest]
    simp [latest, brings]
  -- The edition seen last lies between the request's and the current one, which are the same.
  have isNext : traffic.seen = some next := by
    obtain ⟨seen, isSeen, before⟩ :=
      sound.known edition (.inr (.inr ⟨request, by simp [pending], active⟩))
    rw [isSeen, before.eq_of_isSame ((sound.behind seen isSeen).trans later) same]
  refine ⟨?_, ?_, ?_, ?_, ?_⟩
  · have current : some next = traffic.newest.map (·.edition) := isNext ▸ sound.seen_eq
    rw [← newest] at current
    exact current
  · rintro seen ⟨⟩
    exact .refl next
  · -- An unchanged answer mentions no edition.
    intro other mention
    rw [← isNext]
    apply sound.known
    rcases mention.of_answered pending with before | ⟨snapshot, brought, _⟩
    · exact before
    · rw [brings] at brought
      cases brought
  · -- As the request is not forced, its preferences ask for the tree that is the newest.
    obtain ⟨start, lead, isBuilt⟩ := sound.built
    rw [pending] at lead
    obtain ⟨toRequest, onward⟩ := lead
    have keeps : start.SameTree request.preferences := by simpa [unforced] using toRequest
    refine ⟨request.preferences, onward, ?_⟩
    intro snapshot found
    rw [Traffic.newest, newest] at found
    rw [← keeps.build_eq]
    exact isBuilt snapshot found
  · intro _
    right
    have present := sound.seen_eq
    rw [isNext] at present
    obtain ⟨snapshot, found, _⟩ := Option.map_eq_some_iff.mp present.symm
    rw [Traffic.newest, newest, found]
    simp

/-- The worker may answer the first request from an edition that is not earlier than the source's.
-/
theorem Sound.answer {traffic : Traffic} (sound : traffic.Sound) {request : RefreshRequest}
    {rest : List RefreshRequest} (pending : traffic.pending = request :: rest) {next : Edition}
    (later : traffic.current.UpTo next) :
    Sound { traffic with
      current := next
      seen := some next
      coming := traffic.coming ++ [.ofRequest request next]
      pending := rest } := by
  -- The worker builds a snapshot, or the request was about the current edition.
  have brings := RefreshAnswer.snapshot?_ofRequest request next
  rcases Snapshot.buildIfStale_cases next request.active request.force request.preferences with
    built | ⟨kept, unforced, edition, active, same⟩
  · exact sound.rebuild pending later (brings.trans built)
  · exact sound.keep pending later (brings.trans kept) unforced active same

/-- Once nothing is on its way, the snapshot on display is what the preferences in effect make of
the edition seen last. -/
theorem Sound.settled {traffic : Traffic} (sound : traffic.Sound) (issued : 0 < traffic.requested)
    (noRequests : traffic.pending = []) (noAnswers : traffic.coming = []) :
    ∃ edition, traffic.seen = some edition ∧
      traffic.active = some (Snapshot.build edition traffic.preferences) := by
  -- With nothing on its way the newest snapshot is the one on display, and the way of the requests
  -- has no length.
  have newest : traffic.newest = traffic.active := by
    rw [Traffic.newest, noAnswers]
    rfl
  obtain ⟨start, lead, isBuilt⟩ := sound.built
  rw [noRequests] at lead
  have present : traffic.active ≠ none := by
    rcases sound.asked issued with waiting | present
    · exact absurd noRequests waiting
    · exact newest ▸ present
  obtain ⟨snapshot, found⟩ := Option.ne_none_iff_exists'.mp present
  refine ⟨snapshot.edition, ?_, ?_⟩
  · rw [sound.seen_eq, newest, found]
    rfl
  · have same : start.SameTree traffic.preferences := lead
    rw [found, ← same.build_eq]
    exact congrArg some (isBuilt snapshot (newest.trans found))

end Traffic

end DeviceBrowser
