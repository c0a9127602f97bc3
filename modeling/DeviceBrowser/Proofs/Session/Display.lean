import DeviceBrowser.Proofs.Browser.Rows
import DeviceBrowser.Proofs.Refresh
import DeviceBrowser.Proofs.Session.Steps

/-! Whatever a session does, its browser stays sound, as long as its worker answers with built
snapshots; and what does not touch the view leaves the rows. -/

namespace DeviceBrowser

variable {zone : Zone}

/-- An answer brings a built snapshot, if it brings one at all. -/
def RefreshAnswer.Built [Zone] (answer : RefreshAnswer) : Prop :=
  ∀ snapshot, answer.snapshot? = some snapshot → snapshot.Built

/-- The answer to a request, made from a grown inventory, brings a built snapshot. -/
theorem RefreshAnswer.built_ofRequest (request : RefreshRequest) {current : Edition}
    (grown : current.inventory.Grown) : (RefreshAnswer.ofRequest request current).Built := by
  -- An answer brings what was built for it, or no snapshot at all.
  intro snapshot brought
  rw [snapshot?_ofRequest] at brought
  rcases Snapshot.buildIfStale_cases current request.active request.force request.preferences with
    builds | ⟨keeps, _⟩
  · rw [builds] at brought
    cases brought
    exact Snapshot.built_build grown request.preferences
  · rw [keeps] at brought
    cases brought

namespace Session

/-- A session is sound when its browser is sound for some text and every answer that waits brings a
built snapshot. -/
structure Sound [Zone] (session : Session) : Prop where
  browser : ∃ text, Browser.Sound text session.browser
  built : ∀ answer ∈ session.worker.answers, answer.Built

/-- A session is sound at its start. -/
theorem sound_start (store : SettingsStore) (elevated : Bool) : (start store elevated).Sound where
  -- The browser starts sound, and there are no answers yet.
  browser := ⟨"", Browser.sound_start _ _ _ _⟩
  built _ impossible := by cases impossible

section Steps

variable {session : Session}

/-- A request keeps a session sound. -/
theorem Sound.request (sound : session.Sound) (force : Bool) : (session.request force).Sound :=
  -- Neither the browser nor the answers are touched.
  ⟨sound.browser, sound.built⟩

/-- Showing or hiding the tab keeps a session sound. -/
theorem Sound.showTab (sound : session.Sound) (visible : Bool) :
    (session.showTab visible).Sound := by
  -- The flag of the tab is no matter of the display, and a request changes nothing on it.
  apply showTab_cases
  · exact ⟨sound.browser, sound.built⟩
  · intro next shown
    exact shown.request false

/-- Another sound browser keeps a session sound. -/
theorem Sound.withBrowser (sound : session.Sound) {text : String} {browser : Browser}
    (other : browser.Sound text) : Sound { session with browser } :=
  ⟨⟨text, other⟩, sound.built⟩

/-- Time passing keeps a session sound. -/
theorem Sound.tick (sound : session.Sound) (elapsed : Duration) :
    (session.tick elapsed).2.Sound := by
  -- The browser lets time pass, and a request changes nothing on the display.
  obtain ⟨text, browser⟩ := sound.browser
  apply tick_cases
  · exact ⟨⟨text, browser.tick elapsed⟩, sound.built⟩
  · intro next passed
    exact passed.request false

/-- Taking in an answer that brings a built snapshot keeps a session sound. -/
theorem Sound.accept (sound : session.Sound) {answer : RefreshAnswer} (built : answer.Built)
    (now : FileTime) : (session.accept now answer).2.Sound := by
  -- A built snapshot is published, and an unchanged answer leaves the browser.
  cases answer with
  | built number snapshot forced =>
    obtain ⟨text, browser⟩ := sound.browser
    exact ⟨⟨text, browser.publish (built snapshot rfl) now⟩, sound.built⟩
  | unchanged number => exact ⟨sound.browser, sound.built⟩

/-- Taking in answers that bring built snapshots keeps a session sound. -/
theorem Sound.acceptAll (sound : session.Sound) {answers : List RefreshAnswer}
    (built : ∀ answer ∈ answers, answer.Built) (now : FileTime) :
    (session.acceptAll now answers).2.Sound := by
  -- The answers are taken in one after the other, each of them bringing a built snapshot.
  induction answers generalizing session with
  | nil => exact sound
  | cons answer rest ih =>
    obtain ⟨first, others⟩ := List.forall_mem_cons.mp built
    exact ih (sound.accept first now) others

/-- Collecting answers keeps a session sound. -/
theorem Sound.collect (sound : session.Sound) (now : FileTime) :
    (session.collect now).2.Sound := by
  -- The answers taken and those left behind were all waiting.
  rw [Session.collect]
  apply Sound.acceptAll
  · refine ⟨sound.browser, ?_⟩
    intro answer left
    exact sound.built answer (List.mem_of_mem_drop left)
  · intro answer taken
    exact sound.built answer (List.mem_of_mem_take taken)

/-- Looking for a text keeps a session sound. -/
theorem Sound.lookFor (sound : session.Sound) (sought : String) :
    (session.lookFor sought).2.Sound := by
  -- A text that is looked for already leaves the session as it is.
  obtain ⟨text, browser⟩ := sound.browser
  have viewed := browser.lookFor sought
  rw [Session.lookFor]
  cases changed : session.browser.lookFor? sought with
  | none => exact sound
  | some next =>
    rw [changed] at viewed
    exact sound.withBrowser viewed

/-- Sorting keeps a session sound. -/
theorem Sound.sortBy (sound : session.Sound) (sorting : Sorting) :
    (session.sortBy sorting).Sound := by
  -- Sorting is the browser's work; storing it touches the store only.
  obtain ⟨text, browser⟩ := sound.browser
  exact ⟨⟨text, browser.sortBy sorting⟩, sound.built⟩

/-- Showing or hiding a column keeps a session sound. -/
theorem Sound.showColumn (sound : session.Sound) (cls : PropertyClass) (visible : Bool) :
    (session.showColumn cls visible).2.Sound := by
  -- A request that changes nothing leaves the session as it is.
  obtain ⟨text, browser⟩ := sound.browser
  have viewed := browser.showColumn cls visible
  rw [Session.showColumn]
  cases changed : session.browser.showColumn? cls visible with
  | none => exact sound
  | some next =>
    rw [changed] at viewed
    exact ⟨⟨text, viewed⟩, sound.built⟩

/-- Setting a switch keeps a session sound. -/
theorem Sound.setToggle (sound : session.Sound) (toggle : Toggle) (on : Bool) :
    (session.setToggle toggle on).Sound := by
  -- New preferences are put into effect first, and matching or a request follows.
  obtain ⟨text, browser⟩ := sound.browser
  have preferred := browser.prefer (session.preferences.set toggle on)
  apply setToggle_cases
  · exact sound
  · intro _
    exact ⟨⟨text, preferred⟩, sound.built⟩
  · intro _
    exact ⟨⟨text, preferred.refilter⟩, sound.built⟩
  · intro _
    exact ⟨⟨text, preferred⟩, sound.built⟩

/-- Following up on a menu command keeps a session sound. -/
theorem Sound.follow (sound : session.Sound) (outcome : Outcome) :
    (session.follow outcome).Sound := by
  -- The switch comes first and then the request, as either of them may.
  apply follow_cases
  · intro _
    exact sound
  · intro toggle _
    exact sound.setToggle toggle _
  · intro next followed
    exact followed.request true

end Steps

/-! ## What leaves the view -/

/-- A tick only lets time pass for the browser, whether it asks for a snapshot or not. -/
theorem browser_tick (session : Session) (elapsed : Duration) :
    (session.tick elapsed).2.browser = (session.browser.tick elapsed).2 := by
  -- A request leaves the browser that the time has passed for.
  apply tick_cases (motive := fun next => next.browser = (session.browser.tick elapsed).2)
  · rfl
  · intro next passed
    exact passed

/-- Answers that bring no snapshot leave the browser. -/
theorem browser_acceptAll {session : Session} {now : FileTime} {answers : List RefreshAnswer}
    (silent : (session.acceptAll now answers).1 = none) :
    (session.acceptAll now answers).2.browser = session.browser := by
  -- No report means that each of the answers was an unchanged one.
  induction answers generalizing session with
  | nil => rfl
  | cons answer rest ih =>
    obtain ⟨later, first⟩ := Option.or_eq_none_iff.mp silent
    cases answer with
    | built number snapshot forced => cases first
    | unchanged number => exact ih later

/-- Following up on a command that flips no switch leaves the browser. -/
theorem browser_follow (session : Session) {outcome : Outcome} (flipless : outcome.toggle = none) :
    (session.follow outcome).browser = session.browser := by
  -- Without a switch at most a request is made.
  apply follow_cases (motive := fun next => next.browser = session.browser)
  · intro _
    rfl
  · intro toggle flipped
    rw [flipless] at flipped
    cases flipped
  · intro next followed
    exact followed

end Session

end DeviceBrowser
