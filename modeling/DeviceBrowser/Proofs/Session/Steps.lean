import DeviceBrowser.Session

/-! What a step of a session can come down to. What holds of a session after a step is shown for
each of these ways, and for a request that may follow. -/

namespace DeviceBrowser.Session

variable {session : Session} {motive : Session → Prop}

/-- Showing or hiding the tab may ask for a snapshot. -/
theorem showTab_cases {visible : Bool} (shown : motive { session with tabVisible := visible })
    (asks : ∀ next, motive next → motive (next.request false)) :
    motive (session.showTab visible) := by
  -- Only a tab that comes into view asks.
  rw [showTab]
  split
  · exact asks _ shown
  · exact shown

/-- Hearing of a change may ask for a snapshot. -/
theorem notify_cases (same : motive session)
    (asks : ∀ next, motive next → motive (next.request false)) : motive session.notify.2 := by
  -- Only a visible tab that refreshes by itself asks.
  rw [notify]
  split
  · exact asks _ same
  · exact same

/-- Letting time pass may ask for a snapshot. -/
theorem tick_cases {elapsed : Duration}
    (passed : motive { session with
      browser := (session.browser.tick elapsed).2
      sinceRefresh := session.sinceRefresh.addCapped elapsed })
    (asks : ∀ next, motive next → motive (next.request false)) :
    motive (session.tick elapsed).2 := by
  -- Only a visible tab that refreshes by itself, has waited and has no request on its way asks.
  rw [tick]
  simp only
  split
  · exact asks _ passed
  · exact passed

/-- Setting a switch changes nothing, or what its effect asks for follows upon it. -/
theorem setToggle_cases [Zone] {toggle : Toggle} {on : Bool} (same : motive session)
    (rebuild : toggle.effect = .rebuild → motive
      (((session.save (Settings.toggleName toggle) (Settings.flagSetting on)).prefer
        (session.preferences.set toggle on)).request true))
    (redraw : toggle.effect = .redraw → motive
      ((session.save (Settings.toggleName toggle) (Settings.flagSetting on)).prefer
        (session.preferences.set toggle on)).redraw)
    (nothing : toggle.effect = .nothing → motive
      ((session.save (Settings.toggleName toggle) (Settings.flagSetting on)).prefer
        (session.preferences.set toggle on))) :
    motive (session.setToggle toggle on) := by
  -- A switch that is set already is left alone.
  rw [setToggle]
  split
  · exact same
  · cases effect : toggle.effect with
    | rebuild => exact rebuild effect
    | redraw => exact redraw effect
    | nothing => exact nothing effect

/-- Following up on a menu command may flip a switch, and may ask for a snapshot after that. -/
theorem follow_cases [Zone] {outcome : Outcome} (same : outcome.toggle = none → motive session)
    (flips : ∀ toggle, outcome.toggle = some toggle → motive (session.flip toggle))
    (asks : ∀ next, motive next → motive (next.request true)) :
    motive (session.follow outcome) := by
  -- Whether there is a switch is asked first, and whether to republish is asked of what came of it.
  cases flipped : outcome.toggle with
  | none =>
    simp only [follow, flipped]
    split
    · exact asks _ (same flipped)
    · exact same flipped
  | some toggle =>
    simp only [follow, flipped]
    split
    · exact asks _ (flips toggle flipped)
    · exact flips toggle flipped

end DeviceBrowser.Session
