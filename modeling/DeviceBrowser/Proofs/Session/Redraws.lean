import DeviceBrowser.Proofs.Session.Convergence

/-! Drawing anew is enough where no snapshot is asked for: a change of the preferences that sends no
request leaves every snapshot as it would be built, so that the tree on display is outdated only
while a new one is on its way. -/

namespace DeviceBrowser

/-- Requests of which none is forced lead to preferences that ask for the same tree. -/
theorem RefreshRequest.Lead.sameTree {start goal : Preferences} {requests : List RefreshRequest}
    (lead : Lead start goal requests) (unforced : ∀ request ∈ requests, request.force = false) :
    start.SameTree goal := by
  -- A request that is not forced keeps the tree, and so all along the way one tree is asked for.
  induction requests generalizing start with
  | nil => exact lead
  | cons request rest ih =>
    obtain ⟨first, others⟩ := List.forall_mem_cons.mp unforced
    have toRequest : start.SameTree request.preferences := by simpa [first] using lead.1
    exact toRequest.trans (ih lead.2 others)

/-- Answers that bring no snapshot leave the one on display. -/
theorem RefreshAnswer.latest_of_silent {active : Option Snapshot} {answers : List RefreshAnswer}
    (silent : ∀ answer ∈ answers, answer.snapshot? = none) : latest active answers = active := by
  -- Each answer in turn leaves what the ones before it left.
  induction answers generalizing active with
  | nil => rfl
  | cons answer rest ih =>
    obtain ⟨first, others⟩ := List.forall_mem_cons.mp silent
    rw [latest, List.foldl_cons, first]
    exact ih others

namespace Session

/-- A session is up to date when the snapshot on display is the one that its preferences make of the
edition. -/
def UpToDate [Zone] (session : Session) : Prop :=
  ∀ snapshot, session.browser.snapshot? = some snapshot →
    snapshot = Snapshot.build snapshot.edition session.preferences

/-- Between two of its states a session forced a request under its new preferences; or it asked for
nothing and kept the snapshot on display, and of every edition the new preferences make the snapshot
that the old ones made. -/
def Refreshes [Zone] (before after : Session) : Prop :=
  (∃ request : RefreshRequest, request.force = true ∧ request.preferences = after.preferences ∧
    after.worker = before.worker.submit request) ∨
  (after.worker = before.worker ∧ after.browser.snapshot? = before.browser.snapshot? ∧
    ∀ edition, Snapshot.build edition after.preferences =
      Snapshot.build edition before.preferences)

/-- A step that keeps up with the preferences forces a request where the tree may be another. -/
theorem KeepsUp.refreshes [Zone] {before after : Session} (keeps : before.KeepsUp after) :
    before.Refreshes after := by
  -- The request that is forced is made of what is in effect after the calm change.
  rcases keeps with ⟨next, calm, rfl⟩ | ⟨calm, same⟩
  · left
    refine ⟨⟨next.requested + 1, true, next.preferences, next.browser.stage.edition?⟩, rfl, rfl, ?_⟩
    rw [← calm.worker]
    rfl
  · exact .inr ⟨calm.worker, calm.snapshot, same.symm.build_eq⟩

end Session

namespace System

/-- A snapshot is on its way: a forced request waits or is being worked on, or an answer that brings
a snapshot is held back or waits to be collected. -/
def Awaits (system : System) : Prop :=
  (∃ request ∈ system.worker.working.toList ++ system.worker.queue, request.force = true) ∨
    ∃ answer ∈ system.worker.answers ++ system.outgoing.toList, ∃ snapshot,
      answer.snapshot? = some snapshot

/-- A run leaves a session up to date, unless a snapshot is on its way. -/
theorem Reachable.upToDate [Zone] {system : System} (reachable : system.Reachable)
    (awaitsNone : ¬ system.Awaits) : system.session.UpToDate := by
  simp only [Awaits, not_or, not_exists, not_and, Bool.not_eq_true] at awaitsNone
  obtain ⟨unforced, silent⟩ := awaitsNone
  -- The newest snapshot is the one on display, and the requests that wait keep the tree it was
  -- built for.
  obtain ⟨start, lead, isBuilt⟩ := reachable.sound.traffic.built
  have newest : system.traffic.newest = system.session.browser.snapshot? :=
    RefreshAnswer.latest_of_silent fun answer member =>
      Option.eq_none_iff_forall_ne_some.mpr (silent answer member)
  have same : start.SameTree system.session.preferences := lead.sameTree unforced
  intro snapshot displayed
  rw [← same.build_eq]
  exact isBuilt snapshot (newest.trans displayed)

/-- No new snapshot is left out that is needed. Preferences that do not ask for another tree have
the same snapshot built of every edition, and so do preferences before and after the flip of a
switch that does not ask for a new tree. Setting a switch and reloading the stored preferences force
a request, or every snapshot is built as before. In every run the tree on display is therefore the
one that the preferences in effect make of its edition, unless a snapshot is on its way. -/
theorem redraws_suffice [Zone] :
    (∀ left right : Preferences, left.asksOtherTree right = false →
      ∀ edition, Snapshot.build edition left = Snapshot.build edition right) ∧
    (∀ toggle : Toggle, toggle.effect ≠ .rebuild → ∀ preferences edition,
      Snapshot.build edition (preferences.set toggle (!preferences.isOn toggle)) =
        Snapshot.build edition preferences) ∧
    (∀ session : Session, (∀ toggle on, session.Refreshes (session.setToggle toggle on)) ∧
      session.Refreshes session.reload) ∧
    ∀ system : System, system.Reachable → system.Awaits ∨ system.session.UpToDate := by
  -- Building is blind to what the preferences do not compare, and the steps of a session rely on
  -- no more than that.
  refine ⟨?_, ?_, ?_, ?_⟩
  · intro left right same
    exact Preferences.SameTree.build_eq same
  · intro toggle noRebuild preferences
    exact (Preferences.sameTree_set noRebuild preferences _).symm.build_eq
  · intro session
    exact ⟨fun toggle on => (session.keepsUp_setToggle toggle on).refreshes,
      session.keepsUp_reload.refreshes⟩
  · intro system reachable
    exact or_iff_not_imp_left.mpr reachable.upToDate

/-- With three devices on display, turning on the highlighting of upper filters sends no request and
leaves the display up to date. Other colors leave every snapshot. -/
theorem redraws_suffice_highlighted :
    (∃ system : System, system.Reachable ∧ ¬ system.Awaits ∧
      system.session.browser.snapshot?.map (·.size) = some 3 ∧
      system.session.preferences.highlightUpperFiltered = true ∧ system.session.UpToDate) ∧
    let recolored : Preferences :=
      { Preferences.standard with colors := { ColorScheme.standard with problem := ⟨0, 0, 0⟩ } }
    recolored ≠ .standard ∧
      ∀ edition, Snapshot.build edition recolored = Snapshot.build edition .standard := by
  refine ⟨?_, by decide, redraws_suffice.1 _ _ (by decide)⟩
  let highlighted := refreshed.setToggle .highlightUpperFiltered true
  obtain ⟨seen, reachable⟩ := reachable_refreshed
  have flipped : Reachable ⟨highlighted, replaced, none, seen⟩ := reachable.step (.setToggle _ _ _)
  -- All requests had been answered before, and the switch makes none.
  have awaitsNone : ¬ Awaits ⟨highlighted, replaced, none, seen⟩ := by
    rintro (⟨request, impossible, _⟩ | ⟨answer, impossible, _⟩) <;> cases impossible
  have size : highlighted.browser.snapshot?.map (·.size) = some 3 := by decide +kernel
  have isOn : highlighted.preferences.highlightUpperFiltered = true := by decide +kernel
  exact ⟨_, flipped, awaitsNone, size, isOn,
    (redraws_suffice.2.2.2 _ flipped).resolve_left awaitsNone⟩

end System

end DeviceBrowser
