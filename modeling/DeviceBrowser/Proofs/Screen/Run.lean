import DeviceBrowser.Proofs.Session.Display
import DeviceBrowser.Screen

/-! Runs of a screen, in which its operations and the answers of the worker may come in any order.
-/

namespace DeviceBrowser.Screen

/-- One operation of the screen, or anything that its worker does meanwhile. The answers that arrive
may bring any built snapshots. -/
inductive Step [Zone] : Screen → Screen → Prop
  | work (screen : Screen) (worker : Worker) {arrived : List RefreshAnswer}
      (built : ∀ answer ∈ arrived, answer.Built)
      (waiting : worker.answers = screen.session.worker.answers ++ arrived) :
      Step screen { screen with session := { screen.session with worker } }
  | advance (screen : Screen) (now : FileTime) (elapsed : Duration) :
      Step screen (screen.advance now elapsed).2
  | toggleRow (screen : Screen) (position : Nat) : Step screen (screen.toggleRow position)
  | click (screen : Screen) (position : Nat) (extend : Bool) :
      Step screen (screen.click position extend)
  | clearSelection (screen : Screen) : Step screen screen.clearSelection
  | edit (screen : Screen) (searchText : String) : Step screen { screen with searchText }
  | search (screen : Screen) : Step screen screen.search
  | clickHeader (screen : Screen) (column : PropertyClass) :
      Step screen (screen.clickHeader column)
  | showColumn (screen : Screen) (cls : PropertyClass) (visible : Bool) :
      Step screen (screen.showColumn cls visible)
  | flip (screen : Screen) (toggle : Toggle) : Step screen (screen.flip toggle)
  | refresh (screen : Screen) : Step screen screen.refresh
  | openMenu (screen : Screen) (node : Nat) (column : Option PropertyClass) :
      Step screen (screen.openMenu node column)
  | closeMenu (screen : Screen) : Step screen screen.closeMenu
  | runCommand (screen : Screen) (menu : Menu) (command : Command) :
      Step screen (screen.runCommand menu command)
  | runOpenMenu (screen : Screen) (command : Command) : Step screen (screen.runOpenMenu command)
  | exportTo (screen : Screen) (path : String) (writable : Bool) :
      Step screen (screen.exportTo path writable).2

/-- The screens that runs lead to from that of a session that has just started. -/
inductive Reached [Zone] : Screen → Prop
  | start (store : SettingsStore) (elevated : Bool) : Reached (ofSession (.start store elevated))
  | step {screen next : Screen} (reached : Reached screen) (step : Step screen next) : Reached next

variable {screen : Screen}

/-- A right click is made of steps of the screen. -/
theorem Reached.rightClick [Zone] (reached : Reached screen) (position : Nat)
    (column : Option PropertyClass) : Reached (screen.rightClick position column) := by
  -- The row is clicked or not, and then the menu opens.
  rw [Screen.rightClick]
  split
  · split
    · exact reached.step (.openMenu _ _ _)
    · exact (reached.step (.click _ position false)).step (.openMenu _ _ _)
  · exact reached

end DeviceBrowser.Screen
