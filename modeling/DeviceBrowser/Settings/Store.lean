import DeviceBrowser.Settings
import DeviceBrowser.View.Columns
import DeviceBrowser.View.Sorting

/-! Stores of settings: in memory only, or behind a file that is written when settings changed. -/

namespace DeviceBrowser

open Text

/-- What stands at the path of a settings file. At a vacant place a file can be made; where a file
stands in the way of a directory above it, none can. -/
inductive Place where
  | vacant
  | file (content : String)
  | directory
  | obstructed
deriving DecidableEq

namespace Place

/-- The text of the file at a place. -/
def text? : Place → Option String
  | file content => some content
  | _ => none

/-- The place after its file was removed; anything else stays. -/
def withoutFile : Place → Place
  | file _ => vacant
  | other => other

end Place

/-- What comes of an attempt to write a file: the directories above it cannot be made, writing
breaks off and leaves something at the place, or the file is written. -/
inductive Attempt where
  | noDirectory
  | brokenOff (left : Place)
  | written
deriving DecidableEq

/-- What comes of an attempt to write at a place if nothing but the place hinders it. -/
def Place.attempt : Place → Attempt
  | vacant => .written
  | file _ => .written
  | directory => .brokenOff directory
  | obstructed => .noDirectory

/-- Settings and the place where they are kept. A store in memory has none; one with a place
remembers whether settings changed since they were last written. -/
structure SettingsStore where
  settings : Settings
  place : Option Place
  changed : Bool

namespace SettingsStore

/-- A store in memory. -/
def inMemory (settings : Settings) : SettingsStore := ⟨settings, none, false⟩

/-- Opens the settings at a place with a library. A missing file and a blank one hold no
settings. -/
def openWith (library : JsonLibrary) (place : Place) : Except Fault SettingsStore :=
  match place with
  | .vacant => .ok ⟨.empty, some place, false⟩
  | .file content =>
    if isBlankText content then .ok ⟨.empty, some place, false⟩
    else match Settings.ofDocumentWith? library content with
      | some settings => .ok ⟨settings, some place, false⟩
      | none => .error .settingsMalformed
  | .directory => .error .settingsUnreadable
  | .obstructed => .error .settingsUnreadable

/-- Opens the settings at a place. -/
def openAt (place : Place) : Except Fault SettingsStore := openWith .standard place

/-- Stores a setting. -/
def put (store : SettingsStore) (name : String) (setting : Setting) : SettingsStore :=
  { store with settings := store.settings.insert name setting, changed := true }

/-- Writes changed settings to their place with a library, and with what comes of the attempt. When
that fails they stay changed. -/
def flushWith (library : JsonLibrary) (store : SettingsStore) (attempt : Attempt) :
    Except Fault Unit × SettingsStore :=
  match store.place with
  | none => (.ok (), { store with changed := false })
  | some _ =>
    if store.changed then
      match attempt with
      | .noDirectory => (.error .settingsUnreadable, store)
      | .brokenOff left => (.error .settingsUnreadable, { store with place := some left })
      | .written =>
        let written := Place.file (library.print store.settings.rows)
        (.ok (), { store with place := some written, changed := false })
    else (.ok (), store)

/-- Writes changed settings to their place, with what comes of the attempt. -/
def flushBy (store : SettingsStore) (attempt : Attempt) : Except Fault Unit × SettingsStore :=
  store.flushWith .standard attempt

/-- What comes of an attempt to write a store if nothing but its place hinders it. -/
def attempt (store : SettingsStore) : Attempt :=
  (store.place.map Place.attempt).getD .written

/-- Writes changed settings to their place. -/
def flush (store : SettingsStore) : Except Fault Unit × SettingsStore :=
  store.flushBy store.attempt

/-- The store after an attempt to write it, whatever came of that. -/
def flushed (store : SettingsStore) : SettingsStore := store.flush.2

/-- Closes a store, which writes it with what comes of the attempt, and opens its place again. One
in memory starts empty. -/
def reopenBy (store : SettingsStore) (attempt : Attempt) : Except Fault SettingsStore :=
  match (store.flushBy attempt).2.place with
  | some place => openAt place
  | none => .ok (inMemory .empty)

/-- Closes a store and opens its place again. -/
def reopen (store : SettingsStore) : Except Fault SettingsStore := store.reopenBy store.attempt

/-- The store with its place changed by someone else. -/
def disturb (store : SettingsStore) (change : Place → Place) : SettingsStore :=
  { store with place := store.place.map change }

/-- The preferences in a store. -/
def preferences (store : SettingsStore) : Preferences := store.settings.preferences

/-- The columns in a store. -/
def columns (store : SettingsStore) : Columns :=
  match store.settings.text? Settings.columnsName with
  | some setting => .ofSetting setting
  | none => .standard

/-- The sorting in a store. -/
def sorting (store : SettingsStore) : Sorting :=
  match store.settings.text? Settings.sortName with
  | some setting => .ofSetting setting
  | none => .standard

end SettingsStore

end DeviceBrowser
