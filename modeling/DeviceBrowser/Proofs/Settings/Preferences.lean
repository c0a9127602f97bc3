import DeviceBrowser.Proofs.Table
import DeviceBrowser.Settings

/-! The preferences that settings hold, after a setting was stored: a switch stored under its name
is that switch set, and a name that no preference has changes none. -/

namespace DeviceBrowser

namespace Preferences

/-- What preferences say beside the switches. -/
def others (preferences : Preferences) : Bool × Bool × Duration × ColorScheme :=
  (preferences.showRoot, preferences.sortChildren, preferences.highlightFor, preferences.colors)

/-- Setting a switch leaves what is said beside the switches. -/
@[simp] theorem others_set (preferences : Preferences) (toggle : Toggle) (on : Bool) :
    (preferences.set toggle on).others = preferences.others := by
  -- Each switch has a field of its own.
  cases toggle <;> rfl

/-- Preferences are their switches and what is said beside them. -/
theorem ext_isOn {left right : Preferences}
    (switches : ∀ toggle, left.isOn toggle = right.isOn toggle)
    (beside : left.others = right.others) : left = right := by
  -- Each field is a switch or one of the four beside them.
  obtain ⟨showRoot, sortChildren, highlightFor, colors⟩ := by
    simpa only [others, Prod.mk.injEq] using beside
  cases left
  cases right
  simp only [mk.injEq]
  exact ⟨switches .autoRefresh, switches .showDisconnected, switches .showSoftwareComponents,
    switches .showInterfaces, switches .showDisabledInterfaces, switches .highlightUpperFiltered,
    switches .highlightLowerFiltered, showRoot, sortChildren, highlightFor, colors⟩

end Preferences

namespace Settings

variable (settings : Settings)

/-! ## Reading after a setting was stored -/

/-- A setting stored under one name leaves the integer under another. -/
theorem integer?_insert_ne {name other : String} (ne : other ≠ name) (setting : Setting) :
    integer? (settings.insert name setting) other = settings.integer? other := by
  -- The table is looked up by the name.
  rw [integer?, Table.find?_insert_ne settings ne, integer?]

/-- A setting stored under one name leaves the text under another. -/
theorem text?_insert_ne {name other : String} (ne : other ≠ name) (setting : Setting) :
    text? (settings.insert name setting) other = settings.text? other := by
  -- The table is looked up by the name.
  rw [text?, Table.find?_insert_ne settings ne, text?]

/-- A text that is stored under a name is the text there. -/
theorem text?_insert_text (name content : String) :
    text? (settings.insert name (.text content)) name = some content := by
  -- What is found is the text itself.
  rw [text?, Table.find?_insert_self]
  rfl

/-- A switch that is stored under a name is the switch there. -/
theorem flagOr_insert_self (name : String) (on otherwise : Bool) :
    flagOr (settings.insert name (flagSetting on)) name otherwise = on := by
  -- On is stored as one and off as zero, and only zero is read as off.
  rw [flagOr, flag?, integer?, Table.find?_insert_self]
  cases on <;> rfl

/-! ## Reading preferences -/

/-- No two switches are stored under one name. -/
theorem toggleName_inj {left right : Toggle} (same : toggleName left = toggleName right) :
    left = right := by
  -- The seven names are compared in pairs.
  cases left <;> cases right <;> first | rfl | simp [toggleName] at same

/-- Each switch of the preferences is read under its name. -/
theorem isOn_preferences (toggle : Toggle) : settings.preferences.isOn toggle =
    settings.flagOr (toggleName toggle) (Preferences.standard.isOn toggle) := by
  -- Each switch is read into the field that holds it.
  cases toggle <;> rfl

/-- The names of what preferences say beside the switches. -/
def otherNames : List String :=
  ["DeviceShowRoot", "DeviceSortChildrenByName", "DeviceHighlightingDuration",
    "DeviceProblemColor", "DeviceDisabledColor", "DeviceDisconnectedColor", "DeviceHighlightColor",
    "DeviceInterfaceColor", "DeviceDisabledInterfaceColor", "DeviceArrivedColor"]

/-- What preferences say beside the switches is read under the names for it. -/
theorem others_preferences {settings other : Settings}
    (agree : ∀ name ∈ otherNames, settings.integer? name = other.integer? name) :
    settings.preferences.others = other.preferences.others := by
  -- Each of these parts is read off an integer under one of the names.
  simp only [otherNames, List.forall_mem_cons] at agree
  simp only [Preferences.others, preferences, flagOr, flag?, durationOr, colorOr, agree]

/-- A setting under a name that no preference has leaves the preferences. -/
theorem preferences_insert {name : String} (noSwitch : ∀ toggle, toggleName toggle ≠ name)
    (noOther : name ∉ otherNames) (setting : Setting) :
    preferences (settings.insert name setting) = settings.preferences := by
  -- Every preference is read under its own name, which is another one.
  apply Preferences.ext_isOn
  · intro toggle
    simp only [isOn_preferences, flagOr, flag?, integer?_insert_ne settings (noSwitch toggle)]
  · apply others_preferences
    rintro other member
    apply integer?_insert_ne
    rintro rfl
    exact noOther member

/-- A switch stored under its name is that switch of the preferences set. -/
theorem preferences_insert_toggle (toggle : Toggle) (on : Bool) :
    preferences (settings.insert (toggleName toggle) (flagSetting on)) =
      settings.preferences.set toggle on := by
  apply Preferences.ext_isOn
  · intro other
    by_cases here : other = toggle
    · subst here
      rw [isOn_preferences, flagOr_insert_self, Preferences.isOn_set]
    · -- The setting is under the name of another switch.
      rw [Preferences.isOn_set_of_ne _ _ here, isOn_preferences, isOn_preferences, flagOr, flag?,
        integer?_insert_ne settings (fun same => here (toggleName_inj same)), flagOr, flag?]
  · rw [Preferences.others_set]
    apply others_preferences
    intro other member
    apply integer?_insert_ne
    -- No name beside the switches is that of a switch.
    rintro rfl
    revert member
    cases toggle <;> decide

end Settings

end DeviceBrowser
