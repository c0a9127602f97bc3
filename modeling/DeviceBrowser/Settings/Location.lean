/-! The location of the settings file when none is given. -/

namespace DeviceBrowser

/-- A path followed by the name of an entry of that directory. -/
def pathJoin (directory name : String) : String :=
  if directory.isEmpty then name
  else if directory.endsWith "/" then directory ++ name
  else directory ++ "/" ++ name

/-- The settings file of a user: in the directory for configuration, if one is named, else in the
usual one below the home directory, and in the working directory as a last resort. -/
def settingsPath (configuration home : Option String) : String :=
  let base := configuration.or (home.map fun directory => pathJoin directory ".config")
  pathJoin ((base.map fun directory => pathJoin directory "devsleuth").getD "") "settings.json"

end DeviceBrowser
