/-! What can go wrong with the files and the worker of the program, and the texts that say so. -/

namespace DeviceBrowser

/-- The causes for which an operation on a file or on the worker fails. -/
inductive Fault where
  | settingsUnreadable
  | settingsMalformed
  | dumpUnreadable
  | dumpMalformed
  | workerNotStarted
  | exportNotOpened
  | exportNotWritten
deriving DecidableEq, Inhabited

/-- The text of a fault that arose at a path, with the text of its inner cause. -/
def Fault.message (path detail : String) : Fault → String
  | settingsUnreadable => "settings file " ++ path ++ ": " ++ detail
  | settingsMalformed => "settings file " ++ path ++ " is malformed: " ++ detail
  | dumpUnreadable => "device dump " ++ path ++ ": " ++ detail
  | dumpMalformed => "device dump " ++ path ++ " is malformed: " ++ detail
  | workerNotStarted => "failed to spawn refresh worker: " ++ detail
  | exportNotOpened => "export file " ++ path ++ ": " ++ detail
  | exportNotWritten => "export failed: " ++ detail

end DeviceBrowser
