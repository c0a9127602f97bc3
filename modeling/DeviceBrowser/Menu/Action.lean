/-! Actions on devices: what the menu can ask the system to do, how the system refuses, and a system
that supports none of them. -/

namespace DeviceBrowser

/-- The parts of the system's configuration that hold a device's settings. -/
inductive KeyArea where
  | hardware
  | software
  | user
  | config
deriving DecidableEq, Inhabited

namespace KeyArea

/-- Every area, in the order of the menu. -/
def all : List KeyArea := [hardware, software, user, config]

/-- The label of an area. -/
def label : KeyArea → String
  | hardware => "Hardware"
  | software => "Software"
  | user => "User"
  | config => "Config"

end KeyArea

/-- Something asked of the system for a device, a service or the clipboard. -/
inductive Action where
  | enable (id : String)
  | disable (id : String)
  | restart (id : String)
  | uninstall (id : String)
  | openKey (id : String) (area : KeyArea)
  | showProperties (id : String)
  | goToService (service : String)
  | copy (text : String)
deriving DecidableEq

/-- Why an action was not done. -/
inductive ActionError where
  | accessDenied
  | unsupported (what : String)
  | failed (text : String)
deriving DecidableEq

/-- The text of an action's error. -/
def ActionError.message : ActionError → String
  | accessDenied => "access denied"
  | unsupported what => what ++ " is not supported on this platform"
  | failed text => text

/-- A system that performs actions. Its answer may depend on all that was asked before, which is
what `σ` remembers. -/
structure Actions (σ : Type) where
  perform : Action → σ → Option ActionError × σ

namespace Actions

/-- The name of an action that is not supported. -/
def unsupportedName : Action → Option String
  | .enable _ => some "enable"
  | .disable _ => some "disable"
  | .restart _ => some "restart"
  | .uninstall _ => some "uninstall"
  | .openKey _ _ => some "open key"
  | .showProperties _ => some "properties"
  | .goToService _ => some "go to service"
  | .copy _ => none

/-- A system that can only copy to the clipboard, whose text it remembers. -/
def clipboardOnly : Actions (Option String) where
  perform action clipboard :=
    match action, unsupportedName action with
    | .copy text, _ => (none, some text)
    | _, some name => (some (.unsupported name), clipboard)
    | _, none => (none, clipboard)

end Actions

end DeviceBrowser
