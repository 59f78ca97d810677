/-
This file names what can keep the program from starting or from holding the terminal: settings
that are missing, malformed or unusable, directories and files that cannot be read or made, and
the terminal itself. Each error has a wording and, where there is advice to give, a hint.
-/

namespace OperatorDesk

/-- Why the program cannot start or go on. -/
inductive StartupError where
  /-- The settings file does not exist; the reason is the system's, if it was asked. -/
  | settingsNotFound (path : String) (cause : Option String)
  /-- The settings file does not describe settings. -/
  | settingsMalformed (path details : String)
  /-- The settings hold a value that cannot be used. -/
  | settingsUnusable (details : String)
  /-- A file operation failed. -/
  | fileFailure (operation path cause : String)
  /-- A directory could not be made. -/
  | directoryFailure (path cause : String)
  | terminalEntry (details : String)
  | terminalRestore (details : String)
  /-- A fault of the program. -/
  | internal (details : String)
  deriving DecidableEq, Repr

namespace StartupError

/-- The error in words. -/
def message : StartupError → String
  | .settingsNotFound path _ => "Configuration not found at " ++ path
  | .settingsMalformed path details => "Invalid configuration at " ++ path ++ ": " ++ details
  | .settingsUnusable details => "Configuration validation failed: " ++ details
  | .fileFailure operation path _ => "I/O error " ++ operation ++ ": " ++ path
  | .directoryFailure path _ => "Failed to create directory: " ++ path
  | .terminalEntry details => "Terminal initialization failed: " ++ details
  | .terminalRestore details => "Failed to restore terminal: " ++ details
  | .internal details => "Internal error: " ++ details

/-- The program has to end. -/
def isFatal : StartupError → Bool
  | .terminalEntry _ => true
  | .internal _ => true
  | _ => false

/-- The settings are at fault. -/
def isSettingsError : StartupError → Bool
  | .settingsNotFound _ _ => true
  | .settingsMalformed _ _ => true
  | .settingsUnusable _ => true
  | _ => false

/-- What the operator can do about it. -/
def hint? : StartupError → Option String
  | .settingsNotFound _ _ =>
    some "Create ~/.admiral/config.yaml or omit --config to use defaults"
  | .settingsMalformed _ _ => some "Check YAML syntax in the configuration file"
  | .settingsUnusable _ =>
    some "Capacity, layout threshold, and tick rate must all be greater than zero"
  | .directoryFailure _ _ => some "Pass --log-dir to use a writable directory"
  | .terminalEntry _ => some "Try running in a different terminal"
  | _ => none

/-- The words of the failure behind this one. -/
def cause? : StartupError → Option String
  | .settingsNotFound _ cause => cause
  | .fileFailure _ _ cause => some cause
  | .directoryFailure _ cause => some cause
  | _ => none

end StartupError

end OperatorDesk
