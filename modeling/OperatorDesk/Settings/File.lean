/-
This file reads the settings from their file, with any decoder of texts. A decoder gives the
settings that a text holds, or says in its own words why it holds none. A text alone has no path, so
what is wrong with it is first said of a placeholder, which gives way to the path of the file that
the text was read from. A file that is named has to be there; the usual file need not be.
-/

import OperatorDesk.Places
import OperatorDesk.Settings.Yaml

namespace OperatorDesk.Settings

/-! ### Decoding a text -/

/-- The settings that a text holds, or what is wrong with it. -/
abbrev Decoder := String → Except String Settings

/-- The decoder that reads YAML. -/
def Yaml.decoder : Decoder := fun text =>
  match Yaml.ofChars? text.toList with
  | some settings => .ok settings
  | none => .error malformedDetails

/-- What stands for the path of a text that was not read from a file. -/
def inlinePath : String := "<inline>"

/-- The usable settings that a text holds. -/
def parse (decode : Decoder) (text : String) : Except StartupError Settings :=
  if Text.isBlankText text then .ok standard
  else
    match decode text with
    | .ok settings => settings.checked
    | .error details => .error (.settingsMalformed inlinePath details)

/-- The error, said of the file at a path. -/
def located (path : String) : StartupError → StartupError
  | .settingsMalformed _ details => .settingsMalformed path details
  | error => error

/-! ### Finding the file -/

/-- The settings in a file. -/
def ofFile (decode : Decoder) (files : Files) (path : String) : Except StartupError Settings :=
  match files.readText path with
  | .ok text => (parse decode text).mapError (located path)
  | .error .missing =>
    .error (.settingsNotFound path (some Files.ReadFailure.missing.message))
  | .error failure => .error (.fileFailure "reading config" path failure.message)

/-- Where settings come from. -/
inductive Source where
  /-- They were read from this file. -/
  | file (path : String)
  /-- There is no file at the usual place. -/
  | absent (path : String)
  deriving DecidableEq, Repr

/-- Where settings come from, given the file that was named, if one was. -/
def source (files : Files) : Option String → Source
  | some path => .file path
  | none =>
    let path := Places.settingsFile files.home
    if files.holds path then .file path else .absent path

/-- The settings to start with, given the file that was named, if one was. -/
def loadWith (decode : Decoder) (files : Files) (named : Option String) :
    Except StartupError Settings :=
  match source files named with
  | .file path => ofFile decode files path
  | .absent _ => .ok standard

/-- The settings to start with, read from YAML. -/
def load (files : Files) (named : Option String) : Except StartupError Settings :=
  loadWith Yaml.decoder files named

end OperatorDesk.Settings
