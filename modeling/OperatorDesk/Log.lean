/-
This file defines the records of the program's log, which are written as JSON objects, one to a
line, and what has to be there before the first of them is written.
-/

import OperatorDesk.JsonValue.Printer
import OperatorDesk.Places
import OperatorDesk.StartupError

namespace OperatorDesk

/-- How weighty a record is. -/
inductive LogLevel where
  | error
  | warn
  | info
  | debug
  | trace
  deriving DecidableEq, Repr

/-- The name of a level in the log. -/
def LogLevel.name : LogLevel → String
  | .error => "ERROR"
  | .warn => "WARN"
  | .info => "INFO"
  | .debug => "DEBUG"
  | .trace => "TRACE"

/-- The rank of a level: the weightiest comes first. -/
def LogLevel.rank : LogLevel → Nat
  | .error => 1
  | .warn => 2
  | .info => 3
  | .debug => 4
  | .trace => 5

/-- A record of the log. -/
structure LogRecord where
  level : LogLevel
  /-- The part of the program that wrote it. -/
  target : String
  fields : List (String × JsonValue)
  deriving Repr

namespace LogRecord

/-- A record with its message and the fields beside it. -/
def saying (level : LogLevel) (target message : String)
    (fields : List (String × JsonValue)) : LogRecord :=
  { level, target, fields := ("message", .ofText message) :: fields }

/-- A record as a JSON value. -/
def toJson (record : LogRecord) : JsonValue :=
  .record [("level", .ofText record.level.name), ("fields", .record record.fields),
    ("target", .ofText record.target)]

/-- The line of a record. -/
def line (record : LogRecord) : String :=
  record.toJson.text

end LogRecord

/-! ### Setting up -/

/-- How the log is set up. -/
structure LogOptions where
  /-- The directory of logs, unless it is the usual one. -/
  directory : Option String
  verbose : Bool
  /-- The log is written to the terminal as well. -/
  console : Bool
  deriving DecidableEq, Repr

namespace LogOptions

/-- The options where nothing is set. -/
def standard : LogOptions :=
  { directory := none, verbose := false, console := false }

/-- The directory of logs. -/
def directoryIn (options : LogOptions) (files : Files) : String :=
  options.directory.getD (Places.logDirectory files.home)

/-- Makes the directory of logs. -/
def prepare (options : LogOptions) (files : Files) : Except StartupError Files :=
  let path := options.directoryIn files
  match files.makeDirectory? path with
  | some files => .ok files
  | none => .error (.directoryFailure path Files.ReadFailure.notDirectory.message)

/-- What is said when the log is set up a second time. -/
def secondLogDetails : String :=
  "tracing subscriber already set: a global default trace dispatcher has already been set"

/-- Sets the log up in a program that may already write one. The directory is made in any
case. -/
def setUp (options : LogOptions) (running : Bool) (files : Files) :
    Except StartupError Unit × Files :=
  match options.prepare files with
  | .error failure => (.error failure, files)
  | .ok files =>
    if running then (.error (.internal secondLogDetails), files) else (.ok (), files)

end LogOptions

end OperatorDesk
