/-
This file runs the program from its command line to its end: what is asked for, the log, the
settings, and the dashboard at a terminal. What it takes from the world is given, and what it
leaves is an outcome. The main function is `run`.
-/

import OperatorDesk.CommandLine.Reader
import OperatorDesk.Log.Filter
import OperatorDesk.Settings.File
import OperatorDesk.History.Json
import OperatorDesk.JsonValue.Printer
import OperatorDesk.Shell.Journal
import OperatorDesk.Terminal.Typed
import OperatorDesk.Watch

namespace OperatorDesk

/-- A terminal, with what happens at it. -/
structure WatchedTerminal where
  width : Nat
  height : Nat
  happenings : List Happening
  deriving DecidableEq, Repr

namespace WatchedTerminal

/-- A terminal into which a text is typed at once. -/
def typing (width height : Nat) (typed : String) : WatchedTerminal :=
  { width, height, happenings := (Terminal.eventsOf typed).map Happening.heard }

/-- All that happens: the size of the terminal is heard first. -/
def all (terminal : WatchedTerminal) : List Happening :=
  .heard (.resize terminal.width terminal.height) :: terminal.happenings

end WatchedTerminal

/-- What the program takes from the world. -/
structure Surroundings where
  files : Files
  /-- The filter of the log, if one is given. -/
  filterText : Option String
  /-- The terminal, or why there is none. -/
  terminal : Except String WatchedTerminal

/-- What the program leaves. -/
structure RunOutcome where
  code : Nat
  output : String
  /-- The lines of the error output. -/
  complaints : List String
  /-- The directory of logs, if the log was set up. -/
  logDirectory : Option String
  /-- The records that reached the log. -/
  log : List LogRecord
  files : Files

namespace Startup

/-! ### The names of the parts in the log -/

/-- The name of the program. -/
def programTarget : String := "admiral"

/-- The name of the log itself. -/
def loggingTarget : String := "admiral_core::logging"

/-- The name of the settings. -/
def settingsTarget : String := "admiral_core::config"

/-- The name of the gate. -/
def gateTarget : String := "admiral_gate::gate"

/-- The name of the desk. -/
def deskTarget : String := "admiral_tui::app"

/-! ### Records -/

/-- The log is set up. -/
def loggingRecord (options : LogOptions) (directory : String) : LogRecord :=
  .saying .debug loggingTarget "logging initialized"
    [("log_dir", .ofText directory), ("verbose", .bool options.verbose),
      ("console", .bool options.console)]

/-- Where the settings come from. -/
def sourceRecord : Settings.Source → LogRecord
  | .file path => .saying .info settingsTarget "loaded configuration" [("path", .ofText path)]
  | .absent path =>
    .saying .debug settingsTarget "no config file, using defaults" [("path", .ofText path)]

/-- The gate is there. -/
def gateRecord (gate : Gate) (timeoutSeconds : Option Nat) : LogRecord :=
  .saying .debug gateTarget "question gate created"
    (("capacity", .ofNat gate.settings.capacity) ::
      match timeoutSeconds with
      | some seconds => [("default_timeout_secs", .ofNat seconds)]
      | none => [])

/-- The gate is shut down, unless it was before. -/
def shutdownRecords (gate : Gate) : List LogRecord :=
  if gate.closed then []
  else
    [.saying .info gateTarget "question gate shut down"
      [("outstanding", .ofNat gate.pendingCount)]]

/-- What was answered. -/
def historyRecords (history : List Record) : List LogRecord :=
  [.saying .info programTarget "Question history at exit" [("answered", .ofNat history.length)],
    .saying .debug programTarget "Answered questions"
      [("history", .ofText (JsonValue.array (history.map Record.toJson)).text)]]

/-- What is told of an event at the desk. -/
def eventRecords {Picture : Type} (desk : Desk Picture) (event : Event) : List LogRecord :=
  let (shell, action) := desk.shell.update event
  desk.shell.journal shell ++
    if action = some .quit then
      .saying .info deskTarget "Shutting down question gate"
        [("waiting", .ofNat desk.gate.pendingCount)] :: shutdownRecords desk.gate
    else []

/-- What is told of a happening. -/
def happeningRecords (watch : Watch) (happening : Happening) : List LogRecord :=
  match happening with
  | .elapsed _ => watch.shell.journal (watch.next happening).shell
  | .heard event => eventRecords watch.desk event

/-! ### The dashboard -/

/-- Goes through happenings until the operator quits. Gives the watch in the end and what is told
of it. -/
def attend (watch : Watch) : List Happening → Watch × List LogRecord
  | [] => (watch, [])
  | happening :: rest =>
    if watch.isOver then (watch, [])
    else
      let (last, records) := attend (watch.next happening) rest
      (last, happeningRecords watch happening ++ records)

/-- What is told of a gate when the dashboard is left. -/
def leavingRecords (gate : Gate) : List LogRecord :=
  shutdownRecords gate ++ historyRecords gate.history

/-- Runs the dashboard, and shuts the gate down in the end. Gives the error, if there is one, and
what is told. -/
def dashboard (watch : Watch) (terminal : Except String WatchedTerminal) :
    Option String × List LogRecord :=
  match terminal with
  | .error details => (some details, leavingRecords watch.crew.gate)
  | .ok terminal =>
    let (last, records) := attend watch terminal.all
    (none, records ++ leavingRecords last.crew.gate)

/-- The code of a program that breaks off. -/
def breakOffCode : Nat := 101

/-- What is said of a gate that cannot be there. -/
def tooManySlots : String :=
  "a semaphore may not have more than MAX_PERMITS permits (" ++
    toString GateSettings.greatestCapacity ++ ")"

/-- Runs the program with its settings. Gives the code, the lines of the error output, and what is
told. -/
def runWith (options : RunOptions) (settings : Settings)
    (terminal : Except String WatchedTerminal) : Nat × List String × List LogRecord :=
  let started :=
    .saying .info programTarget "Starting ADMIRAL dashboard" [("demo", .bool options.demo)]
  match Watch.start? settings options.demo with
  | none => (breakOffCode, [tooManySlots], [started])
  | some watch =>
    let (failure, records) := dashboard watch terminal
    let records :=
      started :: gateRecord watch.crew.gate settings.questionTimeoutSeconds :: records
    match failure with
    | none =>
      (0, [], records ++ [.saying .info programTarget "ADMIRAL dashboard exited normally" []])
    | some details =>
      (1, ["Error: " ++ details],
        records ++ [.saying .error programTarget ("ADMIRAL dashboard error: " ++ details) []])

/-! ### The program -/

/-- An outcome before the log is set up. -/
def early (files : Files) (code : Nat) (output : String) (complaints : List String) :
    RunOutcome :=
  { code, output, complaints, logDirectory := none, log := [], files }

/-- The lines that tell why the program does not start. -/
def refusalLines (failure : StartupError) : List String :=
  ("Error: " ++ failure.message) ::
    match failure.hint? with
    | some hint => ["Hint: " ++ hint]
    | none => []

/-- Reads the settings and runs the program with them. -/
def runLogged (surroundings : Surroundings) (files : Files) (options : RunOptions) :
    Nat × List String × List LogRecord :=
  match Settings.load files options.settingsPath with
  | .error failure =>
    (2, refusalLines failure,
      [.saying .error programTarget ("Configuration error: " ++ failure.message) []])
  | .ok settings =>
    let (code, complaints, records) := runWith options settings surroundings.terminal
    (code, complaints, sourceRecord (Settings.source files options.settingsPath) :: records)

/-- How the log is set up: the terminal belongs to the dashboard. -/
def logOptions (options : RunOptions) : LogOptions :=
  { directory := options.logDirectory, verbose := options.verbose, console := false }

/-- Sets the log up and runs the program. -/
def start (surroundings : Surroundings) (options : RunOptions) : RunOutcome :=
  let logOptions := logOptions options
  match logOptions.prepare surroundings.files with
  | .error failure =>
    early surroundings.files 1 "" ["Failed to initialize logging: " ++ failure.message]
  | .ok files =>
    let directory := logOptions.directoryIn files
    let filter := LogFilter.chosen surroundings.filterText options.verbose
    let (code, complaints, records) := runLogged surroundings files options
    { code, output := "", complaints, logDirectory := some directory
      log := (loggingRecord logOptions directory :: records).filter filter.admits, files }

/-- Does what the command line asks for. -/
def run (surroundings : Surroundings) (arguments : List String) : RunOutcome :=
  match CommandLine.read arguments with
  | .error error => early surroundings.files 2 "" error.lines
  | .ok .showHelp => early surroundings.files 0 CommandLine.helpText []
  | .ok .showVersion => early surroundings.files 0 CommandLine.versionText []
  | .ok (.run options) => start surroundings options

/-- The watch that a command line begins, if it comes so far. -/
def watch? (files : Files) (arguments : List String) : Option Watch := do
  let .run options ← (CommandLine.read arguments).toOption | none
  let files ← ((logOptions options).prepare files).toOption
  let settings ← (Settings.load files options.settingsPath).toOption
  Watch.start? settings options.demo

end Startup

end OperatorDesk
