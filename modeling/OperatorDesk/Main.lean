/-
This file is the program itself. It looks at the files that the command line names, lets the
operator keep the watch at the terminal, and carries out what the run leaves. The terminal is read
by lines: the characters of a line are typed one after another, and an empty line is the Enter key.
-/

import OperatorDesk.Startup
import OperatorDesk.Desk.Drawing

namespace OperatorDesk.Main

/-! ### Files -/

/-- What stands under a name. What cannot be looked into counts as a directory. -/
def nodeAt? (name : String) : IO (Option FileNode) := do
  let path := (← IO.currentDir) / name
  if !(← path.pathExists) then return none
  try return some (.file (← IO.FS.readBinFile path))
  catch _ => return some (.directory [])

/-- The tree with what stands on the way along the parts of a name. -/
def survey (files : Files) (place : List String) : List String → IO Files
  | [] => return files
  | part :: rest => do
    let next := Files.stepTo place part
    if (files.root.at? next).isSome then survey files next rest
    else
      match ← nodeAt? ("/" ++ "/".intercalate next) with
      | some node => survey { files with root := files.root.put next node } next rest
      | none => return files

/-- The names that a run begins with: its settings and its directory of logs. -/
def namesFor (home : String) (arguments : List String) : List String :=
  match CommandLine.read arguments with
  | .ok (.run options) =>
    [options.settingsPath.getD (Places.settingsFile home),
      options.logDirectory.getD (Places.logDirectory home)]
  | _ => []

/-- The files that a run begins with. -/
def filesFor (arguments : List String) : IO Files := do
  let current := (Files.parts (← IO.currentDir).toString).foldl Files.stepTo []
  let home := (← IO.getEnv "HOME").getD ""
  let root := (FileNode.directory []).put current (.directory [])
  (namesFor home arguments).foldlM
    (fun files name => survey files (files.startOf name) (Files.parts name))
    { root, current, home }

/-! ### The terminal -/

/-- The number that the environment holds under a name, if it holds one. -/
def sizeFrom (name : String) (usual : Nat) : IO Nat := do
  return ((← IO.getEnv name).bind String.toNat?).getD usual

/-- What is typed with a line. -/
def typedWith (line : String) : String :=
  let typed := line.toList.filter (· != '\n')
  if typed.isEmpty then "\r" else String.ofList typed

/-- Shows the desk. The clock tells how long the watch has lasted. -/
def display (watch : Watch) (width height : Nat) : IO Unit := do
  let seconds := watch.crew.gate.now / 1000
  let clock := { Moment.epoch with secondOfDay := seconds % 86400 }.clockText
  let screen := Desk.picture watch.shell clock watch.viewText width height
  IO.print "\x1b[2J\x1b[H"
  (List.range height).forM fun row => IO.println (screen.rowText row)

/-- Keeps the watch until the operator quits or the input ends. Gives what happens. -/
partial def keepWatch (width height seen : Nat) (watch : Watch) : IO (List Happening) := do
  if watch.isOver then return []
  display watch width height
  let line ← (← IO.getStdin).getLine
  if line.isEmpty then return []
  let now ← IO.monoMsNow
  let happenings :=
    .elapsed (now - seen) :: (Terminal.eventsOf (typedWith line)).map Happening.heard
  return happenings ++ (← keepWatch width height now (happenings.foldl Watch.next watch))

/-- The terminal, with all that happens at it during a watch. -/
def terminalFor : Option Watch → IO (Except String WatchedTerminal)
  | none => return .error "there is nothing to show"
  | some watch => do
    if !(← (← IO.getStdin).isTty) then return .error "there is no terminal"
    let width ← sizeFrom "COLUMNS" 80
    let height ← sizeFrom "LINES" 24
    let start := watch.hear (.resize width height)
    return .ok
      { width, height, happenings := ← keepWatch width height (← IO.monoMsNow) start }

/-! ### The log -/

/-- Adds records to the log in a directory. -/
def writeLog (directory : String) (records : List LogRecord) : IO Unit := do
  IO.FS.createDirAll directory
  let log ← IO.FS.Handle.mk (Files.join directory Places.logName) .append
  records.forM fun record => log.putStrLn record.line

end OperatorDesk.Main

open OperatorDesk in
/-- Does what the command line asks for. -/
def main (arguments : List String) : IO UInt32 := do
  let files ← Main.filesFor arguments
  let terminal ← Main.terminalFor (Startup.watch? files arguments)
  let outcome :=
    Startup.run { files, filterText := ← IO.getEnv "RUST_LOG", terminal } arguments
  IO.print outcome.output
  outcome.complaints.forM (IO.eprintln ·)
  match outcome.logDirectory with
  | some directory => Main.writeLog directory outcome.log
  | none => pure ()
  return outcome.code.toUInt32
