/-
This file defines the program's flags, what a command line asks for, and what can be wrong with
one.
-/

import OperatorDesk.Log

namespace OperatorDesk

/-- The flags of the program. -/
inductive Flag where
  | verbose
  | logDirectory
  | settings
  | demo
  | help
  | version
  deriving DecidableEq, Repr

namespace Flag

/-- All flags, in the order in which they are listed. -/
def all : List Flag := [.verbose, .logDirectory, .settings, .demo, .help, .version]

/-- The long name of a flag. -/
def name : Flag → String
  | .verbose => "verbose"
  | .logDirectory => "log-dir"
  | .settings => "config"
  | .demo => "demo"
  | .help => "help"
  | .version => "version"

/-- The letter of a flag. -/
def letter? : Flag → Option Char
  | .verbose => some 'v'
  | .help => some 'h'
  | .version => some 'V'
  | _ => none

/-- The name of the value that a flag takes. -/
def valueName? : Flag → Option String
  | .logDirectory => some "LOG_DIR"
  | .settings => some "CONFIG"
  | _ => none

/-- The flag takes a value. -/
def takesValue (flag : Flag) : Bool :=
  flag.valueName?.isSome

/-- The flag may be given more than once. -/
def isCounted : Flag → Bool
  | .verbose => true
  | _ => false

/-- The flag as it is shown in messages, with its value or a mark that it can be repeated. -/
def shown (flag : Flag) : String :=
  "--" ++ flag.name ++
    match flag.valueName? with
    | some value => " <" ++ value ++ ">"
    | none => if flag.isCounted then "..." else ""

/-- The flag with this long name. -/
def ofName? (name : String) : Option Flag :=
  all.find? (·.name == name)

/-- The flag with this letter. -/
def ofLetter? (c : Char) : Option Flag :=
  all.find? (·.letter? == some c)

/-- What a flag does, for the help. -/
def purpose : Flag → String
  | .verbose => "Enable verbose logging (increases log level)"
  | .logDirectory => "Directory for log files (defaults to ~/.admiral/logs/)"
  | .settings => "Configuration file (defaults to ~/.admiral/config.yaml)"
  | .demo => "Start scripted agents that ask sample questions"
  | .help => "Print help"
  | .version => "Print version"

end Flag

/-- How the program is to run. -/
structure RunOptions where
  verbose : Bool
  logDirectory : Option String
  settingsPath : Option String
  demo : Bool
  deriving DecidableEq, Repr

/-- What a command line asks for. -/
inductive Request where
  | run (options : RunOptions)
  | showHelp
  | showVersion
  deriving DecidableEq, Repr

/-- What is wrong with a command line. -/
inductive UsageError where
  /-- No flag is written so. A flag with a similar name may have been meant; `used` are the flags
  that were given before, and that one. -/
  | unexpectedArgument (argument : String) (similar : Option Flag) (used : List Flag)
  /-- The flag was given twice. -/
  | repeatedFlag (flag : Flag)
  /-- The flag was given no value, or an empty one. -/
  | missingValue (flag : Flag)
  /-- The flag takes no value. -/
  | unneededValue (value : String) (flag : Flag) (used : List Flag)
  deriving DecidableEq, Repr

/-! ### Texts -/

namespace CommandLine

/-- The name of the program. -/
def programName : String := "admiral"

/-- The version of the program. -/
def programVersion : String := "0.2.0"

/-- What the program is. -/
def programPurpose : String :=
  "Terminal control surface for fleets of autonomous coding agents"

/-- How the program is called. -/
def usage : String := "Usage: " ++ programName ++ " [OPTIONS]"

/-- How the program is called with these flags. -/
def usageWith (used : List Flag) : String :=
  if used.isEmpty then usage
  else "Usage: " ++ " ".intercalate (programName :: used.eraseDups.map Flag.shown)

/-- The line that points to the help. -/
def helpPointer : String := "For more information, try '--help'."

/-- A flag with its letter, as the help lists it. -/
def listed (flag : Flag) : String :=
  (match flag.letter? with
    | some c => "-" ++ String.singleton c ++ ", "
    | none => "    ") ++ flag.shown

/-- The width of the widest flag in the help. -/
def listedWidth : Nat :=
  Flag.all.foldl (fun widest flag => max widest (listed flag).length) 0

/-- The line of a flag in the help. -/
def helpLine (flag : Flag) : String :=
  "  " ++ listed flag ++ String.ofList (List.replicate (listedWidth - (listed flag).length) ' ') ++
    "  " ++ flag.purpose ++ "\n"

/-- The help. -/
def helpText : String :=
  programPurpose ++ "\n\n" ++ usage ++ "\n\nOptions:\n" ++ String.join (Flag.all.map helpLine)

/-- The name and version of the program. -/
def versionText : String := programName ++ " " ++ programVersion ++ "\n"

end CommandLine

/-- The lines that tell what is wrong. -/
def UsageError.lines : UsageError → List String
  | .unexpectedArgument argument similar used =>
    ["error: unexpected argument '" ++ argument ++ "' found", ""] ++
      (match similar with
        | some flag => ["  tip: a similar argument exists: '--" ++ flag.name ++ "'", ""]
        | none => []) ++
      [CommandLine.usageWith used, "", CommandLine.helpPointer]
  | .repeatedFlag flag =>
    ["error: the argument '" ++ flag.shown ++ "' cannot be used multiple times", "",
      CommandLine.usage, "", CommandLine.helpPointer]
  | .missingValue flag =>
    ["error: a value is required for '" ++ flag.shown ++ "' but none was supplied", "",
      CommandLine.helpPointer]
  | .unneededValue value flag used =>
    ["error: unexpected value '" ++ value ++ "' for '" ++ flag.shown ++
        "' found; no more were expected", "",
      CommandLine.usageWith used, "", CommandLine.helpPointer]

end OperatorDesk
