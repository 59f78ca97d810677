/-
This file reads command lines. Flags are heard one after the other; the value of a flag is judged
only when the next flag is heard or the line ends, so that an argument which is no flag is
reported before a value that is missing. The main function is `read`.
-/

import OperatorDesk.CommandLine
import OperatorDesk.Text.Similarity

namespace OperatorDesk.CommandLine

/-- A flag that waits for its value, or for its value to be judged. -/
structure PendingFlag where
  flag : Flag
  value : Option String
  deriving DecidableEq, Repr

/-- What has been heard so far. -/
structure Heard where
  options : RunOptions
  /-- The flags that were given, each where it was given last. -/
  used : List Flag
  pending : Option PendingFlag
  deriving DecidableEq, Repr

namespace Heard

/-- Nothing. -/
def nothing : Heard :=
  { options := { verbose := false, logDirectory := none, settingsPath := none, demo := false }
    used := [], pending := none }

/-- Notes a flag among those that were given. -/
def note (heard : Heard) (flag : Flag) : Heard :=
  { heard with used := heard.used.filter (· != flag) ++ [flag] }

/-- Sets the value of a flag. -/
def setValue (options : RunOptions) (value : String) : Flag → RunOptions
  | .logDirectory => { options with logDirectory := some value }
  | .settings => { options with settingsPath := some value }
  | _ => options

/-- Judges the value of a flag. It may not be given twice, nor be empty. -/
def take (heard : Heard) (flag : Flag) (value : String) : Except UsageError Heard :=
  if heard.used.contains flag then .error (.repeatedFlag flag)
  else if value.isEmpty then .error (.missingValue flag)
  else .ok { heard.note flag with options := setValue heard.options value flag }

/-- Judges the flag that waits. -/
def settle (heard : Heard) : Except UsageError Heard :=
  match heard.pending with
  | none => .ok heard
  | some { flag, value := none } => .error (.missingValue flag)
  | some { flag, value := some value } => { heard with pending := none }.take flag value

/-- The flags that were given, once the flag that waits has been judged. -/
def usedAfter (heard : Heard) : List Flag :=
  match heard.pending with
  | some { flag, value := some _ } =>
    if heard.used.contains flag then heard.used.filter (· != flag) else heard.used ++ [flag]
  | _ => heard.used

end Heard

/-! ### Flags that were meant -/

/-- The least similarity of a name that may have been meant. -/
def leastSimilarity : Text.Share := ⟨7, 10⟩

/-- The flag with the most similar name; of several the last. -/
def mostSimilar? (name : String) : List Flag → Option Flag
  | [] => none
  | flag :: rest =>
    let own := Text.similarity name.toList flag.name.toList
    match mostSimilar? name rest with
    | some best =>
      if (Text.similarity name.toList best.name.toList).atLeast own then some best
      else some flag
    | none => if own.atLeast leastSimilarity then some flag else none

/-- Refuses a long argument that is no flag. -/
def unknownFlag (heard : Heard) (name : String) : UsageError :=
  let similar := mostSimilar? name Flag.all
  let used := heard.usedAfter
  .unexpectedArgument ("--" ++ name) similar
    (match similar with
      | some flag => if used.contains flag then used else used ++ [flag]
      | none => used)

/-! ### Arguments -/

/-- What hearing an argument leads to. -/
inductive Hearing where
  | more (heard : Heard)
  | done (request : Request)
  | refused (error : UsageError)
  deriving DecidableEq, Repr

/-- Goes on unless there is an error. -/
def Hearing.ofResult (result : Except UsageError Heard) (next : Heard → Hearing) : Hearing :=
  match result with
  | .ok heard => next heard
  | .error error => .refused error

/-- Hears a flag without a value. -/
def hearFlag (heard : Heard) (flag : Flag) : Hearing :=
  .ofResult heard.settle fun heard =>
    match flag with
    | .help => .done .showHelp
    | .version => .done .showVersion
    | .verbose =>
      .more { heard.note flag with options := { heard.options with verbose := true } }
    | .demo =>
      if heard.used.contains flag then .refused (.repeatedFlag flag)
      else .more { heard.note flag with options := { heard.options with demo := true } }
    | _ => .more { heard with pending := some { flag, value := none } }

/-- Hears a long argument with its name and the value behind an equals sign. -/
def hearLong (heard : Heard) (name : String) (value : Option String) : Hearing :=
  match Flag.ofName? name, value with
  | none, _ => .refused (unknownFlag heard name)
  | some flag, none => hearFlag heard flag
  | some flag, some value =>
    if flag.takesValue then
      .ofResult heard.settle fun heard => .ofResult (heard.take flag value) .more
    else .refused (.unneededValue value flag (heard.used ++ [flag]))

/-- Hears letters behind a dash. -/
def hearLetters (heard : Heard) : List Char → Hearing
  | [] => .more heard
  | c :: rest =>
    match Flag.ofLetter? c with
    | none => .refused (.unexpectedArgument ("-" ++ String.singleton c) none [])
    | some flag =>
      match hearFlag heard flag with
      | .more heard => hearLetters heard rest
      | hearing => hearing

/-- Hears an argument that is no flag: the value of the flag that waits for one. -/
def hearPlain (heard : Heard) (argument : String) : Hearing :=
  match heard.pending with
  | some { flag, value := none } =>
    .more { heard with pending := some { flag, value := some argument } }
  | _ => .refused (.unexpectedArgument argument none [])

/-- The name and the value of a long argument. -/
def splitLong (chars : List Char) : String × Option String :=
  let name := chars.takeWhile (· != '=')
  (String.ofList name,
    match chars.drop name.length with
    | _ :: value => some (String.ofList value)
    | [] => none)

/-- Hears an argument. -/
def hear (heard : Heard) (argument : String) : Hearing :=
  match argument.toList with
  | '-' :: '-' :: rest => let (name, value) := splitLong rest; hearLong heard name value
  | '-' :: c :: rest => hearLetters heard (c :: rest)
  | _ => hearPlain heard argument

/-- What is asked for when the line ends. -/
def finish (heard : Heard) : Except UsageError Request :=
  heard.settle.map fun heard => .run heard.options

/-- Reads the arguments that are left. Two dashes end the flags, and nothing may follow them. -/
def readFrom (heard : Heard) : List String → Except UsageError Request
  | [] => finish heard
  | argument :: rest =>
    if argument = "--" then
      match rest with
      | [] => finish heard
      | next :: _ => .error (.unexpectedArgument next none [])
    else
      match hear heard argument with
      | .more heard => readFrom heard rest
      | .done request => .ok request
      | .refused error => .error error

/-- What the arguments ask for. -/
def read (arguments : List String) : Except UsageError Request :=
  readFrom .nothing arguments

end OperatorDesk.CommandLine
