/-
This file reads settings from YAML and writes them. The document is a mapping of sections, and so
is each section of its values; every section and every value need not be given, and members of other
names are passed over. A text of blanks, or without a document, leaves all settings as they are by
default. Reading a text with `ofText` also checks that the settings can be used. Written settings
are a block mapping of the sections, each on lines of its own.
-/

import OperatorDesk.Settings
import OperatorDesk.Settings.Yaml.Number

namespace OperatorDesk.Settings.Yaml

open OperatorDesk.Yaml

/-! ### Mappings -/

/-- The members of a mapping. An empty plain scalar has none. -/
def members? (document : Document) (node : Node Nat) : Option (List (Node Nat × Node Nat)) :=
  match document.resolved node with
  | .mapping _ members => some members
  | .scalar _ _ .plain [] => some []
  | _ => none

/-- The name of a member. -/
def name? (document : Document) (node : Node Nat) : Option (List Char) :=
  match document.resolved node with
  | .scalar _ _ _ text => some text
  | _ => none

/-- The members of a mapping with their names; every key has to be a scalar. -/
def namedMembers? (document : Document) (node : Node Nat) :
    Option (List (List Char × Node Nat)) := do
  (← members? document node).mapM fun (key, value) =>
    (name? document key).map fun name => (name, value)

/-- The value of the member with this name, or what stands for it if there is none; fails if there
are two. -/
def part? {Value : Type} (members : List (List Char × Node Nat)) (name : String)
    (otherwise : Value) (decode : Node Nat → Option Value) : Option Value :=
  match members.filter (·.1 == name.toList) with
  | [] => some otherwise
  | [(_, value)] => decode value
  | _ => none

/-! ### Sections -/

/-- The width below which the layout is compact. -/
def layout? (document : Document) (node : Node Nat) : Option Nat := do
  let members ← namedMembers? document node
  part? members "compact_below" standard.compactBelow (number? document widthLimit)

/-- The capacity of the gate and the wait of its questions. -/
def gate? (document : Document) (node : Node Nat) : Option (Nat × Option Nat) := do
  let members ← namedMembers? document node
  return (← part? members "capacity" standard.capacity (number? document countLimit),
    ← part? members "question_timeout_secs" none
      (orNothing? document (number? document countLimit)))

/-- The wait for input. -/
def ui? (document : Document) (node : Node Nat) : Option Nat := do
  let members ← namedMembers? document node
  part? members "tick_rate_ms" standard.tickMillis (number? document countLimit)

/-- The settings that a document holds. -/
def ofDocument? (document : Document) : Option Settings := do
  let members ← namedMembers? document document.root
  let (capacity, questionTimeoutSeconds) ←
    part? members "gate" (standard.capacity, none) (gate? document)
  return {
    compactBelow := ← part? members "layout" standard.compactBelow (layout? document)
    capacity, questionTimeoutSeconds
    tickMillis := ← part? members "ui" standard.tickMillis (ui? document) }

/-- The settings that a text holds. -/
def ofChars? (chars : List Char) : Option Settings := do
  match ← document? chars with
  | some document => ofDocument? document
  | none => return standard

end OperatorDesk.Settings.Yaml

namespace OperatorDesk.Settings

/-- What is said about a text that holds no settings. -/
def malformedDetails : String := "the text is not a mapping of settings"

/-- The usable settings that a text holds, where errors name the text by the given path. -/
def ofText (path text : String) : Except StartupError Settings :=
  if Text.isBlankText text then .ok standard
  else
    match Yaml.ofChars? text.toList with
    | some settings => settings.checked
    | none => .error (.settingsMalformed path malformedDetails)

/-! ### Writing -/

/-- A wait that may be endless, as a scalar. -/
def timeoutScalar : Option Nat → String
  | some seconds => toString seconds
  | none => "null"

/-- The settings as YAML. -/
def yamlText (settings : Settings) : String :=
  "layout:\n" ++
  "  compact_below: " ++ toString settings.compactBelow ++ "\n" ++
  "gate:\n" ++
  "  capacity: " ++ toString settings.capacity ++ "\n" ++
  "  question_timeout_secs: " ++ timeoutScalar settings.questionTimeoutSeconds ++ "\n" ++
  "ui:\n" ++
  "  tick_rate_ms: " ++ toString settings.tickMillis ++ "\n"

end OperatorDesk.Settings
