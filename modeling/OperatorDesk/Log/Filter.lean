/-
This file defines which records reach the log. A filter is a list of directives between commas.
A directive admits the records up to a level, of all parts of the program or of those whose name
begins with its target. Of the directives that concern a record the most specific one decides. A
directive that speaks of spans admits nothing, since the program opens none. The main functions
are `ofText?` and `admits`.
-/

import OperatorDesk.Log
import OperatorDesk.Text.Blank
import OperatorDesk.Text.Digits

namespace OperatorDesk

/-- One directive of a filter. -/
structure LogDirective where
  /-- What the names of the parts begin with; none for all parts. -/
  target : Option String
  /-- The fields that a record has to have. -/
  fields : List String
  /-- It speaks of spans. -/
  ofSpans : Bool
  /-- The rank of the least weighty level that is admitted; zero for none. -/
  rank : Nat
  deriving DecidableEq, Repr

/-- The directives of a filter. -/
structure LogFilter where
  directives : List LogDirective
  deriving DecidableEq, Repr

/-! ### Reading -/

namespace LogDirective

/-- The rank of the level with this name, in letters of any case. -/
def namedRank? (text : List Char) : Option Nat :=
  [("off", 0), ("error", 1), ("warn", 2), ("info", 3), ("debug", 4), ("trace", 5)].lookup
    (String.ofList (text.map Char.toLower))

/-- The rank that a number stands for. -/
def numberedRank? (text : List Char) : Option Nat :=
  let digits := match text with
    | '+' :: rest => rest
    | text => text
  if digits.isEmpty || !digits.all Char.isDigit then none
  else (some (Text.valueOfDigits digits)).filter (· ≤ LogLevel.trace.rank)

/-- The rank of a level that is given by its name or its number. -/
def rank? (text : List Char) : Option Nat :=
  (namedRank? text).or (numberedRank? text)

/-- The rank behind an equals sign; nothing stands for all levels. -/
def givenRank? (text : List Char) : Option Nat :=
  if text.isEmpty then some LogLevel.trace.rank else rank? text

/-- The target that a text names; none for no text. -/
def targetOf (text : List Char) : Option String :=
  if text.isEmpty then none else some (String.ofList text)

/-- A directive may begin with this character, apart from a bracket. -/
def isStart (c : Char) : Bool :=
  c == '-' || c == ':' || c == '_' || c.isAlphanum || 0x80 ≤ c.toNat && !Text.isBlank c

/-- Reads the level behind a closing bracket, if there is one. -/
def afterBracket? (target : Option String) (fields : List String) (ofSpans : Bool) :
    List Char → Option LogDirective
  | [] => some { target, fields, ofSpans, rank := LogLevel.trace.rank }
  | '=' :: text => (givenRank? text).map fun rank => { target, fields, ofSpans, rank }
  | _ => none

/-- Reads what stands between brackets: the name of a span, or a field in braces behind it, or
both. A field with a value is one of spans. -/
def spans? (target : Option String) (chars : List Char) : Option LogDirective :=
  let name := chars.takeWhile fun c => c != ']' && c != '\x7b'
  match chars.drop name.length with
  | ']' :: rest => afterBracket? target [] true rest
  | '\x7b' :: rest =>
    let field := rest.takeWhile (· != '\x7d')
    match rest.drop field.length with
    | '\x7d' :: ']' :: after =>
      if field.isEmpty then none
      else
        afterBracket? target [String.ofList (field.takeWhile (· != '='))]
          (!name.isEmpty || field.contains '=') after
    | _ => none
  | _ => none

/-- Reads a directive from its word on: a level, or a target and what follows it. -/
def word? (chars : List Char) : Option LogDirective :=
  let word := chars.takeWhile fun c => c != '=' && c != '['
  match chars.drop word.length with
  | '=' :: text =>
    if (chars.head?.map Text.isBlank).getD false then none
    else
      (givenRank? text).map fun rank =>
        { target := some (String.ofList word), fields := [], ofSpans := false, rank }
  | '[' :: rest => spans? (some (String.ofList word)) rest
  | _ =>
    match rank? word with
    | some rank => some { target := none, fields := [], ofSpans := false, rank }
    | none =>
      some { target := targetOf word, fields := [], ofSpans := false
             rank := LogLevel.trace.rank }

/-- Reads a directive. Blanks at its ends are part of it. -/
def ofChars? (chars : List Char) : Option LogDirective :=
  match (Text.trimChars chars).head? with
  | some '[' => spans? none ((chars.dropWhile Text.isBlank).drop 1)
  | some c => if isStart c then word? chars else none
  | none => none

end LogDirective

namespace LogFilter

/-- The pieces of a text between commas, after the reversed beginning of the first. -/
def piecesFrom (started : List Char) : List Char → List (List Char)
  | [] => [started.reverse]
  | ',' :: rest => started.reverse :: piecesFrom [] rest
  | c :: rest => piecesFrom (c :: started) rest

/-- A filter that admits errors alone. -/
def errorsOnly : LogFilter :=
  { directives :=
      [{ target := none, fields := [], ofSpans := false, rank := LogLevel.error.rank }] }

/-- The filter that a text stands for. Without a directive it admits errors alone. -/
def ofText? (text : String) : Option LogFilter := do
  let pieces := (piecesFrom [] text.toList).filter (!·.isEmpty)
  let directives ← pieces.mapM LogDirective.ofChars?
  if directives.isEmpty then return errorsOnly else return { directives }

/-- The target that the names of all parts of the program begin with. -/
def programTarget : String := "admiral"

/-- The filter that is used unless another is given. -/
def standard (verbose : Bool) : LogFilter :=
  { directives :=
      [{ target := some programTarget, fields := [], ofSpans := false
         rank := if verbose then LogLevel.debug.rank else LogLevel.info.rank }] }

/-- The filter that a text stands for, if it stands for one, and otherwise the usual one. -/
def chosen (given : Option String) (verbose : Bool) : LogFilter :=
  (given.bind ofText?).getD (standard verbose)

/-! ### Admitting records -/

/-- The directive concerns the record. -/
def concerns (directive : LogDirective) (record : LogRecord) : Bool :=
  !directive.ofSpans &&
    (match directive.target with
      | some target => target.toList.isPrefixOf record.target.toList
      | none => true) &&
    directive.fields.all fun field => record.fields.any (·.1 == field)

/-- How specific a directive is: by the length of its target, then by its fields. -/
def specificity (directive : LogDirective) : Nat × Nat :=
  ((directive.target.map (·.length + 1)).getD 0, directive.fields.length)

/-- The second directive is at least as specific as the first. -/
def isAsSpecific (first second : LogDirective) : Bool :=
  (specificity first).1 < (specificity second).1 ||
    ((specificity first).1 == (specificity second).1 &&
      (specificity first).2 ≤ (specificity second).2)

/-- The most specific directive; of several the last. -/
def mostSpecific? : List LogDirective → Option LogDirective
  | [] => none
  | directive :: rest =>
    match mostSpecific? rest with
    | some best => if isAsSpecific directive best then some best else some directive
    | none => some directive

/-- The record reaches the log. -/
def admits (filter : LogFilter) (record : LogRecord) : Bool :=
  match mostSpecific? (filter.directives.filter (concerns · record)) with
  | some directive => record.level.rank ≤ directive.rank
  | none => false

end LogFilter

end OperatorDesk
