/-
This file cuts a YAML text into its marks and words. The first word of a line may turn out to be a
key only when the colon behind it is met, on the same line and at most 1024 characters later; the
marks of the key, and of the mapping that it opens, are then put in before it. A key that has to
be one, because its mapping is already open, must meet its colon. In flow collections indentation
means nothing. The main function is `tokens?`.
-/

import OperatorDesk.Yaml.Token.Property
import OperatorDesk.Yaml.Scalar.Plain
import OperatorDesk.Yaml.Scalar.Quoted
import OperatorDesk.Yaml.Scalar.Block

namespace OperatorDesk.Yaml

/-- A word that may turn out to be a key. -/
structure PossibleKey where
  /-- Its mapping is open, so it has to be one. -/
  isRequired : Bool
  /-- The number of tokens before it. -/
  position : Nat
  index : Nat
  line : Nat
  column : Nat
  deriving DecidableEq, Repr

/-- The greatest distance between a key and its colon. -/
def keyReach : Nat := 1024

/-- The colon of the key can no longer come. -/
def PossibleKey.isStale (key : PossibleKey) (cursor : Cursor) : Bool :=
  key.line < cursor.line || key.index + keyReach < cursor.index

/-- How far a text has been cut up. -/
structure Scanner where
  cursor : Cursor
  tokens : List Token
  /-- The columns of the open block collections, the innermost first. -/
  blocks : List Nat
  /-- The possible key of the innermost flow collection, or of the blocks outside of all. -/
  key : Option PossibleKey
  /-- The possible keys around, one for each open flow collection. -/
  outerKeys : List (Option PossibleKey)
  /-- A key may begin here. -/
  keyAllowed : Bool

namespace Scanner

/-- Before the first token. -/
def start (chars : List Char) : Scanner :=
  { cursor := .start chars, tokens := [], blocks := [], key := none, outerKeys := []
    keyAllowed := true }

/-- A flow collection is open. -/
def inFlow (scanner : Scanner) : Bool :=
  !scanner.outerKeys.isEmpty

/-- Adds a token. -/
def emit (scanner : Scanner) (token : Token) : Scanner :=
  { scanner with tokens := scanner.tokens ++ [token] }

/-- Adds a token of some characters. -/
def mark (scanner : Scanner) (token : Token) (width : Nat) : Scanner :=
  { scanner.emit token with cursor := scanner.cursor.advance width }

/-- Puts tokens in at a place among the others. -/
def insertAt (scanner : Scanner) (position : Nat) (tokens : List Token) : Scanner :=
  { scanner with
    tokens := scanner.tokens.take position ++ tokens ++ scanner.tokens.drop position }

/-! ### Possible keys -/

/-- Gives the possible key up. -/
def dropKey? (scanner : Scanner) : Option Scanner :=
  match scanner.key with
  | some key => if key.isRequired then none else some { scanner with key := none }
  | none => some scanner

/-- The key unless it is stale; fails if it has to be one. -/
def freshKey? (cursor : Cursor) : Option PossibleKey → Option (Option PossibleKey)
  | some key =>
    if key.isStale cursor then if key.isRequired then none else some none
    else some (some key)
  | none => some none

/-- Gives up the keys that are stale. -/
def dropStaleKeys? (scanner : Scanner) : Option Scanner := do
  let key ← freshKey? scanner.cursor scanner.key
  let outerKeys ← scanner.outerKeys.mapM (freshKey? scanner.cursor)
  return { scanner with key, outerKeys }

/-- What begins here may turn out to be a key. -/
def saveKey? (scanner : Scanner) : Option Scanner :=
  if scanner.keyAllowed then do
    let scanner ← scanner.dropKey?
    return { scanner with
      key := some {
        isRequired := !scanner.inFlow && scanner.blocks.head? == some scanner.cursor.column
        position := scanner.tokens.length
        index := scanner.cursor.index
        line := scanner.cursor.line
        column := scanner.cursor.column } }
  else some scanner

/-! ### Blocks -/

/-- The column lies to the right of the innermost block. -/
def isDeeper (blocks : List Nat) (column : Nat) : Bool :=
  match blocks with
  | [] => true
  | innermost :: _ => innermost < column

/-- Opens a block at a column, unless one is open there. Its mark goes to a place among the
tokens. -/
def openBlock (scanner : Scanner) (column position : Nat) (token : Token) : Scanner :=
  if !scanner.inFlow && isDeeper scanner.blocks column then
    { scanner.insertAt position [token] with blocks := column :: scanner.blocks }
  else scanner

/-- Closes the innermost blocks. -/
def closeWhile (scanner : Scanner) (closes : Nat → Bool) : Scanner :=
  { scanner with
    blocks := scanner.blocks.dropWhile closes
    tokens := scanner.tokens ++ (scanner.blocks.takeWhile closes).map fun _ => .blockEnd }

/-- Closes the blocks to the right of a column. -/
def closeBlocks (scanner : Scanner) (column : Nat) : Scanner :=
  if scanner.inFlow then scanner else scanner.closeWhile (column < ·)

/-- Closes all blocks. -/
def closeAll (scanner : Scanner) : Scanner :=
  if scanner.inFlow then scanner else scanner.closeWhile fun _ => true

/-! ### Blanks between tokens -/

/-- Goes to the next token, over spaces, comments and line breaks, and over tabs where no key may
begin. Outside of flow collections a key may begin on a new line. -/
def skipBlanks (inFlow : Bool) : Nat → Bool → Cursor → Bool × Cursor
  | 0, keyAllowed, cursor => (keyAllowed, cursor)
  | fuel + 1, keyAllowed, cursor =>
    let cursor := cursor.skip fun c => c == ' ' || ((inFlow || !keyAllowed) && c == '\t')
    let cursor := if cursor.sees '#' then cursor.skip (!isBreak ·) else cursor
    match cursor.readBreak? with
    | some (_, next) => skipBlanks inFlow fuel (keyAllowed || !inFlow) next
    | none => (keyAllowed, cursor)

/-- The mark that a text may begin with to show its byte order. -/
def byteOrderMark : Char := Char.ofNat 0xFEFF

/-- Goes over a byte order mark at the very beginning; it takes a column. -/
def skipByteOrderMark (cursor : Cursor) : Cursor :=
  if cursor.index = 0 ∧ cursor.sees byteOrderMark then cursor.advance 1 else cursor

/-- Goes to the next token. -/
def toToken (scanner : Scanner) : Scanner :=
  let cursor := skipByteOrderMark scanner.cursor
  let (keyAllowed, cursor) :=
    skipBlanks scanner.inFlow (cursor.rest.length + 1) scanner.keyAllowed cursor
  { scanner with keyAllowed, cursor }

/-! ### Tokens -/

/-- Reads a directive. -/
def directive? (scanner : Scanner) : Option Scanner := do
  let scanner ← scanner.closeAll.dropKey?
  let (token, cursor) ← readDirective? scanner.cursor
  return { scanner.emit token with keyAllowed := false, cursor }

/-- Reads a document mark. -/
def documentMark? (scanner : Scanner) (token : Token) : Option Scanner := do
  let scanner ← scanner.closeAll.dropKey?
  return { scanner.mark token 3 with keyAllowed := false }

/-- Reads the opening mark of a flow collection. -/
def flowStart? (scanner : Scanner) (token : Token) : Option Scanner := do
  let scanner ← scanner.saveKey?
  return { scanner.mark token 1 with
    key := none, outerKeys := scanner.key :: scanner.outerKeys, keyAllowed := true }

/-- Reads the closing mark of a flow collection. -/
def flowEnd? (scanner : Scanner) (token : Token) : Option Scanner := do
  let scanner ← scanner.dropKey?
  let scanner := match scanner.outerKeys with
    | key :: outerKeys => { scanner with key, outerKeys }
    | [] => scanner
  return { scanner.mark token 1 with keyAllowed := false }

/-- Reads the comma of a flow collection. -/
def flowEntry? (scanner : Scanner) : Option Scanner := do
  let scanner ← scanner.dropKey?
  return { scanner.mark .flowEntry 1 with keyAllowed := true }

/-- Opens a block here if none is open; fails where no key may begin. -/
def openHere? (scanner : Scanner) (token : Token) : Option Scanner :=
  if scanner.inFlow then some scanner
  else if scanner.keyAllowed then
    some (scanner.openBlock scanner.cursor.column scanner.tokens.length token)
  else none

/-- Reads the dash of a block sequence. -/
def blockEntry? (scanner : Scanner) : Option Scanner := do
  let scanner ← (← scanner.openHere? .blockSequenceStart).dropKey?
  return { scanner.mark .blockEntry 1 with keyAllowed := true }

/-- Reads the mark of a key. -/
def keyMark? (scanner : Scanner) : Option Scanner := do
  let scanner ← (← scanner.openHere? .blockMappingStart).dropKey?
  return { scanner.mark .key 1 with keyAllowed := !scanner.inFlow }

/-- Reads the colon behind a key. -/
def valueMark? (scanner : Scanner) : Option Scanner :=
  match scanner.key with
  | some key =>
    let scanner := scanner.insertAt key.position [.key]
    let scanner := scanner.openBlock key.column key.position .blockMappingStart
    some { scanner.mark .value 1 with key := none, keyAllowed := false }
  | none => do
    let scanner ← scanner.openHere? .blockMappingStart
    return { scanner.mark .value 1 with keyAllowed := !scanner.inFlow }

/-- Reads the name of an alias or of an anchor. -/
def name? (scanner : Scanner) (token : List Char → Token) : Option Scanner := do
  let scanner ← scanner.saveKey?
  let (name, cursor) ← readName? (scanner.cursor.advance 1)
  return { scanner.emit (token name) with keyAllowed := false, cursor }

/-- Reads a tag. -/
def tag? (scanner : Scanner) : Option Scanner := do
  let scanner ← scanner.saveKey?
  let (token, cursor) ← readTag? scanner.inFlow scanner.cursor
  return { scanner.emit token with keyAllowed := false, cursor }

/-- Reads a block scalar. -/
def block? (scanner : Scanner) (folded : Bool) : Option Scanner := do
  let scanner ← scanner.dropKey?
  let (text, cursor) ← readBlock? folded scanner.blocks.head? scanner.cursor
  let style := if folded then ScalarStyle.folded else .literal
  return { scanner.emit (.scalar style text) with keyAllowed := true, cursor }

/-- Reads a quoted scalar. -/
def quoted? (scanner : Scanner) (single : Bool) : Option Scanner := do
  let scanner ← scanner.saveKey?
  let (text, cursor) ←
    if single then readSingle? scanner.cursor else readDouble? scanner.cursor
  let style := if single then ScalarStyle.singleQuoted else .doubleQuoted
  return { scanner.emit (.scalar style text) with keyAllowed := false, cursor }

/-- Reads a plain scalar. If it ends a line, a key may begin behind it. -/
def plain? (scanner : Scanner) : Option Scanner := do
  let scanner ← scanner.saveKey?
  let indent := (scanner.blocks.head?.map (· + 1)).getD 0
  let scalar ← readPlain? scanner.inFlow indent scanner.cursor
  return { scanner.emit (.scalar .plain scalar.text) with
    keyAllowed := scalar.broken, cursor := scalar.cursor }

/-- The characters that a plain scalar does not begin with. -/
def isIndicator (c : Char) : Bool :=
  ['-', '?', ':', ',', '[', ']', '\x7b', '\x7d', '#', '&', '*', '!', '|', '>', '\'', '"', '%', '@',
    Char.ofNat 0x60].contains c

/-- A plain scalar may begin with this character before the rest. -/
def startsPlain (inFlow : Bool) (c : Char) (rest : List Char) : Bool :=
  !(isIndicator c || endsWord [c]) || (c == '-' && !endsWord rest) ||
    (!inFlow && (c == '?' || c == ':') && !endsWord rest)

/-- Reads a token that begins with this character before the rest. -/
def token? (scanner : Scanner) (c : Char) (rest : List Char) : Option Scanner :=
  if scanner.cursor.column = 0 ∧ c = '%' then scanner.directive?
  else if scanner.cursor.seesMark '-' then scanner.documentMark? .documentStart
  else if scanner.cursor.seesMark '.' then scanner.documentMark? .documentEnd
  else if c = '[' then scanner.flowStart? .flowSequenceStart
  else if c = '\x7b' then scanner.flowStart? .flowMappingStart
  else if c = ']' then scanner.flowEnd? .flowSequenceEnd
  else if c = '\x7d' then scanner.flowEnd? .flowMappingEnd
  else if c = ',' then scanner.flowEntry?
  else if c = '-' ∧ endsWord rest then scanner.blockEntry?
  else if c = '?' ∧ (scanner.inFlow || endsWord rest) then scanner.keyMark?
  else if c = ':' ∧ (scanner.inFlow || endsWord rest) then scanner.valueMark?
  else if c = '*' then scanner.name? .alias
  else if c = '&' then scanner.name? .anchor
  else if c = '!' then scanner.tag?
  else if c = '|' ∧ !scanner.inFlow then scanner.block? false
  else if c = '>' ∧ !scanner.inFlow then scanner.block? true
  else if c = '\'' then scanner.quoted? true
  else if c = '"' then scanner.quoted? false
  else if startsPlain scanner.inFlow c rest then scanner.plain?
  else none

/-- Reads the tokens up to the end of the text. -/
def tokensFrom? : Nat → Scanner → Option (List Token)
  | 0, _ => none
  | fuel + 1, scanner => do
    let scanner ← scanner.toToken.dropStaleKeys?
    let scanner := scanner.closeBlocks scanner.cursor.column
    match scanner.cursor.rest with
    | [] => return (← scanner.closeAll.dropKey?).tokens
    | c :: rest => tokensFrom? fuel (← scanner.token? c rest)

end Scanner

/-- The tokens of a text. Every token takes a character, so the length of the text is enough. -/
def tokens? (chars : List Char) : Option (List Token) :=
  if chars.all isAllowed then Scanner.tokensFrom? (chars.length + 1) (.start chars) else none

end OperatorDesk.Yaml
