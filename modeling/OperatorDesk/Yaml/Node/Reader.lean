/-
This file reads the node of a document from its tokens. A document may open with directives, and
then with a mark; a text holds one document at most. The main function is `root?`.
-/

import OperatorDesk.Yaml.Node
import OperatorDesk.Yaml.Token

namespace OperatorDesk.Yaml

/-- A node as it is written. -/
abbrev WrittenNode := Node (List Char)

/-- What the tags with a handle begin with. -/
abbrev Handles := List (List Char × List Char)

namespace Handles

/-- The handles that need not be declared. -/
def standard : Handles :=
  [(['!'], ['!']), (['!', '!'], "tag:yaml.org,2002:".toList)]

/-- The whole tag; fails for an unknown handle. -/
def tag? (handles : Handles) (handle rest : List Char) : Option (List Char) :=
  if handle.isEmpty then some rest
  else (handles.lookup handle).map (· ++ rest)

end Handles

/-! ### Properties -/

/-- Reads an anchor, if there is one. -/
def readAnchor : List Token → Option (List Char) × List Token
  | .anchor name :: rest => (some name, rest)
  | tokens => (none, tokens)

/-- Reads a tag, if there is one. -/
def readTagOf? (handles : Handles) : List Token → Option (Option (List Char) × List Token)
  | .tag handle rest :: tokens => (handles.tag? handle rest).map fun tag => (some tag, tokens)
  | tokens => some (none, tokens)

/-- Reads the anchor and the tag of a node, in either order. -/
def readProperties? (handles : Handles) (tokens : List Token) :
    Option (Option (List Char) × Option (List Char) × List Token) := do
  let (before, tokens) := readAnchor tokens
  let (tag, tokens) ← readTagOf? handles tokens
  let (after, tokens) := if before.isNone then readAnchor tokens else (none, tokens)
  return (before.or after, tag, tokens)

/-- The mark alone as a tag says nothing about a scalar that is written. -/
def writtenTag (tag : Option (List Char)) : Option (List Char) :=
  if tag = some ['!'] then none else tag

/-! ### Collections -/

/-- Nothing is written for an entry of a block sequence before this. -/
def endsBlockEntry : List Token → Bool
  | .blockEntry :: _ => true
  | .blockEnd :: _ => true
  | _ => false

/-- Nothing is written for a key or a value of a block mapping before this. -/
def endsBlockPart : List Token → Bool
  | .key :: _ => true
  | .value :: _ => true
  | .blockEnd :: _ => true
  | _ => false

/-- Nothing is written for an entry of a sequence without indentation before this. -/
def endsLevelEntry (tokens : List Token) : Bool :=
  endsBlockEntry tokens || endsBlockPart tokens

/-- Nothing is written for a key or a value in a flow collection with this closing mark. -/
def endsFlowPart (closing : Token) : List Token → Bool
  | [] => false
  | token :: _ => token == .flowEntry || token == closing

/-- Goes over the comma before an entry that is not the first. -/
def skipComma? (first : Bool) : List Token → Option (List Token)
  | .flowEntry :: rest => if first then some (.flowEntry :: rest) else some rest
  | tokens => if first then some tokens else none

mutual

/-- Reads a node. Block collections are read where `block` holds, and the entries of a sequence
without indentation where `level` holds. -/
def readNode? (handles : Handles) (block level : Bool) :
    Nat → List Token → Option (WrittenNode × List Token)
  | 0, _ => none
  | _ + 1, .alias name :: rest => some (.alias name, rest)
  | fuel + 1, tokens => do
    let (label, tag, tokens) ← readProperties? handles tokens
    match tokens with
    | .blockEntry :: rest =>
      if level then
        let (items, left) ← readLevelItems? handles fuel (.blockEntry :: rest)
        return (.sequence label items, left)
      else if label.isSome || tag.isSome then
        return (.scalar label tag .plain [], .blockEntry :: rest)
      else none
    | .scalar style text :: rest => return (.scalar label (writtenTag tag) style text, rest)
    | .flowSequenceStart :: rest =>
      let (items, left) ← readFlowItems? handles true fuel rest
      return (.sequence label items, left)
    | .flowMappingStart :: rest =>
      let (members, left) ← readFlowMembers? handles true fuel rest
      return (.mapping label members, left)
    | rest =>
      match block, rest with
      | true, .blockSequenceStart :: rest =>
        let (items, left) ← readBlockItems? handles fuel rest
        return (.sequence label items, left)
      | true, .blockMappingStart :: rest =>
        let (members, left) ← readBlockMembers? handles fuel rest
        return (.mapping label members, left)
      | _, rest =>
        if label.isSome || tag.isSome then return (.scalar label tag .plain [], rest) else none

/-- Reads the entries of a block sequence and its end. -/
def readBlockItems? (handles : Handles) :
    Nat → List Token → Option (List WrittenNode × List Token)
  | 0, _ => none
  | fuel + 1, .blockEntry :: tokens => do
    let (item, tokens) ←
      if endsBlockEntry tokens then some (.empty, tokens)
      else readNode? handles true false fuel tokens
    let (items, left) ← readBlockItems? handles fuel tokens
    return (item :: items, left)
  | _ + 1, .blockEnd :: rest => some ([], rest)
  | _ + 1, _ => none

/-- Reads the entries of a sequence without indentation. -/
def readLevelItems? (handles : Handles) :
    Nat → List Token → Option (List WrittenNode × List Token)
  | 0, _ => none
  | fuel + 1, .blockEntry :: tokens => do
    let (item, tokens) ←
      if endsLevelEntry tokens then some (.empty, tokens)
      else readNode? handles true false fuel tokens
    let (items, left) ← readLevelItems? handles fuel tokens
    return (item :: items, left)
  | _ + 1, tokens => some ([], tokens)

/-- Reads the members of a block mapping and its end. -/
def readBlockMembers? (handles : Handles) :
    Nat → List Token → Option (List (WrittenNode × WrittenNode) × List Token)
  | 0, _ => none
  | fuel + 1, .key :: tokens => do
    let (key, tokens) ←
      if endsBlockPart tokens then some (.empty, tokens)
      else readNode? handles true true fuel tokens
    let (value, tokens) ← match tokens with
      | .value :: tokens =>
        if endsBlockPart tokens then some (.empty, tokens)
        else readNode? handles true true fuel tokens
      | tokens => some (.empty, tokens)
    let (members, left) ← readBlockMembers? handles fuel tokens
    return ((key, value) :: members, left)
  | _ + 1, .blockEnd :: rest => some ([], rest)
  | _ + 1, _ => none

/-- Reads the value of a member of a flow collection with this closing mark, if one is written. -/
def readFlowValue? (handles : Handles) (closing : Token) :
    Nat → List Token → Option (WrittenNode × List Token)
  | 0, _ => none
  | fuel + 1, .value :: tokens =>
    if endsFlowPart closing tokens then some (.empty, tokens)
    else readNode? handles false false fuel tokens
  | _ + 1, tokens => some (.empty, tokens)

/-- Reads the entries of a flow sequence and its end. An entry may be a mapping of one member. If
the key of such a mapping is not written, the token in its place is passed over. -/
def readFlowItems? (handles : Handles) (first : Bool) :
    Nat → List Token → Option (List WrittenNode × List Token)
  | 0, _ => none
  | _ + 1, .flowSequenceEnd :: rest => some ([], rest)
  | fuel + 1, tokens => do
    match ← skipComma? first tokens with
    | .flowSequenceEnd :: rest => return ([], rest)
    | .key :: tokens =>
      let (key, tokens) ← match tokens with
        | .value :: rest => some (.empty, rest)
        | .flowEntry :: rest => some (.empty, rest)
        | .flowSequenceEnd :: rest => some (.empty, rest)
        | tokens => readNode? handles false false fuel tokens
      let (value, tokens) ← readFlowValue? handles .flowSequenceEnd fuel tokens
      let (items, left) ← readFlowItems? handles false fuel tokens
      return (.mapping none [(key, value)] :: items, left)
    | tokens =>
      let (item, tokens) ← readNode? handles false false fuel tokens
      let (items, left) ← readFlowItems? handles false fuel tokens
      return (item :: items, left)

/-- Reads the members of a flow mapping and its end. A member without the mark of a key has no
value. -/
def readFlowMembers? (handles : Handles) (first : Bool) :
    Nat → List Token → Option (List (WrittenNode × WrittenNode) × List Token)
  | 0, _ => none
  | _ + 1, .flowMappingEnd :: rest => some ([], rest)
  | fuel + 1, tokens => do
    match ← skipComma? first tokens with
    | .flowMappingEnd :: rest => return ([], rest)
    | .key :: tokens =>
      let (key, tokens) ←
        if endsFlowPart .flowMappingEnd tokens || tokens.head? == some .value then
          some (.empty, tokens)
        else readNode? handles false false fuel tokens
      let (value, tokens) ← readFlowValue? handles .flowMappingEnd fuel tokens
      let (members, left) ← readFlowMembers? handles false fuel tokens
      return ((key, value) :: members, left)
    | tokens =>
      let (key, tokens) ← readNode? handles false false fuel tokens
      let (members, left) ← readFlowMembers? handles false fuel tokens
      return ((key, .empty) :: members, left)

end

/-! ### Documents -/

/-- Reads the directives before a document. There is one version at most, it is 1.1 or 1.2, and no
handle is declared twice. -/
def readDirectives? (hasVersion : Bool) (declared : Handles) :
    List Token → Option (Handles × List Token)
  | .version major minor :: rest =>
    if hasVersion || major != 1 || (minor != 1 && minor != 2) then none
    else readDirectives? true declared rest
  | .handle name start :: rest =>
    if (declared.lookup name).isSome then none
    else readDirectives? hasVersion (declared ++ [(name, start)]) rest
  | tokens => some (declared ++ Handles.standard, tokens)

/-- The tokens are those of a document that opens with directives or a mark. -/
def opensDocument : List Token → Bool
  | .version _ _ :: _ => true
  | .handle _ _ :: _ => true
  | .documentStart :: _ => true
  | _ => false

/-- Nothing is written for the node of a document before this. -/
def endsDocument (tokens : List Token) : Bool :=
  tokens.isEmpty || opensDocument tokens || tokens.head? == some .documentEnd

/-- Reads the node of the first document. Two steps for each token are enough, since a collection
takes a step of its own beside its first entry. -/
def readDocument? (tokens : List Token) : Option (WrittenNode × List Token) :=
  let fuel := 2 * tokens.length + 2
  if opensDocument tokens then do
    match ← readDirectives? false [] tokens with
    | (handles, .documentStart :: rest) =>
      if endsDocument rest then return (.empty, rest) else readNode? handles true false fuel rest
    | _ => none
  else readNode? Handles.standard true false fuel tokens

/-- The node of the only document; none for a text without a document. -/
def root? (tokens : List Token) : Option (Option WrittenNode) :=
  if tokens.isEmpty then some none
  else do
    let (root, rest) ← readDocument? tokens
    if rest.all (· == .documentEnd) then return some root else none

end OperatorDesk.Yaml
