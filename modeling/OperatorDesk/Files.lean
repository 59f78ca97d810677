/-
This file defines a tree of files, with the names that lead to them. A name is looked up from the
root or from the current directory, part by part; every part but the last has to name a
directory. An empty part or a dot stays where it is, and two dots lead to the directory above.
-/

namespace OperatorDesk

/-- A file or a directory. -/
inductive FileNode where
  | file (content : ByteArray)
  | directory (entries : List (String × FileNode))

namespace FileNode

/-- The entries of a directory; a file has none. -/
def entries : FileNode → List (String × FileNode)
  | .file _ => []
  | .directory entries => entries

/-- The node is a directory. -/
def isDirectory : FileNode → Bool
  | .file _ => false
  | .directory _ => true

/-- The node that the names lead to, one directory at a time. -/
def at? : FileNode → List String → Option FileNode
  | node, [] => some node
  | node, name :: rest => (node.entries.lookup name).bind fun child => child.at? rest

/-- The tree with a node put where the names lead. Directories are made on the way, and take the
place of files. -/
def put (node : FileNode) : List String → FileNode → FileNode
  | [], new => new
  | name :: rest, new =>
    let child := (node.entries.lookup name).getD (.directory [])
    .directory ((name, child.put rest new) :: node.entries.filter (·.1 != name))

end FileNode

/-- Why a name leads nowhere. -/
inductive LookupFailure where
  | missing
  /-- A file stands where a directory is needed. -/
  | notDirectory
  deriving DecidableEq, Repr

/-- A tree of files as a program sees it. -/
structure Files where
  root : FileNode
  /-- The current directory. -/
  current : List String
  /-- The operator's home directory, as it was given. -/
  home : String

namespace Files

/-! ### Names -/

/-- The parts of a name after the reversed beginning of its first part. -/
def partsFrom (started : List Char) : List Char → List String
  | [] => [String.ofList started.reverse]
  | '/' :: rest => String.ofList started.reverse :: partsFrom [] rest
  | c :: rest => partsFrom (c :: started) rest

/-- The parts of a name between its slashes. -/
def parts (name : String) : List String :=
  partsFrom [] name.toList

/-- The name begins at the root. -/
def isAbsolute (name : String) : Bool :=
  name.toList.head? == some '/'

/-- The name of an entry of a directory. -/
def join (directory entry : String) : String :=
  if directory.isEmpty || directory.toList.getLast? == some '/' then directory ++ entry
  else directory ++ "/" ++ entry

/-! ### Looking up -/

/-- Where a name begins to be looked up. -/
def startOf (files : Files) (name : String) : List String :=
  if isAbsolute name then [] else files.current

/-- What is in a directory's place. -/
def directoryAt (files : Files) (place : List String) : Except LookupFailure FileNode :=
  match files.root.at? place with
  | none => .error .missing
  | some (.file _) => .error .notDirectory
  | some node => .ok node

/-- The place one part further. -/
def stepTo (place : List String) (part : String) : List String :=
  if part = "" ∨ part = "." then place
  else if part = ".." then place.dropLast
  else place ++ [part]

/-- The place that the parts lead to. -/
def placeFrom (files : Files) : List String → List String → Except LookupFailure (List String)
  | place, [] => .ok place
  | place, part :: rest => do
    let _ ← files.directoryAt place
    files.placeFrom (stepTo place part) rest

/-- The node that a name leads to. -/
def find (files : Files) (name : String) : Except LookupFailure FileNode := do
  if name.isEmpty then .error .missing
  let place ← files.placeFrom (files.startOf name) (parts name)
  match files.root.at? place with
  | some node => .ok node
  | none => .error .missing

/-- The name leads somewhere. -/
def holds (files : Files) (name : String) : Bool :=
  match files.find name with
  | .ok _ => true
  | .error _ => false

/-- The name leads to a directory. -/
def hasDirectory (files : Files) (name : String) : Bool :=
  match files.find name with
  | .ok node => node.isDirectory
  | .error _ => false

/-! ### Reading -/

/-- Why a file cannot be read as text. -/
inductive ReadFailure where
  | missing
  | notDirectory
  | isDirectory
  /-- The content is not in UTF-8. -/
  | notText
  deriving DecidableEq, Repr

/-- The failure in words. -/
def ReadFailure.message : ReadFailure → String
  | .missing => "no such file or directory"
  | .notDirectory => "not a directory"
  | .isDirectory => "is a directory"
  | .notText => "the content is not valid UTF-8"

/-- The text of a file. -/
def readText (files : Files) (name : String) : Except ReadFailure String :=
  match files.find name with
  | .error .missing => .error .missing
  | .error .notDirectory => .error .notDirectory
  | .ok (.directory _) => .error .isDirectory
  | .ok (.file content) =>
    match String.fromUTF8? content with
    | some text => .ok text
    | none => .error .notText

/-! ### Making directories -/

/-- Makes the directories on the way along the parts where there are none; none if a file is in
the way. -/
def makeFrom? (files : Files) (place : List String) : List String → Option Files
  | [] => some files
  | part :: rest =>
    let next := stepTo place part
    match files.root.at? next with
    | some (.file _) => none
    | some (.directory _) => files.makeFrom? next rest
    | none =>
      { files with root := files.root.put next (.directory []) }.makeFrom? next rest

/-- Makes a directory and those above it where there are none. -/
def makeDirectory? (files : Files) (name : String) : Option Files :=
  if name.isEmpty then some files else files.makeFrom? (files.startOf name) (parts name)

end Files

end OperatorDesk
