/-
This file defines YAML documents, whose anchors are numbered. An anchor gets the number of the
names that were in use before it, so a name that is used again shares its new number with the next
new name. An alias gets the number that its name has where the alias stands, and stands for the
last node with this number. The main function is `document?`.
-/

import OperatorDesk.Yaml.Node.Reader
import OperatorDesk.Yaml.Token.Reader

namespace OperatorDesk.Yaml

/-- The numbers of the names in use. -/
abbrev Anchors := List (List Char × Nat)

namespace Anchors

/-- Numbers an anchor. -/
def declare (anchors : Anchors) (name : List Char) : Nat × Anchors :=
  (anchors.length, (name, anchors.length) :: anchors.filter (·.1 != name))

/-- Numbers the anchor of a node, if it has one. -/
def declareOption (anchors : Anchors) : Option (List Char) → Option Nat × Anchors
  | some name => let (number, anchors) := anchors.declare name; (some number, anchors)
  | none => (none, anchors)

end Anchors

mutual

/-- The node with its labels numbered; fails for an alias without an anchor before it. -/
def numbered? (anchors : Anchors) : WrittenNode → Option (Node Nat × Anchors)
  | .alias name => (anchors.lookup name).map fun number => (.alias number, anchors)
  | .scalar label tag style text =>
    let (number, anchors) := anchors.declareOption label
    some (.scalar number tag style text, anchors)
  | .sequence label items => do
    let (number, anchors) := anchors.declareOption label
    let (items, anchors) ← numberedItems? anchors items
    return (.sequence number items, anchors)
  | .mapping label members => do
    let (number, anchors) := anchors.declareOption label
    let (members, anchors) ← numberedMembers? anchors members
    return (.mapping number members, anchors)

/-- The items with their labels numbered. -/
def numberedItems? (anchors : Anchors) : List WrittenNode → Option (List (Node Nat) × Anchors)
  | [] => some ([], anchors)
  | item :: items => do
    let (item, anchors) ← numbered? anchors item
    let (items, anchors) ← numberedItems? anchors items
    return (item :: items, anchors)

/-- The members with their labels numbered. -/
def numberedMembers? (anchors : Anchors) :
    List (WrittenNode × WrittenNode) → Option (List (Node Nat × Node Nat) × Anchors)
  | [] => some ([], anchors)
  | (key, value) :: members => do
    let (key, anchors) ← numbered? anchors key
    let (value, anchors) ← numbered? anchors value
    let (members, anchors) ← numberedMembers? anchors members
    return ((key, value) :: members, anchors)

end

/-- A document. -/
structure Document where
  root : Node Nat
  deriving Repr

namespace Document

/-- The last node with this number. -/
def labelled? (document : Document) (number : Nat) : Option (Node Nat) :=
  (document.root.within.filter (·.label? == some number)).getLast?

/-- The node itself, or the one that it is an alias of. -/
def resolved (document : Document) (node : Node Nat) : Node Nat :=
  match node with
  | .alias number => (document.labelled? number).getD node
  | node => node

end Document

/-- The document that a text holds; none for a text without one. -/
def document? (chars : List Char) : Option (Option Document) := do
  match ← root? (← tokens? chars) with
  | some root =>
    let (root, _) ← numbered? [] root
    return some { root }
  | none => return none

end OperatorDesk.Yaml
