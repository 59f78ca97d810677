/-
This file defines the nodes of a YAML document. A node is labelled where it has an anchor, and an
alias names a label; labels are names as they are written or, once they have been resolved,
numbers.
-/

import OperatorDesk.Yaml.Scalar

namespace OperatorDesk.Yaml

/-- A node of a document. -/
inductive Node (Label : Type) where
  | alias (target : Label)
  | scalar (label : Option Label) (tag : Option (List Char)) (style : ScalarStyle)
    (text : List Char)
  | sequence (label : Option Label) (items : List (Node Label))
  | mapping (label : Option Label) (members : List (Node Label × Node Label))
  deriving Repr

namespace Node

/-- What stands where nothing is written. -/
def empty {Label : Type} : Node Label :=
  .scalar none none .plain []

/-- The label of the node. -/
def label? {Label : Type} : Node Label → Option Label
  | .alias _ => none
  | .scalar label _ _ _ => label
  | .sequence label _ => label
  | .mapping label _ => label

mutual

/-- The node and all nodes in it, in the order in which they begin. -/
def within {Label : Type} : Node Label → List (Node Label)
  | .alias target => [.alias target]
  | .scalar label tag style text => [.scalar label tag style text]
  | .sequence label items => .sequence label items :: withinItems items
  | .mapping label members => .mapping label members :: withinMembers members

/-- All nodes in the items. -/
def withinItems {Label : Type} : List (Node Label) → List (Node Label)
  | [] => []
  | item :: items => item.within ++ withinItems items

/-- All nodes in the members. -/
def withinMembers {Label : Type} : List (Node Label × Node Label) → List (Node Label)
  | [] => []
  | (key, value) :: members => key.within ++ value.within ++ withinMembers members

end

end Node

end OperatorDesk.Yaml
