/-
This file shows that trees of words and block mappings are read from their tokens, and that
numbering leaves them as they are, since they have no anchors. The induction is on the tree; the
reader is given a step for each token.
-/

import OperatorDesk.Yaml.Document

namespace OperatorDesk.Yaml

/-- A tree of words and block mappings. -/
inductive Tree where
  | word (text : List Char)
  | mapping (members : List (List Char × Tree))

namespace Tree

/-! ### Tokens and nodes -/

mutual

/-- The tokens of the tree. -/
def tokens : Tree → List Token
  | .word text => [.scalar .plain text]
  | .mapping members => .blockMappingStart :: memberTokens members

/-- The tokens of the members, and the end of their mapping. -/
def memberTokens : List (List Char × Tree) → List Token
  | [] => [.blockEnd]
  | (name, tree) :: members =>
    .key :: .scalar .plain name :: .value :: (tree.tokens ++ memberTokens members)

end

mutual

/-- The node that the tree is read as. -/
def node {Label : Type} : Tree → Node Label
  | .word text => .scalar none none .plain text
  | .mapping members => .mapping none (memberNodes members)

/-- The members with their nodes. -/
def memberNodes {Label : Type} : List (List Char × Tree) → List (Node Label × Node Label)
  | [] => []
  | (name, tree) :: members => (.scalar none none .plain name, tree.node) :: memberNodes members

end

/-! ### Reading -/

theorem endsBlockPart_tokens (tree : Tree) (rest : List Token) :
    endsBlockPart (tree.tokens ++ rest) = false := by
  cases tree <;> rfl

theorem length_tokens_pos (tree : Tree) : 0 < tree.tokens.length := by
  cases tree <;> exact Nat.succ_pos _

theorem readNode?_word (text : List Char) (level : Bool) (fuel : Nat) (rest : List Token) :
    readNode? Handles.standard true level (fuel + 1) (.scalar .plain text :: rest) =
      some (.scalar none none .plain text, rest) :=
  rfl

mutual

/-- Every tree is read from its tokens if there is a step for each of them. -/
theorem readNode?_tokens (tree : Tree) (level : Bool) (fuel : Nat)
    (enough : tree.tokens.length ≤ fuel) (rest : List Token) :
    readNode? Handles.standard true level fuel (tree.tokens ++ rest) = some (tree.node, rest) := by
  obtain ⟨fuel, rfl⟩ := Nat.exists_eq_add_one.mpr (Nat.lt_of_lt_of_le tree.length_tokens_pos enough)
  match tree with
  | .word text => exact readNode?_word text level fuel rest
  | .mapping members =>
    have reads := readBlockMembers?_memberTokens members fuel (Nat.le_of_succ_le_succ enough) rest
    exact congrArg (Option.bind · _) reads

theorem readBlockMembers?_memberTokens (members : List (List Char × Tree)) (fuel : Nat)
    (enough : (memberTokens members).length ≤ fuel) (rest : List Token) :
    readBlockMembers? Handles.standard fuel (memberTokens members ++ rest) =
      some (memberNodes members, rest) := by
  match members with
  | [] =>
    obtain ⟨fuel, rfl⟩ := Nat.exists_eq_add_one.mpr (Nat.lt_of_lt_of_le Nat.one_pos enough)
    rfl
  | (name, tree) :: members =>
    rw [memberTokens, List.length_cons, List.length_cons, List.length_cons, List.length_append]
      at enough
    obtain ⟨fuel, rfl⟩ : ∃ less, fuel = less + 2 := Nat.exists_eq_add_of_le' (by omega)
    have first := readNode?_tokens tree true (fuel + 1) (by omega) (memberTokens members ++ rest)
    have others := readBlockMembers?_memberTokens members (fuel + 1) (by omega) rest
    have key := readNode?_word name true fuel
      (.value :: (tree.tokens ++ (memberTokens members ++ rest)))
    have hasValue := tree.endsBlockPart_tokens (memberTokens members ++ rest)
    have hasKey : endsBlockPart (.scalar .plain name :: .value ::
      (tree.tokens ++ (memberTokens members ++ rest))) = false := rfl
    simp only [memberTokens, List.cons_append, List.append_assoc, readBlockMembers?, hasKey, key,
      hasValue, first, others, Bool.false_eq_true, if_false, Option.bind_eq_bind,
      Option.bind_some, Option.pure_def, memberNodes]

end

/-! ### Numbering -/

mutual

theorem numbered?_node (anchors : Anchors) (tree : Tree) :
    numbered? anchors tree.node = some (tree.node, anchors) := by
  match tree with
  | .word text => rfl
  | .mapping members =>
    exact congrArg (Option.bind · _) (numberedMembers?_memberNodes anchors members)

theorem numberedMembers?_memberNodes (anchors : Anchors) (members : List (List Char × Tree)) :
    numberedMembers? anchors (memberNodes members) = some (memberNodes members, anchors) := by
  match members with
  | [] => rfl
  | (name, tree) :: members =>
    have key : numbered? anchors (.scalar none none .plain name) =
      some (.scalar none none .plain name, anchors) := rfl
    simp only [memberNodes, numberedMembers?, key, numbered?_node anchors tree,
      numberedMembers?_memberNodes anchors members, Option.bind_eq_bind, Option.bind_some,
      Option.pure_def]

end

/-- A text with the tokens of a tree holds the tree as its document. -/
theorem document?_of_tokens {tree : Tree} {chars : List Char}
    (isTokens : tokens? chars = some tree.tokens) : document? chars = some (some ⟨tree.node⟩) := by
  have reads := readNode?_tokens tree false (2 * tree.tokens.length + 2) (by omega) []
  have notEmpty : tree.tokens.isEmpty = false :=
    List.isEmpty_eq_false_iff.mpr (List.ne_nil_of_length_pos tree.length_tokens_pos)
  have bare : opensDocument tree.tokens = false := by cases tree <;> rfl
  rw [List.append_nil] at reads
  have root : root? tree.tokens = some (some tree.node) := by
    simp only [root?, notEmpty, readDocument?, bare, reads, Bool.false_eq_true, if_false,
      Option.bind_eq_bind, Option.bind_some, List.all_nil, if_true, Option.pure_def]
  simp only [document?, isTokens, root, numbered?_node, Option.bind_eq_bind, Option.bind_some,
    Option.pure_def]

end Tree

end OperatorDesk.Yaml
