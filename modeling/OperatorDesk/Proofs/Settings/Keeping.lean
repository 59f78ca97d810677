/-
This file shows that settings are read back from their YAML. The text is one of tidy lines, whose
tokens are those of a tree of sections; each section is decoded on its own, and each number is
written without leading zeros, so that it is not taken for one of another base.
-/

import OperatorDesk.Proofs.JsonValue.Keeping
import OperatorDesk.Proofs.Settings.Running
import OperatorDesk.Proofs.Yaml.Lines
import OperatorDesk.Proofs.Yaml.Trees

namespace OperatorDesk.Settings

open OperatorDesk.Yaml

/-! ### Numbers -/

theorem isDigit_of_mem_toDigits {number : Nat} {c : Char} (member : c ∈ Nat.toDigits 10 number) :
    c.isDigit = true :=
  Nat.isDigit_of_mem_toDigits (by decide) (by decide) member

theorem isWord_toDigits (number : Nat) : IsWord (Nat.toDigits 10 number) := by
  refine ⟨Nat.toDigits_ne_nil, fun c member => ?_⟩
  simp [isWordChar, Char.isAlphanum, isDigit_of_mem_toDigits member]

namespace Yaml

/-- The first digit of a number. -/
theorem exists_toDigits_eq_cons (number : Nat) :
    ∃ c others, Nat.toDigits 10 number = c :: others ∧ c.isDigit = true := by
  have notEmpty : Nat.toDigits 10 number ≠ [] := Nat.toDigits_ne_nil
  obtain ⟨c, others, digits⟩ := List.exists_cons_of_ne_nil notEmpty
  exact ⟨c, others, digits, isDigit_of_mem_toDigits (digits ▸ List.mem_cons_self)⟩

/-- A number in decimal has neither a sign nor a zero that announces another base. -/
theorem numberOfText?_toDigits (number : Nat) :
    numberOfText? (Nat.toDigits 10 number) = some number := by
  have value := Text.valueIn?_toDigits number
  rcases Nat.eq_zero_or_pos number with rfl | positive
  · rfl
  · have noZero := Text.head?_toDigits_ne_zero positive
    obtain ⟨c, others, digits, isDigit⟩ := exists_toDigits_eq_cons number
    rw [digits] at value noZero ⊢
    have noZero : c ≠ '0' := fun same => noZero (congrArg some same)
    have noPlus : c ≠ '+' := by
      rintro rfl
      cases isDigit
    simp [numberOfText?, withoutPlus, announcedBase?, hasLeadingZero, noZero, noPlus, value]

theorem number?_toDigits (document : Document) {limit number : Nat} (fits : number ≤ limit) :
    number? document limit (.scalar none none .plain (Nat.toDigits 10 number)) = some number := by
  have text : numeral? document (.scalar none none .plain (Nat.toDigits 10 number)) =
    some (Nat.toDigits 10 number) := rfl
  rw [number?, text, Option.bind_some, numberOfText?_toDigits]
  exact Option.filter_some_pos (decide_eq_true fits)

theorem isNullWord_toDigits (number : Nat) : isNullWord (Nat.toDigits 10 number) = false := by
  have noDigit : ∀ word ∈ ["null".toList, "Null".toList, "NULL".toList, "~".toList],
      ∀ c ∈ word.head?, c.isDigit = false := by simp
  obtain ⟨c, others, digits, isDigit⟩ := exists_toDigits_eq_cons number
  refine Bool.eq_false_iff.mpr fun isNull => ?_
  rw [digits] at isNull
  have other := noDigit (c :: others) (List.contains_iff_mem.mp isNull) c rfl
  rw [isDigit] at other
  cases other

/-- A number or nothing, as its word. -/
def timeoutWord : Option Nat → List Char
  | some seconds => Nat.toDigits 10 seconds
  | none => "null".toList

theorem orNothing?_timeoutWord (document : Document) {limit : Nat} {number : Option Nat}
    (fits : ∀ value ∈ number, value ≤ limit) :
    orNothing? document (number? document limit) (.scalar none none .plain (timeoutWord number)) =
      some number := by
  cases number with
  | none => rfl
  | some value =>
    have notEmpty : (Nat.toDigits 10 value).isEmpty = false :=
      List.isEmpty_eq_false_iff.mpr Nat.toDigits_ne_nil
    have resolves : document.resolved (.scalar none none .plain (timeoutWord (some value))) =
      .scalar none none .plain (Nat.toDigits 10 value) := rfl
    have reads := number?_toDigits document (fits value rfl)
    simp [orNothing?, resolves, notEmpty, isNullWord_toDigits, reads]

/-! ### Sections -/

theorem namedMembers?_mapping (document : Document) (members : List (List Char × Tree)) :
    namedMembers? document (Tree.mapping members).node =
      some (members.map fun member => (member.1, member.2.node)) := by
  show ((Tree.memberNodes members).mapM fun member =>
    (name? document member.1).map fun name => (name, member.2)) = _
  induction members with
  | nil => rfl
  | cons member members inductionHypothesis =>
    obtain ⟨name, tree⟩ := member
    rw [Tree.memberNodes, List.mapM_cons, inductionHypothesis]
    rfl

/-- A member is decoded if no other has its name. -/
theorem part?_only {Value : Type} {members : List (List Char × Node Nat)} {name : String}
    {word : List Char} {node : Node Nat} {otherwise : Value} {decode : Node Nat → Option Value}
    (only : members.filter (·.1 == name.toList) = [(word, node)]) :
    part? members name otherwise decode = decode node := by
  rw [part?, only]

end Yaml

/-! ### The text -/

variable (settings : Settings)

/-- The lines of the settings. -/
def lines : List Line :=
  [{ column := 0, key := "layout".toList, value := none },
    { column := 2, key := "compact_below".toList
      value := some (Nat.toDigits 10 settings.compactBelow) },
    { column := 0, key := "gate".toList, value := none },
    { column := 2, key := "capacity".toList, value := some (Nat.toDigits 10 settings.capacity) },
    { column := 2, key := "question_timeout_secs".toList
      value := some (Yaml.timeoutWord settings.questionTimeoutSeconds) },
    { column := 0, key := "ui".toList, value := none },
    { column := 2, key := "tick_rate_ms".toList
      value := some (Nat.toDigits 10 settings.tickMillis) }]

/-- The section of the layout. -/
def layoutTree : Tree :=
  .mapping [("compact_below".toList, .word (Nat.toDigits 10 settings.compactBelow))]

/-- The section of the gate. -/
def gateTree : Tree :=
  .mapping [("capacity".toList, .word (Nat.toDigits 10 settings.capacity)),
    ("question_timeout_secs".toList, .word (Yaml.timeoutWord settings.questionTimeoutSeconds))]

/-- The section of the surface. -/
def uiTree : Tree :=
  .mapping [("tick_rate_ms".toList, .word (Nat.toDigits 10 settings.tickMillis))]

/-- The settings as a tree. -/
def tree : Tree :=
  .mapping [("layout".toList, settings.layoutTree), ("gate".toList, settings.gateTree),
    ("ui".toList, settings.uiTree)]

theorem toList_timeoutScalar (timeout : Option Nat) :
    (timeoutScalar timeout).toList = Yaml.timeoutWord timeout := by
  cases timeout with
  | none => rfl
  | some seconds => exact String.toList_ofList

theorem toList_toString (number : Nat) : (toString number).toList = Nat.toDigits 10 number :=
  String.toList_ofList

theorem toList_yamlText : settings.yamlText.toList = settings.lines.flatMap Line.chars := by
  unfold yamlText lines
  simp only [String.toList_append, toList_toString, toList_timeoutScalar, List.append_assoc]
  generalize Nat.toDigits 10 settings.compactBelow = compactBelow
  generalize Nat.toDigits 10 settings.capacity = capacity
  generalize Yaml.timeoutWord settings.questionTimeoutSeconds = timeout
  generalize Nat.toDigits 10 settings.tickMillis = tick
  simp [Line.chars, Line.body, List.replicate]

theorem isWord_timeoutWord (timeout : Option Nat) : IsWord (Yaml.timeoutWord timeout) := by
  cases timeout with
  | none => exact ⟨by decide, List.all_eq_true.mp rfl⟩
  | some seconds => exact isWord_toDigits seconds

theorem isTidy_line {column : Nat} {name : String} {value : Option (List Char)}
    (isName : name.toList ≠ [] ∧ name.toList.all isWordChar = true ∧
      name.toList.length ≤ keyReach)
    (isValue : ∀ word ∈ value, IsWord word) :
    Line.IsTidy { column, key := name.toList, value } :=
  ⟨⟨isName.1, List.all_eq_true.mp isName.2.1⟩, isName.2.2, isValue⟩

theorem isTidy_lines : ∀ line ∈ settings.lines, line.IsTidy := by
  have number (count : Nat) : ∀ word ∈ some (Nat.toDigits 10 count), IsWord word := by
    rintro _ ⟨⟩
    exact isWord_toDigits count
  have timeout : ∀ word ∈ some (Yaml.timeoutWord settings.questionTimeoutSeconds),
      IsWord word := by
    rintro _ ⟨⟩
    exact isWord_timeoutWord _
  unfold lines
  simp only [List.forall_mem_cons]
  exact ⟨isTidy_line (by decide) nofun, isTidy_line (by decide) (number _),
    isTidy_line (by decide) nofun, isTidy_line (by decide) (number _),
    isTidy_line (by decide) timeout, isTidy_line (by decide) nofun,
    isTidy_line (by decide) (number _), nofun⟩

theorem isApart_lines : List.IsChain Line.IsApart settings.lines := by
  simp [lines, Line.IsApart]

theorem outline_lines : outline [] settings.lines = settings.tree.tokens := by
  simp [lines, tree, layoutTree, gateTree, uiTree, outline, Tree.tokens, Tree.memberTokens,
    openBlocks, blockEnds, blockStarts, keptBlocks, Scanner.isDeeper]

theorem document?_yamlText :
    document? settings.yamlText.toList = some (some ⟨settings.tree.node⟩) := by
  refine Tree.document?_of_tokens ?_
  rw [toList_yamlText, tokens?_lines settings.isTidy_lines settings.isApart_lines, outline_lines]

/-! ### The settings -/

variable {settings : Settings}

theorem layout?_tree (document : Document) (limited : settings.IsWithinLimits) :
    Yaml.layout? document settings.layoutTree.node = some settings.compactBelow := by
  rw [Yaml.layout?, layoutTree, Yaml.namedMembers?_mapping, Option.bind_eq_bind, Option.bind_some]
  exact (Yaml.part?_only rfl).trans (Yaml.number?_toDigits document limited.compactBelow_le)

theorem gate?_tree (document : Document) (limited : settings.IsWithinLimits) :
    Yaml.gate? document settings.gateTree.node =
      some (settings.capacity, settings.questionTimeoutSeconds) := by
  have capacity := Yaml.number?_toDigits document limited.capacity_le
  have timeout := Yaml.orNothing?_timeoutWord document limited.questionTimeoutSeconds_le
  rw [Yaml.gate?, gateTree, Yaml.namedMembers?_mapping, Option.bind_eq_bind, Option.bind_some,
    (Yaml.part?_only rfl).trans capacity, (Yaml.part?_only rfl).trans timeout]
  rfl

theorem ui?_tree (document : Document) (limited : settings.IsWithinLimits) :
    Yaml.ui? document settings.uiTree.node = some settings.tickMillis := by
  rw [Yaml.ui?, uiTree, Yaml.namedMembers?_mapping, Option.bind_eq_bind, Option.bind_some]
  exact (Yaml.part?_only rfl).trans (Yaml.number?_toDigits document limited.tickMillis_le)

theorem ofDocument?_tree (limited : settings.IsWithinLimits) :
    Yaml.ofDocument? ⟨settings.tree.node⟩ = some settings := by
  have layout := layout?_tree ⟨settings.tree.node⟩ limited
  have gate := gate?_tree ⟨settings.tree.node⟩ limited
  have ui := ui?_tree ⟨settings.tree.node⟩ limited
  have members := Yaml.namedMembers?_mapping ⟨settings.tree.node⟩ [
    ("layout".toList, settings.layoutTree), ("gate".toList, settings.gateTree),
    ("ui".toList, settings.uiTree)]
  rw [← tree] at members
  rw [Yaml.ofDocument?, members]
  simp only [Option.bind_eq_bind, Option.bind_some]
  rw [(Yaml.part?_only rfl).trans gate, Option.bind_some, (Yaml.part?_only rfl).trans layout,
    Option.bind_some, (Yaml.part?_only rfl).trans ui]
  rfl

/-- Usable settings are read back from their YAML, wherever the text is kept. -/
theorem ofText_yamlText (limited : settings.IsWithinLimits) (usable : settings.fault? = none)
    (path : String) : ofText path settings.yamlText = .ok settings := by
  refine ofText_eq_ok ?_ ?_ usable
  · rw [Text.isBlankText, toList_yamlText]
    rfl
  · rw [Yaml.ofChars?, document?_yamlText]
    exact ofDocument?_tree limited

theorem ofText_yamlText_extremes :
    (JsonValue.largestSettings.IsWithinLimits ∧ JsonValue.largestSettings.fault? = none ∧
      ofText "config.yaml" JsonValue.largestSettings.yamlText =
        .ok JsonValue.largestSettings) ∧
      (standard.IsWithinLimits ∧ standard.fault? = none ∧
        ofText "config.yaml" standard.yamlText = .ok standard) := by
  have largest : JsonValue.largestSettings.IsWithinLimits :=
    ⟨Nat.le_refl _, Nat.le_refl _,
      fun _ isLargest => Nat.le_of_eq (Option.some_inj.mp isLargest).symm, Nat.le_refl _⟩
  exact ⟨⟨largest, rfl, ofText_yamlText largest rfl _⟩, isWithinLimits_standard, rfl,
    ofText_yamlText isWithinLimits_standard rfl _⟩

end OperatorDesk.Settings
