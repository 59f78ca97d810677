/-
This file says which answers a question admits. It welcomes a skip, a text that is like the skip
option or one of its own, and a free text where it allows one, none of them blank; and whatever is
said against another response is said before anything about a broadcast. How an option is written
makes no difference: texts that are alike name the same option and meet the same kind of refusal.
-/

import OperatorDesk.Answer.Refusal
import OperatorDesk.Proofs.Text.Likeness

namespace OperatorDesk

open Text

/-- The kinds of refusals. -/
inductive Refusal.Kind where
  | unknownOption
  | emptySelection
  | freeTextNotAllowed
  | emptyFreeText
  | broadcastNotAllowed
  deriving DecidableEq, Repr

/-- The kind of a refusal. -/
def Refusal.kind : Refusal → Refusal.Kind
  | .unknownOption _ _ _ => .unknownOption
  | .emptySelection _ => .emptySelection
  | .freeTextNotAllowed _ => .freeTextNotAllowed
  | .emptyFreeText _ => .emptyFreeText
  | .broadcastNotAllowed _ => .broadcastNotAllowed

namespace Question

variable {question : Question} {response : Response} {answer : Answer}

/-! ### What a question says to a response -/

/-- The text is like the skip option or like a declared one. -/
def Offers (question : Question) (text : String) : Prop :=
  ∃ option, (option = skipOption ∨ option ∈ question.options) ∧ Alike option text

/-- The responses that a question welcomes. -/
inductive Welcomes (question : Question) : Response → Prop where
  | skip : Welcomes question .skip
  | option (text : String) (written : isBlankText text = false) (offered : question.Offers text) :
    Welcomes question (.selected text)
  | freeText (text : String) (written : isBlankText text = false)
    (allowed : question.allowsFreeText = true) : Welcomes question (.freeText text)

/-- What a question has against the other responses. -/
inductive Objects (question : Question) : Response → Refusal → Prop where
  | emptySelection (text : String) (blank : isBlankText text = true) :
    Objects question (.selected text) (.emptySelection question.id)
  | unknownOption (text : String) (written : isBlankText text = false)
    (unknown : ¬question.Offers text) : Objects question (.selected text)
      (.unknownOption question.id (trim text) (", ".intercalate question.options))
  | freeTextNotAllowed (text : String) (forbidden : question.allowsFreeText = false) :
    Objects question (.freeText text) (.freeTextNotAllowed question.id)
  | emptyFreeText (text : String) (allowed : question.allowsFreeText = true)
    (blank : isBlankText text = true) :
    Objects question (.freeText text) (.emptyFreeText question.id)

theorem namesSkip_trim_iff {text : String} :
    namesSkip (trim text) = true ↔ Alike skipOption text := by
  have trimmed : trim skipOption = skipOption := by decide
  rw [← sameWords_iff, namesSkip, trim_trim, sameWords, trimmed, sameLetters, sameLetters,
    beq_iff_eq, beq_iff_eq, eq_comm]

theorem isSome_findOption?_iff {text : String} :
    (question.findOption? text).isSome = true ↔ ∃ option ∈ question.options, Alike option text := by
  simp only [findOption?, List.find?_isSome, sameWords_iff]

theorem findOption?_congr {text other : String} (alike : Alike text other) :
    question.findOption? text = question.findOption? other := by
  simp only [findOption?, sameWords_congr alike]

theorem offers_iff {text : String} : question.Offers text ↔
    (namesSkip (trim text) || (question.findOption? (trim text)).isSome) = true := by
  rw [← findOption?_congr (sameWords_iff.mp (sameWords_trim text)), Bool.or_eq_true,
    namesSkip_trim_iff, isSome_findOption?_iff]
  simp only [Offers, or_and_right, exists_or, exists_eq_left]

theorem Offers.congr {text other : String} (offers : question.Offers text)
    (alike : Alike text other) : question.Offers other := by
  obtain ⟨option, isOption, same⟩ := offers
  rw [← sameWords_iff, sameWords_congr alike, sameWords_iff] at same
  exact ⟨option, isOption, same⟩

theorem welcomes_or_objects (question : Question) (response : Response) :
    question.Welcomes response ∨ ∃ refusal, question.Objects response refusal := by
  cases response with
  | skip => exact Or.inl .skip
  | selected text =>
    cases blank : isBlankText text with
    | true => exact Or.inr ⟨_, .emptySelection text blank⟩
    | false =>
      by_cases offered : question.Offers text
      · exact Or.inl (.option text blank offered)
      · exact Or.inr ⟨_, .unknownOption text blank offered⟩
  | freeText text =>
    cases allowed : question.allowsFreeText with
    | false => exact Or.inr ⟨_, .freeTextNotAllowed text allowed⟩
    | true =>
      cases blank : isBlankText text with
      | true => exact Or.inr ⟨_, .emptyFreeText text allowed blank⟩
      | false => exact Or.inl (.freeText text blank allowed)

/-! ### What the test says -/

theorem responseRefusal?_of_welcomes (welcomes : question.Welcomes response) :
    question.responseRefusal? response = none := by
  cases welcomes with
  | skip => rfl
  | option text written offered =>
    simp only [responseRefusal?, isEmpty_trim_iff, written, offers_iff.mp offered,
      Bool.false_eq_true, if_false, if_true]
  | freeText text written allowed =>
    simp only [responseRefusal?, isEmpty_trim_iff, written, allowed, Bool.not_true,
      Bool.false_eq_true, if_false]

theorem responseRefusal?_of_objects {refusal : Refusal}
    (objects : question.Objects response refusal) :
    question.responseRefusal? response = some refusal := by
  cases objects with
  | emptySelection text blank => simp only [responseRefusal?, isEmpty_trim_iff, blank, if_true]
  | unknownOption text written unknown =>
    rw [offers_iff] at unknown
    simp only [responseRefusal?, isEmpty_trim_iff, written, unknown, Bool.false_eq_true, if_false]
  | freeTextNotAllowed text forbidden =>
    simp only [responseRefusal?, forbidden, Bool.not_false, if_true]
  | emptyFreeText text allowed blank =>
    simp only [responseRefusal?, isEmpty_trim_iff, allowed, blank, Bool.not_true,
      Bool.false_eq_true, if_false, if_true]

theorem responseRefusal?_eq_none_iff :
    question.responseRefusal? response = none ↔ question.Welcomes response := by
  refine ⟨fun nothing => ?_, responseRefusal?_of_welcomes⟩
  refine (question.welcomes_or_objects response).resolve_right ?_
  rintro ⟨refusal, objects⟩
  cases nothing.symm.trans (responseRefusal?_of_objects objects)

theorem responseRefusal?_eq_some_iff {refusal : Refusal} :
    question.responseRefusal? response = some refusal ↔ question.Objects response refusal := by
  refine ⟨fun refused => ?_, responseRefusal?_of_objects⟩
  rcases question.welcomes_or_objects response with welcomes | ⟨other, objects⟩
  · cases refused.symm.trans (responseRefusal?_of_welcomes welcomes)
  · obtain rfl := Option.some_inj.mp (refused.symm.trans (responseRefusal?_of_objects objects))
    exact objects

theorem broadcastRefusal?_eq_none_iff {broadcast : Bool} :
    question.broadcastRefusal? broadcast = none ↔
      (broadcast = true → question.allowsBroadcast = true) := by
  cases broadcast <;> cases allowed : question.allowsBroadcast <;>
    simp [broadcastRefusal?, allowed]

theorem broadcastRefusal?_eq_some_iff {broadcast : Bool} {refusal : Refusal} :
    question.broadcastRefusal? broadcast = some refusal ↔
      broadcast = true ∧ question.allowsBroadcast = false ∧
        refusal = .broadcastNotAllowed question.id := by
  cases broadcast <;> cases allowed : question.allowsBroadcast <;>
    simp [broadcastRefusal?, allowed, eq_comm]

/-! ### How a selection is written -/

theorem Welcomes.congr {text other : String} (welcomes : question.Welcomes (.selected text))
    (alike : Alike text other) : question.Welcomes (.selected other) := by
  cases welcomes with
  | option _ written offered =>
    exact .option other (isBlankText_congr alike ▸ written) (offered.congr alike)

theorem Objects.congr {text other : String} {refusal : Refusal}
    (objects : question.Objects (.selected text) refusal) (alike : Alike text other) :
    ∃ again, question.Objects (.selected other) again ∧ again.kind = refusal.kind := by
  cases objects with
  | emptySelection _ blank =>
    exact ⟨_, .emptySelection other (isBlankText_congr alike ▸ blank), rfl⟩
  | unknownOption _ written unknown =>
    refine ⟨_, .unknownOption other (isBlankText_congr alike ▸ written) fun offered => ?_, rfl⟩
    exact unknown (offered.congr alike.symm)

theorem kind_responseRefusal?_congr {text other : String} (alike : Alike text other) :
    (question.responseRefusal? (.selected text)).map Refusal.kind =
      (question.responseRefusal? (.selected other)).map Refusal.kind := by
  rcases question.welcomes_or_objects (.selected text) with welcomes | ⟨refusal, objects⟩
  · rw [responseRefusal?_of_welcomes welcomes,
      responseRefusal?_of_welcomes (welcomes.congr alike)]
  · obtain ⟨again, objectsAgain, same⟩ := objects.congr alike
    rw [responseRefusal?_of_objects objects, responseRefusal?_of_objects objectsAgain]
    exact congrArg some same.symm

/-! ### Answers -/

/-- A question admits an answer if it welcomes the response and allows the broadcast, if one is
asked for. Of the faults of other answers that of the response is reported, and a forbidden
broadcast only where the response is welcome. However a selection is written, the same kind of
fault is reported, if any, and the same option is found: the first declared one that is like it. -/
theorem admits_exactly (question : Question) :
    (∀ answer, question.refusal? answer = none ↔ question.Welcomes answer.response ∧
      (answer.broadcast = true → question.allowsBroadcast = true)) ∧
    (∀ answer refusal, question.refusal? answer = some refusal ↔
      question.Objects answer.response refusal ∨
        question.Welcomes answer.response ∧ answer.broadcast = true ∧
          question.allowsBroadcast = false ∧ refusal = .broadcastNotAllowed question.id) ∧
    (∀ (answer : Answer) text other, Alike text other →
      (question.refusal? { answer with response := .selected text }).map Refusal.kind =
          (question.refusal? { answer with response := .selected other }).map Refusal.kind ∧
        question.findOption? text = question.findOption? other) ∧
    ∀ text declared, question.findOption? text = some declared ↔
      ∃ before after, question.options = before ++ declared :: after ∧ Alike declared text ∧
        ∀ option ∈ before, ¬Alike option text := by
  refine ⟨fun answer => ?_, fun answer refusal => ?_, fun answer text other alike => ?_,
    fun text declared => ?_⟩
  · rw [refusal?, Option.or_eq_none_iff, responseRefusal?_eq_none_iff,
      broadcastRefusal?_eq_none_iff]
  · rw [refusal?, Option.or_eq_some_iff, responseRefusal?_eq_some_iff,
      responseRefusal?_eq_none_iff, broadcastRefusal?_eq_some_iff]
  · refine ⟨?_, findOption?_congr alike⟩
    rw [refusal?, refusal?, Option.map_or, Option.map_or, kind_responseRefusal?_congr alike]
  · simp only [findOption?, List.find?_eq_some_iff_append, Bool.not_eq_true', ← Bool.not_eq_true,
      sameWords_iff]
    constructor
    · rintro ⟨same, before, after, split, others⟩
      exact ⟨before, after, split, same, others⟩
    · rintro ⟨before, after, split, same, others⟩
      exact ⟨same, before, after, split, others⟩

/-- A question with a blank option, and one that is declared in two ways. -/
def repeatedChoice : Question :=
  { Question.plain "Q-1" "Which store?" with options := [" ", "Redis ", "REDIS"] }

/-- Neither a no-break space nor letter case makes a difference, and the first option is found. -/
theorem admits_exactly_repeated :
    Alike "redis" "\u00a0rEDIS" ∧ repeatedChoice.findOption? "\u00a0rEDIS" = some "Redis " ∧
      ∀ answer : Answer,
        (repeatedChoice.refusal? { answer with response := .selected "redis" }).map Refusal.kind =
          (repeatedChoice.refusal? { answer with response := .selected "\u00a0rEDIS" }).map
            Refusal.kind := by
  have alike : Alike "redis" "\u00a0rEDIS" := sameWords_iff.mp (by decide)
  obtain ⟨-, -, sameKind, firstOption⟩ := admits_exactly repeatedChoice
  refine ⟨alike, ?_, fun answer => (sameKind answer _ _ alike).1⟩
  refine (firstOption _ _).mpr ⟨[" "], ["REDIS"], rfl, sameWords_iff.mp (by decide), ?_⟩
  intro option member
  rw [← sameWords_iff, List.mem_singleton.mp member]
  decide

end Question

end OperatorDesk
