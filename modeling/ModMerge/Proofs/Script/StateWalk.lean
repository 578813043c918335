import ModMerge.Mod.Survey
import ModMerge.Proofs.Script.ArgumentNumbers

/-!
# Walking by the spelling of lines

Where a walk through a script stands can be told from the spelling of the lines before:
`ParseState.past` takes a state past a line without asking for anything that the lines have
defined. The same spelling tells which lines a walk refuses in a state (`ParseState.Refuses`).
The meanings that lines are read with agree with this.
-/

namespace ModMerge

/-! ### What the spelling of a line tells -/

/-- The directive that a line is spelt as. -/
def directiveOf? (line : Line) : Option DirectiveLine :=
  directiveLine? (Text.trim line)

/-- Whether a line has a word that opens a block of a type. -/
def opensBlock (type : EntityType) (line : Line) : Bool :=
  (directiveOf? line).any fun directive => directiveTable.any fun ref =>
    ref.type == type && ref.rule.opensBlock && ref.rule.words.contains directive.word

/-- Whether a line ends a block. -/
def endsBlock (line : Line) : Bool :=
  (directiveOf? line).any fun directive => directive.word == "end"

/-- Whether a line begins a description and holds an odd number of quotes behind its word, so
that the description goes on after it. -/
def opensDescription (line : Line) : Bool :=
  (directiveOf? line).any fun directive =>
    directive.word == "description" && hasOpenQuote directive.rest

/-- Whether a line of a description holds its closing quote. -/
def closesDescription (line : Line) : Bool :=
  hasOpenQuote (beforeComment (Text.trim line))

/-- How many digits the numeral has that a directive line gives as its argument. -/
def argumentDigits? (line : Line) : Option Nat :=
  (directiveOf? line).bind fun directive =>
    if (Text.leadingBlanks directive.rest).isEmpty then none
    else (Text.takeNumeral? (Text.trimLeft directive.rest)).map (·.digits.length)

namespace ParseState

/-- The state after a line. A block of another type than spell leaves the state as it is. -/
def past (state : ParseState) (line : Line) : ParseState :=
  if state = .inDescription then
    if closesDescription line then .idle else .inDescription
  else if opensDescription line then .inDescription
  else if endsBlock line then .idle
  else if opensBlock .spell line then .inSpellBlock
  else state

/-- The state after some lines. -/
def pastAll (state : ParseState) (lines : List ScriptLine) : ParseState :=
  lines.foldl (fun state line => state.past line.text) state

/-- What a walk refuses a line for where it is in a state. -/
inductive Refuses : ParseState → Line → ScriptFault → Prop where
  /-- A block is opened while a spell block is open. -/
  | block {line : Line} {type : EntityType} (startLine : Nat)
      (opens : opensBlock type line = true) :
      Refuses .inSpellBlock line (.transition (.blockInsideSpell startLine))
  /-- A description that stays open is begun while a spell block is open. -/
  | description {line : Line} (opens : opensDescription line = true) :
      Refuses .inSpellBlock line (.transition (.descriptionInside .inSpellBlock))
  /-- A directive outside of descriptions has a numeral of too many digits. -/
  | numeral {state : ParseState} {line : Line} {count : Nat} (outside : state ≠ .inDescription)
      (given : argumentDigits? line = some count) (tooMany : Text.digitLimit < count) :
      Refuses state line (.numeral (.tooManyDigits count))

theorem pastAll_append (state : ParseState) (front back : List ScriptLine) :
    state.pastAll (front ++ back) = (state.pastAll front).pastAll back :=
  List.foldl_append

theorem past_eq_inDescription_iff {state : ParseState} {line : Line} :
    state.past line = .inDescription ↔
      (state = .inDescription ∧ closesDescription line = false) ∨
      (state ≠ .inDescription ∧ opensDescription line = true) := by
  rw [past]
  by_cases inside : state = .inDescription
  · rw [if_pos inside]
    cases closesDescription line <;> simp [inside]
  · rw [if_neg inside]
    by_cases opens : opensDescription line = true
    · simp [inside, opens]
    · rw [if_neg opens]
      split
      · simp [inside, opens]
      split
      · simp [inside, opens]
      · simp [inside, opens]

/-- Where no line begins a description, the lines end in one exactly if they have stood in it from
the first to the last. -/
theorem pastAll_eq_inDescription_iff {state : ParseState} {lines : List ScriptLine}
    (noneOpens : ∀ line ∈ lines, opensDescription line.text = false) :
    state.pastAll lines = .inDescription ↔
      state = .inDescription ∧ ∀ line ∈ lines, closesDescription line.text = false := by
  induction lines generalizing state with
  | nil => simp [pastAll]
  | cons line rest inductionHypothesis =>
      rw [List.forall_mem_cons] at noneOpens
      have split : state.pastAll (line :: rest) = (state.past line.text).pastAll rest := rfl
      rw [split, inductionHypothesis noneOpens.2, past_eq_inDescription_iff, noneOpens.1,
        List.forall_mem_cons]
      simp [and_assoc]

end ParseState

/-! ### Reading by the spelling -/

section

variable {context : ParseContext} {line : Line} {classified : ClassifiedLine}

/-- A line that is spelt as a directive is read as one. -/
theorem classify_of_directiveOf? {directive : DirectiveLine}
    (outside : context.inDescription = false) (isDirective : directiveOf? line = some directive) :
    classify context line = (readArgument directive.rest).map fun argument =>
      ⟨Text.trim line, directiveMeaning context directive argument⟩ := by
  obtain ⟨wordChars, spelt, wordEq⟩ := directiveLine?_eq_some_iff.1 isDirective
  rw [directiveOf?] at isDirective
  rw [classify_eq line outside, if_neg, if_neg, isDirective]
  · rw [spelt.text_eq]
    cases wordChars with
    | nil => exact absurd rfl spelt.ne_nil
    | cons first others => simp
  · rw [spelt.text_eq]
    simp

/-- A line that is not spelt as a directive says nothing. -/
theorem classify_of_directiveOf?_eq_none (outside : context.inDescription = false)
    (notDirective : directiveOf? line = none) :
    ∃ meaning, classify context line = .ok ⟨Text.trim line, meaning⟩ ∧
      (meaning = .blank ∨ meaning = .comment ∨ meaning = .text none) := by
  rw [classify_eq line outside]
  split
  · exact ⟨_, rfl, .inl rfl⟩
  split
  · exact ⟨_, rfl, .inr (.inl rfl)⟩
  rw [directiveOf?] at notDirective
  rw [notDirective]
  exact ⟨_, rfl, .inr (.inr rfl)⟩

theorem value_eq_error_iff {numeral : Text.NumeralSpan} {error : Text.NumeralError} :
    numeral.value = .error error ↔ Text.digitLimit < numeral.digits.length ∧
      error = .tooManyDigits numeral.digits.length := by
  rw [Text.NumeralSpan.value, Text.readDigits]
  split
  · next fits => simp [Except.map, Nat.not_lt.2 fits]
  · next tooMany => simp [Except.map, Nat.not_le.1 tooMany, eq_comm]

/-- An argument cannot be read exactly if it is a numeral of too many digits. -/
theorem readArgument_eq_error_iff {rest : Line} {error : Text.NumeralError} :
    readArgument rest = .error error ↔ (Text.leadingBlanks rest).isEmpty = false ∧
      ∃ numeral, Text.takeNumeral? (Text.trimLeft rest) = some numeral ∧
        Text.digitLimit < numeral.digits.length ∧
        error = .tooManyDigits numeral.digits.length := by
  rw [readArgument]
  cases noBlanks : (Text.leadingBlanks rest).isEmpty with
  | true => simp
  | false =>
      cases isNumeral : Text.takeNumeral? (Text.trimLeft rest) with
      | none =>
          simp only [Bool.false_eq_true, if_false]
          split <;> simp
      | some numeral =>
          simp only [Bool.false_eq_true, if_false, true_and, Option.some.injEq, exists_eq_left',
            ← value_eq_error_iff]
          cases numeral.value <;> simp [Except.map]

/-- Outside of descriptions a line cannot be read exactly if its numeral has too many digits. -/
theorem classify_eq_error_iff {error : Text.NumeralError}
    (outside : context.inDescription = false) :
    classify context line = .error error ↔ ∃ count, argumentDigits? line = some count ∧
      Text.digitLimit < count ∧ error = .tooManyDigits count := by
  cases isDirective : directiveOf? line with
  | none =>
      obtain ⟨meaning, read, -⟩ := classify_of_directiveOf?_eq_none outside isDirective
      simp [read, argumentDigits?, isDirective]
  | some directive =>
      have failsWith : classify context line = .error error ↔
          readArgument directive.rest = .error error := by
        rw [classify_of_directiveOf? outside isDirective]
        cases readArgument directive.rest <;> simp [Except.map]
      rw [failsWith, readArgument_eq_error_iff]
      simp only [argumentDigits?, isDirective, Option.bind_some]
      cases (Text.leadingBlanks directive.rest).isEmpty with
      | true => simp
      | false => simp [Option.map_eq_some_iff]

/-! ### Meanings of directives -/

theorem directiveMeaning_eq_blockEnd_iff {directive : DirectiveLine} {argument : Argument} :
    directiveMeaning context directive argument = .blockEnd ↔ directive.word = "end" := by
  constructor
  · intro isEnd
    have means := isEnd ▸ directiveMeans_directiveMeaning context directive argument
    cases means with
    | blockEnd isWord => exact isWord
  · intro isEnd
    simp [directiveMeaning, isEnd, otherMetadataWords]

theorem directiveMeaning_eq_descriptionStart_iff {directive : DirectiveLine}
    {argument : Argument} {staysOpen : Bool} :
    directiveMeaning context directive argument = .descriptionStart staysOpen ↔
      directive.word = "description" ∧ hasOpenQuote directive.rest = staysOpen := by
  constructor
  · intro isStart
    have means := isStart ▸ directiveMeans_directiveMeaning context directive argument
    cases means with
    | descriptionStart isWord => exact ⟨isWord, rfl⟩
  · rintro ⟨isDescription, rfl⟩
    simp [directiveMeaning, isDescription]

theorem directiveMeaning_eq_blockStart_iff {directive : DirectiveLine} {argument given : Argument}
    {word : String} {ref : DirectiveRef} :
    directiveMeaning context directive argument = .blockStart word ref given ↔
      (word = directive.word ∧ given = argument) ∧ ref ∈ directiveTable ∧
        ref.rule.opensBlock = true ∧ directive.word ∈ ref.rule.words := by
  constructor
  · intro isStart
    have isForm : directiveMeaning context directive argument =
        (LineForm.blockStart word ref).meaning given := isStart
    have isWord := word_of_directiveMeaning isStart
    have fromTable := LineForm.fromTable_of_directiveMeaning isForm
    exact ⟨⟨isWord, (LineForm.of_directiveMeaning isForm).1⟩, isWord ▸ fromTable⟩
  · rintro ⟨⟨rfl, rfl⟩, inTable, opens, isWord⟩
    exact directiveMeaning_of_opensBlock context inTable opens isWord _ _

/-- Outside of descriptions a line is a directive with its meaning, or it says nothing. -/
theorem meaning_of_classify (outside : context.inDescription = false)
    (read : classify context line = .ok classified) :
    (directiveOf? line = none ∧ (classified.meaning = .blank ∨ classified.meaning = .comment ∨
      classified.meaning = .text none)) ∨
    ∃ directive argument, directiveOf? line = some directive ∧
      readArgument directive.rest = .ok argument ∧
      classified.meaning = directiveMeaning context directive argument := by
  cases isDirective : directiveOf? line with
  | none =>
      obtain ⟨meaning, isRead, nothing⟩ := classify_of_directiveOf?_eq_none outside isDirective
      obtain rfl := Except.ok.inj (isRead.symm.trans read)
      exact .inl ⟨rfl, nothing⟩
  | some directive =>
      rw [classify_of_directiveOf? outside isDirective] at read
      obtain ⟨argument, hasArgument, rfl⟩ := map_eq_ok.1 read
      exact .inr ⟨directive, argument, rfl, hasArgument, rfl⟩

theorem opensBlock_iff_of_classify (outside : context.inDescription = false)
    (read : classify context line = .ok classified) (type : EntityType) :
    opensBlock type line = true ↔ ∃ word ref argument,
      classified.meaning = .blockStart word ref argument ∧ ref.type = type := by
  obtain ⟨isDirective, nothing⟩ | ⟨directive, argument, isDirective, -, meaningEq⟩ :=
    meaning_of_classify outside read
  · rcases nothing with nothing | nothing | nothing <;> simp [opensBlock, isDirective, nothing]
  · simp only [opensBlock, isDirective, meaningEq, Option.any_some, List.any_eq_true,
      Bool.and_eq_true, beq_iff_eq, List.contains_iff_mem, directiveMeaning_eq_blockStart_iff]
    constructor
    · rintro ⟨ref, inTable, ⟨sameType, opens⟩, isWord⟩
      exact ⟨_, ref, _, ⟨⟨rfl, rfl⟩, inTable, opens, isWord⟩, sameType⟩
    · rintro ⟨_, ref, _, ⟨-, inTable, opens, isWord⟩, sameType⟩
      exact ⟨ref, inTable, ⟨sameType, opens⟩, isWord⟩

theorem endsBlock_iff_of_classify (outside : context.inDescription = false)
    (read : classify context line = .ok classified) :
    endsBlock line = true ↔ classified.meaning = .blockEnd := by
  obtain ⟨isDirective, nothing⟩ | ⟨directive, argument, isDirective, -, meaningEq⟩ :=
    meaning_of_classify outside read
  · rcases nothing with nothing | nothing | nothing <;> simp [endsBlock, isDirective, nothing]
  · rw [meaningEq, directiveMeaning_eq_blockEnd_iff]
    simp [endsBlock, isDirective]

theorem opensDescription_iff_of_classify (outside : context.inDescription = false)
    (read : classify context line = .ok classified) :
    opensDescription line = true ↔ classified.meaning = .descriptionStart true := by
  obtain ⟨isDirective, nothing⟩ | ⟨directive, argument, isDirective, -, meaningEq⟩ :=
    meaning_of_classify outside read
  · rcases nothing with nothing | nothing | nothing <;>
      simp [opensDescription, isDirective, nothing]
  · rw [meaningEq, directiveMeaning_eq_descriptionStart_iff]
    simp [opensDescription, isDirective]

end

end ModMerge
