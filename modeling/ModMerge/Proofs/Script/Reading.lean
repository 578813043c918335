import ModMerge.Proofs.Fold
import ModMerge.Proofs.Script.DirectiveLines
import ModMerge.Proofs.Script.DirectiveTable

/-!
# What a line is read as

The meaning of a line depends on the block that it stands in, but for reading a mod only in
so far as that is a spell block or not: other differences are about content that is merely
used (`LineMeaning.Alike`). `Reads` says what a line is read as in this sense, and it can be
said of the lines that renumbering writes.
-/

namespace ModMerge

/-- Meanings between which reading a mod makes no difference. -/
inductive LineMeaning.Alike : LineMeaning → LineMeaning → Prop where
  | refl (meaning : LineMeaning) : Alike meaning meaning
  | spellContent (directive : SpellDirective) (ref other : Option DirectiveRef)
      (argument : Argument) :
      Alike (.spellContent directive ref argument) (.spellContent directive other argument)
  | usage (word : String) {ref other : DirectiveRef} (argument : Argument)
      (uses : ref.rule.role = .usage) (otherUses : other.rule.role = .usage) :
      Alike (.entity word ref argument) (.entity word other argument)

/-- Reading a mod goes on alike after lines that are alike. -/
theorem LineMeaning.Alike.advance_eq {meaning other : LineMeaning}
    (alike : meaning.Alike other) (survey : Survey) (lineNumber : Nat) :
    survey.advance lineNumber other = survey.advance lineNumber meaning := by
  cases alike with
  | refl => rfl
  | spellContent => rfl
  | usage word argument uses otherUses =>
      simp only [Survey.advance, uses, otherUses]
      rfl

/-- What a directive can mean, and what each meaning takes. -/
inductive DirectiveMeans (context : ParseContext) (directive : DirectiveLine)
    (argument : Argument) : LineMeaning → Prop where
  | modName (isWord : directive.word = "modname") :
      DirectiveMeans context directive argument
        (.modName (argument.name?.filter fun name => !name.isEmpty))
  | descriptionStart (isWord : directive.word = "description") :
      DirectiveMeans context directive argument (.descriptionStart (hasOpenQuote directive.rest))
  | otherMetadata (isWord : otherMetadataWords.contains directive.word = true) :
      DirectiveMeans context directive argument (.otherMetadata directive.word)
  | blockEnd (isWord : directive.word = "end") :
      DirectiveMeans context directive argument .blockEnd
  | blockStart {ref : DirectiveRef}
      (opens : blockStartRef? (refsOfWord directive.word) = some ref) :
      DirectiveMeans context directive argument (.blockStart directive.word ref argument)
  | spellContent {spellDirective : SpellDirective} (inside : context.inSpellBlock = true)
      (isWord : SpellDirective.ofWord? directive.word = some spellDirective) :
      DirectiveMeans context directive argument
        (.spellContent spellDirective (pickRef (refsOfWord directive.word) context.activeType)
          argument)
  | name (isWord : directive.word = "name") :
      DirectiveMeans context directive argument (.name argument.name?)
  | entity {ref : DirectiveRef} (opensNone : blockStartRef? (refsOfWord directive.word) = none)
      (picked : pickRef (refsOfWord directive.word) context.activeType = some ref) :
      DirectiveMeans context directive argument (.entity directive.word ref argument)
  | text (picksNone : pickRef (refsOfWord directive.word) context.activeType = none) :
      DirectiveMeans context directive argument (.text (some directive.word))

theorem directiveMeans_directiveMeaning (context : ParseContext) (directive : DirectiveLine)
    (argument : Argument) :
    DirectiveMeans context directive argument (directiveMeaning context directive argument) := by
  simp only [directiveMeaning]
  split
  · next isWord => exact .modName (beq_iff_eq.1 isWord)
  split
  · next isWord => exact .descriptionStart (beq_iff_eq.1 isWord)
  split
  · next isWord => exact .otherMetadata isWord
  split
  · next isWord => exact .blockEnd (beq_iff_eq.1 isWord)
  split
  · next opens => exact .blockStart opens
  next opensNone =>
  split
  · next found =>
      split at found
      · next inside => exact .spellContent inside found
      · cases found
  split
  · next isWord => exact .name (beq_iff_eq.1 isWord)
  split
  · next picked => exact .entity opensNone picked
  · next picksNone => exact .text picksNone

/-- Blocks matter to the meaning of a directive only as spell blocks. -/
theorem directiveMeaning_alike {context other : ParseContext} (directive : DirectiveLine)
    (argument : Argument) (same : other.inSpellBlock = context.inSpellBlock) :
    (directiveMeaning context directive argument).Alike
      (directiveMeaning other directive argument) := by
  simp only [directiveMeaning, same]
  split
  · exact .refl _
  split
  · exact .refl _
  split
  · exact .refl _
  split
  · exact .refl _
  split
  · exact .refl _
  split
  · exact .spellContent ..
  split
  · exact .refl _
  obtain ⟨first, second⟩ | ⟨ref, otherRef, first, second, rfl | ⟨uses, otherUses⟩⟩ :=
    pickRef_cases directive.word context.activeType other.activeType
  · rw [first, second]
    exact .refl _
  · rw [first, second]
    exact .refl _
  · rw [first, second]
    exact .usage _ _ uses otherUses

/-- A directive is no blank line, and it is not read as part of a description. -/
theorem directiveMeaning_ne (context : ParseContext) (directive : DirectiveLine)
    (argument : Argument) :
    directiveMeaning context directive argument ≠ .blank ∧
    ∀ closes, directiveMeaning context directive argument ≠ .descriptionText closes := by
  have means := directiveMeans_directiveMeaning context directive argument
  refine ⟨fun same => ?_, fun closes same => ?_⟩ <;>
  · rw [same] at means
    cases means

/-- What a line is read as outside of descriptions, in a spell block or not in one. -/
def Reads (inSpellBlock : Bool) (line : Line) (meaning : LineMeaning) : Prop :=
  ∀ context : ParseContext, context.inDescription = false →
    context.inSpellBlock = inSpellBlock →
    ∃ classified, classify context line = .ok classified ∧ meaning.Alike classified.meaning

theorem ParseContext.exists_outside (inSpellBlock : Bool) : ∃ context : ParseContext,
    context.inDescription = false ∧ context.inSpellBlock = inSpellBlock := by
  cases inSpellBlock with
  | false => exact ⟨{}, rfl, rfl⟩
  | true => exact ⟨{ state := .inSpellBlock }, rfl, rfl⟩

/-- Outside of descriptions the lines that are directives are read by their spelling. -/
theorem classify_eq {context : ParseContext} (line : Line)
    (outside : context.inDescription = false) :
    classify context line =
      if (Text.trim line).isEmpty then .ok ⟨Text.trim line, .blank⟩
      else if (Text.trim line).take 2 == ['-', '-'] then .ok ⟨Text.trim line, .comment⟩
      else
        match directiveLine? (Text.trim line) with
        | none => .ok ⟨Text.trim line, .text none⟩
        | some directive =>
            (readArgument directive.rest).map fun argument =>
              ⟨Text.trim line, directiveMeaning context directive argument⟩ := by
  rw [classify, outside]
  rfl

theorem classify_inDescription {context : ParseContext} (inside : context.inDescription = true)
    (line : Line) : classify context line =
      .ok ⟨Text.trim line, .descriptionText (hasOpenQuote (beforeComment (Text.trim line)))⟩ := by
  simp only [classify, inside, if_true]

/-- Within a description no line has a meaning of its own. -/
theorem inDescription_eq_false_of_classify {context : ParseContext} {line : Line}
    {classified : ClassifiedLine} (read : classify context line = .ok classified)
    (notText : ∀ closes, classified.meaning ≠ .descriptionText closes) :
    context.inDescription = false := by
  rw [← Bool.not_eq_true]
  intro inside
  rw [classify_inDescription inside] at read
  obtain rfl := Except.ok.inj read
  exact notText _ rfl

/-- What a line is read as depends on the state of the walk and on the type of the open block. -/
theorem classify_congr {context other : ParseContext} (state : context.state = other.state)
    (activeType : context.activeType = other.activeType) (line : Line) :
    classify context line = classify other line := by
  have inDescription : context.inDescription = other.inDescription := by
    rw [ParseContext.inDescription, state, ParseContext.inDescription]
  have inSpellBlock : context.inSpellBlock = other.inSpellBlock := by
    rw [ParseContext.inSpellBlock, state, ParseContext.inSpellBlock]
  have meaning : ∀ directive argument,
      directiveMeaning context directive argument = directiveMeaning other directive argument := by
    intro directive argument
    rw [directiveMeaning, inSpellBlock, activeType, directiveMeaning]
  rw [classify, classify, inDescription]
  simp only [meaning]

theorem isBlankText_of_classify {context : ParseContext} {line : Line}
    {classified : ClassifiedLine} (outside : context.inDescription = false)
    (read : classify context line = .ok classified) (isBlank : classified.meaning = .blank) :
    Text.isBlankText line = true := by
  rw [classify_eq line outside] at read
  split at read
  · next nothing => exact Text.trim_eq_nil_iff.1 (List.isEmpty_iff.1 nothing)
  split at read
  · obtain rfl := Except.ok.inj read
    cases isBlank
  split at read
  · obtain rfl := Except.ok.inj read
    cases isBlank
  · obtain ⟨argument, -, rfl⟩ := map_eq_ok.1 read
    exact absurd isBlank (directiveMeaning_ne _ _ _).1

/-- A line is read alike in all blocks of a kind. -/
theorem reads_of_classify {context : ParseContext} {line : Line} {classified : ClassifiedLine}
    (outside : context.inDescription = false)
    (read : classify context line = .ok classified) :
    Reads context.inSpellBlock line classified.meaning := by
  intro other otherOutside same
  rw [classify_eq line outside] at read
  rw [classify_eq line otherOutside]
  by_cases isBlank : (Text.trim line).isEmpty = true
  · rw [if_pos isBlank] at read ⊢
    exact ⟨classified, read, .refl _⟩
  rw [if_neg isBlank] at read ⊢
  by_cases isComment : ((Text.trim line).take 2 == ['-', '-']) = true
  · rw [if_pos isComment] at read ⊢
    exact ⟨classified, read, .refl _⟩
  rw [if_neg isComment] at read ⊢
  cases found : directiveLine? (Text.trim line) with
  | none =>
      rw [found] at read
      exact ⟨classified, read, .refl _⟩
  | some directive =>
      rw [found] at read
      obtain ⟨argument, hasArgument, rfl⟩ := map_eq_ok.1 read
      refine ⟨_, map_eq_ok.2 ⟨argument, hasArgument, rfl⟩, ?_⟩
      exact directiveMeaning_alike directive argument same

/-- A line that is spelt as a directive has the meaning of that directive. -/
theorem classify_of_spelt {context : ParseContext} {line wordChars rest : Line}
    {argument : Argument} (outside : context.inDescription = false)
    (spelt : Spelt (Text.trim line) wordChars rest)
    (hasArgument : readArgument rest = .ok argument) :
    classify context line = .ok ⟨Text.trim line, directiveMeaning context
      ⟨String.ofList (wordChars.map Char.toLower), rest⟩ argument⟩ := by
  have found : directiveLine? (Text.trim line) =
      some ⟨String.ofList (wordChars.map Char.toLower), rest⟩ :=
    directiveLine?_eq_some_iff.2 ⟨wordChars, spelt, rfl⟩
  rw [classify_eq line outside, if_neg, if_neg, found]
  · simp only [hasArgument]
    rfl
  · rw [spelt.text_eq]
    cases wordChars with
    | nil => exact absurd rfl spelt.ne_nil
    | cons first others => simp
  · rw [spelt.text_eq]
    simp

/-- A directive with a meaning of its own was spelt. -/
theorem exists_spelt_of_classify {context : ParseContext} {line : Line}
    {classified : ClassifiedLine} (outside : context.inDescription = false)
    (read : classify context line = .ok classified)
    (isDirective : classified.meaning ≠ .blank ∧ classified.meaning ≠ .comment ∧
      classified.meaning ≠ .text none) :
    ∃ wordChars rest argument, Spelt (Text.trim line) wordChars rest ∧
      readArgument rest = .ok argument ∧
      classified.meaning = directiveMeaning context
        ⟨String.ofList (wordChars.map Char.toLower), rest⟩ argument := by
  rw [classify_eq line outside] at read
  split at read
  · obtain rfl := Except.ok.inj read
    exact absurd rfl isDirective.1
  split at read
  · obtain rfl := Except.ok.inj read
    exact absurd rfl isDirective.2.1
  split at read
  · obtain rfl := Except.ok.inj read
    exact absurd rfl isDirective.2.2
  · next directive found =>
      obtain ⟨argument, hasArgument, rfl⟩ := map_eq_ok.1 read
      obtain ⟨wordChars, spelt, wordEq⟩ := directiveLine?_eq_some_iff.1 found
      exact ⟨wordChars, directive.rest, argument, spelt, hasArgument, by rw [← wordEq]⟩

/-! ### Numbers that are read -/

theorem short_of_readArgument {rest : Line} {argument : Argument}
    (hasArgument : readArgument rest = .ok argument) :
    ∀ number ∈ argument.number?, Text.Short number := by
  intro number isNumber
  rw [readArgument] at hasArgument
  split at hasArgument
  · obtain rfl := Except.ok.inj hasArgument
    cases isNumber
  split at hasArgument
  · obtain ⟨value, isValue, rfl⟩ := map_eq_ok.1 hasArgument
    obtain rfl := Option.some.inj isNumber
    exact Text.short_of_value isValue
  split at hasArgument <;>
  · obtain rfl := Except.ok.inj hasArgument
    cases isNumber

/-- A number that a line is read with can be written as well. -/
theorem short_of_classify {context : ParseContext} {line : Line} {classified : ClassifiedLine}
    (read : classify context line = .ok classified) :
    ∀ number ∈ classified.meaning.number?, Text.Short number := by
  intro number isNumber
  have ne_of_noNumber : ∀ meaning : LineMeaning, meaning.number? = none →
      classified.meaning ≠ meaning := by
    rintro _ noNumber rfl
    cases noNumber.symm.trans isNumber
  have outside : context.inDescription = false :=
    inDescription_eq_false_of_classify read fun _ => ne_of_noNumber _ rfl
  obtain ⟨wordChars, rest, argument, -, hasArgument, meaning⟩ := exists_spelt_of_classify outside
    read ⟨ne_of_noNumber _ rfl, ne_of_noNumber _ rfl, ne_of_noNumber _ rfl⟩
  rw [meaning] at isNumber
  have means := directiveMeans_directiveMeaning context
    ⟨String.ofList (wordChars.map Char.toLower), rest⟩ argument
  generalize directiveMeaning context _ argument = directive at means isNumber
  cases means with
  | blockStart | spellContent | entity => exact short_of_readArgument hasArgument number isNumber
  | modName | descriptionStart | otherMetadata | blockEnd | name | text => cases isNumber

end ModMerge
