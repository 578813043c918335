import ModMerge.Proofs.Script.PlainLines
import ModMerge.Proofs.Script.Reading
import ModMerge.Proofs.Text.LowerCasing

/-!
# Lines that renumbering writes

Renumbering replaces the number of a line or writes an id behind its word. The new line is
read like the old one with the new number (`reads_replaceArgument`,
`reads_directiveWithId`), and the comment that it writes before the line is read as a
comment.
-/

namespace ModMerge

theorem type_of_mem_refsOfWord_copySpell :
    ∀ ref ∈ refsOfWord SpellDirective.copySpell.word, ref.type = .spell := by
  decide +kernel

theorem SpellDirective.word_of_ofWord? {word : String} {directive : SpellDirective}
    (found : SpellDirective.ofWord? word = some directive) : directive.word = word := by
  have isWord := List.find?_some found
  simpa using isWord

/-- Meanings without their argument, for the directives whose argument renumbering may
change. -/
inductive LineForm where
  | blockStart (word : String) (ref : DirectiveRef)
  | spellContent (directive : SpellDirective) (ref : Option DirectiveRef)
  | entity (word : String) (ref : DirectiveRef)

namespace LineForm

/-- The meaning with an argument. -/
def meaning (form : LineForm) (argument : Argument) : LineMeaning :=
  match form with
  | .blockStart word ref => .blockStart word ref argument
  | .spellContent directive ref => .spellContent directive ref argument
  | .entity word ref => .entity word ref argument

/-- What the table of directives says about the directives of a form. -/
def FromTable : LineForm → Prop
  | .blockStart word ref =>
      ref ∈ directiveTable ∧ ref.rule.opensBlock = true ∧ word ∈ ref.rule.words
  | .spellContent directive ref => directive = .copySpell → ∀ picked ∈ ref, picked.type = .spell
  | .entity _ ref => ref.rule.role ≠ .new

/-- The argument of a directive decides nothing else about its meaning. -/
theorem of_directiveMeaning {context : ParseContext} {directive : DirectiveLine}
    {form : LineForm} {argument given : Argument}
    (same : directiveMeaning context directive given = form.meaning argument) :
    argument = given ∧ ∀ rest other,
      directiveMeaning context ⟨directive.word, rest⟩ other = form.meaning other := by
  simp only [directiveMeaning] at same ⊢
  split at same
  · cases form <;> cases same
  next notName =>
  split at same
  · cases form <;> cases same
  next notDescription =>
  split at same
  · cases form <;> cases same
  next notMetadata =>
  split at same
  · cases form <;> cases same
  next notEnd =>
  simp only [if_neg notName, if_neg notDescription, if_neg notMetadata, if_neg notEnd]
  split at same
  · cases form <;> cases same
    exact ⟨rfl, fun _ _ => rfl⟩
  split at same
  · cases form <;> cases same
    exact ⟨rfl, fun _ _ => rfl⟩
  split at same
  · cases form <;> cases same
  next isNoName =>
  split at same
  · cases form <;> cases same
    exact ⟨rfl, fun _ _ => if_neg isNoName⟩
  · cases form <;> cases same

theorem fromTable_of_directiveMeaning {context : ParseContext} {directive : DirectiveLine}
    {form : LineForm} {argument given : Argument}
    (same : directiveMeaning context directive given = form.meaning argument) :
    form.FromTable := by
  have means := same ▸ directiveMeans_directiveMeaning context directive given
  cases form with
  | blockStart word ref =>
      cases means with
      | blockStart opens =>
          obtain ⟨inTable, isWord⟩ := (mem_refsOfWord _ _).1 (List.mem_of_find?_eq_some opens)
          have opensBlock := List.find?_some opens
          exact ⟨inTable, opensBlock, isWord⟩
  | spellContent spellDirective ref =>
      cases means with
      | spellContent inside found =>
          rintro rfl picked isPicked
          apply type_of_mem_refsOfWord_copySpell
          rw [SpellDirective.word_of_ofWord? found]
          exact pickRef_mem _ _ _ isPicked
  | entity word ref =>
      cases means with
      | entity opensNone picked =>
          intro creates
          have isMeaning := pickRef_mem _ _ _ picked
          have noStart := List.find?_eq_none.1 opensNone ref isMeaning
          exact noStart (opensBlock_of_new ref ((mem_refsOfWord _ _).1 isMeaning).1 creates)

theorem fromTable_of_classify {context : ParseContext} {line : Line}
    {classified : ClassifiedLine} {form : LineForm} {argument : Argument}
    (read : classify context line = .ok classified)
    (isForm : classified.meaning = form.meaning argument) : form.FromTable := by
  have outside := inDescription_eq_false_of_classify read fun closes same => by
    rw [isForm] at same
    cases form <;> cases same
  obtain ⟨_, _, _, -, -, meaningEq⟩ :=
    exists_spelt_of_classify outside read (by rw [isForm]; cases form <;> simp [meaning])
  exact fromTable_of_directiveMeaning (meaningEq.symm.trans isForm)

end LineForm

/-- Words that open a block are spelt with plain characters and in lower case. -/
theorem spelling_of_opensBlock : ∀ ref ∈ directiveTable, ref.rule.opensBlock = true →
    ∀ word ∈ ref.rule.words, word.toList ≠ [] ∧
      (∀ character ∈ word.toList, Text.isAsciiWordChar character = true) ∧
      word.toList.map Char.toLower = word.toList ∧ Plain word.toList := by
  have table : ∀ ref ∈ directiveTable, ref.rule.opensBlock = true →
      ∀ word ∈ ref.rule.words, word.toList ≠ [] ∧ word.toList.all Text.isAsciiWordChar = true ∧
        word.toList.map Char.toLower = word.toList ∧ Plain word.toList := by
    decide +kernel
  intro ref inTable opens word isWord
  obtain ⟨notEmpty, isAscii, rest⟩ := table ref inTable opens word isWord
  exact ⟨notEmpty, List.all_eq_true.1 isAscii, rest⟩

theorem not_isMetadata_of_opensBlock : ∀ ref ∈ directiveTable, ref.rule.opensBlock = true →
    ∀ word ∈ ref.rule.words, word ∉ "modname" :: "description" :: "end" :: otherMetadataWords := by
  decide +kernel

/-- A word that opens a block does so in every context. -/
theorem directiveMeaning_of_opensBlock (context : ParseContext) {ref : DirectiveRef}
    (inTable : ref ∈ directiveTable) (opens : ref.rule.opensBlock = true) {word : String}
    (isWord : word ∈ ref.rule.words) (rest : Line) (argument : Argument) :
    directiveMeaning context ⟨word, rest⟩ argument = .blockStart word ref argument := by
  have other := not_isMetadata_of_opensBlock ref inTable opens word isWord
  simp only [List.mem_cons, not_or] at other
  obtain ⟨notName, notDescription, notEnd, notMetadata⟩ := other
  have start := blockStartRef?_of_mem inTable opens isWord
  simp only [directiveMeaning, start, beq_iff_eq, notName, notDescription, notEnd, if_false,
    List.contains_iff_mem, notMetadata]

/-! ### Lines with a new number -/

section

variable {context : ParseContext} {line : Line} {classified : ClassifiedLine}

/-- A line with a written number is read with that number. -/
theorem reads_numberedLine {indent wordChars blanks tail : Line} {number : Int}
    {meaning : LineMeaning} (outside : context.inDescription = false)
    (indentBlank : Text.AllBlank indent) (writable : Writable blanks number tail)
    (ne_nil : wordChars ≠ [])
    (isWord : ∀ character ∈ wordChars, Text.isAsciiWordChar character = true)
    (meaningEq : ∀ rest, directiveMeaning context
      ⟨String.ofList (wordChars.map Char.toLower), rest⟩ (.number number) = meaning) :
    Reads context.inSpellBlock (indent ++ numberedLine wordChars blanks number tail) meaning := by
  have trimmed : Text.trim (indent ++ numberedLine wordChars blanks number tail) =
      numberedLine wordChars blanks number tail :=
    Text.trim_append_of_isTrimmed indentBlank (writable.isTrimmed wordChars number)
  have spelt := writable.spelt number ne_nil isWord
  rw [← trimmed] at spelt
  have read := reads_of_classify outside (classify_of_spelt outside spelt writable.readArgument)
  rw [meaningEq] at read
  exact read

/-- Where a directive has a number, renumbering writes the new one in its place. -/
theorem replaceArgument_of_spelt {text wordChars rest : Line} {numeral : Text.NumeralSpan}
    (spelt : Spelt text wordChars rest) (separated : (Text.leadingBlanks rest).isEmpty = false)
    (isNumeral : Text.takeNumeral? (Text.trimLeft rest) = some numeral) (number : Int) :
    replaceArgument text number =
      numberedLine wordChars (Text.leadingBlanks rest) number numeral.rest := by
  have restHead : ∀ character ∈ rest.head?, Text.isWordChar character = false := by
    intro character isHead
    cases rest with
    | nil => cases isHead
    | cons first others =>
        obtain rfl := Option.some.inj isHead
        apply Text.not_isWordChar_of_isBlank
        rw [← Bool.not_eq_false]
        intro notBlank
        simp [Text.leadingBlanks, notBlank] at separated
  obtain ⟨taken, dropped⟩ := takeWhile_dropWhile_append
    (fun character member => Text.isWordChar_of_isAsciiWordChar character
      (spelt.isWord character member)) restHead
  have notEmpty : wordChars.isEmpty = false := by simpa using spelt.ne_nil
  rw [spelt.text_eq]
  simp only [replaceArgument, taken, dropped, isNumeral, notEmpty, separated, Bool.or_self,
    Bool.false_eq_true, if_false, numberedLine, List.append_assoc]

/-- A number can be written where a directive has one. -/
theorem numberSlot_of_spelt {text wordChars rest : Line} {numeral : Text.NumeralSpan}
    (spelt : Spelt text wordChars rest) (trimmed : Text.IsTrimmed text)
    (separated : (Text.leadingBlanks rest).isEmpty = false)
    (isNumeral : Text.takeNumeral? (Text.trimLeft rest) = some numeral) :
    NumberSlot (Text.leadingBlanks rest) numeral.rest := by
  obtain ⟨sign, whole, noDigitHead⟩ := Text.exists_of_takeNumeral? isNumeral
  have restEq : rest = Text.leadingBlanks rest ++ (sign ++ (numeral.digits ++ numeral.rest)) := by
    rw [← whole, Text.leadingBlanks_append_trimLeft]
  refine ⟨by simpa using separated, Text.allBlank_leadingBlanks rest, noDigitHead, ?_, ?_⟩
  · intro character isLast
    apply trimmed.last
    have notEmpty : numeral.rest ≠ [] := by
      rintro empty
      rw [empty] at isLast
      cases isLast
    have joined := congrArg (wordChars ++ ·) restEq
    have front : text = ('#' :: (wordChars ++ (Text.leadingBlanks rest ++
        (sign ++ numeral.digits)))) ++ numeral.rest := by
      rw [spelt.text_eq, joined]
      simp
    rw [front, List.getLast?_append_of_ne_nil _ notEmpty]
    exact isLast
  · have noLineFeed := spelt.noLineFeed
    rw [restEq] at noLineFeed
    simp only [List.mem_append, not_or] at noLineFeed ⊢
    exact ⟨noLineFeed.1, noLineFeed.2.2.2⟩

/-- An id can be written behind the word of a directive. -/
theorem numberSlot_dropWhile_isWordChar {text wordChars rest : Line}
    (spelt : Spelt text wordChars rest) (trimmed : Text.IsTrimmed text) :
    NumberSlot [' '] (rest.dropWhile Text.isWordChar) := by
  refine ⟨List.cons_ne_nil _ _, by simp [Text.AllBlank, Text.isBlank], ?_, ?_, ?_⟩
  · intro character isHead
    have notWord := List.head?_dropWhile_not Text.isWordChar rest
    rw [Option.mem_def.1 isHead] at notWord
    rw [← Bool.not_eq_true]
    intro digit
    have wordChar := Text.isWordChar_of_isDigit digit
    simp only [wordChar] at notWord
    cases notWord
  · intro character isLast
    apply trimmed.last
    obtain ⟨front, whole⟩ := List.dropWhile_suffix (l := rest) Text.isWordChar
    have notEmpty : rest.dropWhile Text.isWordChar ≠ [] := by
      rintro empty
      rw [empty] at isLast
      cases isLast
    have joined := congrArg (wordChars ++ ·) whole
    rw [spelt.text_eq, ← joined, ← List.append_assoc, ← List.cons_append,
      List.getLast?_append_of_ne_nil _ notEmpty]
    exact isLast
  · rw [List.mem_append, not_or]
    exact ⟨by decide, fun member => spelt.noLineFeed ((List.dropWhile_suffix _).subset member)⟩

/-- What stands behind the word characters of a directive. -/
theorem afterDirectiveWord_of_spelt {text wordChars rest : Line}
    (spelt : Spelt text wordChars rest) :
    afterDirectiveWord text = rest.dropWhile Text.isWordChar := by
  rw [afterDirectiveWord, spelt.text_eq, List.drop_one, List.tail_cons,
    List.dropWhile_append_of_pos fun character member =>
      Text.isWordChar_of_isAsciiWordChar character (spelt.isWord character member)]

theorem directiveWithId_eq_numberedLine (word : String) (id : Int) (rest : Line) :
    directiveWithId word id rest = numberedLine word.toList [' '] id rest := by
  simp [directiveWithId, numberedLine]

theorem plain_of_spelt {text wordChars rest : Line} (spelt : Spelt text wordChars rest)
    (plain : Plain text) : Plain wordChars ∧ Plain rest := by
  rw [spelt.text_eq] at plain
  refine ⟨plain.of_subset fun character member => ?_, plain.of_subset fun character member => ?_⟩
  · exact List.mem_cons_of_mem _ (List.mem_append_left _ member)
  · exact List.mem_cons_of_mem _ (List.mem_append_right _ member)

theorem plain_numberedLine {wordChars blanks tail : Line} (plainWord : Plain wordChars)
    (plainBlanks : Plain blanks) (number : Int) (plainTail : Plain tail) :
    Plain (numberedLine wordChars blanks number tail) := by
  have mark : Plain ['#'] := by decide
  exact mark.append (plainWord.append (plainBlanks.append
    ((Plain.decimalText number).append plainTail)))

/-- The line that renumbering writes in place of `line`, with a number in place of its own. -/
theorem reads_replaceArgument {form : LineForm} {number new : Int}
    (outside : context.inDescription = false) (read : classify context line = .ok classified)
    (isForm : classified.meaning = form.meaning (.number number))
    (short : Text.Short new) (plain : Plain line) :
    Reads context.inSpellBlock
        (Text.leadingBlanks line ++ replaceArgument (Text.trim line) new)
        (form.meaning (.number new)) ∧
      Plain (replaceArgument (Text.trim line) new) ∧
      (replaceArgument (Text.trim line) new).head? = some '#' := by
  have isDirective : classified.meaning ≠ .blank ∧ classified.meaning ≠ .comment ∧
      classified.meaning ≠ .text none := by
    rw [isForm]
    cases form <;> simp [LineForm.meaning]
  obtain ⟨wordChars, rest, argument, spelt, hasArgument, meaningEq⟩ :=
    exists_spelt_of_classify outside read isDirective
  obtain ⟨rfl, ofNumber⟩ := LineForm.of_directiveMeaning (meaningEq.symm.trans isForm)
  obtain ⟨separated, numeral, isNumeral, -⟩ := readArgument_eq_number_iff.1 hasArgument
  have writable : Writable (Text.leadingBlanks rest) new numeral.rest :=
    ⟨numberSlot_of_spelt spelt (Text.isTrimmed_trim line) separated isNumeral, short⟩
  have plainText : Plain (Text.trim line) := plain.of_subset fun _ => Text.mem_of_mem_trim
  obtain ⟨plainWord, plainRest⟩ := plain_of_spelt spelt plainText
  have plainTail : Plain numeral.rest := by
    obtain ⟨sign, whole, -⟩ := Text.exists_of_takeNumeral? isNumeral
    apply plainRest.of_subset
    intro character member
    apply (List.dropWhile_suffix Text.isBlank).subset
    rw [Text.trimLeft] at whole
    rw [whole]
    exact List.mem_append_right _ (List.mem_append_right _ member)
  rw [replaceArgument_of_spelt spelt separated isNumeral new]
  refine ⟨reads_numberedLine outside (Text.allBlank_leadingBlanks line) writable spelt.ne_nil
    spelt.isWord fun rest => ofNumber rest _, ?_, rfl⟩
  exact plain_numberedLine plainWord
    (plainRest.of_subset (List.takeWhile_prefix Text.isBlank).subset) new plainTail

/-- The line that renumbering writes in place of a line that creates content without an id:
another block start of the table, `ref`, with the id. -/
theorem reads_directiveWithId {word newWord : String} {ref newRef : DirectiveRef} {id : Int}
    (outside : context.inDescription = false) (read : classify context line = .ok classified)
    (isStart : classified.meaning = .blockStart word ref .absent)
    (inTable : newRef ∈ directiveTable) (opens : newRef.rule.opensBlock = true)
    (isWord : newWord ∈ newRef.rule.words) (short : Text.Short id)
    (plain : Plain line) :
    Reads context.inSpellBlock (Text.leadingBlanks line ++
        directiveWithId newWord id (afterDirectiveWord (Text.trim line)))
        (.blockStart newWord newRef (.number id)) ∧
      Plain (directiveWithId newWord id (afterDirectiveWord (Text.trim line))) := by
  obtain ⟨wordChars, rest, argument, spelt, -, -⟩ :=
    exists_spelt_of_classify outside read (by rw [isStart]; simp)
  have plainText : Plain (Text.trim line) := plain.of_subset fun _ => Text.mem_of_mem_trim
  have inRest : rest.dropWhile Text.isWordChar ⊆ rest := (List.dropWhile_suffix _).subset
  obtain ⟨word_ne_nil, wordAscii, wordLower, wordPlain⟩ :=
    spelling_of_opensBlock newRef inTable opens newWord isWord
  have writable : Writable [' '] id (rest.dropWhile Text.isWordChar) :=
    ⟨numberSlot_dropWhile_isWordChar spelt (Text.isTrimmed_trim line), short⟩
  rw [afterDirectiveWord_of_spelt spelt, directiveWithId_eq_numberedLine]
  refine ⟨reads_numberedLine outside (Text.allBlank_leadingBlanks line) writable word_ne_nil
    wordAscii fun rest => ?_, ?_⟩
  · rw [wordLower, String.ofList_toList]
    exact directiveMeaning_of_opensBlock context inTable opens isWord rest _
  · exact plain_numberedLine wordPlain (by decide) id ((plain_of_spelt spelt plainText).2.of_subset
      inRest)

end

/-! ### Blank lines, comments and ends -/

section

variable {inSpellBlock : Bool} {line : Line} {meaning other : LineMeaning}

/-- A line is read in one way. -/
theorem Reads.exists_alike (reads : Reads inSpellBlock line meaning)
    (alsoReads : Reads inSpellBlock line other) :
    ∃ shared, meaning.Alike shared ∧ other.Alike shared := by
  obtain ⟨context, outside, same⟩ := ParseContext.exists_outside inSpellBlock
  obtain ⟨classified, read, alike⟩ := reads context outside same
  obtain ⟨again, readAgain, alikeAgain⟩ := alsoReads context outside same
  obtain rfl := Except.ok.inj (read.symm.trans readAgain)
  exact ⟨_, alike, alikeAgain⟩

theorem reads_blank (inSpellBlock : Bool) (blank : Text.isBlankText line = true) :
    Reads inSpellBlock line .blank := by
  intro context outside _
  refine ⟨⟨[], .blank⟩, ?_, .refl _⟩
  rw [classify_eq line outside, Text.trim_eq_nil_iff.2 blank]
  rfl

theorem isBlankText_of_reads (reads : Reads inSpellBlock line meaning)
    (notBlank : meaning ≠ .blank) : Text.isBlankText line = false := by
  rw [← Bool.not_eq_true]
  intro blank
  obtain ⟨shared, alike, alikeBlank⟩ := reads.exists_alike (reads_blank inSpellBlock blank)
  cases alikeBlank
  cases alike
  exact notBlank rfl

/-- A comment is one under any indentation. -/
theorem reads_comment (inSpellBlock : Bool) {indent rest : Line}
    (indentBlank : Text.AllBlank indent) :
    Reads inSpellBlock (indent ++ '-' :: '-' :: rest) .comment := by
  have begins : ∃ tail, Text.trim (indent ++ '-' :: '-' :: rest) = '-' :: '-' :: tail := by
    have notBlank : Text.isBlank '-' = false := by decide
    obtain ⟨removed, removedBlank, whole⟩ := Text.exists_eq_trimRight_append ('-' :: '-' :: rest)
    rw [Text.trim, Text.trimLeft_append indentBlank, Text.trimLeft_eq_self (by simp [notBlank])]
    have notRemoved : ∀ {tail : Line}, removed ≠ '-' :: tail := by
      rintro tail rfl
      have blank := removedBlank '-' List.mem_cons_self
      rw [notBlank] at blank
      cases blank
    rcases kept : Text.trimRight ('-' :: '-' :: rest) with _ | ⟨first, _ | ⟨second, tail⟩⟩
    · rw [kept, List.nil_append] at whole
      exact absurd whole.symm notRemoved
    · rw [kept, List.singleton_append, List.cons.injEq] at whole
      exact absurd whole.2.symm notRemoved
    · rw [kept, List.cons_append, List.cons_append, List.cons.injEq, List.cons.injEq] at whole
      obtain ⟨rfl, rfl, -⟩ := whole
      exact ⟨tail, rfl⟩
  obtain ⟨tail, trimmed⟩ := begins
  intro context outside _
  refine ⟨⟨'-' :: '-' :: tail, .comment⟩, ?_, .refl _⟩
  rw [classify_eq _ outside, trimmed]
  rfl

/-- A line that counts as an end is spelt as one. -/
theorem exists_spelt_of_isEndLine (isEnd : isEndLine line = true) :
    ∃ wordChars, Spelt (Text.trim line) wordChars [] ∧
      String.ofList (wordChars.map Char.toLower) = "end" := by
  obtain ⟨first, second, third, trimmed, firstLower, secondLower, thirdLower, firstAscii,
    secondAscii, thirdAscii⟩ := Text.exists_of_lowerCase_eq_end (beq_iff_eq.1 isEnd)
  have table : ∀ code < 0x80, (Char.ofNat code).toLower ∈ ['e', 'n', 'd'] →
      Text.isAsciiWordChar (Char.ofNat code) = true := by
    decide +kernel
  have isWord : ∀ {character : Char}, character.toNat < 0x80 →
      character.toLower ∈ ['e', 'n', 'd'] → Text.isAsciiWordChar character = true := by
    intro character ascii isLetter
    rw [← Char.ofNat_toNat character] at isLetter ⊢
    exact table _ ascii isLetter
  refine ⟨[first, second, third], ⟨trimmed, List.cons_ne_nil _ _, ?_, by simp, List.not_mem_nil⟩,
    ?_⟩
  · simp only [List.mem_cons, List.not_mem_nil, or_false]
    rintro character (rfl | rfl | rfl)
    · exact isWord firstAscii (by simp [firstLower])
    · exact isWord secondAscii (by simp [secondLower])
    · exact isWord thirdAscii (by simp [thirdLower])
  · simp only [List.map_cons, List.map_nil, firstLower, secondLower, thirdLower]

/-- Every line that counts as an end is read as one. -/
theorem reads_blockEnd (inSpellBlock : Bool) (isEnd : isEndLine line = true) :
    Reads inSpellBlock line .blockEnd := by
  obtain ⟨wordChars, spelt, isWord⟩ := exists_spelt_of_isEndLine isEnd
  intro context outside _
  refine ⟨_, classify_of_spelt outside spelt rfl, ?_⟩
  rw [isWord]
  exact .refl _

theorem isEndLine_of_reads (reads : Reads inSpellBlock line meaning)
    (notEnd : meaning ≠ .blockEnd) : isEndLine line = false := by
  rw [← Bool.not_eq_true]
  intro isEnd
  obtain ⟨shared, alike, alikeEnd⟩ := reads.exists_alike (reads_blockEnd inSpellBlock isEnd)
  cases alikeEnd
  cases alike
  exact notEnd rfl

end

end ModMerge
