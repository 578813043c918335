import ModMerge.Proofs.Script.ArgumentNumbers

/-!
# Numbers that are put into lines

Renumbering finds the number of a line by a rule of its own: the word before it may have
characters that no directive has. A line that is read with a number is cut at the same place by
both rules. What follows the number begins with no digit, so the number that is put in its place
is read as it was written; and what follows the word of a line without an argument begins with no
character of a word, so that the same holds of an id that is put behind the word.
-/

namespace ModMerge

/-- The line that creates content without an id, once it has one: its directive, or the one that
selects the content instead, with the id before the rest of the line. -/
def identifiedLine (word : String) (ref : DirectiveRef) (id : Int) (text : Line) : Line :=
  directiveWithId (ref.rule.implicitSelect.getD word) id (afterDirectiveWord text)

/-- Renumbering writes that line, indented as it was, if the mapping has an id for it. -/
theorem Renumbering.exists_emitBlockStart_of_new (renumbering : Renumbering) (lineNumber : Nat)
    (line : Line) (word : String) {ref : DirectiveRef} {id : Int} (isNew : ref.rule.role = .new)
    (settled : renumbering.mapping.implicitId? ref.type
      (renumbering.implicitCounts.get ref.type) = some id) :
    ∃ next change, renumbering.emitBlockStart lineNumber line word ref .absent = .ok next ∧
      next.output = renumbering.output.push
        { line := Text.leadingBlanks line ++ identifiedLine word ref id (Text.trim line)
          change := some change } := by
  simp only [emitBlockStart, if_pos isNew, settled, identifiedLine]
  cases ref.rule.implicitSelect with
  | none => exact ⟨_, _, rfl, rfl⟩
  | some selectWord => exact ⟨_, _, rfl, rfl⟩

section

variable {context : ParseContext} {line : Line} {classified : ClassifiedLine}

theorem text_of_classify (read : classify context line = .ok classified) :
    classified.text = Text.trim line := by
  cases inside : context.inDescription with
  | true =>
      rw [classify_inDescription inside] at read
      rw [← Except.ok.inj read]
  | false =>
      rw [classify_eq line inside] at read
      split at read
      · rw [← Except.ok.inj read]
      split at read
      · rw [← Except.ok.inj read]
      split at read
      · rw [← Except.ok.inj read]
      · obtain ⟨argument, -, rfl⟩ := map_eq_ok.1 read
        rfl

/-- The meanings with a number are those of the directives whose argument may change. -/
theorem LineMeaning.exists_form_of_number? {meaning : LineMeaning} {number : Int}
    (given : meaning.number? = some number) :
    ∃ form : LineForm, meaning = form.meaning (.number number) := by
  have isNumber : ∀ {argument : Argument}, argument.number? = some number →
      argument = .number number := by
    intro argument same
    cases argument with
    | number value => rw [Option.some.inj same]
    | absent | name => cases same
  cases meaning with
  | blockStart word ref argument => exact ⟨.blockStart word ref, by rw [isNumber given]; rfl⟩
  | spellContent directive ref argument =>
      exact ⟨.spellContent directive ref, by rw [isNumber given]; rfl⟩
  | entity word ref argument => exact ⟨.entity word ref, by rw [isNumber given]; rfl⟩
  | _ => cases given

/-- A directive line with a written number is read with that number. -/
theorem classify_numberedLine {wordChars blanks tail : Line} {number : Int}
    (outside : context.inDescription = false) (writable : Writable blanks number tail)
    (ne_nil : wordChars ≠ [])
    (isWord : ∀ character ∈ wordChars, Text.isAsciiWordChar character = true) :
    classify context (numberedLine wordChars blanks number tail) =
      .ok ⟨numberedLine wordChars blanks number tail, directiveMeaning context
        ⟨String.ofList (wordChars.map Char.toLower), blanks ++ (Text.decimalText number ++ tail)⟩
        (.number number)⟩ := by
  have trimmed := Text.trim_eq_of_isTrimmed (writable.isTrimmed wordChars number)
  have spelt := writable.spelt number ne_nil isWord
  rw [← trimmed] at spelt
  have read := classify_of_spelt outside spelt writable.readArgument
  rw [trimmed] at read
  exact read

/-- A line that is read with a number, cut around its numeral. -/
structure CutAtNumber (text : Line) (number : Int) (front numeral tail : Line) : Prop where
  text_eq : text = front ++ (numeral ++ tail)
  /-- The numeral is what is read there, and the tail is what it leaves. -/
  isNumeral : ∃ span, Text.takeNumeral? (numeral ++ tail) = some span ∧
    span.value = .ok number ∧ span.rest = tail

/-- `text` is read like a line of the given meaning, but with the number `number`. -/
structure ReadWithNumber (context : ParseContext) (meaning : LineMeaning) (text : Line)
    (number : Int) (again : ClassifiedLine) : Prop where
  read : classify context text = .ok again
  text_eq : again.text = text
  kindName : again.meaning.kindName = meaning.kindName
  word? : again.meaning.word? = meaning.word?
  ref? : again.meaning.ref? = meaning.ref?
  number? : again.meaning.number? = some number

/-- The number of a line is found where it was read, and any other is read in its place. -/
theorem exists_cutAtNumber {number : Int} (read : classify context line = .ok classified)
    (given : classified.meaning.number? = some number) :
    ∃ front numeral tail, CutAtNumber classified.text number front numeral tail ∧
      ∀ new, replaceArgument classified.text new = front ++ (Text.decimalText new ++ tail) ∧
        (Text.Short new → ∃ again, ReadWithNumber context classified.meaning
          (replaceArgument classified.text new) new again) := by
  obtain ⟨form, isForm⟩ := LineMeaning.exists_form_of_number? given
  have outside := inDescription_eq_false_of_classify read fun closes same => by
    rw [same] at given
    cases given
  obtain ⟨wordChars, rest, argument, spelt, hasArgument, meaningEq⟩ :=
    exists_spelt_of_classify outside read (by rw [isForm]; cases form <;> simp [LineForm.meaning])
  obtain ⟨rfl, ofNumber⟩ := LineForm.of_directiveMeaning (meaningEq.symm.trans isForm)
  obtain ⟨separated, span, isSpan, value⟩ := readArgument_eq_number_iff.1 hasArgument
  obtain ⟨numeral, whole⟩ := exists_numeral_of_takeNumeral? isSpan
  have slot := numberSlot_of_spelt spelt (Text.isTrimmed_trim line) separated isSpan
  have replaced := replaceArgument_of_spelt spelt separated isSpan
  rw [← text_of_classify read] at spelt replaced
  refine ⟨'#' :: (wordChars ++ Text.leadingBlanks rest), numeral, span.rest,
    ⟨?_, span, whole ▸ isSpan, value, rfl⟩, fun new => ⟨?_, fun short => ?_⟩⟩
  · rw [spelt.text_eq, List.cons_append, List.append_assoc, ← whole,
      Text.leadingBlanks_append_trimLeft]
  · rw [replaced, numberedLine, List.cons_append, List.append_assoc]
  · have again := classify_numberedLine outside ⟨slot, short⟩ spelt.ne_nil spelt.isWord
    rw [ofNumber, ← replaced] at again
    rw [isForm]
    exact ⟨_, again, rfl, by cases form <;> rfl, by cases form <;> rfl, by cases form <;> rfl,
      by cases form <;> rfl⟩

/-- An id that is put into a line that creates content without one is read as its number, and
the line still opens a block of its type. -/
theorem exists_classify_identifiedLine {word : String} {ref : DirectiveRef}
    (read : classify context line = .ok classified)
    (isStart : classified.meaning = .blockStart word ref .absent) {id : Int}
    (short : Text.Short id) :
    ∃ newWord newRef, newRef.type = ref.type ∧
      classify context (identifiedLine word ref id classified.text) =
        .ok ⟨identifiedLine word ref id classified.text,
          .blockStart newWord newRef (.number id)⟩ := by
  have outside := inDescription_eq_false_of_classify read fun closes same => by
    rw [isStart] at same
    cases same
  obtain ⟨wordChars, rest, argument, spelt, -, meaningEq⟩ :=
    exists_spelt_of_classify outside read (by rw [isStart]; simp)
  have isForm : directiveMeaning context ⟨String.ofList (wordChars.map Char.toLower), rest⟩
      argument = (LineForm.blockStart word ref).meaning .absent := meaningEq.symm.trans isStart
  obtain ⟨inTable, opens, isWord⟩ := LineForm.fromTable_of_directiveMeaning isForm
  -- The directive stays the same, or another one selects content of the type.
  obtain ⟨newRef, sameType, newInTable, newOpens, newIsWord⟩ : ∃ newRef, newRef.type = ref.type ∧
      newRef ∈ directiveTable ∧ newRef.rule.opensBlock = true ∧
      ref.rule.implicitSelect.getD word ∈ newRef.rule.words := by
    cases selects : ref.rule.implicitSelect with
    | none => exact ⟨ref, rfl, inTable, opens, isWord⟩
    | some selectWord =>
        obtain ⟨select, selectInTable, sameType, -, selectOpens, isSelectWord⟩ :=
          exists_select_of_implicitSelect ref inTable selectWord selects
        exact ⟨select, sameType, selectInTable, selectOpens, isSelectWord⟩
  obtain ⟨ne_nil, isAscii, isLower, -⟩ :=
    spelling_of_opensBlock newRef newInTable newOpens _ newIsWord
  have writable : Writable [' '] id (rest.dropWhile Text.isWordChar) :=
    ⟨numberSlot_dropWhile_isWordChar spelt (Text.isTrimmed_trim line), short⟩
  refine ⟨ref.rule.implicitSelect.getD word, newRef, sameType, ?_⟩
  rw [text_of_classify read, identifiedLine, afterDirectiveWord_of_spelt spelt,
    directiveWithId_eq_numberedLine, classify_numberedLine outside writable ne_nil isAscii,
    isLower, String.ofList_toList,
    directiveMeaning_of_opensBlock context newInTable newOpens newIsWord]

end

/-- What renumbering puts into a line is understood when the line is read again in the same
context. A line that is read with a number can be cut around it; another number is put exactly
there, and then the line is read as before but with that number. A line that creates content
without an id is written with one, and is then read as opening a block of its type with the
id. -/
theorem substituted_number_is_read {context : ParseContext} {line : Line}
    {classified : ClassifiedLine} (read : classify context line = .ok classified) :
    (∀ number, classified.meaning.number? = some number →
      ∃ front numeral tail, CutAtNumber classified.text number front numeral tail ∧
        ∀ new, replaceArgument classified.text new = front ++ (Text.decimalText new ++ tail) ∧
          (Text.Short new → ∃ again, ReadWithNumber context classified.meaning
            (replaceArgument classified.text new) new again)) ∧
    ∀ word ref, classified.meaning = .blockStart word ref .absent → ref.rule.role = .new →
      ∀ id,
        (∀ (renumbering : Renumbering) (lineNumber : Nat),
          renumbering.mapping.implicitId? ref.type
              (renumbering.implicitCounts.get ref.type) = some id →
          ∃ next change,
            renumbering.emitBlockStart lineNumber line word ref .absent = .ok next ∧
            next.output = renumbering.output.push
              { line := Text.leadingBlanks line ++ identifiedLine word ref id classified.text
                change := some change }) ∧
        (Text.Short id → ∃ newWord newRef, newRef.type = ref.type ∧
          classify context (identifiedLine word ref id classified.text) =
            .ok ⟨identifiedLine word ref id classified.text,
              .blockStart newWord newRef (.number id)⟩) := by
  refine ⟨fun number given => exists_cutAtNumber read given, fun word ref isStart isNew id =>
    ⟨fun renumbering lineNumber settled => ?_, exists_classify_identifiedLine read isStart⟩⟩
  rw [text_of_classify read]
  exact renumbering.exists_emitBlockStart_of_new lineNumber line word isNew settled

theorem substituted_number_is_read_spellLines :
    (∃ again, ReadWithNumber { state := .inSpellBlock, activeType := some .spell }
      (.spellContent .damage none (.number (-42))) "#Damage\t7x -- 5".toList 7 again) ∧
    ∃ newWord newRef, newRef.type = .spell ∧
      classify {} "#selectspell 2000 -- free".toList = .ok
        ⟨"#selectspell 2000 -- free".toList, .blockStart newWord newRef (.number 2000)⟩ := by
  have short : ∀ number : Int, number.natAbs < 10 ^ 4 → Text.Short number := fun _ small =>
    Nat.lt_of_lt_of_le small (Nat.pow_le_pow_right (by decide) (by decide))
  constructor
  · -- The digits are those of another script.
    have read : classify { state := .inSpellBlock, activeType := some .spell }
        "  #Damage\t-٤٢x -- 5".toList =
          .ok ⟨"#Damage\t-٤٢x -- 5".toList, .spellContent .damage none (.number (-42))⟩ := by
      decide +kernel
    have line : replaceArgument "#Damage\t-٤٢x -- 5".toList 7 = "#Damage\t7x -- 5".toList := by
      decide +kernel
    obtain ⟨_, _, _, -, replaced⟩ := (substituted_number_is_read read).1 (-42) rfl
    rw [← line]
    exact (replaced 7).2 (short 7 (by decide))
  · -- The word goes on with characters that belong to no directive.
    obtain ⟨ref, read, isNew, spell, line⟩ : ∃ ref : DirectiveRef,
        classify {} "\t#NewSpellé9 -- free".toList =
          .ok ⟨"#NewSpellé9 -- free".toList, .blockStart "newspell" ref .absent⟩ ∧
        ref.rule.role = .new ∧ ref.type = .spell ∧
        identifiedLine "newspell" ref 2000 "#NewSpellé9 -- free".toList =
          "#selectspell 2000 -- free".toList := by
      refine ⟨⟨.spell, { role := .new, words := ["newspell"], opensBlock := true
                         implicitSelect := some "selectspell" }⟩, ?_⟩
      decide +kernel
    obtain ⟨newWord, newRef, sameType, readAgain⟩ :=
      ((substituted_number_is_read read).2 _ _ rfl isNew 2000).2 (short 2000 (by decide))
    rw [line] at readAgain
    exact ⟨newWord, newRef, sameType.trans spell, readAgain⟩

end ModMerge
