import ModMerge.Proofs.Script.WrittenLines

/-!
# The numbers of directive lines

`argumentNumber?` is the number that a directive line gives as its argument. A line that is
read with a number can be taken apart around its numeral (`NumberedDirective`), and this is
where renumbering writes the new number; into a line without an argument it writes the id
behind the word.
-/

namespace ModMerge

/-- The number that a directive line gives as its argument, however many digits it has. -/
def argumentNumber? (line : Line) : Option Int :=
  (directiveLine? (Text.trim line)).bind fun directive =>
    if (Text.leadingBlanks directive.rest).isEmpty then none
    else
      (Text.takeNumeral? (Text.trimLeft directive.rest)).map fun numeral =>
        Text.signed numeral.negative (Text.digitsValue numeral.digits)

section

variable {line wordChars rest : Line}

theorem argumentNumber?_of_spelt {numeral : Text.NumeralSpan}
    (spelt : Spelt (Text.trim line) wordChars rest)
    (separated : (Text.leadingBlanks rest).isEmpty = false)
    (isNumeral : Text.takeNumeral? (Text.trimLeft rest) = some numeral) :
    argumentNumber? line =
      some (Text.signed numeral.negative (Text.digitsValue numeral.digits)) := by
  have found : directiveLine? (Text.trim line) =
      some ⟨String.ofList (wordChars.map Char.toLower), rest⟩ :=
    directiveLine?_eq_some_iff.2 ⟨wordChars, spelt, rfl⟩
  simp only [argumentNumber?, found, Option.bind_some, separated, isNumeral, Option.map_some]
  rfl

theorem argumentNumber?_of_rest_nil (spelt : Spelt (Text.trim line) wordChars []) :
    argumentNumber? line = none := by
  have found : directiveLine? (Text.trim line) =
      some ⟨String.ofList (wordChars.map Char.toLower), []⟩ :=
    directiveLine?_eq_some_iff.2 ⟨wordChars, spelt, rfl⟩
  simp only [argumentNumber?, found, Option.bind_some]
  rfl

/-- A numeral that has a value has it however long numerals may be. -/
theorem signed_digitsValue_of_value {numeral : Text.NumeralSpan} {number : Int}
    (value : numeral.value = .ok number) :
    Text.signed numeral.negative (Text.digitsValue numeral.digits) = number := by
  rw [Text.NumeralSpan.value, Text.readDigits] at value
  split at value
  · exact Except.ok.inj value
  · cases value

theorem argumentNumber?_numberedLine {indent blanks tail : Line} (number : Int)
    (indentBlank : Text.AllBlank indent) (slot : NumberSlot blanks tail) (ne_nil : wordChars ≠ [])
    (isWord : ∀ character ∈ wordChars, Text.isAsciiWordChar character = true) :
    argumentNumber? (indent ++ numberedLine wordChars blanks number tail) = some number := by
  have spelt := slot.spelt number ne_nil isWord
  rw [← Text.trim_append_of_isTrimmed indentBlank (slot.isTrimmed wordChars number)] at spelt
  obtain ⟨blanksEq, isNumeral⟩ := slot.takeNumeral?_trimLeft number
  rw [argumentNumber?_of_spelt spelt (by simpa [blanksEq] using slot.ne_nil) isNumeral,
    Text.digitsValue_toDigits]
  simp only [Text.signed, decide_eq_true_eq, Option.some.injEq]
  split <;> omega

/-! ### Lines that are never left out -/

/-- A line that is neither blank nor the end of a block. -/
structure Substantial (line : Line) : Prop where
  notBlank : Text.isBlankText line = false
  notEnd : isEndLine line = false

/-- Blank lines and the ends of blocks give no number. -/
theorem substantial_of_argumentNumber? {number : Int} (given : argumentNumber? line = some number) :
    Substantial line where
  notBlank := by
    rw [← Bool.not_eq_true]
    intro blank
    rw [argumentNumber?, Text.trim_eq_nil_iff.2 blank] at given
    cases given
  notEnd := by
    rw [← Bool.not_eq_true]
    intro isEnd
    obtain ⟨wordChars, spelt, -⟩ := exists_spelt_of_isEndLine isEnd
    rw [argumentNumber?_of_rest_nil spelt] at given
    cases given

theorem substantial_of_reads {inSpellBlock : Bool} {meaning : LineMeaning}
    (reads : Reads inSpellBlock line meaning) (notBlank : meaning ≠ .blank)
    (notEnd : meaning ≠ .blockEnd) : Substantial line :=
  ⟨isBlankText_of_reads reads notBlank, isEndLine_of_reads reads notEnd⟩

end

/-! ### Lines with a number -/

/-- A directive line with a numeral behind its word, taken apart. -/
structure NumberedDirective where
  indent : Line
  wordChars : Line
  blanks : Line
  numeral : Line
  tail : Line
  allBlank_indent : Text.AllBlank indent
  ne_nil : wordChars ≠ []
  isWord : ∀ character ∈ wordChars, Text.isAsciiWordChar character = true
  slot : NumberSlot blanks tail
  isNumeral : ∃ negative digits,
    Text.takeNumeral? (numeral ++ tail) = some ⟨negative, digits, tail⟩

namespace NumberedDirective

/-- The line that was taken apart. -/
def line (directive : NumberedDirective) : Line :=
  directive.indent ++
    '#' :: (directive.wordChars ++ (directive.blanks ++ (directive.numeral ++ directive.tail)))

/-- The line with another number in the place of its own. -/
def withNumber (directive : NumberedDirective) (number : Int) : Line :=
  directive.indent ++
    numberedLine directive.wordChars directive.blanks number directive.tail

theorem argumentNumber?_withNumber (directive : NumberedDirective) (number : Int) :
    argumentNumber? (directive.withNumber number) = some number :=
  argumentNumber?_numberedLine number directive.allBlank_indent directive.slot directive.ne_nil
    directive.isWord

theorem leadingBlanks_withNumber (directive : NumberedDirective) (number : Int) :
    Text.leadingBlanks (directive.withNumber number) = directive.indent := by
  refine (takeWhile_dropWhile_append directive.allBlank_indent fun character isHead => ?_).1
  obtain rfl := Option.some.inj isHead
  decide

theorem leadingBlanks_line (directive : NumberedDirective) :
    Text.leadingBlanks directive.line = directive.indent := by
  refine (takeWhile_dropWhile_append directive.allBlank_indent fun character isHead => ?_).1
  obtain rfl := Option.some.inj isHead
  decide

end NumberedDirective

section

variable {context : ParseContext} {line : Line} {classified : ClassifiedLine}

/-- A numeral stands between what comes before it and its rest. -/
theorem exists_numeral_of_takeNumeral? {characters : Line} {span : Text.NumeralSpan}
    (found : Text.takeNumeral? characters = some span) :
    ∃ numeral, characters = numeral ++ span.rest := by
  obtain ⟨sign, whole, -⟩ := Text.exists_of_takeNumeral? found
  exact ⟨sign ++ span.digits, by rw [whole, List.append_assoc]⟩

/-- A line that is read with a number has that number, and can be taken apart around it. -/
theorem exists_numberedDirective {form : LineForm} {number : Int}
    (outside : context.inDescription = false) (read : classify context line = .ok classified)
    (isForm : classified.meaning = form.meaning (.number number))
    (last : ∀ character ∈ line.getLast?, Text.isBlank character = false) :
    argumentNumber? line = some number ∧
    ∃ directive : NumberedDirective, directive.line = line ∧ ∀ new,
      Text.leadingBlanks line ++ replaceArgument (Text.trim line) new =
        directive.withNumber new := by
  obtain ⟨wordChars, rest, argument, spelt, hasArgument, meaningEq⟩ :=
    exists_spelt_of_classify outside read (by rw [isForm]; cases form <;> simp [LineForm.meaning])
  obtain ⟨rfl, -⟩ := LineForm.of_directiveMeaning (meaningEq.symm.trans isForm)
  obtain ⟨separated, span, isSpan, value⟩ := readArgument_eq_number_iff.1 hasArgument
  obtain ⟨numeral, whole⟩ := exists_numeral_of_takeNumeral? isSpan
  refine ⟨?_, ⟨Text.leadingBlanks line, wordChars, Text.leadingBlanks rest, numeral, span.rest,
    Text.allBlank_leadingBlanks line, spelt.ne_nil, spelt.isWord,
    numberSlot_of_spelt spelt (Text.isTrimmed_trim line) separated isSpan,
    span.negative, span.digits, whole ▸ isSpan⟩, ?_, fun new => ?_⟩
  · rw [argumentNumber?_of_spelt spelt separated isSpan, signed_digitsValue_of_value value]
  · have restEq : rest = Text.leadingBlanks rest ++ (numeral ++ span.rest) := by
      rw [← whole, Text.leadingBlanks_append_trimLeft]
    have lineEq := Text.leadingBlanks_append_trim last
    rw [spelt.text_eq, restEq] at lineEq
    exact lineEq
  · rw [replaceArgument_of_spelt spelt separated isSpan, NumberedDirective.withNumber]

/-! ### Lines that are given an id -/

/-- The word characters of a directive that is given an id, and what follows them. -/
structure Unnumbered (line indent wordChars rest : Line) : Prop where
  line_eq : line = indent ++ '#' :: (wordChars ++ rest)
  allBlank_indent : Text.AllBlank indent
  isWord : ∀ character ∈ wordChars, Text.isWordChar character = true
  ends : ∀ character ∈ rest.head?, Text.isWordChar character = false
  slot : NumberSlot [' '] rest

theorem word_of_directiveMeaning {directive : DirectiveLine} {given argument : Argument}
    {word : String} {ref : DirectiveRef}
    (same : directiveMeaning context directive given = .blockStart word ref argument) :
    word = directive.word := by
  have means := same ▸ directiveMeans_directiveMeaning context directive given
  cases means
  rfl

/-- A line that opens a block without an argument is given an id behind its word. What it begins
with is the word of its directive, in capital letters or not, and perhaps further characters
that words may have elsewhere. -/
theorem exists_unnumbered {word : String} {ref : DirectiveRef} {argument : Argument}
    (outside : context.inDescription = false) (read : classify context line = .ok classified)
    (isStart : classified.meaning = .blockStart word ref argument)
    (last : ∀ character ∈ line.getLast?, Text.isBlank character = false) :
    ∃ directiveChars moreChars,
      word = String.ofList (directiveChars.map Char.toLower) ∧
      Unnumbered line (Text.leadingBlanks line) (directiveChars ++ moreChars)
        (afterDirectiveWord (Text.trim line)) := by
  obtain ⟨asciiChars, rest, given, spelt, -, meaningEq⟩ :=
    exists_spelt_of_classify outside read (by rw [isStart]; simp)
  refine ⟨asciiChars, rest.takeWhile Text.isWordChar,
    word_of_directiveMeaning (meaningEq.symm.trans isStart), ?_⟩
  rw [afterDirectiveWord_of_spelt spelt]
  refine ⟨?_, Text.allBlank_leadingBlanks line, ?_, ?_,
    numberSlot_dropWhile_isWordChar spelt (Text.isTrimmed_trim line)⟩
  · rw [List.append_assoc, List.takeWhile_append_dropWhile, ← spelt.text_eq,
      Text.leadingBlanks_append_trim last]
  · intro character member
    rcases List.mem_append.1 member with isAscii | isWord
    · exact Text.isWordChar_of_isAsciiWordChar character (spelt.isWord character isAscii)
    · exact List.mem_takeWhile_imp isWord
  · intro character isHead
    have notWord := List.head?_dropWhile_not Text.isWordChar rest
    rw [Option.mem_def.1 isHead] at notWord
    simpa using notWord

namespace Unnumbered

variable {indent wordChars rest : Line} {word : String}

theorem argumentNumber?_directiveWithId (unnumbered : Unnumbered line indent wordChars rest)
    (ne_nil : word.toList ≠ [])
    (isWord : ∀ character ∈ word.toList, Text.isAsciiWordChar character = true) (id : Int) :
    argumentNumber? (indent ++ directiveWithId word id rest) = some id := by
  rw [directiveWithId_eq_numberedLine]
  exact argumentNumber?_numberedLine id unnumbered.allBlank_indent unnumbered.slot ne_nil isWord

/-- The id makes the line another one. -/
theorem directiveWithId_ne (unnumbered : Unnumbered line indent wordChars rest)
    (isWord : ∀ character ∈ word.toList, Text.isAsciiWordChar character = true) (id : Int) :
    indent ++ directiveWithId word id rest ≠ line := by
  intro same
  rw [unnumbered.line_eq, List.append_cancel_left_eq, directiveWithId, List.cons.injEq,
    List.append_assoc] at same
  have ends : ∀ character ∈ (' ' :: Text.decimalText id ++ rest).head?,
      Text.isWordChar character = false := by
    intro character isHead
    obtain rfl := Option.some.inj isHead
    exact Text.not_isWordChar_of_isBlank (by decide)
  have written := takeWhile_dropWhile_append
    (fun character member => Text.isWordChar_of_isAsciiWordChar character (isWord character member))
    ends
  have given := takeWhile_dropWhile_append unnumbered.isWord unnumbered.ends
  have rests : ' ' :: Text.decimalText id ++ rest = rest := by
    rw [← written.2, same.2, given.2]
  have lengths := congrArg List.length rests
  rw [List.length_append, List.length_cons] at lengths
  omega

end Unnumbered

end

end ModMerge
