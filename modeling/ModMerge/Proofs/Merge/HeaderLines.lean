import ModMerge.Merge.Header
import ModMerge.Proofs.Mod.Walks
import ModMerge.Proofs.Script.CommentedLines

/-!
# Reading the header of a merged file

Whoever reads a merged file passes its header without finding any content: the quotes of the
description close at the time of the merge, whatever mods are listed in it.
-/

namespace ModMerge

/-! ### Quoted texts -/

/-- The characters that are read as double quotes. -/
def quoteChars : List Char := ['"', '\u201c', '\u201d']

/-- A text that stays on its line and within its quotes. -/
def Quotable (text : String) : Prop :=
  ∀ character ∈ text.toList, Text.isLineBreak character = false ∧ character ∉ quoteChars

instance (text : String) : Decidable (Quotable text) :=
  List.decidableBAll (fun character =>
    Text.isLineBreak character = false ∧ character ∉ quoteChars) text.toList

/-- The characters of a line of a file as they are read. -/
def readChars (text : String) : Line :=
  text.toList.map correctChar

theorem readChars_append (first second : String) :
    readChars (first ++ second) = readChars first ++ readChars second := by
  rw [readChars, String.toList_append, List.map_append]
  rfl

theorem correctChar_eq_quote {character : Char} (isQuote : correctChar character = '"') :
    character ∈ quoteChars := by
  rw [correctChar] at isQuote
  split at isQuote
  · next typographic =>
      rw [Bool.or_eq_true, beq_iff_eq, beq_iff_eq] at typographic
      rcases typographic with rfl | rfl <;> simp [quoteChars]
  split at isQuote
  · exact absurd isQuote (by decide)
  · simp [quoteChars, isQuote]

theorem unbroken_quoteSafe {text : String} (unbroken : Text.Unbroken text.toList) :
    Text.Unbroken (quoteSafe text).toList := by
  intro character member
  rw [quoteSafe, String.toList_ofList] at member
  obtain ⟨given, inText, rfl⟩ := List.mem_map.1 member
  split
  · decide
  · exact unbroken given inText

/-- A text between quotes keeps to its line if it does so alone. -/
theorem unbroken_quoted {text : String} (unbroken : Text.Unbroken text.toList) :
    Text.Unbroken (quoteSafe text ++ "\"").toList :=
  Text.unbroken_append (unbroken_quoteSafe unbroken) (by decide +kernel)

namespace Quotable

variable {text : String}

theorem unbroken (quotable : Quotable text) : Text.Unbroken text.toList :=
  fun character member => (quotable character member).1

theorem quoteSafe_eq (quotable : Quotable text) : quoteSafe text = text := by
  have same : ∀ character ∈ text.toList,
      (if character = '"' then '\'' else character) = id character := by
    intro character member
    refine if_neg ?_
    rintro rfl
    exact (quotable _ member).2 (by decide)
  rw [quoteSafe, List.map_congr_left same, List.map_id, String.ofList_toList]

theorem quote_not_mem (quotable : Quotable text) : '"' ∉ readChars text := by
  intro member
  obtain ⟨character, given, isQuote⟩ := List.mem_map.1 member
  exact (quotable character given).2 (correctChar_eq_quote isQuote)

end Quotable

theorem lineFeed_not_mem {text : String} (unbroken : Text.Unbroken text.toList) :
    '\n' ∉ readChars text := by
  intro member
  obtain ⟨character, given, isLineFeed⟩ := List.mem_map.1 member
  have keeps := (plain_correctChar (unbroken character given)).1
  rw [isLineFeed] at keeps
  exact absurd keeps (by decide)

/-! ### Directives about the mod itself -/

/-- What is read as the argument of a directive that goes on with a quote and these characters. -/
def quotedArgument (value : Line) : Argument :=
  match takeQuoted? ('"' :: value) with
  | some name => .name (String.ofList name)
  | none => .absent

theorem readArgument_quoted (value : Line) :
    readArgument (' ' :: '"' :: value) = .ok (quotedArgument value) := by
  have leading : Text.leadingBlanks (' ' :: '"' :: value) = [' '] := by
    simp [Text.leadingBlanks, show Text.isBlank ' ' = true by decide,
      show Text.isBlank '"' = false by decide]
  have left : Text.trimLeft (' ' :: '"' :: value) = '"' :: value := by
    simp [Text.trimLeft, show Text.isBlank ' ' = true by decide,
      show Text.isBlank '"' = false by decide]
  have noNumeral : Text.takeNumeral? ('"' :: value) = none := by
    simp [Text.takeNumeral?, show Text.isDigit '"' = false by decide]
  rw [readArgument, leading, left, noNumeral, quotedArgument]
  simp only [List.isEmpty_cons, Bool.false_eq_true, if_false]
  cases takeQuoted? ('"' :: value) <;> rfl

/-- A directive with a quoted text is read by its word, whatever the text is. -/
theorem classify_quoted {context : ParseContext} (outside : context.inDescription = false)
    {wordChars : Line} (notEmpty : wordChars ≠ [])
    (isWord : ∀ character ∈ wordChars, Text.isAsciiWordChar character = true) {value : Line}
    (noLineFeed : '\n' ∉ value) :
    ∃ classified, classify context ('#' :: (wordChars ++ ' ' :: '"' :: value)) = .ok classified ∧
      classified.meaning = directiveMeaning context ⟨String.ofList (wordChars.map Char.toLower),
        ' ' :: '"' :: Text.trimRight value⟩ (quotedArgument (Text.trimRight value)) := by
  have trimEq : Text.trim ('#' :: (wordChars ++ ' ' :: '"' :: value)) =
      '#' :: (wordChars ++ ' ' :: '"' :: Text.trimRight value) := by
    have trimmed : Text.trim ([] ++ (('#' :: (wordChars ++ [' '])) ++ '"' :: value)) =
        ('#' :: (wordChars ++ [' '])) ++ '"' :: Text.trimRight value :=
      Text.trim_append_cons (by simp [Text.AllBlank]) (by simp; decide) (by decide)
    simpa using trimmed
  have spelt : Spelt (Text.trim ('#' :: (wordChars ++ ' ' :: '"' :: value))) wordChars
      (' ' :: '"' :: Text.trimRight value) := by
    refine ⟨trimEq, notEmpty, isWord, fun character isFirst => ?_, fun member => ?_⟩
    · obtain rfl := Option.some.inj isFirst
      decide
    · rcases List.mem_cons.1 member with same | member
      · exact absurd same (by decide)
      rcases List.mem_cons.1 member with same | member
      · exact absurd same (by decide)
      exact noLineFeed (Text.mem_of_mem_trimRight member)
  exact ⟨_, classify_of_spelt outside spelt (readArgument_quoted _), rfl⟩

/-! ### The time of the merge -/

/-- The digits of a number. -/
structure IsDigits (text : String) : Prop where
  digits : ∀ character ∈ text.toList, character.isDigit = true
  ne_nil : text.toList ≠ []

theorem isDigits_decimalString (number : Nat) : IsDigits (Text.decimalString number) := by
  have written : (Text.decimalString number).toList = Nat.toDigits 10 number := by
    rw [Text.decimalString, String.toList_ofList, Text.decimalText, if_neg (by omega)]
    rfl
  refine ⟨fun character member => ?_, ?_⟩
  · rw [written] at member
    exact Nat.isDigit_of_mem_toDigits (by decide) (by decide) member
  · rw [written]
    exact Nat.toDigits_ne_nil

theorem isDigits_paddedDecimal (width number : Nat) : IsDigits (paddedDecimal width number) := by
  simp only [paddedDecimal]
  refine ⟨fun character member => ?_, ?_⟩
  · rw [String.toList_ofList] at member
    rcases List.mem_append.1 member with padding | digit
    · rw [List.eq_of_mem_replicate padding]
      decide
    · exact Nat.isDigit_of_mem_toDigits (by decide) (by decide) digit
  · rw [String.toList_ofList]
    exact List.append_ne_nil_of_right_ne_nil _ Nat.toDigits_ne_nil

theorem IsDigits.plain {text : String} (isDigits : IsDigits text) : Plain text.toList :=
  fun character member => plain_of_isDigit (isDigits.digits character member)

theorem IsDigits.not_mem {text : String} (isDigits : IsDigits text) {character : Char}
    (notDigit : character.isDigit = false) : character ∉ text.toList := by
  intro member
  rw [isDigits.digits character member] at notDigit
  cases notDigit

theorem beforeComment_hyphen {character : Char} (notHyphen : character ≠ '-') (rest : Line) :
    beforeComment ('-' :: character :: rest) = '-' :: beforeComment (character :: rest) := by
  rw [beforeComment]
  rintro following - same
  exact notHyphen (List.cons.inj same).1

/-- A hyphen before a number begins no comment. -/
theorem beforeComment_number {text : String} (isDigits : IsDigits text) (rest : Line) :
    beforeComment ('-' :: (text.toList ++ rest)) = '-' :: (text.toList ++ beforeComment rest) := by
  have noHyphen : '-' ∉ text.toList := isDigits.not_mem (by decide)
  cases split : text.toList with
  | nil => exact absurd split isDigits.ne_nil
  | cons first others =>
      rw [split, List.mem_cons, not_or] at noHyphen
      rw [List.cons_append, beforeComment_hyphen (Ne.symm noHyphen.1), ← List.cons_append,
        beforeComment_append (by rw [List.mem_cons, not_or]; exact noHyphen)]

/-- The line of a header that names the time of the merge. -/
def generatedLine (moment : Timestamp) : String :=
  "Generated: " ++ moment.text ++ "\""

theorem toList_generatedLine (moment : Timestamp) :
    (generatedLine moment).toList = "Generated: ".toList ++
      ((Text.decimalString moment.year).toList ++
      '-' :: ((paddedDecimal 2 moment.month).toList ++
      '-' :: ((paddedDecimal 2 moment.day).toList ++
      ' ' :: ((paddedDecimal 2 moment.hour).toList ++
      ':' :: ((paddedDecimal 2 moment.minute).toList ++
      ':' :: ((paddedDecimal 2 moment.second).toList ++ ['"'])))))) := by
  simp [generatedLine, Timestamp.text, String.toList_append]

theorem plain_generatedLine (moment : Timestamp) : Plain (generatedLine moment).toList := by
  have begins : Plain "Generated: ".toList := by decide +kernel
  have then_ : ∀ {text : String} {character : Char} {rest : Line}, IsDigits text →
      Plain [character] → Plain rest → Plain (text.toList ++ character :: rest) :=
    fun isDigits plain plainRest => isDigits.plain.append (plain.append plainRest)
  rw [toList_generatedLine]
  refine begins.append (then_ (isDigits_decimalString _) (by decide) ?_)
  refine then_ (isDigits_paddedDecimal _ _) (by decide) ?_
  refine then_ (isDigits_paddedDecimal _ _) (by decide) ?_
  refine then_ (isDigits_paddedDecimal _ _) (by decide) ?_
  refine then_ (isDigits_paddedDecimal _ _) (by decide) ?_
  exact (isDigits_paddedDecimal _ _).plain.append (by decide)

theorem isTrimmed_generatedLine (moment : Timestamp) :
    Text.IsTrimmed (generatedLine moment).toList := by
  refine ⟨fun character isFirst => ?_, fun character isLast => ?_⟩
  · rw [toList_generatedLine] at isFirst
    obtain rfl := Option.some.inj isFirst
    decide
  · have isQuote := isLast
    rw [generatedLine, String.toList_append, show "\"".toList = ['"'] from rfl,
      List.getLast?_concat] at isQuote
    obtain rfl := Option.some.inj isQuote
    decide

/-- The line that names the time closes the description. -/
theorem closesDescription_generatedLine (moment : Timestamp) :
    closesDescription (readChars (generatedLine moment)) = true := by
  have year := isDigits_decimalString moment.year
  have month := isDigits_paddedDecimal 2 moment.month
  have day := isDigits_paddedDecimal 2 moment.day
  have hour := isDigits_paddedDecimal 2 moment.hour
  have minute := isDigits_paddedDecimal 2 moment.minute
  have second := isDigits_paddedDecimal 2 moment.second
  have noHyphen : ∀ {text : String}, IsDigits text → '-' ∉ text.toList :=
    fun isDigits => isDigits.not_mem (by decide)
  have noQuote : ∀ {text : String}, IsDigits text → text.toList.count '"' = 0 :=
    fun isDigits => List.count_eq_zero.2 (isDigits.not_mem (by decide))
  rw [readChars, (plain_generatedLine moment).map_correctChar, closesDescription,
    Text.trim_eq_of_isTrimmed (isTrimmed_generatedLine moment), toList_generatedLine,
    beforeComment_append (by decide), beforeComment_append (noHyphen year),
    beforeComment_number month, beforeComment_number day, beforeComment_eq_self]
  · simp [hasOpenQuote, List.count_append, noQuote year, noQuote month, noQuote day, noQuote hour,
      noQuote minute, noQuote second]
  · simp [noHyphen hour, noHyphen minute, noHyphen second]

/-! ### Descriptions -/

namespace Survey

variable {survey start : Survey}

theorem run_descriptionText (inside : survey.context.inDescription = true)
    {numbered : List ScriptLine}
    (goesOn : ∀ line ∈ numbered, closesDescription line.text = false) :
    survey.run numbered = .ok survey := by
  induction numbered with
  | nil => rfl
  | cons line rest inductionHypothesis =>
      have passed : survey.step line = .ok survey := by
        refine step_eq_ok_iff.2 ⟨_, classify_inDescription inside _, ?_⟩
        rw [← closesDescription, goesOn line List.mem_cons_self]
        rfl
      exact run_cons_eq_ok.2 ⟨survey, passed, inductionHypothesis fun other member =>
        goesOn other (List.mem_cons_of_mem _ member)⟩

/-- A description is passed over, from the line that begins it to the closing quote. -/
theorem Reaches.description {lines middle : List Line} {first last : Line}
    {holds : Survey → Prop} (reaches : start.Reaches lines holds)
    (idle : ∀ read, holds read → read.context.state = .idle)
    (begins : ModMerge.Reads false first (.descriptionStart true))
    (goesOn : ∀ line ∈ middle, closesDescription line = false)
    (ends : closesDescription last = true) :
    start.Reaches (lines ++ (first :: (middle ++ [last]))) holds := by
  refine reaches.append fun read consistent outside holdsThen numbered texts => ?_
  obtain ⟨opening, rest, rfl, rfl, restTexts⟩ := List.map_eq_cons_iff.1 texts
  obtain ⟨within, closing, rfl, rfl, closingTexts⟩ := List.map_eq_append_iff.1 restTexts
  obtain ⟨only, rfl, rfl⟩ := List.map_eq_singleton_iff.1 closingTexts
  have isIdle := idle read holdsThen
  have noLine := consistent.descriptionLine_eq_none (by rw [isIdle]; simp)
  let entered : Survey := { read with context :=
    { read.context with state := .inDescription, descriptionLine := some opening.number } }
  have notInSpell : read.context.inSpellBlock = false := by
    rw [ParseContext.inSpellBlock, isIdle]
    rfl
  have stepped : read.step opening = .ok entered := by
    obtain ⟨classified, isRead, alike⟩ := begins read.context outside notInSpell
    refine step_eq_ok_iff.2 ⟨classified, isRead, ?_⟩
    rw [alike.advance_eq]
    exact advance_descriptionStart_eq_ok_iff.2 ⟨isIdle, rfl⟩
  have passed : entered.run within = .ok entered :=
    run_descriptionText rfl fun line member => goesOn _ (List.mem_map_of_mem member)
  have left : entered.step only = .ok read := by
    refine step_eq_ok_iff.2 ⟨_, classify_inDescription rfl _, ?_⟩
    rw [← closesDescription, ends]
    simp only [advance, if_true, ParseContext.leaveDescription, entered]
    rw [← isIdle, ← noLine]
  have closed : entered.run (within ++ [only]) = .ok read :=
    run_append_eq_ok.2 ⟨entered, passed, run_cons_eq_ok.2 ⟨read, left, rfl⟩⟩
  exact ⟨read, run_cons_eq_ok.2 ⟨entered, stepped, closed⟩, consistent, outside, holdsThen⟩

/-- A survey that has read nothing but the name that the mod gives itself. -/
def OnlyNamed (modName : String) (read : Survey) : Prop :=
  ∃ displayName, read = { definition := { modName, displayName } }

end Survey

/-! ### The header -/

theorem mem_of_mem_beforeComment {line : Line} {character : Char}
    (member : character ∈ beforeComment line) : character ∈ line := by
  fun_induction beforeComment line with
  | case1 rest => cases member
  | case2 first rest _ inductionHypothesis =>
      rcases List.mem_cons.1 member with rfl | member
      · exact List.mem_cons_self
      · exact List.mem_cons_of_mem _ (inductionHypothesis member)
  | case3 => cases member

/-- A line without quotes closes no description. -/
theorem closesDescription_of_quote_not_mem {line : Line} (noQuote : '"' ∉ line) :
    closesDescription line = false :=
  hasOpenQuote_of_quote_not_mem fun member =>
    noQuote (Text.mem_of_mem_trim (mem_of_mem_beforeComment member))

/-- A text behind a quote leaves it open if its own quotes are even. -/
theorem hasOpenQuote_quoted (value : Line) :
    hasOpenQuote (' ' :: '"' :: Text.trimRight value) = !hasOpenQuote value := by
  have mark : hasOpenQuote [' ', '"'] = true := by decide
  have split := hasOpenQuote_append [' ', '"'] (Text.trimRight value)
  rwa [mark, hasOpenQuote_trimRight, Bool.true_xor] at split

/-- The line of a directive with a text in quotes; `text` goes on to the end of the line. -/
def quotedLine (word text : String) : String :=
  "#" ++ word ++ " \"" ++ text

/-- The directives of a header are read by their words. -/
theorem classify_quotedLine {context : ParseContext} (outside : context.inDescription = false)
    (word : String) (isWord : word ∈ ["modname", "description", "icon", "version"]) (text : String)
    (unbroken : Text.Unbroken text.toList) :
    ∃ classified, classify context (readChars (quotedLine word text)) = .ok classified ∧
      classified.meaning = directiveMeaning context
        ⟨word, ' ' :: '"' :: Text.trimRight (readChars text)⟩
        (quotedArgument (Text.trimRight (readChars text))) := by
  have table : ∀ word ∈ ["modname", "description", "icon", "version"], word.toList ≠ [] ∧
      word.toList.all Text.isAsciiWordChar = true ∧
      word.toList.map Char.toLower = word.toList ∧ readChars word = word.toList := by
    decide +kernel
  obtain ⟨notEmpty, isAscii, isLower, isCorrect⟩ := table word isWord
  obtain ⟨classified, read, meaningEq⟩ := classify_quoted outside notEmpty
    (List.all_eq_true.1 isAscii) (lineFeed_not_mem unbroken)
  rw [isLower, String.ofList_toList] at meaningEq
  have written : readChars (quotedLine word text) =
      '#' :: (word.toList ++ ' ' :: '"' :: readChars text) := by
    have hash : readChars "#" = ['#'] := by decide
    have quote : readChars " \"" = [' ', '"'] := by decide
    rw [quotedLine, readChars_append, readChars_append, readChars_append, hash, quote, isCorrect]
    simp
  exact ⟨classified, written ▸ read, meaningEq⟩

theorem reads_quotedLine (word : String)
    (isWord : word ∈ ["modname", "description", "icon", "version"]) (text : String)
    (unbroken : Text.Unbroken text.toList) :
    ∃ argument, Reads false (readChars (quotedLine word text))
      (directiveMeaning {} ⟨word, ' ' :: '"' :: Text.trimRight (readChars text)⟩ argument) := by
  obtain ⟨classified, read, meaningEq⟩ :=
    classify_quotedLine (show ({} : ParseContext).inDescription = false from rfl) word isWord text
      unbroken
  refine ⟨quotedArgument (Text.trimRight (readChars text)), ?_⟩
  rw [← meaningEq]
  exact reads_of_classify rfl read

theorem directiveMeaning_modName (context : ParseContext) (rest : Line) (argument : Argument) :
    directiveMeaning context ⟨"modname", rest⟩ argument =
      .modName (argument.name?.filter fun name => !name.isEmpty) := by
  simp [directiveMeaning]

theorem directiveMeaning_description (context : ParseContext) (rest : Line)
    (argument : Argument) :
    directiveMeaning context ⟨"description", rest⟩ argument =
      .descriptionStart (hasOpenQuote rest) := by
  simp [directiveMeaning]

theorem directiveMeaning_otherMetadata (context : ParseContext) {word : String}
    (isWord : word ∈ otherMetadataWords) (rest : Line) (argument : Argument) :
    directiveMeaning context ⟨word, rest⟩ argument = .otherMetadata word := by
  have other : ∀ word ∈ otherMetadataWords, (word == "modname") = false ∧
      (word == "description") = false ∧ otherMetadataWords.contains word = true := by
    decide
  obtain ⟨notName, notDescription, listed⟩ := other word isWord
  simp only [directiveMeaning, notName, notDescription, listed, Bool.false_eq_true, if_false,
    if_true]

namespace MergeHeader

variable {settings : MergeSettings} {modNames icon : List String}

/-- A line about the mod itself changes at most the name that the mod gives itself. -/
theorem reaches_concat {start : Survey} {lines : List Line} {line : Line} {newName : String}
    {meaning : LineMeaning} (reaches : start.Reaches lines (Survey.OnlyNamed newName))
    (reads : Reads false line meaning)
    (passes : (∃ given, meaning = .modName given) ∨ ∃ word, meaning = .otherMetadata word) :
    start.Reaches (lines ++ [line]) (Survey.OnlyNamed newName) := by
  refine reaches.concat reads ?_ ?_ ?_
  · rintro read ⟨displayName, rfl⟩
    rfl
  · rcases passes with ⟨given, rfl⟩ | ⟨word, rfl⟩ <;> simp
  · rintro read - ⟨displayName, rfl⟩ lineNumber
    rcases passes with ⟨given, rfl⟩ | ⟨word, rfl⟩
    · cases given with
      | none => exact ⟨_, rfl, displayName, rfl⟩
      | some name => exact ⟨_, rfl, some name, rfl⟩
    · exact ⟨_, rfl, displayName, rfl⟩

theorem reaches_iconLines {start : Survey} {newName : String}
    (icons : ∀ line ∈ icon, ∃ path : FilePath, line = iconLine path ∧
      Text.Unbroken path.name.toList) {lines : List Line}
    (reaches : start.Reaches lines (Survey.OnlyNamed newName)) :
    start.Reaches (lines ++ icon.map readChars) (Survey.OnlyNamed newName) := by
  induction icon generalizing lines with
  | nil =>
      rw [List.map_nil, List.append_nil]
      exact reaches
  | cons first rest inductionHypothesis =>
      rw [List.forall_mem_cons] at icons
      obtain ⟨⟨path, rfl, unbroken⟩, others⟩ := icons
      obtain ⟨argument, reads⟩ := reads_quotedLine "icon" (by decide)
        (path.name ++ "\"") (Text.unbroken_append unbroken (by decide +kernel))
      have written : iconLine path = quotedLine "icon" (path.name ++ "\"") := by
        rw [iconLine, String.append_assoc]
        rfl
      rw [directiveMeaning_otherMetadata _ (by decide)] at reads
      rw [List.map_cons, List.append_cons, written]
      refine inductionHypothesis others (reaches_concat reaches reads ?_)
      exact .inr ⟨_, rfl⟩

/-- No line of a header is broken by what is written into it. -/
theorem unbroken_linesWith (displayName : Text.Unbroken settings.displayNameText.toList)
    (description : Text.Unbroken settings.descriptionText.toList)
    (version : Text.Unbroken settings.versionText.toList)
    (names : ∀ modName ∈ modNames, Text.Unbroken modName.toList) (moment : Timestamp)
    (icons : ∀ line ∈ icon, Text.Unbroken line.toList) :
    ∀ line ∈ linesWith settings modNames moment icon, Text.Unbroken line.toList := by
  have quoted : ∀ {word text : String}, Text.Unbroken word.toList → Text.Unbroken text.toList →
      Text.Unbroken (word ++ quoteSafe text).toList :=
    fun unbrokenWord unbroken => Text.unbroken_append unbrokenWord (unbroken_quoteSafe unbroken)
  have closed : ∀ {word text : String}, Text.Unbroken word.toList → Text.Unbroken text.toList →
      Text.Unbroken (word ++ quoteSafe text ++ "\"").toList :=
    fun unbrokenWord unbroken =>
      Text.unbroken_append (quoted unbrokenWord unbroken) (by decide +kernel)
  have fixed : ∀ line ∈ ["", "Merged from:", "-- Begin merged content"],
      Text.Unbroken line.toList := by
    decide +kernel
  intro line member
  simp only [linesWith, List.mem_append, List.mem_cons, List.not_mem_nil, or_false,
    List.mem_map] at member
  rcases member with ((((rfl | rfl | rfl | rfl) | ⟨modName, isName, rfl⟩) | rfl | rfl) | isIcon) |
    rfl | rfl | rfl
  · exact closed (by decide +kernel) displayName
  · exact quoted (by decide +kernel) description
  · exact fixed _ (by simp)
  · exact fixed _ (by simp)
  · exact quoted (by decide +kernel) (names modName isName)
  · exact fixed _ (by simp)
  · exact (plain_generatedLine moment).unbroken
  · exact icons line isIcon
  · exact closed (by decide +kernel) version
  · exact fixed _ (by simp)
  · exact fixed _ (by simp)

/-- The lines of a description between its quotes. -/
def describedLines (modNames : List String) : List Line :=
  [[], readChars "Merged from:"] ++
    modNames.map (fun modName => readChars ("- " ++ quoteSafe modName)) ++ [[]]

theorem map_readChars_linesWith (settings : MergeSettings) (modNames icon : List String)
    (moment : Timestamp) :
    (linesWith settings modNames moment icon).map readChars =
      [readChars (quotedLine "modname" (quoteSafe settings.displayNameText ++ "\""))] ++
        (readChars (quotedLine "description" (quoteSafe settings.descriptionText)) ::
          (describedLines modNames ++ [readChars (generatedLine moment)])) ++
        icon.map readChars ++
        [readChars (quotedLine "version" (quoteSafe settings.versionText ++ "\""))] ++ [[]] ++
        ['-' :: '-' :: " Begin merged content".toList] := by
  have joined : ∀ word text : String,
      quotedLine word (text ++ "\"") = "#" ++ word ++ " \"" ++ text ++ "\"" := by
    intro word text
    rw [quotedLine, ← String.append_assoc]
  have ends : readChars "-- Begin merged content" =
      '-' :: '-' :: " Begin merged content".toList := by
    decide
  rw [joined, joined, ← ends, linesWith]
  simp only [List.map_append, List.map_cons, List.map_nil, List.map_map, List.append_assoc,
    List.cons_append, List.nil_append, describedLines]
  rfl

/-- The lines of a header define nothing. -/
theorem reaches_linesWith (newName : String) (displayName : Quotable settings.displayNameText)
    (description : Quotable settings.descriptionText) (version : Quotable settings.versionText)
    (names : ∀ modName ∈ modNames, Quotable modName) (moment : Timestamp)
    (icons : ∀ line ∈ icon, ∃ path : FilePath, line = iconLine path ∧
      Text.Unbroken path.name.toList) :
    ({ definition := { modName := newName } } : Survey).Reaches
      ((linesWith settings modNames moment icon).map readChars) (Survey.OnlyNamed newName) := by
  obtain ⟨nameArgument, readsName⟩ := reads_quotedLine "modname" (by decide) _
    (unbroken_quoted displayName.unbroken)
  obtain ⟨versionArgument, readsVersion⟩ := reads_quotedLine "version" (by decide) _
    (unbroken_quoted version.unbroken)
  obtain ⟨textArgument, readsText⟩ := reads_quotedLine "description" (by decide)
    (quoteSafe settings.descriptionText) (unbroken_quoteSafe description.unbroken)
  have opens : hasOpenQuote
      (' ' :: '"' :: Text.trimRight (readChars (quoteSafe settings.descriptionText))) = true := by
    rw [description.quoteSafe_eq, hasOpenQuote_quoted,
      hasOpenQuote_of_quote_not_mem description.quote_not_mem]
    rfl
  rw [directiveMeaning_modName] at readsName
  rw [directiveMeaning_description, opens] at readsText
  rw [directiveMeaning_otherMetadata _ (by decide)] at readsVersion
  have goesOn : ∀ line ∈ describedLines modNames, closesDescription line = false := by
    intro line member
    refine closesDescription_of_quote_not_mem fun inLine => ?_
    simp only [describedLines, List.mem_append, List.mem_cons, List.not_mem_nil, or_false,
      List.mem_map] at member
    rcases member with ((rfl | rfl) | ⟨modName, isName, rfl⟩) | rfl
    · cases inLine
    · exact absurd inLine (by decide)
    · rw [readChars_append, (names modName isName).quoteSafe_eq] at inLine
      rcases List.mem_append.1 inLine with inMark | inName
      · exact absurd inMark (by decide)
      · exact (names modName isName).quote_not_mem inName
    · cases inLine
  have fresh : ({ definition := { modName := newName } } : Survey).Reaches []
      (Survey.OnlyNamed newName) :=
    .nil ParseContext.consistent_initial rfl ⟨none, rfl⟩
  have named := reaches_concat fresh readsName (.inl ⟨_, rfl⟩)
  have described := named.description (by rintro read ⟨_, rfl⟩; rfl) readsText goesOn
    (closesDescription_generatedLine moment)
  have versioned := reaches_concat (reaches_iconLines icons described) readsVersion
    (.inr ⟨_, rfl⟩)
  rw [map_readChars_linesWith]
  exact versioned.blank.comment _

end MergeHeader

end ModMerge
