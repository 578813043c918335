import ModMerge.Proofs.Merge.HeaderLines
import ModMerge.Proofs.Merge.Prepared
import ModMerge.Proofs.Mod.RefusedScripts
import ModMerge.Proofs.Mod.Rereading
import ModMerge.Proofs.Mod.SurveyedLines

/-!
# What a header reads back as

A reader of a header passes lines about the mod itself, and finds the name that the mod is to be
shown under. The one thing that can go wrong is a typographic quote: a header keeps it, and a reader
takes it for a straight one. `readsBack_linesWith_iff` says exactly when this does no harm.
-/

namespace ModMerge

/-! ### Typographic quotes -/

def isTypographicQuote (character : Char) : Bool :=
  character == '\u201c' || character == '\u201d'

/-- The typographic quotes of a text come in pairs. -/
def EvenlyQuoted (line : Line) : Prop :=
  line.countP isTypographicQuote % 2 = 0

instance (line : Line) : Decidable (EvenlyQuoted line) :=
  inferInstanceAs (Decidable (_ = 0))

/-- A character that has been made safe to stand in quotes, as it is read. -/
def readQuoteSafe (character : Char) : Char :=
  correctChar (if character = '"' then '\'' else character)

/-- An apostrophe in place of a double quote of any kind, and a space in place of a no-break
space. -/
def shownChar (character : Char) : Char :=
  if character ∈ quoteChars then '\'' else if character = '\u00a0' then ' ' else character

/-- The name that a mod is to be shown under. -/
def shownName (text : String) : String :=
  String.ofList (text.toList.map shownChar)

theorem readChars_quoteSafe (text : String) :
    readChars (quoteSafe text) = text.toList.map readQuoteSafe := by
  rw [readChars, quoteSafe, String.toList_ofList, List.map_map]
  rfl

section

variable {character : Char}

theorem readQuoteSafe_of_ne_quote (notQuote : character ≠ '"') :
    readQuoteSafe character = correctChar character := by
  rw [readQuoteSafe, if_neg notQuote]

theorem readQuoteSafe_eq_quote_iff :
    readQuoteSafe character = '"' ↔ isTypographicQuote character = true := by
  by_cases isQuote : character = '"'
  · subst isQuote
    decide
  · rw [readQuoteSafe_of_ne_quote isQuote, correctChar, isTypographicQuote]
    split
    · next typographic => simp [typographic]
    · next notTypographic =>
        split
        · simp [notTypographic]
        · simp [notTypographic, isQuote]

theorem readQuoteSafe_eq_shownChar (notTypographic : isTypographicQuote character = false) :
    readQuoteSafe character = shownChar character := by
  by_cases isQuote : character = '"'
  · subst isQuote
    decide
  · have notListed : character ∉ quoteChars := by
      simp only [isTypographicQuote, Bool.or_eq_false_iff, beq_eq_false_iff_ne] at notTypographic
      simp [quoteChars, isQuote, notTypographic]
    rw [readQuoteSafe_of_ne_quote isQuote, correctChar, shownChar, if_neg notListed,
      ← isTypographicQuote, notTypographic]
    simp only [beq_iff_eq, Bool.false_eq_true, if_false]

theorem readQuoteSafe_eq_hyphen_iff : readQuoteSafe character = '-' ↔ character = '-' := by
  by_cases isQuote : character = '"'
  · subst isQuote
    decide
  · rw [readQuoteSafe_of_ne_quote isQuote, correctChar]
    split
    · next typographic =>
        rw [Bool.or_eq_true, beq_iff_eq, beq_iff_eq] at typographic
        rcases typographic with rfl | rfl <;> decide
    · split
      · next isSpace =>
          rw [beq_iff_eq] at isSpace
          subst isSpace
          decide
      · rfl

end

theorem hasOpenQuote_map_readQuoteSafe (line : Line) :
    hasOpenQuote (line.map readQuoteSafe) = false ↔ EvenlyQuoted line := by
  have counts : (line.map readQuoteSafe).count '"' = line.countP isTypographicQuote := by
    rw [List.count, List.countP_map]
    refine List.countP_congr fun character _ => ?_
    rw [Function.comp_apply, beq_iff_eq, readQuoteSafe_eq_quote_iff]
  rw [hasOpenQuote, counts, EvenlyQuoted, beq_eq_false_iff_ne]
  omega

theorem beforeComment_map {change : Char → Char}
    (hyphens : ∀ character, change character = '-' ↔ character = '-') (line : Line) :
    beforeComment (line.map change) = (beforeComment line).map change := by
  have keeps : change '-' = '-' := (hyphens '-').2 rfl
  fun_induction beforeComment line with
  | case1 rest => simp [beforeComment, keeps]
  | case2 first rest notMark inductionHypothesis =>
      rw [List.map_cons, List.map_cons, beforeComment, inductionHypothesis]
      intro following isFirst isRest
      cases rest with
      | nil => cases isRest
      | cons second others =>
          rw [List.map_cons] at isRest
          obtain ⟨isSecond, -⟩ := List.cons.inj isRest
          obtain rfl := (hyphens first).1 isFirst
          obtain rfl := (hyphens second).1 isSecond
          exact notMark others rfl rfl
  | case3 => rfl

/-! ### The texts of a header -/

/-- A name that is listed in a description does not close it if the quotes before its first two
hyphens come in pairs. -/
theorem closesDescription_listed_iff (modName : String) :
    closesDescription (readChars ("- " ++ quoteSafe modName)) = false ↔
      EvenlyQuoted (beforeComment modName.toList) := by
  have hyphen : readChars "- " = ['-', ' '] := by decide
  have before : ∀ rest : Line,
      beforeComment ('-' :: ' ' :: rest) = ['-', ' '] ++ beforeComment rest := by
    intro rest
    simp [beforeComment]
  rw [readChars_append, hyphen, readChars_quoteSafe, closesDescription_eq,
    Text.trimLeft_eq_self (by simp; decide), List.cons_append, List.cons_append, List.nil_append,
    before, beforeComment_map fun _ => readQuoteSafe_eq_hyphen_iff, hasOpenQuote_append,
    ← hasOpenQuote_map_readQuoteSafe]
  simp [hasOpenQuote]

/-- A description stays open behind its first line if its quotes come in pairs. -/
theorem hasOpenQuote_description_iff (text : String) :
    hasOpenQuote (' ' :: '"' :: Text.trimRight (readChars (quoteSafe text))) = true ↔
      EvenlyQuoted text.toList := by
  rw [hasOpenQuote_quoted, readChars_quoteSafe, Bool.not_eq_true', hasOpenQuote_map_readQuoteSafe]

theorem quotedArgument_concat_quote (value : Line) :
    quotedArgument (value ++ ['"']) =
      .name (String.ofList (value.takeWhile (· != '"'))) := by
  have ends : ∀ character ∈ (['"'] : Line).head?, (character != '"') = false := by simp
  obtain ⟨taken, dropped⟩ := takeWhile_dropWhile_append_of_ends ends value
  rw [quotedArgument, takeQuoted?, taken, dropped]
  simp

/-- The name of a mod that is read where a text has been written for it. -/
def readName (text : String) : Option String :=
  (quotedArgument (Text.trimRight (readChars (quoteSafe text ++ "\"")))).name?.filter
    fun name => !name.isEmpty

/-- A name is read as it is to be shown exactly if there is no typographic quote in it. -/
theorem readName_eq_shownName_iff {text : String}
    (notBlank : Text.isBlankText text.toList = false) :
    readName text = some (shownName text) ↔
      ∀ character ∈ text.toList, isTypographicQuote character = false := by
  have value : Text.trimRight (readChars (quoteSafe text ++ "\"")) =
      text.toList.map readQuoteSafe ++ ['"'] := by
    rw [readChars_append, readChars_quoteSafe, show readChars "\"" = ['"'] by decide,
      Text.trimRight_eq_self]
    rw [List.getLast?_concat]
    simp
    decide
  have whole : (text.toList.map readQuoteSafe).takeWhile (· != '"') =
      text.toList.map readQuoteSafe ↔
        ∀ character ∈ text.toList, isTypographicQuote character = false := by
    rw [List.takeWhile_eq_self_iff, List.forall_mem_map]
    refine forall₂_congr fun character _ => ?_
    rw [bne_iff_ne, ne_eq, readQuoteSafe_eq_quote_iff, Bool.not_eq_true]
  rw [readName, value, quotedArgument_concat_quote, Argument.name?, Option.filter_eq_some_iff,
    Option.some.injEq, shownName, String.ofList_inj]
  constructor
  · rintro ⟨taken, -⟩
    refine whole.1 ((List.takeWhile_prefix _).eq_of_length ?_)
    rw [taken, List.length_map, List.length_map]
  · intro noneTypographic
    rw [whole.2 noneTypographic]
    have same : text.toList.map readQuoteSafe = text.toList.map shownChar :=
      List.map_congr_left fun character member =>
        readQuoteSafe_eq_shownChar (noneTypographic character member)
    have notEmpty : text.toList ≠ [] := by
      rintro empty
      rw [empty] at notBlank
      cases notBlank
    refine ⟨same, ?_⟩
    simpa using notEmpty

/-! ### Lines about the mod itself -/

namespace Survey

variable {survey last : Survey} {line : ScriptLine} {front back rest : List ScriptLine}

/-- The survey passes the lines, each of which is blank or about the mod itself. -/
structure Passes (survey : Survey) (lines : List ScriptLine) (last : Survey) : Prop where
  ran : survey.run lines = .ok last
  aboutMod : ∀ surveyed ∈ survey.readings lines,
    surveyed.meaning.isMetadata = true ∨ surveyed.meaning = .blank

theorem Passes.nil (survey : Survey) : survey.Passes [] survey :=
  ⟨rfl, fun _ member => by cases member⟩

theorem passes_cons_iff : survey.Passes (line :: rest) last ↔
    ∃ classified next, classify survey.context line.text = .ok classified ∧
      (classified.meaning.isMetadata = true ∨ classified.meaning = .blank) ∧
      survey.advance line.number classified.meaning = .ok next ∧ next.Passes rest last := by
  constructor
  · rintro ⟨ran, aboutMod⟩
    obtain ⟨next, stepped, remaining⟩ := run_cons_eq_ok.1 ran
    obtain ⟨classified, read, advanced⟩ := step_eq_ok_iff.1 stepped
    simp only [readings, read, stepped, List.forall_mem_cons] at aboutMod
    exact ⟨classified, next, read, aboutMod.1, advanced, remaining, aboutMod.2⟩
  · rintro ⟨classified, next, read, here, advanced, remaining, later⟩
    have stepped := step_eq_ok_iff.2 ⟨classified, read, advanced⟩
    refine ⟨run_cons_eq_ok.2 ⟨next, stepped, remaining⟩, ?_⟩
    simp only [readings, read, stepped, List.forall_mem_cons]
    exact ⟨here, later⟩

theorem passes_append_iff : survey.Passes (front ++ back) last ↔
    ∃ middle, survey.Passes front middle ∧ middle.Passes back last := by
  constructor
  · rintro ⟨ran, aboutMod⟩
    obtain ⟨middle, ranFront, ranBack⟩ := run_append_eq_ok.1 ran
    rw [readings_append ranFront, List.forall_mem_append] at aboutMod
    exact ⟨middle, ⟨ranFront, aboutMod.1⟩, ranBack, aboutMod.2⟩
  · rintro ⟨middle, ⟨ranFront, here⟩, ranBack, later⟩
    refine ⟨run_append_eq_ok.2 ⟨middle, ranFront, ranBack⟩, ?_⟩
    rw [readings_append ranFront, List.forall_mem_append]
    exact ⟨here, later⟩

/-- In a description every line is passed, and the closing quote ends it. -/
theorem passes_description (inside : survey.context.state = .inDescription)
    (goesOn : ∀ line ∈ front, closesDescription line.text = false)
    (closes : closesDescription line.text = true) :
    survey.Passes (front ++ [line]) { survey with context := survey.context.leaveDescription } := by
  have isInside := inDescription_iff.2 inside
  induction front with
  | nil =>
      refine passes_cons_iff.2 ⟨_, _, classify_inDescription isInside _, .inl rfl, ?_, .nil _⟩
      rw [← closesDescription, closes]
      rfl
  | cons first others inductionHypothesis =>
      rw [List.forall_mem_cons] at goesOn
      refine passes_cons_iff.2
        ⟨_, survey, classify_inDescription isInside _, .inl rfl, ?_, inductionHypothesis goesOn.2⟩
      rw [← closesDescription, goesOn.1]
      rfl

/-- A line that is passed although it says nothing stands in a description, and so do the lines
before it that do not begin one. -/
theorem inDescription_of_passes (passes : survey.Passes (front ++ line :: back) last)
    (saysNothing : ∀ context : ParseContext, context.inDescription = false →
      ∃ classified, classify context line.text = .ok classified ∧ classified.meaning = .text none)
    (noneOpens : ∀ line ∈ front, opensDescription line.text = false) :
    survey.context.state = .inDescription ∧
      ∀ line ∈ front, closesDescription line.text = false := by
  obtain ⟨middle, passesFront, passesBack⟩ := passes_append_iff.1 passes
  obtain ⟨classified, _, read, aboutMod, -⟩ := passes_cons_iff.1 passesBack
  rw [← ParseState.pastAll_eq_inDescription_iff noneOpens, ← (state_run passesFront.ran).2]
  by_contra notInside
  rw [← inDescription_iff, Bool.not_eq_true] at notInside
  obtain ⟨other, isRead, isText⟩ := saysNothing middle.context notInside
  obtain rfl := Except.ok.inj (isRead.symm.trans read)
  rw [isText] at aboutMod
  rcases aboutMod with isMetadata | isBlank
  · cases isMetadata
  · cases isBlank

end Survey

/-! ### Headers -/

/-- The lines are read as blank or about the mod itself, up to the comment at their end. Whoever has
read them is at rest, and shows the mod under the name. -/
def ReadsBack (modName : String) (lines : List String) (displayName : String) : Prop :=
  ∃ last front comment,
    Survey.ofScript modName (Text.joinLines (lines.map String.toList)) = .ok last ∧
    surveyedLines modName (Text.joinLines (lines.map String.toList)) = front ++ [comment] ∧
    (∀ surveyed ∈ front, surveyed.meaning.isMetadata = true ∨ surveyed.meaning = .blank) ∧
    comment.line = "-- Begin merged content".toList ∧ comment.meaning = .comment ∧
    last.context.state = .idle ∧ last.context.descriptionLine = none ∧
    last.definition.displayName = some displayName

/-- A survey that has read nothing but the name that the mod gives itself. -/
def Survey.named (modName : String) (displayName : Option String) : Survey :=
  { definition := { modName, displayName } }

theorem Survey.displayName_named (modName : String) (displayName : Option String) :
    (named modName displayName).definition.displayName = displayName :=
  rfl

namespace MergeHeader

variable {settings : MergeSettings} {modNames : List String} {moment : Timestamp}

/-- Outside of descriptions the time of the merge says nothing. -/
theorem classify_generatedLine (moment : Timestamp) {context : ParseContext}
    (outside : context.inDescription = false) :
    ∃ classified, classify context (readChars (generatedLine moment)) = .ok classified ∧
      classified.meaning = .text none := by
  rw [readChars, (plain_generatedLine moment).map_correctChar, classify_eq _ outside,
    Text.trim_eq_of_isTrimmed (isTrimmed_generatedLine moment), toList_generatedLine]
  exact ⟨_, rfl, rfl⟩

theorem opensDescription_describedLines :
    ∀ line ∈ describedLines modNames, opensDescription line = false := by
  intro line member
  simp only [describedLines, List.mem_append, List.mem_cons, List.not_mem_nil, or_false,
    List.mem_map] at member
  rcases member with ((rfl | rfl) | ⟨modName, -, rfl⟩) | rfl
  · decide
  · decide
  · have notDirective : ∀ rest : Line, directiveOf? ('-' :: rest) = none := by
      intro rest
      have trimEq : Text.trim ([] ++ ([] ++ '-' :: rest)) = [] ++ '-' :: Text.trimRight rest :=
        Text.trim_append_cons (by simp [Text.AllBlank]) (by simp; decide) (by decide)
      rw [List.nil_append, List.nil_append, List.nil_append] at trimEq
      rw [directiveOf?, trimEq]
      rfl
    have hyphen : readChars "- " = ['-', ' '] := by decide
    rw [readChars_append, hyphen, List.cons_append, opensDescription, notDirective]
    rfl
  · decide

theorem closesDescription_describedLines_iff :
    (∀ line ∈ describedLines modNames, closesDescription line = false) ↔
      ∀ modName ∈ modNames, EvenlyQuoted (beforeComment modName.toList) := by
  simp only [describedLines, List.forall_mem_append, List.forall_mem_cons, List.forall_mem_map,
    closesDescription_listed_iff]
  have nothing : closesDescription [] = false := by decide
  have merged : closesDescription (readChars "Merged from:") = false := by decide
  simp [nothing, merged]

/-- What is written into a header can be written and keeps to its lines. -/
structure Unbroken (settings : MergeSettings) (modNames : List String) : Prop where
  writable : ∀ value ∈ [settings.displayName, settings.description, settings.version],
    value.Writable
  displayName : Text.Unbroken settings.displayNameText.toList
  description : Text.Unbroken settings.descriptionText.toList
  version : Text.Unbroken settings.versionText.toList
  names : ∀ modName ∈ modNames, Text.Unbroken modName.toList

section

variable {context : ParseContext}

theorem classify_nameLine (unbroken : Unbroken settings modNames)
    (outside : context.inDescription = false) : ∃ classified,
      classify context (readChars (quotedLine "modname"
        (quoteSafe settings.displayNameText ++ "\""))) = .ok classified ∧
      classified.meaning = .modName (readName settings.displayNameText) := by
  obtain ⟨classified, read, meaningEq⟩ := classify_quotedLine outside "modname" (by decide) _
    (unbroken_quoted unbroken.displayName)
  exact ⟨classified, read, meaningEq.trans (directiveMeaning_modName _ _ _)⟩

theorem classify_descriptionLine (unbroken : Unbroken settings modNames)
    (outside : context.inDescription = false) : ∃ classified staysOpen,
      classify context (readChars (quotedLine "description"
        (quoteSafe settings.descriptionText))) = .ok classified ∧
      classified.meaning = .descriptionStart staysOpen ∧
      (staysOpen = true ↔ EvenlyQuoted settings.descriptionText.toList) := by
  obtain ⟨classified, read, meaningEq⟩ := classify_quotedLine outside "description" (by decide) _
    (unbroken_quoteSafe unbroken.description)
  exact ⟨classified, _, read, meaningEq.trans (directiveMeaning_description _ _ _),
    hasOpenQuote_description_iff _⟩

theorem classify_versionLine (unbroken : Unbroken settings modNames)
    (outside : context.inDescription = false) : ∃ classified,
      classify context (readChars (quotedLine "version"
        (quoteSafe settings.versionText ++ "\""))) = .ok classified ∧
      classified.meaning = .otherMetadata "version" := by
  obtain ⟨classified, read, meaningEq⟩ := classify_quotedLine outside "version" (by decide) _
    (unbroken_quoted unbroken.version)
  exact ⟨classified, read, meaningEq.trans (directiveMeaning_otherMetadata _ (by decide) _ _)⟩

end

/-! ### Passing the lines of a header -/

section

variable {displayName : Option String} {modName : String} {firstLine timeLine : ScriptLine}
  {within : List ScriptLine}

theorem passes_nameLine (unbroken : Unbroken settings modNames) {nameLine : ScriptLine}
    (nameText : nameLine.text =
      readChars (quotedLine "modname" (quoteSafe settings.displayNameText ++ "\""))) :
    (Survey.named modName none).Passes [nameLine]
      (.named modName (readName settings.displayNameText)) := by
  have outside : (Survey.named modName none).context.inDescription = false := rfl
  obtain ⟨classified, read, meaningEq⟩ := classify_nameLine unbroken outside
  refine Survey.passes_cons_iff.2 ⟨classified, _, nameText ▸ read, ?_, ?_, .nil _⟩
  · exact .inl (by rw [meaningEq]; rfl)
  · rw [meaningEq]
    cases readName settings.displayNameText <;> rfl

/-- A survey at rest passes the description of a header, and is at rest again. -/
theorem passes_description (unbroken : Unbroken settings modNames)
    (firstText : firstLine.text =
      readChars (quotedLine "description" (quoteSafe settings.descriptionText)))
    (timeText : timeLine.text = readChars (generatedLine moment))
    (evenly : EvenlyQuoted settings.descriptionText.toList)
    (goesOn : ∀ line ∈ within, closesDescription line.text = false) :
    (Survey.named modName displayName).Passes (firstLine :: (within ++ [timeLine]))
      (.named modName displayName) := by
  have outside : (Survey.named modName displayName).context.inDescription = false := rfl
  obtain ⟨classified, staysOpen, read, meaningEq, opensIff⟩ :=
    classify_descriptionLine unbroken outside
  obtain rfl := opensIff.2 evenly
  have closes : closesDescription timeLine.text = true := by
    rw [timeText]
    exact closesDescription_generatedLine moment
  let entered : Survey := { Survey.named modName displayName with
    context := { state := .inDescription, descriptionLine := some firstLine.number } }
  refine Survey.passes_cons_iff.2 ⟨classified, entered, firstText ▸ read, ?_, ?_, ?_⟩
  · exact .inl (by rw [meaningEq]; rfl)
  · rw [meaningEq]
    rfl
  · have inside : entered.context.state = .inDescription := rfl
    exact Survey.passes_description inside goesOn closes

/-- If the time of the merge is passed at all, the description was open up to it. -/
theorem evenly_of_passes (unbroken : Unbroken settings modNames)
    (firstText : firstLine.text =
      readChars (quotedLine "description" (quoteSafe settings.descriptionText)))
    (timeText : timeLine.text = readChars (generatedLine moment))
    (noneOpens : ∀ line ∈ within, opensDescription line.text = false)
    {rest : List ScriptLine} {last : Survey}
    (passes : (Survey.named modName displayName).Passes
      (firstLine :: (within ++ timeLine :: rest)) last) :
    EvenlyQuoted settings.descriptionText.toList ∧
      ∀ line ∈ within, closesDescription line.text = false := by
  have outside : (Survey.named modName displayName).context.inDescription = false := rfl
  obtain ⟨classified, begun, read, -, advanced, passesWithin⟩ := Survey.passes_cons_iff.1 passes
  obtain ⟨inside, goesOn⟩ := Survey.inDescription_of_passes passesWithin
    (fun _ outside => timeText ▸ classify_generatedLine moment outside) noneOpens
  obtain ⟨same, staysOpen, isRead, meaningEq, opensIff⟩ :=
    classify_descriptionLine unbroken outside
  rw [← firstText] at isRead
  obtain rfl := Except.ok.inj (isRead.symm.trans read)
  rw [meaningEq] at advanced
  cases staysOpen with
  | true => exact ⟨opensIff.1 rfl, goesOn⟩
  | false =>
      obtain rfl := Except.ok.inj advanced
      cases inside

theorem passes_versionLine (unbroken : Unbroken settings modNames)
    {versionLine blankLine : ScriptLine}
    (versionText : versionLine.text =
      readChars (quotedLine "version" (quoteSafe settings.versionText ++ "\"")))
    (blankText : blankLine.text = []) :
    (Survey.named modName displayName).Passes [versionLine, blankLine]
      (.named modName displayName) := by
  have outside : (Survey.named modName displayName).context.inDescription = false := rfl
  obtain ⟨classified, read, meaningEq⟩ := classify_versionLine unbroken outside
  refine Survey.passes_cons_iff.2
    ⟨classified, .named modName displayName, versionText ▸ read, ?_, ?_, ?_⟩
  · exact .inl (by rw [meaningEq]; rfl)
  · rw [meaningEq]
    rfl
  · exact Survey.passes_cons_iff.2 ⟨⟨[], .blank⟩, _, by rw [blankText]; rfl, .inr rfl, rfl, .nil _⟩

end

/-- The lines of a header without an icon before its last one, as they are read. -/
def textsBeforeComment (settings : MergeSettings) (modNames : List String)
    (moment : Timestamp) : List Line :=
  readChars (quotedLine "modname" (quoteSafe settings.displayNameText ++ "\"")) ::
    readChars (quotedLine "description" (quoteSafe settings.descriptionText)) ::
      (describedLines modNames ++ (readChars (generatedLine moment) ::
        [readChars (quotedLine "version" (quoteSafe settings.versionText ++ "\"")), []]))

/-- The lines of a header before its last one are about the mod itself exactly if the typographic
quotes in its description, and in each mod name before two hyphens, come in pairs. -/
theorem passes_iff (unbroken : Unbroken settings modNames) {numbered : List ScriptLine}
    (texts : numbered.map (·.text) = textsBeforeComment settings modNames moment)
    (modName : String) {last : Survey} :
    (Survey.named modName none).Passes numbered last ↔
      last = .named modName (readName settings.displayNameText) ∧
        EvenlyQuoted settings.descriptionText.toList ∧
        ∀ modName ∈ modNames, EvenlyQuoted (beforeComment modName.toList) := by
  obtain ⟨nameLine, afterName, rfl, nameText, afterNameTexts⟩ := List.map_eq_cons_iff.1 texts
  obtain ⟨firstLine, afterFirst, rfl, firstText, afterFirstTexts⟩ :=
    List.map_eq_cons_iff.1 afterNameTexts
  obtain ⟨within, afterWithin, rfl, withinTexts, afterWithinTexts⟩ :=
    List.map_eq_append_iff.1 afterFirstTexts
  obtain ⟨timeLine, afterTime, rfl, timeText, afterTimeTexts⟩ :=
    List.map_eq_cons_iff.1 afterWithinTexts
  obtain ⟨versionLine, afterVersion, rfl, versionText, afterVersionTexts⟩ :=
    List.map_eq_cons_iff.1 afterTimeTexts
  obtain ⟨blankLine, rfl, blankText⟩ := List.map_eq_singleton_iff.1 afterVersionTexts
  have noneOpens : ∀ line ∈ within, opensDescription line.text = false := fun line member =>
    opensDescription_describedLines _ (withinTexts ▸ List.mem_map_of_mem member)
  have noneClosesIff : (∀ line ∈ within, closesDescription line.text = false) ↔
      ∀ modName ∈ modNames, EvenlyQuoted (beforeComment modName.toList) := by
    rw [← closesDescription_describedLines_iff, ← withinTexts, List.forall_mem_map]
  have passesName : (Survey.named modName none).Passes [nameLine]
      (.named modName (readName settings.displayNameText)) := passes_nameLine unbroken nameText
  have passesAll (evenly : EvenlyQuoted settings.descriptionText.toList)
      (goesOn : ∀ line ∈ within, closesDescription line.text = false) :
      (Survey.named modName none).Passes
        (nameLine :: firstLine :: (within ++ timeLine :: [versionLine, blankLine]))
        (.named modName (readName settings.displayNameText)) := by
    have split : nameLine :: firstLine :: (within ++ timeLine :: [versionLine, blankLine]) =
        [nameLine] ++ ((firstLine :: (within ++ [timeLine])) ++ [versionLine, blankLine]) := by
      simp
    rw [split]
    exact Survey.passes_append_iff.2 ⟨_, passesName, Survey.passes_append_iff.2
      ⟨_, passes_description unbroken firstText timeText evenly goesOn,
        passes_versionLine unbroken versionText blankText⟩⟩
  constructor
  · intro passes
    obtain ⟨named, passedName, afterName⟩ : ∃ named : Survey,
        (Survey.named modName none).Passes [nameLine] named ∧ named.Passes _ last := by
      rwa [← List.singleton_append, Survey.passes_append_iff] at passes
    obtain rfl := Except.ok.inj (passesName.ran.symm.trans passedName.ran)
    obtain ⟨evenly, goesOn⟩ := evenly_of_passes unbroken firstText timeText noneOpens afterName
    refine ⟨?_, evenly, noneClosesIff.1 goesOn⟩
    exact Except.ok.inj (passes.ran.symm.trans (passesAll evenly goesOn).ran)
  · rintro ⟨rfl, evenly, names⟩
    exact passesAll evenly (noneClosesIff.2 names)

/-- A header that is read again is cut into its lines. -/
theorem map_text_scriptLines (unbroken : Unbroken settings modNames) (moment : Timestamp) :
    (scriptLines (Text.joinLines ((linesWith settings modNames moment []).map
      String.toList))).map (·.text) =
        textsBeforeComment settings modNames moment ++ ["-- Begin merged content".toList] := by
  have cut : Text.lines (Text.joinLines ((linesWith settings modNames moment []).map
      String.toList)) = (linesWith settings modNames moment []).map String.toList := by
    refine Text.lines_joinLines ?_ ?_
    · rw [List.forall_mem_map]
      exact unbroken_linesWith unbroken.displayName unbroken.description unbroken.version
        unbroken.names moment (fun _ member => absurd member List.not_mem_nil)
    · rw [linesWith, List.map_append, List.getLast?_append_of_ne_nil _ (by simp)]
      simp
  have lineTexts : (linesWith settings modNames moment []).map readChars =
      textsBeforeComment settings modNames moment ++ ["-- Begin merged content".toList] := by
    rw [map_readChars_linesWith]
    simp [textsBeforeComment]
  rw [ModMerge.map_text_scriptLines, cut, List.map_map, ← lineTexts]
  · rfl
  · intro line isFirst
    rw [cut] at isFirst
    obtain rfl := Option.some.inj isFirst
    rw [String.toList_append, String.toList_append]
    exact fun same => by cases same

/-- The lines of a header without an icon read back exactly if there is no typographic quote in the
name to be shown, and those in the description, and in each mod name before two hyphens, come in
pairs. -/
theorem readsBack_linesWith_iff (unbroken : Unbroken settings modNames)
    (notBlank : Text.isBlankText settings.displayNameText.toList = false) (moment : Timestamp)
    (modName : String) :
    ReadsBack modName (linesWith settings modNames moment [])
        (shownName settings.displayNameText) ↔
      (∀ character ∈ settings.displayNameText.toList, isTypographicQuote character = false) ∧
        EvenlyQuoted settings.descriptionText.toList ∧
        ∀ modName ∈ modNames, EvenlyQuoted (beforeComment modName.toList) := by
  obtain ⟨lines, lastLine, split, linesTexts, lastTexts⟩ :=
    List.map_eq_append_iff.1 (map_text_scriptLines unbroken moment)
  obtain ⟨commentLine, rfl, commentText⟩ := List.map_eq_singleton_iff.1 lastTexts
  have passed (displayName : Option String) : (Survey.named modName displayName).step commentLine =
      .ok (.named modName displayName) := by
    refine Survey.step_eq_ok_iff.2 ⟨⟨commentLine.text, .comment⟩, ?_, rfl⟩
    rw [commentText]
    rfl
  constructor
  · rintro ⟨last, front, comment, ran, readings, aboutMod, -, -, -, -, shown⟩
    rw [Survey.ofScript, split] at ran
    rw [surveyedLines, split] at readings
    obtain ⟨middle, ranLines, ranComment⟩ := Survey.run_append_eq_ok.1 ran
    rw [Survey.readings_append ranLines] at readings
    obtain ⟨rfl, -⟩ := List.append_inj' readings (Survey.length_readings ranComment)
    obtain ⟨rfl, even⟩ := (passes_iff unbroken linesTexts modName).1 ⟨ranLines, aboutMod⟩
    obtain ⟨next, stepped, finished⟩ := Survey.run_cons_eq_ok.1 ranComment
    obtain rfl := Except.ok.inj ((passed _).symm.trans stepped)
    obtain rfl := Except.ok.inj finished
    rw [Survey.displayName_named, readName_eq_shownName_iff notBlank] at shown
    exact ⟨shown, even⟩
  · rintro ⟨noneTypographic, even⟩
    obtain ⟨ranLines, aboutMod⟩ := (passes_iff unbroken linesTexts modName).2 ⟨rfl, even⟩
    have ranComment : (Survey.named modName (readName settings.displayNameText)).run [commentLine] =
        .ok (.named modName (readName settings.displayNameText)) :=
      Survey.run_cons_eq_ok.2 ⟨_, passed (readName settings.displayNameText), rfl⟩
    obtain ⟨comment, ofStep, readings⟩ :=
      Survey.exists_readings_cons (passed (readName settings.displayNameText)) []
    have lineEq : comment.line = "-- Begin merged content".toList := by
      rw [ofStep.line_eq, commentText]
      decide +kernel
    refine ⟨.named modName (readName settings.displayNameText), _, comment, ?_, ?_, aboutMod,
      lineEq, ?_, rfl, rfl, ?_⟩
    · rw [Survey.ofScript, split]
      exact Survey.run_append_eq_ok.2 ⟨_, ranLines, ranComment⟩
    · rw [surveyedLines, split]
      exact (Survey.readings_append ranLines _).trans (by rw [readings]; rfl)
    · obtain ⟨classified, read, meaningEq⟩ := ofStep.read
      rw [lineEq] at read
      obtain rfl := Except.ok.inj read
      exact meaningEq.symm
    · rw [Survey.displayName_named, readName_eq_shownName_iff notBlank]
      exact noneTypographic

/-- Without an icon there is nothing to look for. -/
theorem run_build_of_noIcon (noIcon : settings.icon.isNothing = true)
    (unbroken : Unbroken settings modNames) (surroundings : Surroundings) (moment : Timestamp)
    (tree : FileTree) :
    tree.run (build settings surroundings modNames moment) =
      (.ok { lines := linesWith settings modNames moment [] }, tree) := by
  have noPath : settings.iconPath surroundings = .ok none := if_pos noIcon
  have found : (tree.run (findIcon settings surroundings)).1 = .ok ([], []) := by
    rw [findIcon, noPath]
    rfl
  have looks : TreeStore.LooksUp (build settings surroundings modNames moment :
    ExceptT HeaderError (StateM FileTree) _) _ := looksUp_header settings surroundings moment _
  exact Prod.ext (run_header_eq_ok_iff.2 ⟨unbroken.writable, [], [], found, rfl⟩)
    (looks.looksOnly tree)

end MergeHeader

/-- A header without an icon, with a name that is not blank and texts that keep to their lines, is
made without a warning. It reads back exactly if there is no typographic quote in the name, and
those in the description, and in each mod name before two hyphens, come in pairs. -/
theorem header_readsBack_iff {settings : MergeSettings} {modNames : List String}
    (noIcon : settings.icon.isNothing = true)
    (notBlank : Text.isBlankText settings.displayNameText.toList = false)
    (unbroken : MergeHeader.Unbroken settings modNames) (surroundings : Surroundings)
    (moment : Timestamp) (tree : FileTree) (modName : String) :
    ∃ header, tree.run (MergeHeader.build settings surroundings modNames moment) =
        (.ok header, tree) ∧ header.warnings = [] ∧
      (ReadsBack modName header.lines (shownName settings.displayNameText) ↔
        (∀ character ∈ settings.displayNameText.toList, isTypographicQuote character = false) ∧
          EvenlyQuoted settings.descriptionText.toList ∧
          ∀ modName ∈ modNames, EvenlyQuoted (beforeComment modName.toList)) :=
  ⟨_, MergeHeader.run_build_of_noIcon noIcon unbroken surroundings moment tree, rfl,
    MergeHeader.readsBack_linesWith_iff unbroken notBlank moment modName⟩

/-- Settings with straight quotes in the name and a pair of typographic ones in the description. -/
def pairedSettings : MergeSettings :=
  { plainSettings with
    displayName := .ofText "The \"Great\"\u00a0Merge"
    description := .ofText "A \u201cmerged\u201d mod" }

theorem header_readsBack_pairedSettings :
    pairedSettings.icon.isNothing = true ∧
      Text.isBlankText pairedSettings.displayNameText.toList = false ∧
      MergeHeader.Unbroken pairedSettings ["\u201cOld\u201d Gods -- \u201c"] ∧
      ∃ header, (FileTree.empty ["work"]).run (MergeHeader.build pairedSettings plainSurroundings
          ["\u201cOld\u201d Gods -- \u201c"] plainMoment) = (.ok header, FileTree.empty ["work"]) ∧
        header.warnings = [] ∧ ReadsBack "Merged_Mod" header.lines "The 'Great' Merge" := by
  have noIcon : pairedSettings.icon.isNothing = true := rfl
  have notBlank : Text.isBlankText pairedSettings.displayNameText.toList = false := by
    decide +kernel
  have unbroken : MergeHeader.Unbroken pairedSettings ["\u201cOld\u201d Gods -- \u201c"] :=
    ⟨by decide, by decide +kernel, by decide +kernel, by decide +kernel, by decide +kernel⟩
  have shown : shownName pairedSettings.displayNameText = "The 'Great' Merge" := by
    decide +kernel
  have straight : pairedSettings.displayNameText.toList.any isTypographicQuote = false := by
    decide +kernel
  obtain ⟨header, made, noWarnings, readsBackIff⟩ := header_readsBack_iff noIcon notBlank unbroken
    plainSurroundings plainMoment (FileTree.empty ["work"]) "Merged_Mod"
  rw [shown] at readsBackIff
  exact ⟨noIcon, notBlank, unbroken, header, made, noWarnings,
    readsBackIff.2 ⟨by simpa using straight, by decide +kernel, by decide +kernel⟩⟩

/-- Settings with typographic quotes in the name. -/
def typographicSettings : MergeSettings :=
  { plainSettings with displayName := .ofText "The \u201cGreat\u201d Merge" }

/-- Typographic quotes in the name cut it short. -/
theorem exists_header_not_readsBack :
    typographicSettings.icon.isNothing = true ∧
      Text.isBlankText typographicSettings.displayNameText.toList = false ∧
      MergeHeader.Unbroken typographicSettings ["Abysia"] ∧
      ∃ header, (FileTree.empty ["work"]).run (MergeHeader.build typographicSettings
          plainSurroundings ["Abysia"] plainMoment) = (.ok header, FileTree.empty ["work"]) ∧
        ¬ ReadsBack "Merged_Mod" header.lines "The 'Great' Merge" := by
  have notBlank : Text.isBlankText typographicSettings.displayNameText.toList = false := by
    decide +kernel
  have unbroken : MergeHeader.Unbroken typographicSettings ["Abysia"] :=
    ⟨by decide, by decide +kernel, by decide +kernel, by decide +kernel, by decide +kernel⟩
  have shown : shownName typographicSettings.displayNameText = "The 'Great' Merge" := by
    decide +kernel
  refine ⟨rfl, notBlank, unbroken, _, MergeHeader.run_build_of_noIcon rfl unbroken _ _ _,
    fun readsBack => ?_⟩
  rw [← shown, MergeHeader.readsBack_linesWith_iff unbroken notBlank] at readsBack
  exact absurd (readsBack.1 '\u201c' (by decide +kernel)) (by decide)

end ModMerge
