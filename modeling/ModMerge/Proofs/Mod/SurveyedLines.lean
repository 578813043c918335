import ModMerge.Proofs.Mod.Rereading

/-!
# The lines of a script as they are read

`Survey.readings` keeps each line of a script with what it means and with the survey that has
read the lines before it. What holds of the survey at a line follows from the lines before;
the definitions without an id that it has passed are those that the lines before create.
-/

namespace ModMerge

/-- Whether a line is about the mod itself. -/
def LineMeaning.isMetadata : LineMeaning → Bool
  | .descriptionText _ | .modName _ | .descriptionStart _ | .otherMetadata _ => true
  | _ => false

/-- Whether a line begins or ends a block or bears on the damage value of a spell block. -/
def LineMeaning.touchesBlock : LineMeaning → Bool
  | .blockStart .. | .blockEnd | .spellContent .. => true
  | _ => false

/-- Whether a line creates content of a type and gives it neither a number nor a name. -/
def LineMeaning.createsUnnumbered (type : EntityType) : LineMeaning → Bool
  | .blockStart _ ref .absent => ref.rule.role == .new && ref.type == type
  | _ => false

theorem LineMeaning.createsUnnumbered_iff {meaning : LineMeaning} {type : EntityType} :
    meaning.createsUnnumbered type = true ↔ ∃ word ref,
      meaning = .blockStart word ref .absent ∧ ref.rule.role = .new ∧ ref.type = type := by
  constructor
  · intro creates
    rw [createsUnnumbered.eq_def] at creates
    split at creates
    · rw [Bool.and_eq_true, beq_iff_eq, beq_iff_eq] at creates
      exact ⟨_, _, rfl, creates⟩
    · cases creates
  · rintro ⟨word, ref, rfl, isNew, sameType⟩
    rw [createsUnnumbered, isNew, sameType, beq_self_eq_true, beq_self_eq_true]
    rfl

/-- A line of a script and what it means; `before` has read the lines before it. -/
structure SurveyedLine where
  before : Survey
  /-- The line after correction, without the blanks at its end. -/
  line : Line
  meaning : LineMeaning

namespace Survey

/-- The lines that a survey reads, up to the first that it refuses. -/
def readings (survey : Survey) : List ScriptLine → List SurveyedLine
  | [] => []
  | line :: rest =>
      match classify survey.context line.text, survey.step line with
      | .ok classified, .ok next =>
          { before := survey, line := Text.trimRight line.text, meaning := classified.meaning } ::
            next.readings rest
      | _, _ => []

end Survey

/-- The lines of a script as they are read. -/
def surveyedLines (modName : String) (script : List Char) : List SurveyedLine :=
  ({ definition := { modName } } : Survey).readings (scriptLines script)

/-- The line is the next one of the script after those that `survey` has read, and `next` has
read it, too. -/
structure SurveyedLine.OfStep (surveyed : SurveyedLine) (survey : Survey) (line : ScriptLine)
    (next : Survey) : Prop where
  stepped : survey.step line = .ok next
  before_eq : surveyed.before = survey
  line_eq : surveyed.line = Text.trimRight line.text
  read : ∃ classified, classify survey.context surveyed.line = .ok classified ∧
    classified.meaning = surveyed.meaning
  advanced : survey.advance line.number surveyed.meaning = .ok next

/-- What is known of a line that has been read. -/
structure SurveyedLine.IsRead (surveyed : SurveyedLine) : Prop where
  consistent : surveyed.before.context.Consistent
  read : ∃ classified, classify surveyed.before.context surveyed.line = .ok classified ∧
    classified.meaning = surveyed.meaning
  last : ∀ character ∈ surveyed.line.getLast?, Text.isBlank character = false

theorem SurveyedLine.OfStep.isRead {surveyed : SurveyedLine} {survey next : Survey}
    {line : ScriptLine} (ofStep : surveyed.OfStep survey line next)
    (consistent : survey.context.Consistent) : surveyed.IsRead where
  consistent := ofStep.before_eq ▸ consistent
  read := ofStep.before_eq ▸ ofStep.read
  last := by
    rw [ofStep.line_eq]
    exact Text.last_trimRight _

namespace Survey

variable {survey next last : Survey} {line : ScriptLine} {lines rest : List ScriptLine}
  {surveyed : SurveyedLine} {front back : List SurveyedLine}

/-- A step reads one line. -/
theorem exists_readings_cons (stepped : survey.step line = .ok next) (rest : List ScriptLine) :
    ∃ surveyed : SurveyedLine, surveyed.OfStep survey line next ∧
      survey.readings (line :: rest) = surveyed :: next.readings rest := by
  obtain ⟨classified, read, advanced⟩ := step_eq_ok_iff.1 stepped
  have readTrimmed : classify survey.context (Text.trimRight line.text) = .ok classified := by
    rw [← read]
    simp only [classify, Text.trim_trimRight]
  exact ⟨⟨survey, Text.trimRight line.text, classified.meaning⟩,
    ⟨stepped, rfl, rfl, ⟨classified, readTrimmed, rfl⟩, advanced⟩,
    by simp only [readings, read, stepped]⟩

/-- What was read first was read by a step. -/
theorem exists_ofStep_of_readings (readings : survey.readings lines = surveyed :: back) :
    ∃ line rest next, lines = line :: rest ∧ surveyed.OfStep survey line next ∧
      next.readings rest = back := by
  cases lines with
  | nil => cases readings
  | cons line rest =>
      cases stepped : survey.step line with
      | error error =>
          rw [Survey.readings, stepped] at readings
          cases read : classify survey.context line.text <;> simp [read] at readings
      | ok next =>
          obtain ⟨first, ofStep, readingsEq⟩ := exists_readings_cons stepped rest
          obtain ⟨rfl, same⟩ := List.cons.inj (readingsEq.symm.trans readings)
          exact ⟨line, rest, next, rfl, ofStep, same⟩

theorem isRead_of_mem_readings (consistent : survey.context.Consistent)
    (member : surveyed ∈ survey.readings lines) : surveyed.IsRead := by
  induction lines generalizing survey with
  | nil => cases member
  | cons line rest inductionHypothesis =>
      obtain ⟨first, others, readings⟩ := List.exists_cons_of_ne_nil (List.ne_nil_of_mem member)
      obtain ⟨_, _, next, same, ofStep, later⟩ := exists_ofStep_of_readings readings
      obtain ⟨rfl, rfl⟩ := List.cons.inj same
      rw [readings] at member
      rcases List.mem_cons.1 member with rfl | inRest
      · exact ofStep.isRead consistent
      · exact inductionHypothesis (consistent_step consistent ofStep.stepped) (later ▸ inRest)

/-- A run that passes all lines has read all of them. -/
theorem map_line_readings (ran : survey.run lines = .ok last) :
    (survey.readings lines).map (·.line) = lines.map fun line => Text.trimRight line.text := by
  induction lines generalizing survey with
  | nil => rfl
  | cons line rest inductionHypothesis =>
      obtain ⟨next, stepped, remaining⟩ := run_cons_eq_ok.1 ran
      obtain ⟨first, ofStep, readings⟩ := exists_readings_cons stepped rest
      rw [readings, List.map_cons, List.map_cons, inductionHypothesis remaining, ofStep.line_eq]

theorem length_readings (ran : survey.run lines = .ok last) :
    (survey.readings lines).length = lines.length := by
  have lengths := congrArg List.length (map_line_readings ran)
  rwa [List.length_map, List.length_map] at lengths

/-- What follows some lines is read where they have been passed. -/
theorem readings_append (ran : survey.run lines = .ok last) (others : List ScriptLine) :
    survey.readings (lines ++ others) = survey.readings lines ++ last.readings others := by
  induction lines generalizing survey with
  | nil =>
      obtain rfl := Except.ok.inj ran
      rfl
  | cons line rest inductionHypothesis =>
      obtain ⟨next, stepped, remaining⟩ := run_cons_eq_ok.1 ran
      obtain ⟨classified, read, -⟩ := step_eq_ok_iff.1 stepped
      simp only [List.cons_append, readings, read, stepped, inductionHypothesis remaining]

/-! ### The open block -/

/-- Only lines that begin or end a block or bear on a damage value change what is known of the open
block. -/
theorem context_advance {lineNumber : Nat} {meaning : LineMeaning}
    (leavesBlock : meaning.touchesBlock = false)
    (advanced : survey.advance lineNumber meaning = .ok next) :
    next.context.active = survey.context.active ∧ next.context.spell = survey.context.spell := by
  cases meaning with
  | blockStart _ _ _ | blockEnd | spellContent _ _ _ => cases leavesBlock
  | descriptionText closes =>
      obtain rfl := Except.ok.inj advanced
      cases closes <;> exact ⟨rfl, rfl⟩
  | descriptionStart staysOpen =>
      cases staysOpen with
      | false => obtain rfl := Except.ok.inj advanced; exact ⟨rfl, rfl⟩
      | true =>
          obtain ⟨-, rfl⟩ := advance_descriptionStart_eq_ok_iff.1 advanced
          exact ⟨rfl, rfl⟩
  | modName given => cases given <;> (obtain rfl := Except.ok.inj advanced; exact ⟨rfl, rfl⟩)
  | name given =>
      cases given with
      | none => obtain rfl := Except.ok.inj advanced; exact ⟨rfl, rfl⟩
      | some name =>
          rw [survey.advance_name] at advanced
          obtain rfl := Except.ok.inj advanced
          rw [(survey.bindName_unchanged name).2.2]
          exact ⟨rfl, rfl⟩
  | entity word ref argument =>
      obtain rfl := Except.ok.inj advanced
      split <;> exact ⟨rfl, rfl⟩
  | blank | comment | otherMetadata word | text word =>
      obtain rfl := Except.ok.inj advanced
      exact ⟨rfl, rfl⟩

/-! ### Definitions without an id -/

theorem nextImplicitIndex_openBlock {lineNumber : Nat} {ref : DirectiveRef} {argument : Argument}
    (opened : survey.openBlock lineNumber ref argument = .ok next) (type : EntityType) :
    next.definition.nextImplicitIndex type =
      (survey.definition.recordArgument ref argument).nextImplicitIndex type := by
  obtain ⟨_, -, finished⟩ := bind_eq_ok.1 opened
  obtain rfl := Except.ok.inj finished
  simp only
  split <;> rfl

/-- A line adds to the definitions without an id exactly if it creates one. -/
theorem nextImplicitIndex_advance {lineNumber : Nat} {meaning : LineMeaning}
    (notNew : ∀ word ref argument, meaning = .entity word ref argument → ref.rule.role ≠ .new)
    (advanced : survey.advance lineNumber meaning = .ok next) (type : EntityType) :
    next.definition.nextImplicitIndex type =
      survey.definition.nextImplicitIndex type +
        if meaning.createsUnnumbered type then 1 else 0 := by
  cases meaning with
  | blockStart word ref argument =>
      rw [nextImplicitIndex_openBlock advanced]
      cases argument with
      | absent =>
          simp only [ModDefinition.recordArgument, LineMeaning.createsUnnumbered,
            Bool.and_eq_true, beq_iff_eq]
          split
          · next isNew =>
              rw [ModDefinition.nextImplicitIndex_recordImplicit]
              simp only [isNew, true_and]
              split <;> rfl
          · next notNew => simp [notNew]
      | number _ | name _ => exact survey.definition.nextImplicitIndex_recordArgument (by simp) type
  | spellContent directive ref argument =>
      obtain rfl := Except.ok.inj advanced
      exact survey.nextImplicitIndex_readSpellLine directive argument type
  | blockEnd =>
      obtain rfl := Except.ok.inj advanced
      exact survey.nextImplicitIndex_closeBlock type
  | entity word ref argument =>
      obtain rfl := Except.ok.inj advanced
      split
      · exact survey.definition.nextImplicitIndex_recordArgument
          (fun _ => notNew word ref argument rfl) type
      · rfl
  | descriptionText closes =>
      obtain rfl := Except.ok.inj advanced
      split <;> rfl
  | descriptionStart staysOpen =>
      cases staysOpen with
      | false => obtain rfl := Except.ok.inj advanced; rfl
      | true =>
          obtain ⟨-, rfl⟩ := advance_descriptionStart_eq_ok_iff.1 advanced
          rfl
  | modName given => cases given <;> (obtain rfl := Except.ok.inj advanced; rfl)
  | name given =>
      cases given with
      | none => obtain rfl := Except.ok.inj advanced; rfl
      | some name =>
          rw [survey.advance_name] at advanced
          obtain rfl := Except.ok.inj advanced
          obtain ⟨entities, -, -⟩ := survey.bindName_unchanged name
          rw [ModDefinition.nextImplicitIndex, entities]
          rfl
  | blank | comment | otherMetadata word | text word =>
      obtain rfl := Except.ok.inj advanced
      rfl

end Survey

theorem SurveyedLine.OfStep.nextImplicitIndex_eq {surveyed : SurveyedLine}
    {survey next : Survey} {line : ScriptLine} (ofStep : surveyed.OfStep survey line next)
    (type : EntityType) :
    next.definition.nextImplicitIndex type = survey.definition.nextImplicitIndex type +
      if surveyed.meaning.createsUnnumbered type then 1 else 0 := by
  obtain ⟨classified, read, meaning⟩ := ofStep.read
  refine Survey.nextImplicitIndex_advance (fun word ref _ isEntity => ?_) ofStep.advanced type
  have fromTable : (LineForm.entity word ref).FromTable :=
    LineForm.fromTable_of_classify read (meaning.trans isEntity)
  exact fromTable

namespace Survey

variable {survey last : Survey} {lines : List ScriptLine} {surveyed : SurveyedLine}
  {front back : List SurveyedLine}

/-- Before a line, as many definitions without an id have been passed as the lines before it
create. -/
theorem nextImplicitIndex_before (readings : survey.readings lines = front ++ surveyed :: back)
    (type : EntityType) :
    surveyed.before.definition.nextImplicitIndex type =
      survey.definition.nextImplicitIndex type +
        front.countP fun earlier => earlier.meaning.createsUnnumbered type := by
  induction front generalizing survey lines with
  | nil =>
      obtain ⟨_, _, _, -, ofStep, -⟩ := exists_ofStep_of_readings readings
      rw [ofStep.before_eq, List.countP_nil, Nat.add_zero]
  | cons first others inductionHypothesis =>
      obtain ⟨_, _, next, -, ofStep, later⟩ := exists_ofStep_of_readings readings
      rw [inductionHypothesis later, ofStep.nextImplicitIndex_eq, List.countP_cons]
      omega

/-- In the end, as many have been passed as all lines create. -/
theorem nextImplicitIndex_run (ran : survey.run lines = .ok last) (type : EntityType) :
    last.definition.nextImplicitIndex type =
      survey.definition.nextImplicitIndex type +
        (survey.readings lines).countP fun surveyed => surveyed.meaning.createsUnnumbered type := by
  induction lines generalizing survey with
  | nil =>
      obtain rfl := Except.ok.inj ran
      rfl
  | cons line rest inductionHypothesis =>
      obtain ⟨next, stepped, remaining⟩ := run_cons_eq_ok.1 ran
      obtain ⟨first, ofStep, readings⟩ := exists_readings_cons stepped rest
      rw [inductionHypothesis remaining, ofStep.nextImplicitIndex_eq, readings, List.countP_cons]
      omega

end Survey

/-! ### What the meaning of a line tells -/

namespace SurveyedLine.IsRead

variable {survey : Survey} {line : Line} {meaning : LineMeaning}

theorem outside (isRead : (⟨survey, line, meaning⟩ : SurveyedLine).IsRead)
    (notText : ∀ closes, meaning ≠ .descriptionText closes) :
    survey.context.inDescription = false := by
  obtain ⟨classified, read, rfl⟩ := isRead.read
  exact inDescription_eq_false_of_classify read notText

theorem not_inDescription (isRead : (⟨survey, line, meaning⟩ : SurveyedLine).IsRead)
    (notText : ∀ closes, meaning ≠ .descriptionText closes) :
    survey.context.state ≠ .inDescription := by
  rw [ne_eq, ← inDescription_iff, isRead.outside notText]
  exact Bool.false_ne_true

/-- The lines that bear on the meaning of a damage value stand in spell blocks. -/
theorem exists_spell {directive : SpellDirective} {ref : Option DirectiveRef}
    {argument : Argument}
    (isRead : (⟨survey, line, .spellContent directive ref argument⟩ : SurveyedLine).IsRead) :
    ∃ spell, survey.context.spell = some spell := by
  obtain ⟨classified, read, isContent⟩ := isRead.read
  have outside := isRead.outside fun _ same => by cases same
  obtain ⟨_, _, given, -, -, meaningEq⟩ :=
    exists_spelt_of_classify outside read (by rw [isContent]; simp)
  have inside : survey.context.inSpellBlock = true := by
    have means := (meaningEq.symm.trans isContent) ▸
      directiveMeans_directiveMeaning survey.context _ given
    cases means with
    | spellContent inside _ => exact inside
  rw [isRead.consistent.inSpellBlock_eq] at inside
  exact Option.isSome_iff_exists.1 inside

theorem role_ne_new (isRead : (⟨survey, line, meaning⟩ : SurveyedLine).IsRead) :
    ∀ word ref argument, meaning = .entity word ref argument → ref.rule.role ≠ .new := by
  intro word ref argument isEntity
  obtain ⟨classified, read, same⟩ := isRead.read
  have fromTable : (LineForm.entity word ref).FromTable :=
    LineForm.fromTable_of_classify read (same.trans isEntity)
  exact fromTable

theorem consistent_advance (isRead : (⟨survey, line, meaning⟩ : SurveyedLine).IsRead)
    {lineNumber : Nat} {next : Survey} (advanced : survey.advance lineNumber meaning = .ok next) :
    next.context.Consistent := by
  obtain ⟨classified, read, same⟩ := isRead.read
  have stepped : survey.step ⟨lineNumber, [], line⟩ = .ok next :=
    Survey.step_eq_ok_iff.2 ⟨classified, read, same ▸ advanced⟩
  exact Survey.consistent_step isRead.consistent stepped

/-- There is an id for content without one if there is one for all such content passed so far. -/
theorem isSome_implicitId? (isRead : (⟨survey, line, meaning⟩ : SurveyedLine).IsRead)
    {lineNumber : Nat} {next : Survey} {mapping : ModMapping}
    (advanced : survey.advance lineNumber meaning = .ok next)
    (provided : ∀ type, next.definition.nextImplicitIndex type ≤
      (mapping.implicitIds type).length) (type : EntityType)
    (creates : meaning.createsUnnumbered type = true) :
    (mapping.implicitId? type (survey.definition.nextImplicitIndex type)).isSome := by
  have enough := provided type
  rw [Survey.nextImplicitIndex_advance isRead.role_ne_new advanced, creates, if_pos rfl,
    ModMapping.implicitIds, Array.length_toList] at enough
  rw [ModMapping.implicitId?, isSome_getElem?]
  exact enough

end SurveyedLine.IsRead

end ModMerge
