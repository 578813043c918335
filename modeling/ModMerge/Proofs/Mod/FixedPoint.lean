import ModMerge.Proofs.Mod.EditedLines
import ModMerge.Proofs.Mod.SettledRuns
import ModMerge.Proofs.Mod.TidyLines

/-!
# Renumbering what has been renumbered

A renumbered mod can be renumbered again, and as long as nothing else moves it stays as it is:
all its lines are about content that has an id, none is left out, and none changes.
-/

namespace ModMerge

/-! ### Where nothing moves -/

/-- Content is where it was. -/
def ModMapping.MovesNothing (mapping : ModMapping) : Prop :=
  ∀ type id, mapping.newId type id = id

/-- Where nothing has been assigned, no id has too many digits. -/
theorem shortIds_empty (modName : String) : ({ modName } : ModMapping).ShortIds := by
  rintro id (⟨type, old, moves, -⟩ | ⟨type, index, settled⟩)
  · exact absurd (by simp [ModMapping.newId, EntityTable.get_uniform]) moves
  · simp [ModMapping.implicitId?, EntityTable.get_uniform] at settled

theorem movesNothing_empty (modName : String) : ({ modName } : ModMapping).MovesNothing := by
  intro type id
  simp [ModMapping.newId, EntityTable.get_uniform]

namespace ModMapping.MovesNothing

variable {mapping : ModMapping}

theorem remapContent_eq_none (movesNothing : mapping.MovesNothing) (content : EntityId)
    (negative : Bool) : mapping.remapContent content negative = none := by
  rw [ModMapping.remapContent, movesNothing]
  exact if_pos rfl

theorem entityLine_eq (movesNothing : mapping.MovesNothing) (line : Line) (ref : DirectiveRef)
    (number : Int) : mapping.entityLine line ref number = { line } := by
  have stays : mapping.remapArgument ref number = none := by
    simp [ModMapping.remapArgument, movesNothing.remapContent_eq_none]
  rw [ModMapping.entityLine, stays]

theorem damageLine_eq (movesNothing : mapping.MovesNothing) (line : Line)
    (settled : Option SpellBlock) : mapping.damageLine line settled = { line } := by
  have stays : settled.bind mapping.remapDamage = none := by
    simp [ModMapping.remapDamage, movesNothing.remapContent_eq_none]
  rw [ModMapping.damageLine, stays]

/-- Every line that is about content with an id is drafted as it stands. -/
theorem draft_eq (movesNothing : mapping.MovesNothing) {surveyed : SurveyedLine}
    (notMetadata : surveyed.meaning.isMetadata = false)
    (numbered : ∀ type, surveyed.meaning.createsUnnumbered type = false)
    (later : List LineMeaning) : mapping.draft surveyed later = some { line := surveyed.line } := by
  obtain ⟨survey, line, meaning⟩ := surveyed
  cases meaning with
  | descriptionText _ | modName _ | descriptionStart _ | otherMetadata _ => cases notMetadata
  | blank | comment | blockEnd | name _ | text _ => rfl
  | entity word ref argument =>
      cases argument with
      | number number => exact congrArg some (movesNothing.entityLine_eq line ref number)
      | name _ | absent => rfl
  | blockStart word ref argument =>
      refine congrArg some ?_
      cases argument with
      | number number => exact movesNothing.entityLine_eq line ref number
      | name _ => rfl
      | absent =>
          have notNew : ref.rule.role ≠ .new := by
            intro isNew
            cases (numbered ref.type).symm.trans
              (LineMeaning.createsUnnumbered_iff.2 ⟨word, ref, rfl, isNew, rfl⟩)
          simp only [ModMapping.blockStartLine, if_neg notNew]
  | spellContent directive ref argument =>
      refine congrArg some ?_
      simp only [ModMapping.spellLine]
      split
      · exact movesNothing.entityLine_eq line _ _
      · exact movesNothing.damageLine_eq line _
      · exact movesNothing.damageLine_eq line _
      · rfl

/-- Lines that repeat nothing are written as they stand. -/
theorem filterMap_transcribe (movesNothing : mapping.MovesNothing) {output : List OutputLine}
    {surveyed : List SurveyedLine}
    (settled : ∀ line ∈ surveyed, line.meaning.isMetadata = false ∧
      ∀ type, line.meaning.createsUnnumbered type = false)
    (unrepeated : Unrepeated (output ++ unchangedLines (surveyed.map (·.line)))) :
    (mapping.transcribe output surveyed).filterMap (·.written) =
      unchangedLines (surveyed.map (·.line)) := by
  induction surveyed generalizing output with
  | nil => rfl
  | cons first rest inductionHypothesis =>
      obtain ⟨notMetadata, numbered⟩ := settled first List.mem_cons_self
      have notRedundant : isRedundant output first.line = false :=
        unrepeated output { line := first.line } (unchangedLines (rest.map (·.line))) rfl
      have isWritten : kept output (mapping.draft first (rest.map (·.meaning))) =
          some { line := first.line } := by
        rw [movesNothing.draft_eq notMetadata numbered]
        exact kept_of_not_isRedundant notRedundant
      rw [ModMapping.transcribe, filterMap_cons_written, isWritten,
        inductionHypothesis fun line member => settled line (List.mem_cons_of_mem _ member)]
      · rfl
      · rw [Option.toList_some, List.append_assoc]
        exact unrepeated

end ModMapping.MovesNothing

/-! ### Settled lines -/

/-- Whoever reads settled lines finds nothing about a mod itself and nothing without an id. -/
theorem Survey.settled_of_mem_readings {survey : Survey} {lines : List ScriptLine}
    {surveyed : SurveyedLine} (outside : survey.context.inDescription = false)
    (settled : ∀ line ∈ lines, IsSettled (Text.trimRight line.text))
    (member : surveyed ∈ survey.readings lines) :
    surveyed.meaning.isMetadata = false ∧
      ∀ type, surveyed.meaning.createsUnnumbered type = false := by
  induction lines generalizing survey with
  | nil => cases member
  | cons line rest inductionHypothesis =>
      obtain ⟨first, others, readings⟩ := List.exists_cons_of_ne_nil (List.ne_nil_of_mem member)
      obtain ⟨_, _, next, same, ofStep, later⟩ := exists_ofStep_of_readings readings
      obtain ⟨rfl, rfl⟩ := List.cons.inj same
      obtain ⟨classified, read, meaningEq⟩ := ofStep.read
      rw [ofStep.line_eq] at read
      have here := settled line List.mem_cons_self survey.context classified outside read
      rw [meaningEq] at here
      rw [readings] at member
      rcases List.mem_cons.1 member with rfl | inRest
      · exact here
      · refine inductionHypothesis ?_ (fun other member => settled other
          (List.mem_cons_of_mem _ member)) (later ▸ inRest)
        refine Survey.inDescription_advance outside ?_ ofStep.advanced
        intro begins
        rw [begins] at here
        cases here.1

/-- A renumbered mod whose lines can be read again and left as they are. -/
structure RenumberedMod.Settled (renumbered : RenumberedMod) : Prop where
  settled : ∀ written ∈ renumbered.output, written.Settled
  unrepeated : Unrepeated (unchangedLines renumbered.lines)
  tidy : Tidy renumbered.lines
  last : ∀ written ∈ renumbered.output.getLast?, Text.isBlankText written.line = false
  reaches : ∀ modName, ({ definition := { modName } } : Survey).Reaches renumbered.lines
    fun _ => True

section

variable {mapping : ModMapping} {modName : String} {script : List Char}
  {definition : ModDefinition} {renumbered : RenumberedMod}

/-- What has been written for a mod repeats nothing, and blank lines are written as they are. -/
theorem tidy_of_transcribe
    (output : renumbered.output = trimBlankLines
      ((mapping.transcribe [] (surveyedLines modName script)).filterMap (·.written))) :
    Unrepeated (unchangedLines renumbered.lines) ∧ Tidy renumbered.lines := by
  have transcribed := isTranscribed_surveyedLines mapping modName script
  have unrepeated := unrepeated_trimBlankLines transcribed.unrepeated
  obtain ⟨⟨front, back, whole, -⟩, last⟩ := trimBlankLines_spec
    ((mapping.transcribe [] (surveyedLines modName script)).filterMap (·.written))
  have first := head?_trimBlankLines
    ((mapping.transcribe [] (surveyedLines modName script)).filterMap (·.written))
  rw [← output] at whole first last unrepeated
  have ifBlank : ∀ written ∈ renumbered.output,
      Text.isBlankText written.line = true → written.change = none := fun written member =>
    transcribed.change_eq_none_of_blank
      (whole ▸ List.mem_append_left _ (List.mem_append_right _ member))
  exact ⟨unrepeated_render unrepeated ifBlank, tidy_render unrepeated ifBlank first last⟩

/-- What has been written for a mod is settled. -/
theorem settled_of_renumber (parsed : ModDefinition.parse modName script = .ok definition)
    (unmarked : ∀ line ∈ scriptLines script, Unmarked line.text)
    (provided : ∀ type, definition.nextImplicitIndex type ≤ (mapping.implicitIds type).length)
    (output : renumbered.output = trimBlankLines
      ((mapping.transcribe [] (surveyedLines modName script)).filterMap (·.written)))
    (short : ∀ written ∈ renumbered.output, written.ShortNumbers) : renumbered.Settled := by
  have transcribed := isTranscribed_surveyedLines mapping modName script
  obtain ⟨unrepeated, tidy⟩ := tidy_of_transcribe output
  obtain ⟨⟨front, back, whole, blank⟩, last⟩ := trimBlankLines_spec
    ((mapping.transcribe [] (surveyedLines modName script)).filterMap (·.written))
  rw [← output] at whole last
  have shortToo : ∀ written ∈ front ++ renumbered.output ++ back, written.ShortNumbers := by
    intro written member
    by_cases inOutput : written ∈ renumbered.output
    · exact short written inOutput
    · intro number isNumber
      have atEnd : written ∈ front ++ back := by
        simp only [List.mem_append] at member ⊢
        tauto
      rw [OutputLine.numbers,
        transcribed.change_eq_none_of_blank (whole ▸ member) (blank written atEnd)] at isNumber
      cases isNumber
  obtain ⟨surveyEnd, surveyed, -, rfl⟩ := ModDefinition.parse_eq_ok_iff.1 parsed
  have resumes : ∀ newName, Resumes { definition := { modName := newName } }
      (front ++ renumbered.output ++ back) surveyEnd := by
    intro newName
    have initially : Resumes { definition := { modName := newName } } []
        { definition := { modName } } := .nil ParseContext.consistent_initial rfl rfl
    rw [← whole] at shortToo ⊢
    exact initially.run ParseContext.consistent_initial surveyed
      (fun _ => plain_of_mem_scriptLines) unmarked
      (fun type => surveyEnd.nextImplicitIndex_finish type ▸ provided type) shortToo
  have settled : ∀ written ∈ front ++ renumbered.output ++ back, written.Settled :=
    (resumes modName).settled
  refine ⟨fun written member => settled written ?_, unrepeated, tidy, last, fun newName => ?_⟩
  · exact List.mem_append_left _ (List.mem_append_right _ member)
  · have reaches := (resumes newName).reaches
    have readable : ∀ written ∈ front ++ renumbered.output ++ back, written.Readable True :=
      fun written member => (settled written member).readable
    rw [List.flatMap_append, List.flatMap_append] at reaches
    refine (reaches.of_blanks (fun line member => ?_) fun line member => ?_).mono
      fun _ _ => trivial
    · exact isBlankText_of_mem_render
        (fun written inFront => readable written (by simp [inFront]))
        (fun written inFront => blank written (by simp [inFront])) member
    · exact isBlankText_of_mem_render
        (fun written inBack => readable written (by simp [inBack]))
        (fun written inBack => blank written (by simp [inBack])) member

namespace RenumberedMod.Settled

/-- Reading a settled mod cuts it into its lines. -/
theorem map_text_scriptLines (settled : renumbered.Settled) :
    (scriptLines renumbered.text).map (·.text) = renumbered.lines := by
  have legible : renumbered.Legible True :=
    ⟨fun written member => (settled.settled written member).readable, settled.last⟩
  exact legible.map_text_scriptLines trivial

theorem map_trimRight_scriptLines (settled : renumbered.Settled) :
    ((scriptLines renumbered.text).map fun line => Text.trimRight line.text) =
      renumbered.lines := by
  have cut := congrArg (List.map Text.trimRight) settled.map_text_scriptLines
  rw [List.map_map] at cut
  refine cut.trans ?_
  have same : ∀ line ∈ renumbered.lines, Text.trimRight line = id line := by
    intro line member
    obtain ⟨written, inOutput, isLine⟩ := List.mem_flatMap.1 member
    exact Text.trimRight_eq_self ((settled.settled written inOutput).last line isLine)
  rw [List.map_congr_left same, List.map_id]

/-- A settled mod can be read, and whoever reads it finds nothing about the mod itself and nothing
without an id. -/
theorem exists_parse (settled : renumbered.Settled) (newName : String) :
    ∃ reread, ModDefinition.parse newName renumbered.text = .ok reread ∧
      (surveyedLines newName renumbered.text).map (·.line) = renumbered.lines ∧
      ∀ surveyed ∈ surveyedLines newName renumbered.text, surveyed.meaning.isMetadata = false ∧
        ∀ type, surveyed.meaning.createsUnnumbered type = false := by
  obtain ⟨read, parsed, -, -⟩ :=
    (settled.reaches newName).exists_parse settled.map_text_scriptLines
  refine ⟨read.finish, parsed, ?_, fun surveyed member => ?_⟩
  · rw [map_line_surveyedLines parsed, settled.map_trimRight_scriptLines]
  · refine Survey.settled_of_mem_readings rfl (fun line inScript => ?_) member
    have isLine : Text.trimRight line.text ∈ renumbered.lines :=
      settled.map_trimRight_scriptLines ▸ List.mem_map_of_mem inScript
    obtain ⟨written, inOutput, inRender⟩ := List.mem_flatMap.1 isLine
    exact (settled.settled written inOutput).isSettled _ inRender

/-- A settled mod is left as it is. -/
theorem exists_again (settled : renumbered.Settled) (newName : String) :
    ∃ again, ({ modName := newName } : ModMapping).renumber newName renumbered.text = .ok again ∧
      again.output = unchangedLines renumbered.lines := by
  obtain ⟨reread, parsed, lines, settledLines⟩ := settled.exists_parse newName
  have noneNeeded : ∀ type, reread.nextImplicitIndex type ≤
      (({ modName := newName } : ModMapping).implicitIds type).length := by
    intro type
    rw [nextImplicitIndex_of_parse parsed, List.countP_eq_zero.2]
    · exact Nat.zero_le _
    · intro surveyed member
      rw [(settledLines surveyed member).2 type]
      exact Bool.false_ne_true
  obtain ⟨again, renumbersTo, output⟩ := exists_renumbersTo_trimBlankLines parsed noneNeeded
  refine ⟨again, renumbersTo.eq_ok (shortIds_empty newName), ?_⟩
  have unrepeated : Unrepeated ([] ++ unchangedLines
      ((surveyedLines newName renumbered.text).map (·.line))) := by
    rw [lines]
    exact settled.unrepeated
  rw [output, (movesNothing_empty newName).filterMap_transcribe settledLines unrepeated, lines]
  refine trimBlankLines_eq_self (fun written isFirst => ?_) fun written isLast => ?_
  · rw [unchangedLines, List.head?_map] at isFirst
    obtain ⟨line, isLine, rfl⟩ := Option.map_eq_some_iff.1 isFirst
    exact settled.tidy.first line isLine
  · rw [unchangedLines, List.getLast?_map] at isLast
    obtain ⟨line, isLine, rfl⟩ := Option.map_eq_some_iff.1 isLast
    exact settled.tidy.last line isLine

end RenumberedMod.Settled

theorem lines_of_unchangedLines (lines : List Line) :
    (unchangedLines lines).flatMap OutputLine.render = lines := by
  rw [unchangedLines, List.flatMap_map]
  exact List.flatMap_singleton' lines

theorem countP_change_unchangedLines (lines : List Line) :
    (unchangedLines lines).countP (fun written => written.change.isSome) = 0 := by
  rw [List.countP_eq_zero]
  intro written member
  obtain ⟨line, -, rfl⟩ := List.mem_map.1 member
  exact Bool.false_ne_true

/-- What renumbering has written for a mod is a fixed point: the lines are tidy and all about
content that has an id, and renumbered again where nothing else moves, the mod stays as it is and
none of its lines changes. -/
theorem renumbered_is_fixedPoint (parsed : ModDefinition.parse modName script = .ok definition)
    (unmarked : ∀ line ∈ scriptLines script, Unmarked line.text)
    (provided : ∀ type, definition.nextImplicitIndex type ≤ (mapping.implicitIds type).length) :
    ∃ renumbered, mapping.RenumbersTo modName script renumbered ∧ Tidy renumbered.lines ∧
      (mapping.renumber modName script = .ok renumbered → ∀ newName,
        (surveyedLines newName renumbered.text).map (·.line) = renumbered.lines ∧
        (∀ surveyed ∈ surveyedLines newName renumbered.text,
          surveyed.meaning.isMetadata = false ∧
          ∀ type, surveyed.meaning.createsUnnumbered type = false) ∧
        ∃ again,
          ({ modName := newName } : ModMapping).renumber newName renumbered.text = .ok again ∧
          again.text = renumbered.text ∧ again.changedLines = 0) := by
  obtain ⟨renumbered, renumbersTo, output⟩ := exists_renumbersTo_trimBlankLines parsed provided
  refine ⟨renumbered, renumbersTo, (tidy_of_transcribe output).2, fun isRenumbered newName => ?_⟩
  obtain ⟨short, -⟩ := whenWritable_eq_ok_iff.1 (renumbersTo.renumber_eq.symm.trans isRenumbered)
  have settled := settled_of_renumber parsed unmarked provided output fun written member number
    isNumber => short number (List.mem_flatMap.2 ⟨written, member, isNumber⟩)
  obtain ⟨-, -, lines, settledLines⟩ := settled.exists_parse newName
  obtain ⟨again, isAgain, againOutput⟩ := settled.exists_again newName
  refine ⟨lines, settledLines, again, isAgain, ?_, ?_⟩
  · rw [RenumberedMod.text, RenumberedMod.lines, againOutput, lines_of_unchangedLines,
      RenumberedMod.text]
  · rw [RenumberedMod.changedLines, againOutput, countP_change_unchangedLines]

end

theorem renumbered_is_fixedPoint_scoutScript :
    ∃ definition renumbered, ModDefinition.parse "Scouts" scoutScript = .ok definition ∧
      scoutMapping.renumber "Scouts" scoutScript = .ok renumbered ∧ Tidy renumbered.lines ∧
      ∀ newName, ∃ again,
        ({ modName := newName } : ModMapping).renumber newName renumbered.text = .ok again ∧
        again.text = renumbered.text ∧ again.changedLines = 0 := by
  obtain ⟨definition, parsed, provided⟩ := exists_parse_scoutScript
  obtain ⟨renumbered, renumbersTo, tidy, fixed⟩ :=
    renumbered_is_fixedPoint parsed (by decide +kernel) provided
  have isRenumbered := renumbersTo.eq_ok_of_isOk (by decide +kernel)
  exact ⟨definition, renumbered, parsed, isRenumbered, tidy,
    fun newName => (fixed isRenumbered newName).2.2⟩

end ModMerge
