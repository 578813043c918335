import ModMerge.Proofs.Mod.SettledLines
import ModMerge.Proofs.Mod.Transcripts

/-!
# Reading what has been written

Whoever reads what has been written for a mod, from the first line on, is within a spell block
exactly when the mod is. That is all it takes for every further line that is written to be
passed, whatever number it has.
-/

namespace ModMerge

/-- What has been written can be read, and left as it is, by a survey that begins at `start` and is
then within a spell block exactly if `survey` is, which has read the mod. -/
structure Resumes (start : Survey) (output : List OutputLine) (survey : Survey) : Prop where
  settled : ∀ written ∈ output, written.Settled
  ends : lastEnds output = true → survey.context.spell.isSome = false
  reaches : start.Reaches (output.flatMap OutputLine.render) fun read =>
    read.context.spell.isSome = survey.context.spell.isSome

namespace Resumes

variable {start survey next : Survey} {output : List OutputLine} {mapping : ModMapping}
  {surveyed : SurveyedLine} {written : OutputLine} {lineNumber : Nat}
  {meaning other : LineMeaning}

theorem nil (consistent : start.context.Consistent) (outside : start.context.inDescription = false)
    (same : start.context.spell.isSome = survey.context.spell.isSome) :
    Resumes start [] survey where
  settled _ member := by cases member
  ends isEnd := by cases isEnd
  reaches := .nil consistent outside same

/-- A line for which nothing is written. -/
theorem skip (resumes : Resumes start output survey)
    (same : next.context.spell.isSome = survey.context.spell.isSome) :
    Resumes start output next where
  settled := resumes.settled
  ends isEnd := same.trans (resumes.ends isEnd)
  reaches := resumes.reaches.mono fun _ isSame => isSame.trans same.symm

/-- A line that stands for the next line of the mod. -/
theorem concat (resumes : Resumes start output survey)
    (consistent : survey.context.Consistent)
    (advanced : survey.advance lineNumber meaning = .ok next)
    (reads : Reads survey.context.inSpellBlock written.line other)
    (standsFor : meaning.StandsFor other) (settled : written.Settled) :
    Resumes start (output ++ [written]) next := by
  have sameBlock := consistent.inSpellBlock_eq
  have nextIsSome : next.context.spell.isSome =
      other.leavesInSpell survey.context.spell.isSome := by
    rw [Survey.isSome_spell_advance sameBlock advanced, standsFor.leavesInSpell_eq]
  refine ⟨fun line member => ?_, fun isEnd => ?_, ?_⟩
  · rcases List.mem_append.1 member with before | isLast
    · exact resumes.settled line before
    · exact List.mem_singleton.1 isLast ▸ settled
  · rw [lastEnds_concat] at isEnd
    rw [nextIsSome]
    split at isEnd
    · next blank =>
        have isBlank : other = .blank := by
          by_contra notBlank
          cases (isBlankText_of_reads reads notBlank).symm.trans blank
        rw [isBlank]
        exact resumes.ends isEnd
    · have isBlockEnd : other = .blockEnd := by
        by_contra notEnd
        cases (isEndLine_of_reads reads notEnd).symm.trans isEnd
      rw [isBlockEnd]
      rfl
  · have alike : ∀ read : Survey, read.context.spell.isSome = survey.context.spell.isSome →
        read.context.spell.isSome = survey.context.inSpellBlock := fun _ same =>
      same.trans sameBlock.symm
    have noDescription : other ≠ .descriptionStart true := by
      rintro rfl
      cases standsFor.notMetadata
    have leads : ∀ read : Survey, read.context.inSpellBlock = survey.context.inSpellBlock →
        read.context.spell.isSome = survey.context.spell.isSome → ∀ lineNumber,
        ∃ nextRead, read.advance lineNumber other = .ok nextRead ∧
          nextRead.context.spell.isSome = next.context.spell.isSome := by
      intro read sameRead same lineNumber
      have outside : other.opensBlock = true → read.context.state ≠ .inSpellBlock := by
        rw [standsFor.opensBlock_eq, ne_eq, ← inSpellBlock_iff, sameRead, inSpellBlock_iff]
        exact Survey.outside_of_opensBlock advanced
      obtain ⟨nextRead, advancedToo⟩ := read.exists_advance noDescription outside lineNumber
      refine ⟨nextRead, advancedToo, ?_⟩
      rw [Survey.isSome_spell_advance (sameRead.trans (sameBlock.trans same.symm)) advancedToo,
        same, nextIsSome]
    rw [List.flatMap_append, List.flatMap_singleton, OutputLine.render]
    split
    · next change _ =>
        obtain ⟨rest, comment⟩ := toList_commentMark change.comment
        rw [comment, List.append_cons]
        exact (Renders.reaches_comment resumes.reaches alike
          (Text.allBlank_leadingBlanks written.line)).concat reads alike noDescription leads
    · exact resumes.reaches.concat reads alike noDescription leads

/-- Lines that repeat others leave the spell block as it is. -/
theorem leavesInSpell_of_isRedundant {line : Line} (resumes : Resumes start output survey)
    (isRead : (⟨survey, line, meaning⟩ : SurveyedLine).IsRead)
    (notMetadata : meaning.isMetadata = false) (redundant : isRedundant output line = true) :
    meaning.leavesInSpell survey.context.spell.isSome = survey.context.spell.isSome := by
  obtain ⟨classified, read, rfl⟩ := isRead.read
  have outside := isRead.outside fun closes same => by
    rw [show classified.meaning = .descriptionText closes from same] at notMetadata
    cases notMetadata
  have reads := reads_of_classify outside read
  rw [isRedundant] at redundant
  split at redundant
  · next blank =>
      have isBlank : classified.meaning = .blank := by
        by_contra notBlank
        cases (isBlankText_of_reads reads notBlank).symm.trans blank
      rw [isBlank]
      rfl
  · rw [Bool.and_eq_true] at redundant
    have isBlockEnd : classified.meaning = .blockEnd := by
      by_contra notEnd
      cases (isEndLine_of_reads reads notEnd).symm.trans redundant.1
    rw [isBlockEnd, resumes.ends redundant.2]
    rfl

/-- One line of the mod, and what is left of its draft. -/
theorem step (resumes : Resumes start output survey) {line : ScriptLine}
    (ofStep : surveyed.OfStep survey line next) (consistent : survey.context.Consistent)
    (plain : Plain line.text) (unmarked : Unmarked line.text)
    (provided : ∀ type, next.definition.nextImplicitIndex type ≤
      (mapping.implicitIds type).length) {later : List LineMeaning}
    (short : ∀ written ∈ kept output (mapping.draft surveyed later), written.ShortNumbers) :
    Resumes start (output ++ (kept output (mapping.draft surveyed later)).toList) next := by
  have isRead := ofStep.isRead consistent
  obtain ⟨before, line, meaning⟩ := surveyed
  obtain rfl : before = survey := ofStep.before_eq
  have nextIsSome := Survey.isSome_spell_advance consistent.inSpellBlock_eq ofStep.advanced
  cases drafted : mapping.draft ⟨before, line, meaning⟩ later with
  | none =>
      have isMetadata := (mapping.draft_eq_none_iff _ later).1 drafted
      rw [kept, Option.filter_none, Option.toList_none, List.append_nil]
      refine resumes.skip (nextIsSome.trans ?_)
      cases meaning <;> first | rfl | cases isMetadata
  | some written =>
      have isDraft := isRead.isDraft drafted
      have notMetadata : meaning.isMetadata = false := by
        rw [← Bool.not_eq_true]
        intro isMetadata
        have noDraft := (mapping.draft_eq_none_iff ⟨before, line, meaning⟩ later).2 isMetadata
        cases drafted.symm.trans noDraft
      cases redundant : isRedundant output written.line with
      | true =>
          rw [kept_of_isRedundant redundant, Option.toList_none, List.append_nil]
          refine resumes.skip (nextIsSome.trans ?_)
          rw [isRedundant_of_similar ((isDraft.lineEdit isRead).similar isRead)] at redundant
          exact resumes.leavesInSpell_of_isRedundant isRead notMetadata redundant
      | false =>
          rw [drafted, kept_of_not_isRedundant redundant] at short
          rw [kept_of_not_isRedundant redundant]
          have lineEq : line = Text.trimRight _ := ofStep.line_eq
          have plainLine : Plain line := by
            rw [lineEq]
            exact plain.of_subset fun _ member => Text.mem_of_mem_trimRight member
          have unmarkedLine : Unmarked line := by
            rw [lineEq]
            exact unmarked_trimRight unmarked
          obtain ⟨other, reads, standsFor, settled⟩ := isDraft.exists_reads isRead plainLine
            unmarkedLine notMetadata (isRead.isSome_implicitId? ofStep.advanced provided)
            (short written rfl)
          exact resumes.concat consistent ofStep.advanced reads standsFor settled

/-- All lines of the mod, and what is left of their drafts. -/
theorem run {lines : List ScriptLine} {last : Survey} (resumes : Resumes start output survey)
    (consistent : survey.context.Consistent) (ran : survey.run lines = .ok last)
    (plain : ∀ line ∈ lines, Plain line.text) (unmarked : ∀ line ∈ lines, Unmarked line.text)
    (provided : ∀ type, last.definition.nextImplicitIndex type ≤
      (mapping.implicitIds type).length)
    (short : ∀ written ∈
      (mapping.transcribe output (survey.readings lines)).filterMap (·.written),
      written.ShortNumbers) :
    Resumes start
      (output ++ (mapping.transcribe output (survey.readings lines)).filterMap (·.written))
      last := by
  induction lines generalizing output survey with
  | nil =>
      obtain rfl := Except.ok.inj ran
      rw [Survey.readings, ModMapping.transcribe, List.filterMap_nil, List.append_nil]
      exact resumes
  | cons line rest inductionHypothesis =>
      obtain ⟨middle, stepped, remaining⟩ := Survey.run_cons_eq_ok.1 ran
      -- The counts only grow, so the mapping has enough ids for this line, too.
      have soFar : ∀ type, middle.definition.nextImplicitIndex type ≤
          (mapping.implicitIds type).length := fun type =>
        (Survey.nextImplicitIndex_le_of_run remaining type).trans (provided type)
      obtain ⟨surveyed, ofStep, readings⟩ := Survey.exists_readings_cons stepped rest
      rw [readings, ModMapping.transcribe, filterMap_cons_written] at short ⊢
      rw [← List.append_assoc]
      refine inductionHypothesis ?_ (Survey.consistent_step consistent stepped) remaining
        (fun other member => plain other (List.mem_cons_of_mem _ member))
        (fun other member => unmarked other (List.mem_cons_of_mem _ member))
        fun written member => short written (List.mem_append_right _ member)
      exact resumes.step ofStep consistent (plain line List.mem_cons_self)
        (unmarked line List.mem_cons_self) soFar fun written isKept =>
        short written (List.mem_append_left _ (Option.mem_toList.2 isKept))

end Resumes

end ModMerge
