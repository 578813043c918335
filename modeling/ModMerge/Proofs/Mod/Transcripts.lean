import ModMerge.Proofs.Mod.DraftedRuns
import ModMerge.Proofs.Mod.LineEdits

/-!
# Transcripts

A transcript of a renumbered mod sets what is written beside the lines it was written for. It
is as long as the script; the lines for which nothing is written are those about the mod
itself, blank lines that repeat another or stand at either end, and ends of blocks that
repeat another. Wherever a mod can be read and there are enough ids for it, there is a
transcript, and each line of it was written as it was drafted.
-/

namespace ModMerge

/-- Whether a line is left out between what is written before it and what is written after it. -/
def isLeftOut (before : List OutputLine) (line : Line) (after : List OutputLine) : Bool :=
  if Text.isBlankText line then
    before.isEmpty || after.isEmpty || before.getLast?.any fun last => Text.isBlankText last.line
  else isEndLine line && lastEnds before

/-- The lines of a script beside what renumbering has written for them. -/
structure IsTranscript (transcript : List RenumberedLine) (modName : String)
    (script : List Char) (renumbered : RenumberedMod) : Prop where
  reads : transcript.map (·.toSurveyedLine) = surveyedLines modName script
  writes : transcript.filterMap (·.written) = renumbered.output
  leftOut_iff : ∀ before line after, transcript = before ++ line :: after →
    (line.written = none ↔ line.meaning.isMetadata = true ∨
      isLeftOut (before.filterMap (·.written)) line.line (after.filterMap (·.written)) = true)

/-- Between the lines before it and after it, the line has been written as it was drafted, or
left out. -/
structure RenumberedLine.Fits (mapping : ModMapping) (before after : List RenumberedLine)
    (line : RenumberedLine) : Prop where
  leftOut_iff : line.written = none ↔ line.meaning.isMetadata = true ∨
    isLeftOut (before.filterMap (·.written)) line.line (after.filterMap (·.written)) = true
  drafted : ∀ written ∈ line.written,
    mapping.draft line.toSurveyedLine (after.map (·.meaning)) = some written

/-- Every line of the transcript has been read, and written as it was drafted or left out. -/
def EachFits (mapping : ModMapping) (transcript : List RenumberedLine) : Prop :=
  ∀ before line after, transcript = before ++ line :: after →
    line.IsRead ∧ line.Fits mapping before after

/-- Lines with words other than those about the mod itself and the ends of blocks are written. -/
theorem RenumberedLine.Fits.exists_written {mapping : ModMapping}
    {before after : List RenumberedLine} {line : RenumberedLine}
    (fits : line.Fits mapping before after) (notMetadata : line.meaning.isMetadata = false)
    (substantial : Substantial line.line) :
    ∃ written, line.written = some written ∧
      mapping.draft line.toSurveyedLine (after.map (·.meaning)) = some written := by
  have isWritten : line.written ≠ none := by
    rw [ne_eq, fits.leftOut_iff, notMetadata, isLeftOut, substantial.notBlank, substantial.notEnd]
    simp
  obtain ⟨written, isWritten⟩ := Option.ne_none_iff_exists'.1 isWritten
  exact ⟨written, isWritten, fits.drafted written isWritten⟩

/-- What is written for a line that bears on content is what has been drafted for it. -/
theorem EachFits.exists_written {mapping : ModMapping} {transcript : List RenumberedLine}
    (fits : EachFits mapping transcript) {front back : List SurveyedLine} {surveyed : SurveyedLine}
    (reads : transcript.map (·.toSurveyedLine) = front ++ surveyed :: back)
    (notMetadata : surveyed.meaning.isMetadata = false) (notBlank : surveyed.meaning ≠ .blank)
    (notEnd : surveyed.meaning ≠ .blockEnd) :
    ∃ written, (transcript[front.length]?.bind (·.written)) = some written ∧
      mapping.draft surveyed (back.map (·.meaning)) = some written := by
  obtain ⟨before, _, rfl, rfl, isRest⟩ := List.map_eq_append_iff.1 reads
  obtain ⟨line, after, rfl, rfl, rfl⟩ := List.map_eq_cons_iff.1 isRest
  obtain ⟨isRead, lineFits⟩ := fits before line after rfl
  have notText : ∀ closes, line.meaning ≠ .descriptionText closes := by
    intro closes isText
    rw [isText] at notMetadata
    cases notMetadata
  obtain ⟨written, isWritten, drafted⟩ :=
    lineFits.exists_written notMetadata (isRead.substantial notText notBlank notEnd)
  refine ⟨written, ?_, ?_⟩
  · simpa using isWritten
  · rwa [List.map_map]

/-! ### Drafts and the lines they are for -/

/-- Only lines about the mod itself have no draft. -/
theorem ModMapping.draft_eq_none_iff (mapping : ModMapping) (surveyed : SurveyedLine)
    (later : List LineMeaning) :
    mapping.draft surveyed later = none ↔ surveyed.meaning.isMetadata = true := by
  obtain ⟨survey, line, meaning⟩ := surveyed
  cases meaning with
  | entity word ref argument => cases argument <;> simp [draft, LineMeaning.isMetadata]
  | _ => simp [draft, LineMeaning.isMetadata]

theorem isRedundant_of_similar {line : Line} {written : OutputLine}
    (similar : OutputLine.Similar { line } written) (output : List OutputLine) :
    isRedundant output written.line = isRedundant output line := by
  rw [isRedundant, similar.blank, similar.ends, isRedundant]

/-- Nothing is written for a line about the mod itself or a line that repeats another. -/
theorem kept_draft_eq_none_iff {surveyed : SurveyedLine} (isRead : surveyed.IsRead)
    (mapping : ModMapping) (output : List OutputLine) (later : List LineMeaning) :
    kept output (mapping.draft surveyed later) = none ↔
      surveyed.meaning.isMetadata = true ∨ isRedundant output surveyed.line = true := by
  rw [← mapping.draft_eq_none_iff surveyed later]
  cases drafted : mapping.draft surveyed later with
  | none => simp [kept]
  | some written =>
      have same := isRedundant_of_similar ((isRead.lineEdit_of_draft drafted).similar isRead) output
      cases redundant : isRedundant output surveyed.line with
      | true => simp [kept_of_isRedundant (same.trans redundant)]
      | false => simp [kept_of_not_isRedundant (same.trans redundant)]

/-! ### What is left of the drafts -/

namespace ModMapping

theorem map_transcribe (mapping : ModMapping) (output : List OutputLine)
    (surveyed : List SurveyedLine) :
    (mapping.transcribe output surveyed).map (·.toSurveyedLine) = surveyed := by
  induction surveyed generalizing output with
  | nil => rfl
  | cons first rest inductionHypothesis =>
      rw [transcribe, List.map_cons, inductionHypothesis]

/-- What is written for a line depends on what was written before it and on its draft. -/
theorem written_of_transcribe {mapping : ModMapping} {output : List OutputLine}
    {surveyed : List SurveyedLine} {before after : List RenumberedLine} {line : RenumberedLine}
    (transcribed : mapping.transcribe output surveyed = before ++ line :: after) :
    line.written = kept (output ++ before.filterMap (·.written))
      (mapping.draft line.toSurveyedLine (after.map (·.meaning))) := by
  induction before generalizing output surveyed with
  | nil =>
      cases surveyed with
      | nil => cases transcribed
      | cons first later =>
          obtain ⟨rfl, isLater⟩ := List.cons.inj transcribed
          have surveyedLater := mapping.map_transcribe
            (output ++ (kept output (mapping.draft first (later.map (·.meaning)))).toList) later
          rw [isLater] at surveyedLater
          rw [List.filterMap_nil, List.append_nil, ← surveyedLater, List.map_map]
          rfl
  | cons other before inductionHypothesis =>
      cases surveyed with
      | nil => cases transcribed
      | cons first later =>
          obtain ⟨rfl, isLater⟩ := List.cons.inj transcribed
          rw [inductionHypothesis isLater, List.filterMap_cons]
          cases kept output (mapping.draft first _) <;> simp

end ModMapping

/-! ### Blank lines at the ends -/

theorem find?_eq_none_of_blank {blanks : List OutputLine}
    (blank : ∀ written ∈ blanks, Text.isBlankText written.line = true) :
    blanks.reverse.find? (fun last => !Text.isBlankText last.line) = none := by
  simpa using blank

/-- Blank lines do not count for whether the last line ends a block. -/
theorem lastEnds_append_of_blank (output : List OutputLine) {blanks : List OutputLine}
    (blank : ∀ written ∈ blanks, Text.isBlankText written.line = true) :
    lastEnds (output ++ blanks) = lastEnds output := by
  rw [lastEnds, List.reverse_append, List.find?_append, find?_eq_none_of_blank blank,
    Option.none_or, lastEnds]

theorem lastEnds_append_left_of_blank (output : List OutputLine) {blanks : List OutputLine}
    (blank : ∀ written ∈ blanks, Text.isBlankText written.line = true) :
    lastEnds (blanks ++ output) = lastEnds output := by
  rw [lastEnds, List.reverse_append, List.find?_append, find?_eq_none_of_blank blank,
    Option.or_none, lastEnds]

/-- The first line that is left is not blank, either. -/
theorem head?_trimBlankLines (output : List OutputLine) :
    ∀ written ∈ (trimBlankLines output).head?, Text.isBlankText written.line = false := by
  intro written isFirst
  obtain ⟨rest, whole⟩ : trimBlankLines output <+:
      output.dropWhile fun written => Text.isBlankText written.line := List.rdropWhile_prefix _ _
  have notBlank := List.head?_dropWhile_not
    (fun written : OutputLine => Text.isBlankText written.line) output
  rw [← whole, List.head?_append, Option.mem_def.1 isFirst, Option.some_or] at notBlank
  simpa using notBlank

/-! ### Transcripts without blank lines at the ends -/

theorem exists_of_append_eq_append_cons {Value : Type} {front back before after : List Value}
    {value : Value} (same : front ++ back = before ++ value :: after) :
    (∃ rest, front = before ++ value :: rest ∧ after = rest ++ back) ∨
      ∃ rest, before = front ++ rest ∧ back = rest ++ value :: after := by
  rcases List.append_eq_append_iff.1 same with ⟨rest, isBefore, isBack⟩ | ⟨rest, isFront, isRest⟩
  · exact .inr ⟨rest, isBefore, isBack⟩
  · cases rest with
    | nil => exact .inr ⟨[], by simpa using isFront.symm, by simpa using isRest.symm⟩
    | cons first others =>
        obtain ⟨rfl, rfl⟩ := List.cons.inj isRest
        exact .inl ⟨others, isFront, rfl⟩

/-- The line with nothing written for it. -/
def RenumberedLine.unwritten (line : RenumberedLine) : RenumberedLine :=
  { line with written := none }

/-- Each line of the transcript has been read, and has what is left of its draft. -/
structure IsTranscribed (mapping : ModMapping) (transcript : List RenumberedLine) : Prop where
  isRead : ∀ line ∈ transcript, line.IsRead
  written_eq : ∀ before line after, transcript = before ++ line :: after →
    line.written = kept (before.filterMap (·.written))
      (mapping.draft line.toSurveyedLine (after.map (·.meaning)))

theorem filterMap_unwritten (lines : List RenumberedLine) :
    (lines.map (·.unwritten)).filterMap (·.written) = [] := by
  rw [List.filterMap_map, List.filterMap_eq_nil_iff]
  exact fun _ _ => rfl

theorem filterMap_cons_written (line : RenumberedLine) (rest : List RenumberedLine) :
    (line :: rest).filterMap (·.written) =
      line.written.toList ++ rest.filterMap (·.written) := by
  rw [List.filterMap_cons]
  cases line.written <;> rfl

theorem map_unwritten (lines : List RenumberedLine) :
    (lines.map (·.unwritten)).map (·.toSurveyedLine) = lines.map (·.toSurveyedLine) := by
  rw [List.map_map]
  rfl

namespace IsTranscribed

variable {mapping : ModMapping} {transcript before after : List RenumberedLine}
  {line : RenumberedLine}

theorem written_eq_none_iff (transcribed : IsTranscribed mapping transcript)
    (split : transcript = before ++ line :: after) :
    line.written = none ↔ line.meaning.isMetadata = true ∨
      isRedundant (before.filterMap (·.written)) line.line = true := by
  rw [transcribed.written_eq before line after split]
  exact kept_draft_eq_none_iff (transcribed.isRead line (by simp [split])) mapping _ _

/-- Whatever is written for a line was drafted for it. -/
theorem draft_eq (transcribed : IsTranscribed mapping transcript)
    (split : transcript = before ++ line :: after) {written : OutputLine}
    (isWritten : written ∈ line.written) :
    mapping.draft line.toSurveyedLine (after.map (·.meaning)) = some written := by
  have kept := transcribed.written_eq before line after split
  rw [Option.mem_def.1 isWritten] at kept
  exact (Option.filter_eq_some_iff.1 kept.symm).1

/-- What is written for a line can be taken for the line where lines are left out. -/
theorem similar_of_written (transcribed : IsTranscribed mapping transcript)
    (split : transcript = before ++ line :: after) {written : OutputLine}
    (isWritten : written ∈ line.written) :
    OutputLine.Similar { line := line.line } written := by
  have isRead := transcribed.isRead line (by simp [split])
  exact (isRead.lineEdit_of_draft (transcribed.draft_eq split isWritten)).similar isRead

/-- Blank lines are written as they are. -/
theorem change_eq_none_of_blank (transcribed : IsTranscribed mapping transcript)
    {written : OutputLine} (member : written ∈ transcript.filterMap (·.written))
    (blank : Text.isBlankText written.line = true) : written.change = none := by
  obtain ⟨line, inTranscript, isWritten⟩ := List.mem_filterMap.1 member
  obtain ⟨before, after, split⟩ := List.append_of_mem inTranscript
  have isRead := transcribed.isRead line inTranscript
  have edit := isRead.lineEdit_of_draft (transcribed.draft_eq split isWritten)
  rw [Option.eq_none_iff_forall_ne_some]
  intro change isChanged
  obtain ⟨number, isNumber, -⟩ := edit.argumentNumber?_of_change isRead isChanged
  cases (substantial_of_argumentNumber? isNumber).notBlank.symm.trans blank

/-- The numbers that are written have been read or assigned, and only those that have been assigned
may have too many digits. -/
theorem assigns_of_long (transcribed : IsTranscribed mapping transcript) :
    ∀ number ∈ (transcript.filterMap (·.written)).flatMap OutputLine.numbers,
      ¬ Text.Short number → mapping.Assigns number := by
  intro number isWritten
  obtain ⟨written, inOutput, isNumber⟩ := List.mem_flatMap.1 isWritten
  obtain ⟨line, inTranscript, isLine⟩ := List.mem_filterMap.1 inOutput
  obtain ⟨before, after, split⟩ := List.append_of_mem inTranscript
  have isRead := transcribed.isRead line inTranscript
  have isDraft := isRead.isDraft (transcribed.draft_eq split isLine)
  exact isDraft.assigns_of_long isRead number isNumber

/-- A line that has nothing but a blank line written for it is left out with that line. -/
theorem leftOut_of_blank (transcribed : IsTranscribed mapping transcript)
    (split : transcript = before ++ line :: after)
    (blank : ∀ written ∈ line.written, Text.isBlankText written.line = true)
    {outputBefore outputAfter : List OutputLine}
    (sameEnds : lastEnds (before.filterMap (·.written)) = lastEnds outputBefore)
    (atEnd : outputBefore = [] ∨ outputAfter = []) :
    line.meaning.isMetadata = true ∨ isLeftOut outputBefore line.line outputAfter = true := by
  cases isBlank : Text.isBlankText line.line with
  | true =>
      refine .inr ?_
      rw [isLeftOut, if_pos isBlank]
      rcases atEnd with rfl | rfl <;> simp
  | false =>
      have notWritten : line.written = none := by
        rw [Option.eq_none_iff_forall_not_mem]
        intro written isWritten
        have same := (transcribed.similar_of_written split isWritten).blank
        rw [blank written isWritten, isBlank] at same
        cases same
      refine ((transcribed.written_eq_none_iff split).1 notWritten).imp_right fun redundant => ?_
      rw [isRedundant, isBlank, if_neg Bool.false_ne_true, sameEnds] at redundant
      rw [isLeftOut, isBlank, if_neg Bool.false_ne_true, redundant]

/-- Between the ends, a line is left out if it repeats another or if it is a blank line that
would stand at an end. -/
theorem leftOut_iff_between (transcribed : IsTranscribed mapping transcript)
    {leading : List RenumberedLine} (split : transcript = leading ++ before ++ line :: after)
    {outputAfter : List OutputLine}
    (blank : ∀ written ∈ leading.filterMap (·.written), Text.isBlankText written.line = true)
    (first : ∀ written ∈ (before.filterMap (·.written) ++
      (line.written.toList ++ outputAfter)).head?, Text.isBlankText written.line = false)
    (last : ∀ written ∈ (before.filterMap (·.written) ++
      (line.written.toList ++ outputAfter)).getLast?, Text.isBlankText written.line = false) :
    line.written = none ↔ line.meaning.isMetadata = true ∨
      isLeftOut (before.filterMap (·.written)) line.line outputAfter = true := by
  have redundantIff := transcribed.written_eq_none_iff split
  rw [List.filterMap_append, isRedundant, lastEnds_append_left_of_blank _ blank] at redundantIff
  rw [isLeftOut]
  cases isBlank : Text.isBlankText line.line with
  | false => rwa [isBlank] at redundantIff
  | true =>
      -- A blank line at an end would have been taken off.
      have inside : ∀ written, line.written = some written →
          before.filterMap (·.written) ≠ [] ∧ outputAfter ≠ [] := by
        intro written isWritten
        have same := (transcribed.similar_of_written split isWritten).blank
        rw [isBlank] at same
        rw [isWritten] at first last
        refine ⟨fun nothing => ?_, fun nothing => ?_⟩
        · rw [nothing] at first
          cases (first written rfl).symm.trans same
        · rw [nothing] at last
          cases (last written (by simp)).symm.trans same
      by_cases atEnd : before.filterMap (·.written) = [] ∨ outputAfter = []
      · have notWritten : line.written = none := by
          rw [Option.eq_none_iff_forall_ne_some]
          intro written isWritten
          exact atEnd.elim (inside written isWritten).1 (inside written isWritten).2
        rcases atEnd with nothing | nothing <;> simp [notWritten, nothing]
      · obtain ⟨someBefore, someAfter⟩ := not_or.1 atEnd
        rw [isBlank, if_pos rfl, List.getLast?_append_of_ne_nil _ someBefore] at redundantIff
        rw [redundantIff, if_pos rfl, List.isEmpty_eq_false_iff.2 someBefore,
          List.isEmpty_eq_false_iff.2 someAfter, Bool.false_or, Bool.false_or]

/-- A line for which nothing but a blank line at an end was written. -/
theorem fits_unwritten (transcribed : IsTranscribed mapping transcript)
    (split : transcript = before ++ line :: after)
    (blank : ∀ written ∈ line.written, Text.isBlankText written.line = true)
    {trimmedBefore trimmedAfter : List RenumberedLine}
    (sameEnds : lastEnds (before.filterMap (·.written)) =
      lastEnds (trimmedBefore.filterMap (·.written)))
    (atEnd : trimmedBefore.filterMap (·.written) = [] ∨
      trimmedAfter.filterMap (·.written) = []) :
    line.unwritten.Fits mapping trimmedBefore trimmedAfter where
  leftOut_iff := iff_of_true rfl (transcribed.leftOut_of_blank split blank sameEnds atEnd)
  drafted _ isWritten := by cases isWritten

/-- Without the blank lines at the ends of what is written, each line is written as it is drafted
or left out. -/
theorem exists_trimmed (transcribed : IsTranscribed mapping transcript) :
    ∃ trimmed : List RenumberedLine,
      trimmed.map (·.toSurveyedLine) = transcript.map (·.toSurveyedLine) ∧
      trimmed.filterMap (·.written) = trimBlankLines (transcript.filterMap (·.written)) ∧
      ∀ before line after, trimmed = before ++ line :: after → line.Fits mapping before after := by
  obtain ⟨⟨front, back, whole, blank⟩, last⟩ :=
    trimBlankLines_spec (transcript.filterMap (·.written))
  have first := head?_trimBlankLines (transcript.filterMap (·.written))
  obtain ⟨others, trailing, split, outputOthers, outputTrailing⟩ :=
    List.filterMap_eq_append_iff.1 whole
  obtain ⟨leading, middle, rfl, rfl, outputMiddle⟩ :=
    List.filterMap_eq_append_iff.1 outputOthers
  rw [← outputMiddle] at first last
  subst outputTrailing
  have blankLeading : ∀ written ∈ leading.filterMap (·.written),
      Text.isBlankText written.line = true := fun written member =>
    blank written (List.mem_append_left _ member)
  have blankTrailing : ∀ written ∈ trailing.filterMap (·.written),
      Text.isBlankText written.line = true := fun written member =>
    blank written (List.mem_append_right _ member)
  refine ⟨leading.map (·.unwritten) ++ middle ++ trailing.map (·.unwritten), ?_, ?_, ?_⟩
  · simp only [split, List.map_append, map_unwritten]
  · simp only [List.filterMap_append, filterMap_unwritten, List.nil_append, List.append_nil,
      outputMiddle]
  · intro before line after same
    rcases exists_of_append_eq_append_cons same with ⟨rest, inFront, rfl⟩ | ⟨rest, rfl, inTrailing⟩
    · rcases exists_of_append_eq_append_cons inFront with
        ⟨rest, inLeading, rfl⟩ | ⟨before, rfl, rfl⟩
      · obtain ⟨before, later, rfl, rfl, isLater⟩ := List.map_eq_append_iff.1 inLeading
        obtain ⟨line, later, rfl, rfl, rfl⟩ := List.map_eq_cons_iff.1 isLater
        simp only [List.filterMap_append, List.mem_append] at blankLeading
        have splitHere : transcript = before ++ line :: (later ++ middle ++ trailing) := by
          simpa using split
        refine transcribed.fits_unwritten splitHere ?_ ?_ (.inl (filterMap_unwritten before))
        · exact fun written isWritten => blankLeading written 
            (.inr (List.mem_filterMap.2 ⟨line, List.mem_cons_self, isWritten⟩))
        · rw [filterMap_unwritten]
          exact lastEnds_append_of_blank [] fun written member => blankLeading written (.inl member)
      · rw [List.filterMap_append, filterMap_cons_written] at first last
        have splitHere : transcript = leading ++ before ++ line :: (rest ++ trailing) := by
          simpa using split
        have outputBefore : (leading.map (·.unwritten) ++ before).filterMap (·.written) =
            before.filterMap (·.written) := by
          rw [List.filterMap_append, filterMap_unwritten, List.nil_append]
        have outputAfter : (rest ++ trailing.map (·.unwritten)).filterMap (·.written) =
            rest.filterMap (·.written) := by
          rw [List.filterMap_append, filterMap_unwritten, List.append_nil]
        refine ⟨?_, fun written isWritten => ?_⟩
        · rw [outputBefore, outputAfter]
          exact transcribed.leftOut_iff_between splitHere blankLeading first last
        · have meanings : (rest ++ trailing.map (·.unwritten)).map (·.meaning) =
              (rest ++ trailing).map (·.meaning) := by
            simp [RenumberedLine.unwritten]
          rw [meanings]
          exact transcribed.draft_eq splitHere isWritten
    · obtain ⟨before, later, rfl, rfl, isLater⟩ := List.map_eq_append_iff.1 inTrailing
      obtain ⟨line, later, rfl, rfl, rfl⟩ := List.map_eq_cons_iff.1 isLater
      simp only [List.filterMap_append, List.mem_append] at blankTrailing
      have splitHere : transcript = leading ++ middle ++ before ++ line :: later := by
        simpa using split
      refine transcribed.fits_unwritten splitHere ?_ ?_ (.inr (filterMap_unwritten later))
      · exact fun written isWritten => blankTrailing written 
          (.inr (List.mem_filterMap.2 ⟨line, List.mem_cons_self, isWritten⟩))
      · rw [List.filterMap_append, lastEnds_append_of_blank _ fun written member =>
          blankTrailing written (.inl member), List.filterMap_append,
          lastEnds_append_left_of_blank _ blankLeading, List.filterMap_append,
          List.filterMap_append, filterMap_unwritten, filterMap_unwritten, List.append_nil,
          List.nil_append]

end IsTranscribed

/-- Without the blank lines at the ends, no number is lost, as no blank line has one. -/
theorem numbers_trimBlankLines {output : List OutputLine}
    (blank : ∀ written ∈ output, Text.isBlankText written.line = true → written.change = none) :
    (trimBlankLines output).flatMap OutputLine.numbers = output.flatMap OutputLine.numbers := by
  obtain ⟨⟨before, after, split, isBlank⟩, -⟩ := trimBlankLines_spec output
  have noNumbers : ∀ written ∈ before ++ after, written.numbers = [] := by
    intro written member
    have inOutput : written ∈ output := by
      rw [split, List.append_assoc, List.mem_append, List.mem_append]
      rw [List.mem_append] at member
      tauto
    rw [OutputLine.numbers, blank written inOutput (isBlank written member)]
    rfl
  conv_rhs => rw [split]
  rw [List.flatMap_append, List.flatMap_append,
    List.flatMap_eq_nil_iff.2 fun written member =>
      noNumbers written (List.mem_append_left after member),
    List.flatMap_eq_nil_iff.2 fun written member =>
      noNumbers written (List.mem_append_right before member),
    List.nil_append, List.append_nil]

/-! ### Whole mods -/

section

variable {mapping : ModMapping} {modName : String} {script : List Char}

/-- A script that can be read is read line by line. -/
theorem map_line_surveyedLines {definition : ModDefinition}
    (parsed : ModDefinition.parse modName script = .ok definition) :
    (surveyedLines modName script).map (·.line) =
      (scriptLines script).map fun line => Text.trimRight line.text := by
  obtain ⟨last, surveyed, -, -⟩ := ModDefinition.parse_eq_ok_iff.1 parsed
  exact Survey.map_line_readings surveyed

/-- A mod needs as many ids as its lines create content without one. -/
theorem nextImplicitIndex_of_parse {definition : ModDefinition}
    (parsed : ModDefinition.parse modName script = .ok definition) (type : EntityType) :
    definition.nextImplicitIndex type =
      (surveyedLines modName script).countP fun surveyed =>
        surveyed.meaning.createsUnnumbered type := by
  obtain ⟨last, surveyed, -, rfl⟩ := ModDefinition.parse_eq_ok_iff.1 parsed
  have counted := Survey.nextImplicitIndex_run surveyed type
  have nothingYet : ({ modName } : ModDefinition).nextImplicitIndex type = 0 := by
    rw [ModDefinition.nextImplicitIndex, EntityTable.get_uniform]
  rw [last.nextImplicitIndex_finish, counted, nothingYet, Nat.zero_add]
  rfl

theorem isTranscribed_transcribe (mapping : ModMapping) {survey : Survey}
    (consistent : survey.context.Consistent) (lines : List ScriptLine) :
    IsTranscribed mapping (mapping.transcribe [] (survey.readings lines)) where
  isRead line member := by
    have inReadings : line.toSurveyedLine ∈
        (mapping.transcribe [] (survey.readings lines)).map (·.toSurveyedLine) :=
      List.mem_map_of_mem member
    rw [mapping.map_transcribe] at inReadings
    exact Survey.isRead_of_mem_readings consistent inReadings
  written_eq _ _ _ split := ModMapping.written_of_transcribe split

theorem isTranscribed_surveyedLines (mapping : ModMapping) (modName : String)
    (script : List Char) :
    IsTranscribed mapping (mapping.transcribe [] (surveyedLines modName script)) :=
  isTranscribed_transcribe mapping ParseContext.consistent_initial (scriptLines script)

/-- What a mod becomes when it is renumbered: that is written, unless one of the numbers that are
put into its lines has too many digits, and then it is an id that the mapping assigns. -/
structure ModMapping.RenumbersTo (mapping : ModMapping) (modName : String) (script : List Char)
    (renumbered : RenumberedMod) : Prop where
  renumber_eq : mapping.renumber modName script = whenWritable renumbered.numbers renumbered
  assigns_of_long : ∀ number ∈ renumbered.numbers, ¬ Text.Short number → mapping.Assigns number

namespace ModMapping.RenumbersTo

variable {renumbered : RenumberedMod}

theorem eq_ok (renumbersTo : mapping.RenumbersTo modName script renumbered)
    (short : mapping.ShortIds) : mapping.renumber modName script = .ok renumbered := by
  rw [renumbersTo.renumber_eq, whenWritable_of_short]
  intro number isWritten
  by_contra long
  exact long (short number (renumbersTo.assigns_of_long number isWritten long))

/-- What is written, if renumbering is seen to write anything. -/
theorem eq_ok_of_isOk (renumbersTo : mapping.RenumbersTo modName script renumbered)
    (isOk : (mapping.renumber modName script).isOk = true) :
    mapping.renumber modName script = .ok renumbered := by
  obtain ⟨written, renumberEq⟩ := exists_eq_ok_of_isOk isOk
  obtain ⟨-, rfl⟩ := whenWritable_eq_ok_iff.1 (renumbersTo.renumber_eq.symm.trans renumberEq)
  exact renumberEq

end ModMapping.RenumbersTo

/-- What is written of a mod in the end is what is left of the drafts of its lines, without blank
lines at the ends. -/
theorem exists_renumbersTo_trimBlankLines {definition : ModDefinition}
    (parsed : ModDefinition.parse modName script = .ok definition)
    (provided : ∀ type, definition.nextImplicitIndex type ≤ (mapping.implicitIds type).length) :
    ∃ renumbered, mapping.RenumbersTo modName script renumbered ∧
      renumbered.output = trimBlankLines
        ((mapping.transcribe [] (surveyedLines modName script)).filterMap (·.written)) := by
  obtain ⟨last, surveyed, -, rfl⟩ := ModDefinition.parse_eq_ok_iff.1 parsed
  obtain ⟨renumbering, ran, inStep, settled⟩ :=
    (Renumbering.InStep.initial modName mapping).exists_run surveyed
      fun type => last.nextImplicitIndex_finish type ▸ provided type
  obtain ⟨context, output, finishedEq, -, outputEq⟩ := inStep.exists_finished
  have nothingYet : ∀ meanings,
      ({ modName, mapping } : Renumbering).settled meanings = [] := fun _ => rfl
  rw [nothingYet, List.nil_append] at settled
  have written : output.toList =
      (mapping.transcribe [] (surveyedLines modName script)).filterMap (·.written) :=
    outputEq.trans settled
  have trimmed : renumbering.finish.output = trimBlankLines output.toList := by
    rw [Renumbering.finish, finishedEq]
  have transcribed := isTranscribed_surveyedLines mapping modName script
  have sameNumbers : renumbering.finish.numbers = output.toList.flatMap OutputLine.numbers := by
    rw [RenumberedMod.numbers, trimmed, numbers_trimBlankLines]
    exact written ▸ fun _ => transcribed.change_eq_none_of_blank
  refine ⟨renumbering.finish, ⟨?_, ?_⟩, by rw [trimmed, written]⟩
  · rw [renumber_of_passAll ran, Renumbering.numbers, finishedEq, sameNumbers]
  · rw [sameNumbers, written]
    exact transcribed.assigns_of_long

/-- A mod that can be read, renumbered with a mapping that has enough ids for it, has a transcript
in which each line is written as it was drafted or left out. -/
theorem exists_transcript {definition : ModDefinition}
    (parsed : ModDefinition.parse modName script = .ok definition)
    (provided : ∀ type, definition.nextImplicitIndex type ≤ (mapping.implicitIds type).length) :
    ∃ renumbered transcript, mapping.RenumbersTo modName script renumbered ∧
      IsTranscript transcript modName script renumbered ∧ EachFits mapping transcript := by
  obtain ⟨renumbered, renumbersTo, output⟩ := exists_renumbersTo_trimBlankLines parsed provided
  have transcribed := isTranscribed_surveyedLines mapping modName script
  obtain ⟨trimmed, sameLines, sameOutput, fits⟩ := transcribed.exists_trimmed
  refine ⟨renumbered, trimmed, renumbersTo, ⟨?_, ?_, ?_⟩, fun before line after split => ⟨?_, ?_⟩⟩
  · rw [sameLines, mapping.map_transcribe]
  · rw [sameOutput, output]
  · exact fun before line after split => (fits before line after split).leftOut_iff
  · have member : line.toSurveyedLine ∈ trimmed.map (·.toSurveyedLine) :=
      List.mem_map_of_mem (by simp [split])
    rw [sameLines] at member
    obtain ⟨same, inTranscript, isSame⟩ := List.mem_map.1 member
    exact isSame ▸ transcribed.isRead same inTranscript
  · exact fits before line after split

/-- A mod that can be read is renumbered with a mapping that has enough ids for it. -/
theorem exists_renumbersTo {definition : ModDefinition}
    (parsed : ModDefinition.parse modName script = .ok definition)
    (provided : ∀ type, definition.nextImplicitIndex type ≤ (mapping.implicitIds type).length) :
    ∃ renumbered, mapping.RenumbersTo modName script renumbered := by
  obtain ⟨renumbered, renumbersTo, -⟩ := exists_renumbersTo_trimBlankLines parsed provided
  exact ⟨renumbered, renumbersTo⟩

end

end ModMerge
