import ModMerge.Proofs.Mod.Transcripts

/-!
# Lines that repeat no others

What has been written holds no line that would be left out if it were written again
(`Unrepeated`), and neither do its lines together with the comments on those that changed.
-/

namespace ModMerge

/-- No line repeats what stands before it: a blank line another, or the end of a block the end of
one. -/
def Unrepeated (output : List OutputLine) : Prop :=
  ∀ before written after, output = before ++ written :: after →
    isRedundant before written.line = false

/-- There are no blank lines at the ends and no two in a row, and between two ends of blocks there
is more than blank lines. -/
structure Tidy (lines : List Line) : Prop where
  first : ∀ line ∈ lines.head?, Text.isBlankText line = false
  last : ∀ line ∈ lines.getLast?, Text.isBlankText line = false
  blanksApart : ∀ before first second after, lines = before ++ first :: second :: after →
    Text.isBlankText first = true → Text.isBlankText second = false
  endsApart : ∀ before first blanks second after,
    lines = before ++ first :: (blanks ++ second :: after) →
    (∀ line ∈ blanks, Text.isBlankText line = true) →
    isEndLine first = true → isEndLine second = false

/-- The lines as they are written when none of them changes. -/
def unchangedLines (lines : List Line) : List OutputLine :=
  lines.map fun line => { line }

theorem unchangedLines_append (front back : List Line) :
    unchangedLines (front ++ back) = unchangedLines front ++ unchangedLines back :=
  List.map_append

section

variable {mapping : ModMapping} {transcript : List RenumberedLine}
  {output front back : List OutputLine} {written : OutputLine}

theorem isRedundant_concat (output : List OutputLine) (written : OutputLine) (line : Line) :
    isRedundant (output ++ [written]) line =
      if Text.isBlankText line then Text.isBlankText written.line
      else isEndLine line &&
        if Text.isBlankText written.line then lastEnds output else isEndLine written.line := by
  rw [isRedundant, List.getLast?_concat, lastEnds_concat, Option.any_some]

/-! ### What is written -/

/-- What is left of the drafts repeats nothing. -/
theorem IsTranscribed.unrepeated (transcribed : IsTranscribed mapping transcript) :
    Unrepeated (transcript.filterMap (·.written)) := by
  intro before written after split
  obtain ⟨first, rest, rfl, isBefore, isRest⟩ := List.filterMap_eq_append_iff.1 split
  obtain ⟨skipped, line, later, rfl, unwritten, isWritten, -⟩ :=
    List.filterMap_eq_cons_iff.1 isRest
  have kept := transcribed.written_eq (first ++ skipped) line later (by simp)
  rw [List.filterMap_append, List.filterMap_eq_nil_iff.2 unwritten, List.append_nil, isBefore,
    isWritten] at kept
  simpa using (Option.filter_eq_some_iff.1 kept.symm).2

/-- Without blank lines before them, lines repeat no more than with them. -/
theorem Unrepeated.of_blanks (unrepeated : Unrepeated (front ++ output ++ back))
    (blank : ∀ written ∈ front, Text.isBlankText written.line = true) : Unrepeated output := by
  rintro before written after rfl
  have notRedundant := unrepeated (front ++ before) written (after ++ back) (by simp)
  rw [isRedundant, lastEnds_append_left_of_blank _ blank] at notRedundant
  rw [isRedundant]
  split at notRedundant
  · next isBlank =>
      rw [if_pos isBlank]
      cases before with
      | nil => rfl
      | cons first others => rwa [List.getLast?_append_of_ne_nil _ (List.cons_ne_nil _ _)]
          at notRedundant
  · next notBlank => rwa [if_neg notBlank]

theorem unrepeated_trimBlankLines (unrepeated : Unrepeated output) :
    Unrepeated (trimBlankLines output) := by
  obtain ⟨⟨before, after, whole, blank⟩, -⟩ := trimBlankLines_spec output
  rw [whole] at unrepeated
  exact unrepeated.of_blanks fun written member => blank written (List.mem_append_left _ member)

theorem unrepeated_concat (unrepeated : Unrepeated output)
    (notRedundant : isRedundant output written.line = false) :
    Unrepeated (output ++ [written]) := by
  intro before other after split
  rcases List.eq_nil_or_concat' after with rfl | ⟨others, last, rfl⟩
  · obtain ⟨rfl, same⟩ := List.append_inj' split rfl
    obtain rfl := List.cons.inj same |>.1
    exact notRedundant
  · rw [← List.cons_append, ← List.append_assoc] at split
    obtain ⟨rfl, -⟩ := List.append_inj' split rfl
    exact unrepeated before other others rfl

theorem Unrepeated.of_concat (unrepeated : Unrepeated (output ++ [written])) :
    Unrepeated output ∧ isRedundant output written.line = false := by
  refine ⟨?_, unrepeated output written [] rfl⟩
  rintro before other after rfl
  exact unrepeated before other (after ++ [written]) (by simp)

/-! ### What is written, with its comments -/

/-- A comment is neither blank nor the end of a block. -/
theorem substantial_comment {indent : Line} (blank : Text.AllBlank indent) (comment : String) :
    Substantial (indent ++ (commentMark ++ " " ++ comment).toList) := by
  obtain ⟨rest, isComment⟩ := toList_commentMark comment
  rw [isComment]
  exact substantial_of_reads (reads_comment false blank) (by simp) (by simp)

/-- A line is written last of what is written for it, and after a comment only if it changed. -/
theorem OutputLine.unchangedLines_render (written : OutputLine) :
    (written.change = none ∧ unchangedLines written.render = [{ line := written.line }]) ∨
      ∃ comment, written.change ≠ none ∧ Substantial comment.line ∧
        unchangedLines written.render = [comment] ++ [{ line := written.line }] := by
  rw [render]
  cases written.change with
  | none => exact .inl ⟨rfl, rfl⟩
  | some change =>
      exact .inr ⟨_, by simp, substantial_comment (Text.allBlank_leadingBlanks written.line)
        change.comment, rfl⟩

/-- Comments do not bear on what would be left out. -/
theorem isRedundant_render
    (notBlank : ∀ written ∈ output, Text.isBlankText written.line = true → written.change = none) :
    lastEnds (unchangedLines (output.flatMap OutputLine.render)) = lastEnds output ∧
      ∀ line, isRedundant (unchangedLines (output.flatMap OutputLine.render)) line =
        isRedundant output line := by
  induction output using List.reverseRecOn with
  | nil => exact ⟨rfl, fun _ => rfl⟩
  | append_singleton output written inductionHypothesis =>
      have sameEnds := (inductionHypothesis fun other member =>
        notBlank other (List.mem_append_left _ member)).1
      have ifBlank := notBlank written (List.mem_append_right _ List.mem_cons_self)
      simp only [List.flatMap_append, List.flatMap_singleton, unchangedLines_append,
        isRedundant_concat, lastEnds_concat]
      rcases written.unchangedLines_render with ⟨-, rendered⟩ | ⟨comment, changed, -, rendered⟩
      · simp only [rendered, isRedundant_concat, lastEnds_concat, sameEnds, implies_true, and_self]
      · have notBlank : Text.isBlankText written.line = false := by
          rw [← Bool.not_eq_true]
          exact fun blank => changed (ifBlank blank)
        simp only [rendered, ← List.append_assoc, isRedundant_concat, lastEnds_concat, notBlank,
          Bool.false_eq_true, if_false, implies_true, and_self]

/-- A line that follows a comment repeats nothing, and neither does the comment. -/
theorem unrepeated_render (unrepeated : Unrepeated output)
    (notBlank : ∀ written ∈ output, Text.isBlankText written.line = true → written.change = none) :
    Unrepeated (unchangedLines (output.flatMap OutputLine.render)) := by
  induction output using List.reverseRecOn with
  | nil => exact unrepeated
  | append_singleton output written inductionHypothesis =>
      obtain ⟨unrepeatedFront, notRedundant⟩ := unrepeated.of_concat
      have notBlankFront := fun other member => notBlank other (List.mem_append_left _ member)
      have ifBlank := notBlank written (List.mem_append_right _ List.mem_cons_self)
      have rendered := inductionHypothesis unrepeatedFront notBlankFront
      rw [List.flatMap_append, List.flatMap_singleton, unchangedLines_append]
      rcases written.unchangedLines_render with ⟨-, renderEq⟩ | ⟨comment, changed, substantial,
        renderEq⟩
      · rw [renderEq]
        refine unrepeated_concat rendered ?_
        rw [(isRedundant_render notBlankFront).2, notRedundant]
      · rw [renderEq, ← List.append_assoc]
        refine unrepeated_concat
          (unrepeated_concat rendered (substantial.isRedundant_eq_false _)) ?_
        rw [isRedundant_concat, substantial.notBlank, substantial.notEnd]
        split
        · rfl
        · simp

/-! ### Tidy lines -/

theorem tidy_of_unrepeated {lines : List Line} (unrepeated : Unrepeated (unchangedLines lines))
    (first : ∀ line ∈ lines.head?, Text.isBlankText line = false)
    (last : ∀ line ∈ lines.getLast?, Text.isBlankText line = false) : Tidy lines where
  first := first
  last := last
  blanksApart := by
    rintro before one other after rfl isBlank
    rw [← Bool.not_eq_true]
    intro otherBlank
    have notRedundant := unrepeated (unchangedLines before ++ [{ line := one }]) { line := other }
      (unchangedLines after) (by simp [unchangedLines])
    rw [isRedundant_concat, if_pos otherBlank, isBlank] at notRedundant
    cases notRedundant
  endsApart := by
    rintro before one blanks other after rfl areBlank isEnd
    rw [← Bool.not_eq_true]
    intro otherEnd
    have notBlank : ∀ {line : Line}, isEndLine line = true → Text.isBlankText line = false := by
      intro line isEnd
      exact isBlankText_of_reads (reads_blockEnd false isEnd) (by simp)
    have endsBefore : lastEnds (unchangedLines before ++ [{ line := one }] ++
        unchangedLines blanks) = true := by
      rw [lastEnds_append_of_blank, lastEnds_concat, notBlank isEnd, if_neg Bool.false_ne_true]
      · exact isEnd
      · intro written member
        obtain ⟨line, inBlanks, rfl⟩ := List.mem_map.1 member
        exact areBlank line inBlanks
    have notRedundant := unrepeated
      (unchangedLines before ++ [{ line := one }] ++ unchangedLines blanks) { line := other }
      (unchangedLines after) (by simp [unchangedLines])
    rw [isRedundant, notBlank otherEnd, if_neg Bool.false_ne_true, otherEnd, endsBefore]
      at notRedundant
    cases notRedundant

theorem tidy_render (unrepeated : Unrepeated output)
    (notBlank : ∀ written ∈ output, Text.isBlankText written.line = true → written.change = none)
    (first : ∀ written ∈ output.head?, Text.isBlankText written.line = false)
    (last : ∀ written ∈ output.getLast?, Text.isBlankText written.line = false) :
    Tidy (output.flatMap OutputLine.render) := by
  refine tidy_of_unrepeated (unrepeated_render unrepeated notBlank) (fun line isFirst => ?_)
    fun line isLast => ?_
  · cases output with
    | nil => cases isFirst
    | cons written rest =>
        rw [List.flatMap_cons, OutputLine.render] at isFirst
        split at isFirst
        · next change _ =>
            obtain rfl := Option.some.inj isFirst
            exact (substantial_comment (Text.allBlank_leadingBlanks written.line)
              change.comment).notBlank
        · obtain rfl := Option.some.inj isFirst
          exact first written rfl
  · rcases List.eq_nil_or_concat' output with rfl | ⟨rest, written, rfl⟩
    · cases isLast
    · have notBlankLast := last written (by simp)
      rw [List.flatMap_append, List.flatMap_singleton, OutputLine.render] at isLast
      split at isLast
      · rw [List.append_cons, List.getLast?_concat] at isLast
        exact Option.some.inj isLast ▸ notBlankLast
      · rw [List.getLast?_concat] at isLast
        exact Option.some.inj isLast ▸ notBlankLast

/-- There is nothing to take off lines that do not begin or end with blank ones. -/
theorem trimBlankLines_eq_self
    (first : ∀ written ∈ output.head?, Text.isBlankText written.line = false)
    (last : ∀ written ∈ output.getLast?, Text.isBlankText written.line = false) :
    trimBlankLines output = output := by
  have dropNone : ∀ {lines : List OutputLine},
      (∀ written ∈ lines.head?, Text.isBlankText written.line = false) →
      lines.dropWhile (fun written => Text.isBlankText written.line) = lines := by
    rintro (_ | ⟨first, rest⟩) notBlank
    · rfl
    · rw [List.dropWhile_cons_of_neg (by simp [notBlank first rfl])]
  simp only [trimBlankLines]
  rw [dropNone first, dropNone, List.reverse_reverse]
  rwa [List.head?_reverse]

end

end ModMerge
