import ModMerge.Proofs.Mod.RefusedScripts
import ModMerge.Proofs.Mod.Rereading
import ModMerge.Proofs.Script.CommentedLines

/-!
# Scripts with a comment behind a line

A comment behind a line whose quotes are even makes no difference to what a mod defines, unless the
line begins a description and the quotes of the comment are odd: then the description goes on with
the next line.
-/

namespace ModMerge

theorem normalizeLine_append (first : Bool) (line comment : Line) :
    normalizeLine first (line ++ trailingComment comment) =
      normalizeLine first line ++ trailingComment (comment.map correctChar) := by
  have corrected : (trailingComment comment).map correctChar =
      trailingComment (comment.map correctChar) := by
    rw [trailingComment, List.map_append]
    rfl
  cases line with
  | nil =>
      have unmarked : Unmarked (trailingComment comment) := by
        simp [Unmarked, trailingComment, byteOrderMark]
      rw [List.nil_append, normalizeLine_of_unmarked first unmarked, corrected]
      rfl
  | cons character rest =>
      simp only [normalizeLine, List.cons_append]
      split
      · rw [List.map_append, corrected]
      · rw [← List.cons_append, List.map_append, corrected]

/-- A line of a script with a comment behind it. -/
def ScriptLine.withComment (line : ScriptLine) (comment : Line) : ScriptLine :=
  { line with
    raw := line.raw ++ trailingComment comment
    text := line.text ++ trailingComment (comment.map correctChar) }

theorem scriptLines_appendToLine {script comment : List Char} {index : Nat}
    (unbroken : Text.Unbroken comment) (isLine : index < (scriptLines script).length) :
    scriptLines (Text.appendToLine (trailingComment comment) index script) =
      (scriptLines script).modify index (·.withComment comment) := by
  have wholeUnbroken : Text.Unbroken (trailingComment comment) :=
    Text.Unbroken.append (by decide) unbroken
  rw [scriptLines, List.length_mapIdx] at isLine
  rw [scriptLines, Text.lines_appendToLine wholeUnbroken isLine]
  apply List.ext_getElem?
  intro position
  simp only [scriptLines, List.getElem?_mapIdx, List.getElem?_modify]
  cases (Text.lines script)[position]? with
  | none => rfl
  | some raw =>
      by_cases same : index = position
      · simp [same, ScriptLine.withComment, normalizeLine_append]
      · simp [same]

namespace Survey

variable {survey next last : Survey}

theorem step_withComment {line : ScriptLine} {comment : Line}
    (closed : hasOpenQuote line.text = false)
    (noLineFeed : '\n' ∉ line.text ++ comment.map correctChar)
    (inert : survey.context.state = .inDescription ∨ beginsDescription line.text = false ∨
      hasOpenQuote (comment.map correctChar) = false)
    (stepped : survey.step line = .ok next) :
    survey.step (line.withComment comment) = .ok next := by
  obtain ⟨classified, read, advanced⟩ := step_eq_ok_iff.1 stepped
  obtain ⟨commented, isRead, sameMeaning⟩ := classify_append_trailingComment closed noLineFeed
    (inert.imp_left inDescription_iff.2) read
  refine step_eq_ok_iff.2 ⟨commented, isRead, ?_⟩
  rcases sameMeaning with same | ⟨isBlank, isComment⟩
  · rw [same]
    exact advanced
  · rw [isBlank] at advanced
    rw [isComment]
    exact advanced

end Survey

/-- A script that can be read defines the same with a comment behind one of its lines, if the quotes
of the line are even. Only a line that begins a description, and a comment whose quotes are odd,
are excepted: with them the description goes on behind the line. -/
theorem parse_appendToLine {modName : String} {script comment : List Char} {index : Nat}
    {line : ScriptLine} {definition : ModDefinition}
    (parsed : ModDefinition.parse modName script = .ok definition)
    (isLine : (scriptLines script)[index]? = some line) (closed : hasOpenQuote line.text = false)
    (unbroken : Text.Unbroken comment) :
    (ParseState.idle.pastAll ((scriptLines script).take index) = .inDescription ∨
        beginsDescription line.text = false ∨ hasOpenQuote (comment.map correctChar) = false →
      ModDefinition.parse modName (Text.appendToLine (trailingComment comment) index script) =
        .ok definition) ∧
    (ParseState.idle.pastAll ((scriptLines script).take index) ≠ .inDescription →
      beginsDescription line.text = true → hasOpenQuote (comment.map correctChar) = true →
      ParseState.idle.pastAll ((scriptLines
        (Text.appendToLine (trailingComment comment) index script)).take (index + 1)) =
          .inDescription) := by
  obtain ⟨isIndex, rfl⟩ := List.getElem?_eq_some_iff.1 isLine
  have split : scriptLines script = (scriptLines script).take index ++
      (scriptLines script)[index] :: (scriptLines script).drop (index + 1) := by
    rw [← List.drop_eq_getElem_cons isIndex, List.take_append_drop]
  have commentedSplit : scriptLines (Text.appendToLine (trailingComment comment) index script) =
      (scriptLines script).take index ++ (scriptLines script)[index].withComment comment ::
        (scriptLines script).drop (index + 1) := by
    rw [scriptLines_appendToLine unbroken isIndex, List.modify_eq_take_cons_drop isIndex]
  have noLineFeed : '\n' ∉ (scriptLines script)[index].text ++ comment.map correctChar := by
    intro member
    rcases List.mem_append.1 member with inLine | inComment
    · have keeps := (plain_of_mem_scriptLines (List.getElem_mem isIndex)).unbroken _ inLine
      exact absurd keeps (by decide)
    · obtain ⟨character, given, isLineFeed⟩ := List.mem_map.1 inComment
      have keeps := (plain_correctChar (unbroken character given)).1
      rw [isLineFeed] at keeps
      exact absurd keeps (by decide)
  refine ⟨fun inert => ?_, fun outside begins odd => ?_⟩
  · obtain ⟨last, surveyed, notOpen, rfl⟩ := ModDefinition.parse_eq_ok_iff.1 parsed
    rw [Survey.ofScript, split] at surveyed
    obtain ⟨middle, front, remaining⟩ := Survey.run_append_eq_ok.1 surveyed
    obtain ⟨next, stepped, back⟩ := Survey.run_cons_eq_ok.1 remaining
    rw [← (Survey.state_run front).2] at inert
    have steppedToo := Survey.step_withComment closed noLineFeed inert stepped
    refine ModDefinition.parse_eq_ok_iff.2 ⟨last, ?_, notOpen, rfl⟩
    rw [Survey.ofScript, commentedSplit]
    exact Survey.run_append_eq_ok.2
      ⟨middle, front, Survey.run_cons_eq_ok.2 ⟨next, steppedToo, back⟩⟩
  · have untilLine : (scriptLines (Text.appendToLine (trailingComment comment) index script)).take
        (index + 1) = (scriptLines script).take index ++
          [(scriptLines script)[index].withComment comment] := by
      rw [commentedSplit, List.take_append, List.take_take,
        List.length_take_of_le (Nat.le_of_lt isIndex)]
      simp
    rw [untilLine, ParseState.pastAll_append]
    have opens := opensDescription_append_trailingComment closed noLineFeed begins
    rw [odd] at opens
    exact (if_neg outside).trans (if_pos opens)

/-- A mod that describes itself in one line. -/
def describedScript : List Char :=
  "#description \"All on one line\"\n#newmonster 5000\n#end".toList

theorem parse_appendToLine_describedScript : ∃ definition line,
    ModDefinition.parse "Abysia" describedScript = .ok definition ∧
      (scriptLines describedScript)[1]? = some line ∧ hasOpenQuote line.text = false ∧
      Text.Unbroken "say \"5".toList ∧
      ModDefinition.parse "Abysia"
        (Text.appendToLine (trailingComment "say \"5".toList) 1 describedScript) =
          .ok definition := by
  obtain ⟨definition, parsed⟩ : ∃ definition,
      ModDefinition.parse "Abysia" describedScript = .ok definition :=
    exists_eq_ok_of_isOk (by decide +kernel)
  have isLine : (scriptLines describedScript)[1]? =
      some ⟨2, "#newmonster 5000".toList, "#newmonster 5000".toList⟩ := by
    decide +kernel
  have unbroken : Text.Unbroken "say \"5".toList := by decide +kernel
  exact ⟨definition, _, parsed, isLine, by decide +kernel, unbroken,
    (parse_appendToLine parsed isLine (by decide +kernel) unbroken).1
      (.inr (.inl (by decide +kernel)))⟩

/-- A comment with one quote behind the line that describes the mod keeps it from being read. -/
theorem not_parse_appendToLine_describedScript :
    ¬ ∀ (modName : String) (script comment : List Char) (index : Nat) (line : ScriptLine)
      (definition : ModDefinition), ModDefinition.parse modName script = .ok definition →
      (scriptLines script)[index]? = some line → hasOpenQuote line.text = false →
      Text.Unbroken comment →
      ModDefinition.parse modName (Text.appendToLine (trailingComment comment) index script) =
        .ok definition := by
  intro inert
  obtain ⟨definition, parsed⟩ : ∃ definition,
      ModDefinition.parse "Abysia" describedScript = .ok definition :=
    exists_eq_ok_of_isOk (by decide +kernel)
  have isLine : (scriptLines describedScript)[0]? =
      some ⟨1, "#description \"All on one line\"".toList,
        "#description \"All on one line\"".toList⟩ := by
    decide +kernel
  have read := inert "Abysia" describedScript "say \"hi".toList 0 _ definition parsed isLine
    (by decide +kernel) (by decide +kernel)
  have refused : (ModDefinition.parse "Abysia"
      (Text.appendToLine (trailingComment "say \"hi".toList) 0 describedScript)).isOk = false := by
    decide +kernel
  rw [read] at refused
  cases refused

end ModMerge
