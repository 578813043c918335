import ModMerge.Proofs.Mod.Transcripts

/-!
# Renumbering changes nothing else

Every line of a renumbered mod is a line of the mod, in the same order. It stays as it is, or
it has a number of its own that is another and a comment before it, with the same indentation.
-/

namespace ModMerge

/-- What is written for a line is the line alone; if the line changes, it follows a comment with
its indentation. -/
def OutputLine.IsMarkedEdit (written : OutputLine) (line : Line) : Prop :=
  match written.change with
  | none => written.line = line ∧ written.render = [line]
  | some change =>
      written.line ≠ line ∧ Text.leadingBlanks written.line = Text.leadingBlanks line ∧
        written.render =
          [Text.leadingBlanks line ++ (commentMark ++ " " ++ change.comment).toList,
            written.line]

theorem LineEdit.isMarkedEdit {mapping : ModMapping} {surveyed : SurveyedLine}
    {written : OutputLine} (edit : LineEdit mapping surveyed written)
    (isRead : surveyed.IsRead) : written.IsMarkedEdit surveyed.line := by
  have unchangedIff := edit.change_eq_none_iff isRead
  rw [OutputLine.IsMarkedEdit]
  cases isChanged : written.change with
  | none =>
      have same := unchangedIff.1 isChanged
      exact ⟨same, by rw [OutputLine.render, isChanged, same]⟩
  | some change =>
      refine ⟨fun same => ?_, edit.leadingBlanks_eq, ?_⟩
      · cases isChanged.symm.trans (unchangedIff.2 same)
      · rw [OutputLine.render, isChanged, edit.leadingBlanks_eq]

/-- A mod that can be read, renumbered with a mapping that has enough ids for it, keeps its lines
in their order, apart from those about the mod itself and those that repeat another or are blank
at an end. Each of the lines stays as it is or is edited and marked. -/
theorem lines_kept_or_edited {mapping : ModMapping} {modName : String} {script : List Char}
    {definition : ModDefinition} (parsed : ModDefinition.parse modName script = .ok definition)
    (provided : ∀ type, definition.nextImplicitIndex type ≤ (mapping.implicitIds type).length) :
    ∃ renumbered transcript, mapping.RenumbersTo modName script renumbered ∧
      IsTranscript transcript modName script renumbered ∧
      transcript.map (·.line) = (scriptLines script).map (fun line => Text.trimRight line.text) ∧
      renumbered.lines =
        transcript.flatMap (fun line => line.written.toList.flatMap OutputLine.render) ∧
      ∀ line ∈ transcript, ∀ written ∈ line.written,
        LineEdit mapping line.toSurveyedLine written ∧ written.IsMarkedEdit line.line := by
  obtain ⟨renumbered, transcript, renumbersTo, isTranscript, fits⟩ :=
    exists_transcript parsed provided
  refine ⟨renumbered, transcript, renumbersTo, isTranscript, ?_, ?_,
    fun line member written isWritten => ?_⟩
  · rw [← map_line_surveyedLines parsed, ← isTranscript.reads, List.map_map]
    rfl
  · rw [RenumberedMod.lines, ← isTranscript.writes, List.filterMap_eq_flatMap_toList,
      List.flatMap_assoc]
  · obtain ⟨before, after, split⟩ := List.append_of_mem member
    obtain ⟨isRead, lineFits⟩ := fits before line after split
    have edit := isRead.lineEdit_of_draft (lineFits.drafted written isWritten)
    exact ⟨edit, edit.isMarkedEdit isRead⟩

/-- A mod with an id-less monster, two damage lines of one spell, and lines to be left out. -/
def scoutScript : List Char :=
  "#modname \"Scouts\"\n\n#newmonster\n#name \"Scout\"\n#end\n#end\n\n\n#newspell 2000\n  #damage 5000 -- scouts\n#effect 1\n#end\n\n".toList

/-- A monster of the mod moves, and another one is given an id. -/
def scoutMapping : ModMapping :=
  (({ modName := "Scouts" } : ModMapping).recordRemap .monster 5000 13500).recordImplicit
    .monster 13501

/-- Whether a mod can be read and a mapping has enough ids for it can be computed. -/
theorem exists_parse_of_any {mapping : ModMapping} {modName : String} {script : List Char}
    (enough : (ModDefinition.parse modName script).toOption.any (fun definition =>
      EntityType.all.all fun type =>
        decide (definition.nextImplicitIndex type ≤ (mapping.implicitIds type).length)) = true) :
    ∃ definition, ModDefinition.parse modName script = .ok definition ∧
      ∀ type, definition.nextImplicitIndex type ≤ (mapping.implicitIds type).length := by
  obtain ⟨definition, isParsed, eachEnough⟩ := (Option.any_eq_true _ _).1 enough
  refine ⟨definition, ?_, fun type => ?_⟩
  · cases parsed : ModDefinition.parse modName script with
    | error error => rw [parsed] at isParsed; cases isParsed
    | ok same => rw [parsed] at isParsed; rw [Option.some.inj isParsed]
  · exact of_decide_eq_true (List.all_eq_true.1 eachEnough type type.mem_all)

theorem exists_parse_scoutScript : ∃ definition,
    ModDefinition.parse "Scouts" scoutScript = .ok definition ∧
      ∀ type, definition.nextImplicitIndex type ≤ (scoutMapping.implicitIds type).length :=
  exists_parse_of_any (by decide +kernel)

theorem lines_kept_or_edited_scoutScript :
    ∃ definition, ModDefinition.parse "Scouts" scoutScript = .ok definition ∧
      (∀ type, definition.nextImplicitIndex type ≤ (scoutMapping.implicitIds type).length) ∧
      ∃ renumbered transcript, scoutMapping.renumber "Scouts" scoutScript = .ok renumbered ∧
        IsTranscript transcript "Scouts" scoutScript renumbered ∧
        transcript.map (·.line) =
          (scriptLines scoutScript).map (fun line => Text.trimRight line.text) ∧
        renumbered.lines =
          transcript.flatMap (fun line => line.written.toList.flatMap OutputLine.render) ∧
        ∀ line ∈ transcript, ∀ written ∈ line.written,
          LineEdit scoutMapping line.toSurveyedLine written ∧ written.IsMarkedEdit line.line := by
  obtain ⟨definition, parsed, provided⟩ := exists_parse_scoutScript
  obtain ⟨renumbered, transcript, renumbersTo, edited⟩ := lines_kept_or_edited parsed provided
  exact ⟨definition, parsed, provided, renumbered, transcript,
    renumbersTo.eq_ok_of_isOk (by decide +kernel), edited⟩

end ModMerge
