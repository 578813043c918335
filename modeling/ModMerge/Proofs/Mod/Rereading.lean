import ModMerge.Proofs.Mod.LockstepRuns
import ModMerge.Proofs.Mod.WrittenNumbers

/-!
# Reading a renumbered mod

Renumbering a mod succeeds wherever a survey of it does. The lines that it writes lead a
survey, from wherever that begins outside of descriptions and spell blocks, to what the mod
defines with every id where it has moved to.
-/

namespace ModMerge

/-- The survey of a whole script, with the last block still open if it has no end. -/
def Survey.ofScript (modName : String) (script : List Char) : Except ModParseError Survey :=
  Survey.run { definition := { modName } } (scriptLines script)

/-- Whether a script ends in a spell block that it does not close. -/
def leavesSpellOpen (modName : String) (script : List Char) : Bool :=
  match Survey.ofScript modName script with
  | .ok last => last.context.inSpellBlock
  | .error _ => false

/-- What a script defines is found by a survey that ends outside of descriptions. -/
theorem ModDefinition.parse_eq_ok_iff {modName : String} {script : List Char}
    {definition : ModDefinition} :
    ModDefinition.parse modName script = .ok definition ↔
      ∃ last, Survey.ofScript modName script = .ok last ∧
        last.context.openDescriptionLine? = none ∧ last.finish = definition := by
  rw [ModDefinition.parse, bind_eq_ok]
  refine exists_congr fun last => and_congr_right fun _ => ?_
  cases last.context.openDescriptionLine? with
  | none => simp
  | some number => simp

theorem Survey.consistent_of_ofScript {modName : String} {script : List Char} {last : Survey}
    (surveyed : Survey.ofScript modName script = .ok last) : last.context.Consistent :=
  Survey.consistent_run ParseContext.consistent_initial surveyed

/-! ### The end of a survey -/

/-- The parts of definitions that are compared when a mod is read again. -/
structure ModDefinition.SameContent (first second : ModDefinition) : Prop where
  entities : second.entities = first.entities
  references : second.references = first.references
  names : second.names = first.names

namespace Survey

variable {survey read start : Survey} {mapping : ModMapping}

/-- Ending a survey closes the block that is open. -/
theorem sameContent_finish (consistent : survey.context.Consistent) :
    survey.finish.SameContent survey.closeBlock.definition := by
  cases open_ : survey.context.blockLine with
  | none =>
      have outside : survey.context.state ≠ .inSpellBlock := by
        intro inside
        have isSome := consistent.spell_blockLine inside
        rw [open_] at isSome
        cases isSome
      have unchanged : survey.closeBlock.definition = survey.finish := by
        simp only [Survey.finish, Survey.closeBlock, open_, consistent.spell_eq_none outside]
      rw [unchanged]
      exact ⟨rfl, rfl, rfl⟩
  | some line =>
      simp only [Survey.finish, open_, Survey.closeBlock]
      split
      · split
        · exact ⟨rfl, rfl, rfl⟩
        · next spell _ _ =>
            simp only [ModDefinition.recordDamage]
            split
            · simp only [ModDefinition.recordId]
              split <;> exact ⟨rfl, rfl, rfl⟩
            · exact ⟨rfl, rfl, rfl⟩
      · exact ⟨rfl, rfl, rfl⟩

/-- A script can be read if a survey passes the lines that it is cut into. -/
theorem Reaches.exists_parse {lines : List Line} {holds : Survey → Prop} {modName : String}
    {script : List Char}
    (reaches : ({ definition := { modName } } : Survey).Reaches lines holds)
    (texts : (scriptLines script).map (·.text) = lines) :
    ∃ read : Survey, ModDefinition.parse modName script = .ok read.finish ∧
      read.finish.SameContent read.closeBlock.definition ∧ holds read := by
  obtain ⟨read, ran, consistent, outside, holdsThere⟩ := reaches _ texts
  refine ⟨read, ModDefinition.parse_eq_ok_iff.2 ⟨read, ran, ?_, rfl⟩,
    sameContent_finish consistent, holdsThere⟩
  rw [ParseContext.openDescriptionLine?, outside, if_neg Bool.false_ne_true]

end Survey

theorem ModDefinition.Mirrors.of_sameContent {mapping : ModMapping}
    {definition base read otherDefinition otherRead : ModDefinition}
    (mirrors : definition.Mirrors mapping base read)
    (same : otherDefinition.SameContent definition) (readSame : otherRead.SameContent read) :
    otherDefinition.Mirrors mapping base otherRead :=
  mirrors.of_same same.entities.symm same.references.symm readSame.entities.symm
    readSame.references.symm

/-! ### What is left of the written lines -/

theorem dropWhile_of_blank (output : List OutputLine) :
    ∃ blanks, output = blanks ++ output.dropWhile (fun written => Text.isBlankText written.line) ∧
      ∀ written ∈ blanks, Text.isBlankText written.line = true :=
  ⟨_, List.takeWhile_append_dropWhile.symm, fun _ member =>
    List.mem_takeWhile_imp (p := fun written : OutputLine => Text.isBlankText written.line) member⟩

/-- Nothing but blank lines is left out at either end, and the last line that is left is not
blank. -/
theorem trimBlankLines_spec (output : List OutputLine) :
    (∃ before after, output = before ++ trimBlankLines output ++ after ∧
      ∀ written ∈ before ++ after, Text.isBlankText written.line = true) ∧
    ∀ written ∈ (trimBlankLines output).getLast?, Text.isBlankText written.line = false := by
  obtain ⟨before, split, blankBefore⟩ := dropWhile_of_blank output
  obtain ⟨after, splitLater, blankAfter⟩ := dropWhile_of_blank
    (output.dropWhile fun written => Text.isBlankText written.line).reverse
  refine ⟨⟨before, after.reverse, ?_, ?_⟩, ?_⟩
  · have rest := congrArg List.reverse splitLater
    rw [List.reverse_reverse, List.reverse_append] at rest
    rw [trimBlankLines, List.append_assoc, ← rest]
    exact split
  · intro written member
    rcases List.mem_append.1 member with isBefore | isAfter
    · exact blankBefore written isBefore
    · exact blankAfter written (List.mem_reverse.1 isAfter)
  · intro written isLast
    rw [trimBlankLines, List.getLast?_reverse] at isLast
    have notBlank := List.head?_dropWhile_not
      (fun written : OutputLine => Text.isBlankText written.line)
      (output.dropWhile fun written => Text.isBlankText written.line).reverse
    rw [Option.mem_def.1 isLast] at notBlank
    simpa using notBlank

/-- Blank lines are written as they are. -/
theorem isBlankText_of_mem_render {atStart : Prop} {output : List OutputLine}
    (readable : ∀ written ∈ output, written.Readable atStart)
    (blank : ∀ written ∈ output, Text.isBlankText written.line = true) {line : Line}
    (member : line ∈ output.flatMap OutputLine.render) : Text.isBlankText line = true := by
  obtain ⟨written, inOutput, isLine⟩ := List.mem_flatMap.1 member
  have isBlank := blank written inOutput
  rw [OutputLine.render, (readable written inOutput).blank isBlank, List.mem_singleton] at isLine
  rw [isLine]
  exact isBlank

namespace RenumberedMod

variable {atStart : Prop} {renumbered : RenumberedMod}

/-- The lines of a renumbered mod are the lines of its text. -/
structure Legible (atStart : Prop) (renumbered : RenumberedMod) : Prop where
  readable : ∀ written ∈ renumbered.output, written.Readable atStart
  notBlank : ∀ written ∈ renumbered.output.getLast?, Text.isBlankText written.line = false

namespace Legible

theorem plain (legible : renumbered.Legible atStart) {line : Line}
    (member : line ∈ renumbered.lines) : Plain line := by
  obtain ⟨written, inOutput, isLine⟩ := List.mem_flatMap.1 member
  exact (legible.readable written inOutput).plain line isLine

theorem unmarked (legible : renumbered.Legible atStart) (first : atStart) {line : Line}
    (member : line ∈ renumbered.lines) : Unmarked line := by
  obtain ⟨written, inOutput, isLine⟩ := List.mem_flatMap.1 member
  exact (legible.readable written inOutput).unmarked first line isLine

theorem getLast_ne (legible : renumbered.Legible atStart) :
    renumbered.lines.getLast? ≠ some [] := by
  rw [lines]
  rcases List.eq_nil_or_concat' renumbered.output with nothing | ⟨front, written, output⟩
  · rw [nothing]
    simp
  · have notBlank := legible.notBlank written (by rw [output]; exact List.getLast?_concat)
    have last : written.render.getLast? = some written.line := by
      rw [OutputLine.render]
      split <;> rfl
    rw [output, List.flatMap_append, List.flatMap_singleton, List.getLast?_append, last,
      Option.some_or]
    intro same
    rw [Option.some.inj same] at notBlank
    cases notBlank

/-- Reading the text cuts it into the lines again. -/
theorem map_text_scriptLines (legible : renumbered.Legible atStart) (first : atStart) :
    (scriptLines renumbered.text).map (·.text) = renumbered.lines := by
  have cut : Text.lines renumbered.text = renumbered.lines :=
    Text.lines_joinLines (fun _ member => (legible.plain member).unbroken) legible.getLast_ne
  rw [ModMerge.map_text_scriptLines, cut]
  · have same : ∀ line ∈ renumbered.lines, line.map correctChar = id line :=
      fun _ member => (legible.plain member).map_correctChar
    rw [List.map_congr_left same, List.map_id]
  · intro line isFirst
    rw [cut] at isFirst
    exact legible.unmarked first (List.mem_of_mem_head? isFirst)

end Legible

end RenumberedMod

/-! ### Renumbering a whole mod -/

section

variable {atStart : Prop} {mapping : ModMapping} {modName : String} {script : List Char}
  {last start : Survey}

/-- Who reads a renumbered mod finds what the mod defines where it is now. -/
structure RenumberedMod.LeadsFrom (atStart : Prop) (renumbered : RenumberedMod)
    (mapping : ModMapping) (last start : Survey) : Prop where
  legible : renumbered.Legible atStart
  reaches : start.Reaches renumbered.lines fun read =>
    read.context.spell.isSome = last.context.spell.isSome ∧
    last.closeBlock.Mirrors mapping start none read.closeBlock

/-- Who has renumbered a script that can be surveyed, with enough ids, leads every reader to what
the mod defines. -/
theorem leadsFrom_of_renumber {renumbered : RenumberedMod} (sound : mapping.Sound)
    (unmarked : atStart → ∀ line ∈ scriptLines script, Unmarked line.text)
    (surveyed : Survey.ofScript modName script = .ok last)
    (provided : ∀ type, last.definition.nextImplicitIndex type ≤
      (mapping.implicitIds type).length)
    (consistent : start.context.Consistent) (outside : start.context.inDescription = false)
    (noSpell : start.context.spell = none)
    (isRenumbered : mapping.renumber modName script = .ok renumbered) :
    renumbered.LeadsFrom atStart mapping last start := by
  have nothingYet : ∀ type, ({ modName } : ModDefinition).nextImplicitIndex type = 0 := by
    intro type
    rw [ModDefinition.nextImplicitIndex, EntityTable.get_uniform]
  have mirrors : ({ definition := { modName } } : Survey).Mirrors mapping start none start := by
    refine ⟨?_, ⟨?_, ?_, ?_, ?_⟩, fun nameless => ⟨?_, ?_⟩⟩
    · rw [noSpell]
      exact .none
    · intro type id
      simp [nothingYet, EntityTable.get_uniform]
    · intro type id
      simp [EntityTable.get_uniform]
    · exact fun _ => rfl
    · simp
    · rw [nameless.active]
      exact .none
    · intro type key
      rw [nameless.names]
      simp [EntityTable.get_uniform]
  obtain ⟨renumbering, ran, lockstep⟩ :=
    (Renumbering.Lockstep.initial modName mapping consistent outside nothingYet mirrors).exists_run
      sound (fun _ => plain_of_mem_scriptLines) unmarked surveyed provided
  obtain ⟨context, output, change, finishedEq, -, outputEq, short, follows⟩ :=
    lockstep.exists_finished sound
  have renders := lockstep.renders change short
  rw [← outputEq] at renders
  rw [renumber_of_passAll ran] at isRenumbered
  obtain ⟨-, rfl⟩ := whenWritable_eq_ok_iff.1 isRenumbered
  have trimmed : renumbering.finish.output = trimBlankLines output.toList := by
    simp only [Renumbering.finish, finishedEq]
  obtain ⟨⟨before, after, split, blank⟩, notBlank⟩ := trimBlankLines_spec output.toList
  rw [← trimmed] at split notBlank
  have readable :
      ∀ written ∈ before ++ renumbering.finish.output ++ after, written.Readable atStart :=
    split ▸ renders.readable
  refine ⟨⟨fun written member => readable written (by simp [member]), notBlank⟩, ?_⟩
  have reaches : start.Reaches (output.toList.flatMap OutputLine.render) fun read =>
      read.context.spell.isSome = last.context.spell.isSome ∧
      last.closeBlock.Mirrors mapping start none read.closeBlock :=
    renders.reaches.mono fun _ mirrors =>
      ⟨isSome_of_rel mirrors.spell, mirrors.closeBlock sound follows⟩
  rw [split, List.flatMap_append, List.flatMap_append] at reaches
  refine reaches.of_blanks (fun line => ?_) fun line => ?_
  · exact isBlankText_of_mem_render (fun written member => readable written (by simp [member]))
      fun written member => blank written (List.mem_append_left after member)
  · exact isBlankText_of_mem_render (fun written member => readable written (by simp [member]))
      fun written member => blank written (List.mem_append_right before member)

end

end ModMerge
