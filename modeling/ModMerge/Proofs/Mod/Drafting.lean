import ModMerge.Proofs.Mod.Drafts

/-!
# Renumbering writes what has been drafted

`Renumbering.InStep` relates renumbering a mod to a survey of it after the same lines: their
contexts agree and have passed the same number of definitions without an id, and a damage
line waits exactly if the spell block has a damage value that has not been dealt with. What
has been written by then, with the damage line that waits as it will be, is `settled`; each
line adds to it what is left of its draft.
-/

namespace ModMerge

theorem forall₂_modify {Value : Type} {related : Value → Value → Prop}
    (refl : ∀ value, related value value) {change : Value → Value} :
    ∀ {values : List Value} {position : Nat},
      (∀ value, values[position]? = some value → related value (change value)) →
      List.Forall₂ related values (values.modify position change)
  | [], _, _ => by rw [List.modify_nil]; exact .nil
  | first :: rest, 0, here => by
      rw [List.modify_zero_cons]
      exact .cons (here first rfl) (List.forall₂_same.2 fun value _ => refl value)
  | first :: rest, position + 1, here => by
      rw [List.modify_succ_cons]
      exact .cons (refl first) (forall₂_modify refl here)

namespace Renumbering

variable {renumbering next : Renumbering} {mapping : ModMapping} {survey nextSurvey : Survey}
  {line : Line} {meaning : LineMeaning} {lineNumber : Nat}

/-! ### Writing a line -/

/-- Write a line unless it is left out. -/
def write (renumbering : Renumbering) (written : OutputLine) : Renumbering :=
  if isRedundant renumbering.output.toList written.line then renumbering
  else { renumbering with output := renumbering.output.push written }

theorem toList_output_write (renumbering : Renumbering) (written : OutputLine) :
    (renumbering.write written).output.toList = renumbering.output.toList ++
      (kept renumbering.output.toList (some written)).toList := by
  rw [write]
  cases redundant : isRedundant renumbering.output.toList written.line with
  | true =>
      rw [kept_of_isRedundant redundant]
      exact (List.append_nil _).symm
  | false =>
      rw [kept_of_not_isRedundant redundant, if_neg Bool.false_ne_true, Array.toList_push]
      rfl

theorem write_eq (renumbering : Renumbering) (written : OutputLine) :
    renumbering.write written =
      { renumbering with output := (renumbering.write written).output } := by
  rw [write]
  split <;> rfl

theorem write_of_substantial {written : OutputLine} (substantial : Substantial written.line) :
    renumbering.write written =
      { renumbering with output := renumbering.output.push written } := by
  rw [write, substantial.isRedundant_eq_false, if_neg Bool.false_ne_true]

theorem emit_eq_write (last : ∀ character ∈ line.getLast?, Text.isBlank character = false)
    (renumbering : Renumbering) : renumbering.emit line = renumbering.write { line } := by
  rw [emit, write, isRedundant, lastEnds, Array.getLast?_toList, Array.findRev?_eq_find?_reverse,
    ← Array.find?_toList, Array.toList_reverse]
  by_cases blank : Text.isBlankText line = true
  · have nothing : line = [] := by
      have noBlanks : Text.trimRight ([] ++ line) = Text.trimRight [] :=
        Text.trimRight_append (Text.isBlankText_iff.1 blank)
      rw [List.nil_append, Text.trimRight_eq_self last] at noBlanks
      exact noBlanks
    rw [if_pos blank, if_pos blank, nothing]
  · rw [if_neg blank, if_neg blank]

/-- A line with a number is written as it is drafted. -/
theorem emitEntity_eq_write {form : LineForm} {number : Int}
    (isRead : (⟨survey, line, form.meaning (.number number)⟩ : SurveyedLine).IsRead)
    (ref : DirectiveRef)
    (renumbering : Renumbering) :
    renumbering.emitEntity line ref number =
      renumbering.write (renumbering.mapping.entityLine line ref number) := by
  rw [emitEntity, ModMapping.entityLine]
  cases renumbering.mapping.remapArgument ref number with
  | none => exact emit_eq_write isRead.last renumbering
  | some remap =>
      exact (write_of_substantial (isRead.substantial_replaceArgument _)).symm

/-- A damage line whose effect is known is written as it is drafted. -/
theorem emitDamage_eq_write {form : LineForm} {number : Int}
    (isRead : (⟨survey, line, form.meaning (.number number)⟩ : SurveyedLine).IsRead)
    (spell : SpellBlock)
    (renumbering : Renumbering) :
    renumbering.emitDamage line spell =
      renumbering.write (renumbering.mapping.damageLine line (some spell)) := by
  rw [emitDamage, ModMapping.damageLine, Option.bind_some]
  cases renumbering.mapping.remapDamage spell with
  | none => exact emit_eq_write isRead.last renumbering
  | some remap =>
      exact (write_of_substantial (isRead.substantial_replaceArgument _)).symm

/-! ### The damage line that waits -/

/-- A line that may be replaced while it waits, without any effect on what is left out after
it. -/
structure Replaceable (waiting : OutputLine) : Prop where
  substantial : Substantial waiting.line
  replaced : ∀ remap, Substantial (damageLine waiting.line remap).line

/-- Renumbering and a survey of the same mod, after the same lines. -/
structure InStep (mapping : ModMapping) (renumbering : Renumbering) (survey : Survey) : Prop where
  mapping_eq : renumbering.mapping = mapping
  context_eq : renumbering.context = { survey.context with active := none }
  counts_eq : ∀ type, renumbering.implicitCounts.get type =
    survey.definition.nextImplicitIndex type
  consistent : survey.context.Consistent
  waiting : Waiting renumbering.pendingDamage survey.context.spell
  replaceable : ∀ position ∈ renumbering.pendingDamage,
    ∃ waiting, renumbering.output.toList[position]? = some waiting ∧ Replaceable waiting

/-- What replaces the damage value that waits, where `later` is what the lines to come mean. -/
def settledChange (renumbering : Renumbering) (later : List LineMeaning) :
    Option RemappedArgument :=
  (renumbering.context.spell.bind (·.settlement later)).bind renumbering.mapping.remapDamage

/-- What has been written, with the damage line that waits as it will be. -/
def settled (renumbering : Renumbering) (later : List LineMeaning) : List OutputLine :=
  renumbering.written (renumbering.settledChange later)

theorem InStep.spell_eq (inStep : renumbering.InStep mapping survey) :
    renumbering.context.spell = survey.context.spell := by
  rw [inStep.context_eq]

theorem InStep.bound (inStep : renumbering.InStep mapping survey) :
    ∀ position ∈ renumbering.pendingDamage, position < renumbering.output.size := by
  intro position pending
  obtain ⟨waiting, here, -⟩ := inStep.replaceable position pending
  rw [← Array.length_toList]
  exact (List.getElem?_eq_some_iff.1 here).1

theorem InStep.similar_written (inStep : renumbering.InStep mapping survey)
    (change : Option RemappedArgument) :
    List.Forall₂ OutputLine.Similar renumbering.output.toList (renumbering.written change) := by
  unfold written
  split
  · next position remap pending =>
      refine forall₂_modify .refl fun waiting here => ?_
      obtain ⟨_, same, replaceable⟩ := inStep.replaceable position pending
      obtain rfl := Option.some.inj (same.symm.trans here)
      exact OutputLine.similar_of_substantial replaceable.substantial (replaceable.replaced remap)
  · exact List.forall₂_same.2 fun written _ => .refl written

/-- A line that is written is added to what has been written, whatever becomes of the line that
waits. -/
theorem InStep.written_write (inStep : renumbering.InStep mapping survey) (drafted : OutputLine)
    (change : Option RemappedArgument) :
    (renumbering.write drafted).written change = renumbering.written change ++
      (kept (renumbering.written change) (some drafted)).toList := by
  have same := isRedundant_eq_of_similar (inStep.similar_written change) drafted.line
  rw [write]
  cases redundant : isRedundant renumbering.output.toList drafted.line with
  | true =>
      rw [kept_of_isRedundant (same.trans redundant)]
      exact (List.append_nil _).symm
  | false =>
      rw [kept_of_not_isRedundant (same.trans redundant), if_neg Bool.false_ne_true]
      exact written_push { renumbering with output := renumbering.output.push drafted }
        inStep.bound rfl rfl change

/-! ### One line -/

/-- A line has been passed by renumbering and by the survey, and what is left of its draft has
been added to what is written. -/
structure Follows (mapping : ModMapping) (renumbering : Renumbering) (surveyed : SurveyedLine)
    (next : Renumbering) (nextSurvey : Survey) : Prop where
  inStep : next.InStep mapping nextSurvey
  settled : ∀ later, next.settled later = renumbering.settled (surveyed.meaning :: later) ++
    (kept (renumbering.settled (surveyed.meaning :: later))
      (mapping.draft surveyed later)).toList

namespace InStep

/-- A line that is left out of what is written. -/
theorem unwritten (inStep : renumbering.InStep mapping survey) {context : ParseContext}
    (context_eq : context = { nextSurvey.context with active := none })
    (consistent : nextSurvey.context.Consistent)
    (spell : nextSurvey.context.spell = survey.context.spell)
    (counts : ∀ type, nextSurvey.definition.nextImplicitIndex type =
      survey.definition.nextImplicitIndex type)
    (isMetadata : meaning.isMetadata = true) :
    Follows mapping renumbering ⟨survey, line, meaning⟩ { renumbering with context }
      nextSurvey where
  inStep :=
    { mapping_eq := inStep.mapping_eq
      context_eq := context_eq
      counts_eq := fun type => (inStep.counts_eq type).trans (counts type).symm
      consistent := consistent
      waiting := spell ▸ inStep.waiting
      replaceable := inStep.replaceable }
  settled later := by
    have noDraft : mapping.draft ⟨survey, line, meaning⟩ later = none := by
      cases meaning <;> first | rfl | cases isMetadata
    have skipped : ∀ block : SpellBlock,
        block.settlement (meaning :: later) = block.settlement later := fun block =>
      SpellBlock.settlement_cons (by rintro rfl; cases isMetadata)
        (by rintro _ _ _ rfl; cases isMetadata) later
    have same : ({ renumbering with context } : Renumbering).settledChange later =
        renumbering.settledChange (meaning :: later) := by
      simp only [settledChange, context_eq, spell, inStep.spell_eq, skipped]
    rw [noDraft, Renumbering.settled, same]
    exact (List.append_nil _).symm

/-- A line that is written, while the damage line that waits keeps waiting. -/
theorem follows_write (inStep : renumbering.InStep mapping survey) (drafted : OutputLine)
    (output : next.output = (renumbering.write drafted).output)
    (pendingDamage : next.pendingDamage = renumbering.pendingDamage)
    (mapping_eq : next.mapping = renumbering.mapping)
    (context_eq : next.context = { nextSurvey.context with active := none })
    (counts_eq : ∀ type, next.implicitCounts.get type =
      nextSurvey.definition.nextImplicitIndex type)
    (consistent : nextSurvey.context.Consistent)
    (waiting : Waiting renumbering.pendingDamage nextSurvey.context.spell)
    (settles : renumbering.pendingDamage.isSome → ∀ later,
      nextSurvey.context.spell.bind (·.settlement later) =
        survey.context.spell.bind (·.settlement (meaning :: later)))
    (isDraft : ∀ later, mapping.draft ⟨survey, line, meaning⟩ later = some drafted) :
    Follows mapping renumbering ⟨survey, line, meaning⟩ next nextSurvey where
  inStep :=
    { mapping_eq := mapping_eq.trans inStep.mapping_eq
      context_eq := context_eq
      counts_eq := counts_eq
      consistent := consistent
      waiting := pendingDamage ▸ waiting
      replaceable := by
        intro position pending
        obtain ⟨line, here, replaceable⟩ := inStep.replaceable position (pendingDamage ▸ pending)
        refine ⟨line, ?_, replaceable⟩
        rw [output, toList_output_write,
          List.getElem?_append_left (List.getElem?_eq_some_iff.1 here).1, here] }
  settled later := by
    have sameChange : next.settled later =
        next.written (renumbering.settledChange (meaning :: later)) := by
      unfold Renumbering.settled written
      rw [pendingDamage]
      cases pending : renumbering.pendingDamage with
      | none => rfl
      | some position =>
          have same := settles (by rw [pending]; rfl) later
          simp only [settledChange, context_eq, mapping_eq, same, inStep.spell_eq]
    have sameWritten : ∀ change, next.written change =
        (renumbering.write drafted).written change := by
      intro change
      unfold written
      rw [pendingDamage, output, show (renumbering.write drafted).pendingDamage =
        renumbering.pendingDamage by rw [write_eq]]
    rw [isDraft, sameChange, sameWritten, inStep.written_write]
    rfl

/-- A line that has nothing to do with the damage value of a spell. -/
theorem follows_plain (inStep : renumbering.InStep mapping survey)
    (consistent : nextSurvey.context.Consistent) {drafted : OutputLine}
    (context : nextSurvey.context = survey.context)
    (counts : ∀ type, nextSurvey.definition.nextImplicitIndex type =
      survey.definition.nextImplicitIndex type)
    (notEnd : meaning ≠ .blockEnd)
    (notContent : ∀ directive ref argument, meaning ≠ .spellContent directive ref argument)
    (isDraft : ∀ later, mapping.draft ⟨survey, line, meaning⟩ later = some drafted) :
    Follows mapping renumbering ⟨survey, line, meaning⟩ (renumbering.write drafted)
      nextSurvey := by
  have fields := renumbering.write_eq drafted
  refine inStep.follows_write drafted rfl (by rw [fields]) (by rw [fields]) ?_ (fun type => ?_)
    consistent (context ▸ inStep.waiting) (fun _ later => ?_) isDraft
  · rw [fields, context]
    exact inStep.context_eq
  · rw [fields, counts]
    exact inStep.counts_eq type
  · rw [context]
    simp only [SpellBlock.settlement_cons notEnd notContent]

/-! ### Blocks -/

/-- The line that opens a block is written as it is drafted, if there is an id for what it
creates. -/
theorem exists_emitBlockStart (inStep : renumbering.InStep mapping survey) {word : String}
    {ref : DirectiveRef} {argument : Argument}
    (isRead : (⟨survey, line, .blockStart word ref argument⟩ : SurveyedLine).IsRead)
    (provided : ∀ type, (survey.definition.recordArgument ref argument).nextImplicitIndex type ≤
      (mapping.implicitIds type).length) (lineNumber : Nat) :
    ∃ implicitCounts,
      renumbering.emitBlockStart lineNumber line word ref argument = .ok { renumbering with
        output := (renumbering.write (mapping.blockStartLine line word ref argument
          (survey.definition.nextImplicitIndex ref.type))).output
        implicitCounts } ∧
      ∀ type, implicitCounts.get type =
        (survey.definition.recordArgument ref argument).nextImplicitIndex type := by
  have unchanged : (argument = .absent → ref.rule.role ≠ .new) → ∀ type,
      renumbering.implicitCounts.get type =
        (survey.definition.recordArgument ref argument).nextImplicitIndex type := by
    intro kept type
    rw [inStep.counts_eq, survey.definition.nextImplicitIndex_recordArgument kept]
  cases argument with
  | number number =>
      refine ⟨renumbering.implicitCounts, congrArg Except.ok ?_, unchanged (by simp)⟩
      have isForm : (⟨survey, line, (LineForm.blockStart word ref).meaning (.number number)⟩ :
          SurveyedLine).IsRead := isRead
      rw [emitEntity_eq_write isForm ref, write_eq, ← inStep.mapping_eq]
      rfl
  | name name =>
      refine ⟨renumbering.implicitCounts, congrArg Except.ok ?_, unchanged (by simp)⟩
      rw [emit_eq_write isRead.last, write_eq]
      rfl
  | absent =>
      by_cases isNew : ref.rule.role = .new
      · obtain ⟨id, assigned⟩ := exists_implicitId? isNew provided
        refine ⟨renumbering.implicitCounts.set ref.type
          (survey.definition.nextImplicitIndex ref.type + 1), ?_,
          get_set_implicitCounts isNew inStep.counts_eq⟩
        have substantial := substantial_of_argumentNumber? (isRead.argumentNumber?_assignedLine id)
        simp only [emitBlockStart, ModMapping.blockStartLine, if_pos isNew, inStep.counts_eq,
          inStep.mapping_eq, assigned, write_of_substantial substantial]
        simp only [ModMapping.assignedLine]
        cases ref.rule.implicitSelect <;> rfl
      · refine ⟨renumbering.implicitCounts, ?_, unchanged fun _ => isNew⟩
        simp only [emitBlockStart, ModMapping.blockStartLine, if_neg isNew]
        rw [emit_eq_write isRead.last, write_eq]

/-- A line that opens a block. -/
theorem exists_blockStart (inStep : renumbering.InStep mapping survey) {word : String}
    {ref : DirectiveRef} {argument : Argument}
    (isRead : (⟨survey, line, .blockStart word ref argument⟩ : SurveyedLine).IsRead)
    (advanced : survey.advance lineNumber (.blockStart word ref argument) = .ok nextSurvey)
    (provided : ∀ type, nextSurvey.definition.nextImplicitIndex type ≤
      (mapping.implicitIds type).length) :
    ∃ next, renumbering.advance lineNumber line (.blockStart word ref argument) = .ok next ∧
      Follows mapping renumbering ⟨survey, line, .blockStart word ref argument⟩ next
        nextSurvey := by
  have notInside := isRead.not_inDescription fun _ same => by cases same
  have consistent := Survey.consistent_advance inStep.consistent notInside
    (fun _ same => by cases same) advanced
  have outside : survey.context.state ≠ .inSpellBlock := survey.outside_of_openBlock advanced
  have noSpell := inStep.consistent.spell_eq_none outside
  obtain ⟨same, sameOpened, spell, -⟩ := survey.exists_openBlock lineNumber ref argument outside
  obtain rfl := Except.ok.inj (sameOpened.symm.trans advanced)
  have counted := Survey.nextImplicitIndex_openBlock advanced
  obtain ⟨implicitCounts, emitted, counts⟩ := inStep.exists_emitBlockStart isRead
    (fun type => counted type ▸ provided type) lineNumber
  have nothingWaits : renumbering.pendingDamage = none :=
    Waiting.pending_eq_none (noSpell ▸ inStep.waiting)
  refine ⟨{ renumbering with
    output := (renumbering.write (mapping.blockStartLine line word ref argument
      (survey.definition.nextImplicitIndex ref.type))).output
    implicitCounts
    context := { same.context with active := none } },
    openBlock_eq emitted inStep.context_eq advanced, ?_⟩
  refine inStep.follows_write _ rfl rfl rfl rfl (fun type => ?_) consistent ?_ (fun waits => ?_)
    fun _ => rfl
  · rw [counts, counted]
  · rw [nothingWaits, spell, noSpell]
    refine .of_noDamage fun block isOpen => ?_
    split at isOpen <;> cases isOpen
    rfl
  · rw [nothingWaits] at waits
    cases waits

/-- When a block ends, the damage line that waits is settled. -/
theorem exists_finished (inStep : renumbering.InStep mapping survey) :
    ∃ context output,
      renumbering.leaveSpell =
        { renumbering with context, output, pendingDamage := none } ∧
      context.closeBlock = renumbering.context.closeBlock ∧
      output.toList = renumbering.settled [] := by
  have inSpellBlock : renumbering.context.inSpellBlock = renumbering.context.spell.isSome := by
    rw [inStep.spell_eq, ← inStep.consistent.inSpellBlock_eq, inStep.context_eq]
    rfl
  obtain ⟨context, output, finished, closed, outputEq⟩ :=
    exists_finishSpell (inStep.spell_eq ▸ inStep.waiting) inSpellBlock
  refine ⟨context, output, finished, closed, outputEq.trans ?_⟩
  rw [settled, settledChange]
  cases inSpell : renumbering.context.spell with
  | none => rfl
  | some spell =>
      have notReady := inStep.waiting.notReady spell (inStep.spell_eq.symm.trans inSpell)
      rw [Option.bind_some, Option.bind_some, SpellBlock.settlement_nil notReady]
      split <;> rfl

/-- The end of a block. -/
theorem follows_closeBlock (inStep : renumbering.InStep mapping survey)
    (isRead : (⟨survey, line, .blockEnd⟩ : SurveyedLine).IsRead) :
    Follows mapping renumbering ⟨survey, line, .blockEnd⟩ (renumbering.closeBlock line)
      survey.closeBlock := by
  obtain ⟨context, output, finishedEq, closed, outputEq⟩ := inStep.exists_finished
  have closedEq : renumbering.closeBlock line = ({ renumbering with
      context := context.closeBlock, output, pendingDamage := none } : Renumbering).write
        { line } := by
    simp only [closeBlock, finishedEq]
    exact emit_eq_write isRead.last _
  have notInside := isRead.not_inDescription fun _ same => by cases same
  rw [closedEq, write_eq]
  refine ⟨⟨inStep.mapping_eq, ?_, fun type => ?_, inStep.consistent.closeBlock notInside,
    waiting_none, fun position pending => by cases pending⟩, fun later => ?_⟩
  · simp only [closed, inStep.context_eq]
    rfl
  · rw [survey.nextImplicitIndex_closeBlock]
    exact inStep.counts_eq type
  · have sameChange : renumbering.settledChange (.blockEnd :: later) =
        renumbering.settledChange [] := by
      simp only [settledChange, SpellBlock.settlement_blockEnd]
    simp only [settled, sameChange]
    rw [written_of_pendingDamage_eq_none rfl, toList_output_write, outputEq]
    rfl

end InStep

end Renumbering

end ModMerge
