import ModMerge.Proofs.Mod.Drafting

/-!
# Drafts of spell blocks

A damage line is drafted for the spell block as it is once the value can be read: at once if
the block has its effect, and otherwise by the lines to come. Each kind of line of a spell
block is written as it is drafted, and brings the line that waits where its draft says.
-/

namespace ModMerge.Renumbering.InStep

variable {renumbering : Renumbering} {mapping : ModMapping} {survey : Survey} {line : Line}

/-- A line of a spell block that is written and gives no damage value, and after which there is
no effect for one. -/
theorem follows_content (inStep : renumbering.InStep mapping survey) {before : SpellBlock}
    {directive : SpellDirective} {ref : Option DirectiveRef} {argument : Argument}
    (inSpell : survey.context.spell = some before)
    (notReady : (before.read directive argument).ready = false)
    (noDamage : (directive.isDamage && argument.number?.isSome) = false) {drafted : OutputLine}
    (isDraft : ∀ later,
      mapping.draft ⟨survey, line, .spellContent directive ref argument⟩ later = some drafted) :
    Follows mapping renumbering ⟨survey, line, .spellContent directive ref argument⟩
      (({ renumbering with context := { renumbering.context with
        spell := some (before.read directive argument) } } : Renumbering).write drafted)
      (survey.readSpellLine directive argument) := by
  have waiting := inStep.waiting
  rw [inSpell] at waiting
  rw [Survey.readSpellLine_of_not_ready inSpell notReady, write_eq]
  refine inStep.follows_write drafted ?_ rfl rfl ?_ inStep.counts_eq
    (inStep.consistent.withSpell (by rw [inSpell]; rfl) _)
    (waiting.read notReady (SpellBlock.damage_read noDamage before)) (fun _ later => ?_) isDraft
  · simp only [write]
    split <;> rfl
  · simp only [inStep.context_eq]
  · rw [inSpell, Option.bind_some, Option.bind_some,
      SpellBlock.settlement_spellContent (waiting.notReady before rfl), noDamage,
      if_neg Bool.false_ne_true]

/-- A damage line whose block has its effect. -/
theorem follows_readyDamage (inStep : renumbering.InStep mapping survey) {before : SpellBlock}
    {directive : SpellDirective} {ref : Option DirectiveRef} {number : Int}
    (isRead : (⟨survey, line, .spellContent directive ref (.number number)⟩ :
      SurveyedLine).IsRead)
    (isDamage : directive.isDamage = true) (inSpell : survey.context.spell = some before)
    (ready : (before.read directive (.number number)).ready = true) :
    Follows mapping renumbering ⟨survey, line, .spellContent directive ref (.number number)⟩
      (renumbering.spellLine line directive ref (.number number))
      (survey.readSpellLine directive (.number number)) := by
  let resolved : SpellBlock := { before.read directive (.number number) with resolved := true }
  have isForm : (⟨survey, line, (LineForm.spellContent directive ref).meaning (.number number)⟩ :
      SurveyedLine).IsRead := isRead
  -- The block had no damage value before: it would have been dealt with, as there is an effect.
  have nothingWaits : renumbering.pendingDamage = none := by
    rw [← Option.not_isSome_iff_eq_none]
    intro isSome
    obtain ⟨block, isBlock, present⟩ := inStep.waiting.damage isSome
    rw [inSpell] at isBlock
    obtain rfl := Option.some.inj isBlock
    have notReady := inStep.waiting.notReady _ inSpell
    rw [SpellBlock.read_of_isDamage isDamage] at ready
    obtain ⟨unresolved, hasEffect, -⟩ := SpellBlock.ready_iff.1 ready
    cases notReady.symm.trans (SpellBlock.ready_iff.2 ⟨unresolved, hasEffect, present⟩)
  have drafted : ∀ later, mapping.draft
      ⟨survey, line, .spellContent directive ref (.number number)⟩ later =
        some (mapping.damageLine line (some resolved)) := by
    intro later
    rw [mapping.draft_damage survey line isDamage, inSpell, Option.bind_some,
      SpellBlock.settlement_of_ready ready]
    rfl
  rw [Survey.readSpellLine_of_ready inSpell ready,
    spellLine_of_ready (inStep.spell_eq.trans inSpell) isDamage ready, emitDamage_eq_write isForm,
    write_eq]
  refine inStep.follows_write (mapping.damageLine line (some resolved)) ?_ rfl rfl ?_
    (fun type => ?_) (inStep.consistent.withSpell (by rw [inSpell]; rfl) _)
    (.of_resolved fun isSome => ?_) (fun waits => ?_) drafted
  · rw [← inStep.mapping_eq]
    simp only [write]
    split <;> rfl
  · simp only [inStep.context_eq]
  · rw [ModDefinition.nextImplicitIndex_recordDamage]
    exact inStep.counts_eq type
  · rw [nothingWaits] at isSome
    cases isSome
  · rw [nothingWaits] at waits
    cases waits

/-- A damage line whose block has no effect yet: it waits, and the line that waited before does
so no longer. -/
theorem follows_waitingDamage (inStep : renumbering.InStep mapping survey) {before : SpellBlock}
    {directive : SpellDirective} {ref : Option DirectiveRef} {number : Int}
    (isRead : (⟨survey, line, .spellContent directive ref (.number number)⟩ :
      SurveyedLine).IsRead)
    (isDamage : directive.isDamage = true) (inSpell : survey.context.spell = some before)
    (notReady : (before.read directive (.number number)).ready = false) :
    Follows mapping renumbering ⟨survey, line, .spellContent directive ref (.number number)⟩
      (renumbering.spellLine line directive ref (.number number))
      (survey.readSpellLine directive (.number number)) := by
  have isForm : (⟨survey, line, (LineForm.spellContent directive ref).meaning (.number number)⟩ :
      SurveyedLine).IsRead := isRead
  have replaceable : Replaceable { line } :=
    ⟨isRead.substantial (by simp) (by simp) (by simp), fun remap =>
      isForm.substantial_replaceArgument remap.argument⟩
  rw [Survey.readSpellLine_of_not_ready inSpell notReady,
    spellLine_of_not_ready (inStep.spell_eq.trans inSpell) isDamage notReady]
  refine ⟨⟨inStep.mapping_eq, ?_, inStep.counts_eq,
    inStep.consistent.withSpell (by rw [inSpell]; rfl) _, .of_damage notReady ?_ _, ?_⟩,
    fun later => ?_⟩
  · simp only [inStep.context_eq]
  · rw [SpellBlock.read_of_isDamage isDamage]
    rfl
  · intro position pending
    obtain rfl := Option.some.inj pending
    refine ⟨{ line }, ?_, replaceable⟩
    rw [Array.toList_push, ← Array.length_toList, List.getElem?_concat_length]
  · -- The line that waited is left as it stands, since its value has been replaced.
    have replaced : renumbering.settled
        (.spellContent directive ref (.number number) :: later) = renumbering.output.toList := by
      rw [settled, settledChange, inStep.spell_eq, inSpell, Option.bind_some,
        SpellBlock.settlement_spellContent (inStep.waiting.notReady before inSpell), isDamage]
      exact written_none renumbering
    rw [replaced, mapping.draft_damage survey line isDamage, inSpell, Option.bind_some,
      ModMapping.damageLine, settled, settledChange]
    simp only [Option.bind_some, inStep.mapping_eq]
    unfold written
    simp only [Array.toList_push]
    cases remaps : ((before.read directive (.number number)).settlement later).bind
        mapping.remapDamage with
    | none =>
        rw [kept_of_not_isRedundant (replaceable.substantial.isRedundant_eq_false _)]
        rfl
    | some remap =>
        rw [kept_of_not_isRedundant ((replaceable.replaced remap).isRedundant_eq_false _)]
        simp only [← Array.length_toList, modify_concat_last]
        rfl

/-- The effect of a spell. -/
theorem follows_effect (inStep : renumbering.InStep mapping survey) {before : SpellBlock}
    {ref : Option DirectiveRef} {argument : Argument}
    (isRead : (⟨survey, line, .spellContent .effect ref argument⟩ : SurveyedLine).IsRead)
    (inSpell : survey.context.spell = some before) :
    Follows mapping renumbering ⟨survey, line, .spellContent .effect ref argument⟩
      (renumbering.spellLine line .effect ref argument)
      (survey.readSpellLine .effect argument) := by
  have drafted : ∀ later, mapping.draft ⟨survey, line, .spellContent .effect ref argument⟩ later =
      some { line } := by
    intro later
    cases ref <;> cases argument <;> rfl
  have waitingBefore := inStep.waiting
  rw [inSpell] at waitingBefore
  have emitted : ∀ renumbering : Renumbering, renumbering.emit line =
      renumbering.write { line } := emit_eq_write isRead.last
  cases ready : (before.read .effect argument).ready with
  | false =>
      rw [spellLine_effect (inStep.spell_eq.trans inSpell) ready, emitted]
      exact inStep.follows_content inSpell ready rfl drafted
  | true =>
      have substantial : Substantial ({ line } : OutputLine).line :=
        isRead.substantial (by simp) (by simp) (by simp)
      obtain ⟨-, output, spellLineEq, outputEq⟩ := exists_spellLine_effect
        (inStep.spell_eq.trans inSpell) waitingBefore inStep.bound ready
        (fun renumbering => (emitted renumbering).trans (write_of_substantial substantial)) ref
      rw [Survey.readSpellLine_of_ready inSpell ready, spellLineEq]
      refine ⟨⟨inStep.mapping_eq, ?_, fun type => ?_,
        inStep.consistent.withSpell (by rw [inSpell]; rfl) _,
        .of_resolved fun isSome => (by cases isSome), ?_⟩, fun later => ?_⟩
      · simp only [inStep.context_eq]
      · rw [ModDefinition.nextImplicitIndex_recordDamage]
        exact inStep.counts_eq type
      · intro position pending
        cases pending
      · have change : renumbering.settledChange (.spellContent .effect ref argument :: later) =
            renumbering.mapping.remapDamage (before.read .effect argument) := by
          rw [settledChange, inStep.spell_eq, inSpell, Option.bind_some,
            SpellBlock.settlement_spellContent (inStep.waiting.notReady before inSpell)]
          simp only [SpellDirective.isDamage, Bool.false_and, Bool.false_eq_true, if_false,
            SpellBlock.settlement_of_ready ready, Option.bind_some]
        rw [drafted, kept_of_not_isRedundant (substantial.isRedundant_eq_false _), settled,
          written_of_pendingDamage_eq_none rfl, outputEq, settled, change]
        rfl

/-- A damage line without a number. -/
theorem follows_unreadDamage (inStep : renumbering.InStep mapping survey) {before : SpellBlock}
    {directive : SpellDirective} {ref : Option DirectiveRef} {argument : Argument}
    (isRead : (⟨survey, line, .spellContent directive ref argument⟩ : SurveyedLine).IsRead)
    (isDamage : directive.isDamage = true) (inSpell : survey.context.spell = some before)
    (noNumber : argument.number? = none) :
    Follows mapping renumbering ⟨survey, line, .spellContent directive ref argument⟩
      (renumbering.spellLine line directive ref argument)
      (survey.readSpellLine directive argument) := by
  rw [spellLine_of_noNumber (inStep.spell_eq.trans inSpell) isDamage noNumber,
    emit_eq_write isRead.last]
  refine inStep.follows_content inSpell ?_ ?_ fun later => ?_
  · rw [SpellBlock.read_of_noNumber isDamage noNumber]
    exact inStep.waiting.notReady before inSpell
  · rw [noNumber, Option.isSome_none, Bool.and_false]
  · cases argument with
    | number number => cases noNumber
    | name _ | absent => cases directive <;> cases ref <;> rfl

/-- The spell that a block copies. -/
theorem follows_copySpell (inStep : renumbering.InStep mapping survey) {before : SpellBlock}
    {ref : Option DirectiveRef} {argument : Argument}
    (isRead : (⟨survey, line, .spellContent .copySpell ref argument⟩ : SurveyedLine).IsRead)
    (inSpell : survey.context.spell = some before) :
    Follows mapping renumbering ⟨survey, line, .spellContent .copySpell ref argument⟩
      (renumbering.spellLine line .copySpell ref argument)
      (survey.readSpellLine .copySpell argument) := by
  have notReady : (before.read .copySpell argument).ready = false :=
    inStep.waiting.notReady before inSpell
  simp only [spellLine, inStep.spell_eq, inSpell]
  split
  · next ref number =>
      have isForm : (⟨survey, line,
          (LineForm.spellContent .copySpell (some ref)).meaning (.number number)⟩ :
          SurveyedLine).IsRead := isRead
      rw [emitEntity_eq_write isForm]
      refine inStep.follows_content inSpell notReady rfl fun _ => ?_
      rw [inStep.mapping_eq]
      rfl
  · next notNumber =>
      rw [emit_eq_write isRead.last]
      refine inStep.follows_content inSpell notReady rfl fun _ => ?_
      cases ref with
      | none => rfl
      | some ref =>
          cases argument with
          | number number => exact absurd rfl (notNumber ref number rfl)
          | name _ | absent => rfl

/-- A line of a spell block. -/
theorem follows_spellLine (inStep : renumbering.InStep mapping survey)
    {directive : SpellDirective} {ref : Option DirectiveRef} {argument : Argument}
    (isRead : (⟨survey, line, .spellContent directive ref argument⟩ : SurveyedLine).IsRead) :
    Follows mapping renumbering ⟨survey, line, .spellContent directive ref argument⟩
      (renumbering.spellLine line directive ref argument)
      (survey.readSpellLine directive argument) := by
  obtain ⟨before, inSpell⟩ := isRead.exists_spell
  have damageLine (isDamage : directive.isDamage = true) :
      Follows mapping renumbering ⟨survey, line, .spellContent directive ref argument⟩
        (renumbering.spellLine line directive ref argument)
        (survey.readSpellLine directive argument) := by
    cases argument with
    | number number =>
        cases ready : (before.read directive (.number number)).ready with
        | true => exact inStep.follows_readyDamage isRead isDamage inSpell ready
        | false => exact inStep.follows_waitingDamage isRead isDamage inSpell ready
    | name _ | absent => exact inStep.follows_unreadDamage isRead isDamage inSpell rfl
  cases directive with
  | effect => exact inStep.follows_effect isRead inSpell
  | damage | damageMonster => exact damageLine rfl
  | copySpell => exact inStep.follows_copySpell isRead inSpell

end ModMerge.Renumbering.InStep
