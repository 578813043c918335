import ModMerge.Proofs.Mod.LockstepLines

/-!
# Spell blocks in lockstep

The damage value of a spell is read when its block has an effect, or ends. A damage line that
comes first waits until then, and it is replaced once it is known what the value names.
-/

namespace ModMerge

namespace Renumbering

variable {atStart : Prop} {renumbering : Renumbering} {mapping : ModMapping}
  {start survey nextSurvey : Survey} {line : Line} {before after : SpellBlock}
  {directive : SpellDirective}
  {argument newArgument : Argument} {ref : Option DirectiveRef}

theorem shortChange_remapDamage (sound : mapping.Sound) (spell : SpellBlock) :
    ShortChange (mapping.remapDamage spell) := by
  intro remap moves
  obtain ⟨content, -, moves⟩ := Option.bind_eq_some_iff.1 moves
  exact ModMapping.short_of_remapContent sound moves

/-- What is read in place of a damage value that waits, once it is replaced. -/
theorem waitingDamage_remapDamage (mapping : ModMapping) {position : Nat}
    (pending : renumbering.pendingDamage = some position)
    (inSpell : survey.context.spell = some before) (spell : SpellBlock)
    (sameDamage : spell.damage = before.damage) :
    renumbering.waitingDamage survey (mapping.remapDamage spell) = mapping.movedDamage spell := by
  rw [ModMapping.movedDamage_eq, waitingDamage, pending, inSpell, Option.bind_some, sameDamage]
  cases mapping.remapDamage spell <;> rfl

namespace Lockstep

/-- Whether there is a damage value does not change when it is replaced. -/
theorem isSome_waitingDamage (lockstep : renumbering.Lockstep atStart mapping start survey)
    (inSpell : survey.context.spell = some before) (change : Option RemappedArgument) :
    (renumbering.waitingDamage survey change).isSome = before.damage.isSome := by
  rw [waitingDamage, inSpell, Option.bind_some]
  cases pending : renumbering.pendingDamage with
  | none => rfl
  | some position =>
      cases change with
      | none => rfl
      | some remap =>
          obtain ⟨block, isBlock, present⟩ := lockstep.waiting.damage (by rw [pending]; rfl)
          rw [inSpell] at isBlock
          obtain rfl := Option.some.inj isBlock
          rw [present]
          rfl

/-- A line of a spell block that is written without a change to what waits. -/
theorem pushSpell (lockstep : renumbering.Lockstep atStart mapping start survey)
    (inSpell : survey.context.spell = some before) {written : OutputLine}
    (readable : written.Readable atStart)
    (reads : Reads survey.context.inSpellBlock written.line
      (.spellContent directive ref newArgument))
    (context : nextSurvey.context = { survey.context with spell := some after })
    (counts : ∀ type, nextSurvey.definition.nextImplicitIndex type =
      survey.definition.nextImplicitIndex type)
    (waiting : Waiting renumbering.pendingDamage (some after))
    (leads : ∀ change read, survey.Mirrors mapping start
        (renumbering.waitingDamage survey change) read →
      nextSurvey.Mirrors mapping start
        (replacedDamage renumbering.pendingDamage change after.damage)
        (read.readSpellLine directive newArgument)) :
    ({ renumbering with
      context := { renumbering.context with spell := some after }
      output := renumbering.output.push written } : Renumbering).Lockstep atStart mapping start
      nextSurvey := by
  rw [lockstep.consistent.inSpellBlock_eq] at reads
  refine lockstep.push rfl rfl lockstep.mapping_eq ?_ (fun type => ?_) ?_ ?_ readable reads
    (by simp) (by simp) (by simp) fun change _ read _ mirrors _ => ⟨_, rfl, ?_⟩
  · rw [context, lockstep.context_eq]
  · rw [counts]
    exact lockstep.counts_eq type
  · rw [context]
    exact lockstep.consistent.withSpell (by rw [inSpell]; rfl) after
  · rw [context]
    exact waiting
  · rw [waitingDamage, context]
    exact leads change read mirrors

/-- A line of a spell block after which the damage value has no more of a meaning than
before. -/
theorem pushUnready (lockstep : renumbering.Lockstep atStart mapping start survey)
    (sound : mapping.Sound)
    (inSpell : survey.context.spell = some before) {written : OutputLine}
    (readable : written.Readable atStart)
    (reads : Reads survey.context.inSpellBlock written.line
      (.spellContent directive ref newArgument))
    (notReady : (before.read directive argument).ready = false)
    (sameDamage : (before.read directive argument).damage = before.damage)
    (mirrored : ∀ damage other, before.MirroredBy damage other →
      (before.read directive argument).MirroredBy damage (other.read directive newArgument)) :
    ({ renumbering with
      context := { renumbering.context with spell := some (before.read directive argument) }
      output := renumbering.output.push written } : Renumbering).Lockstep atStart mapping start
      (survey.readSpellLine directive argument) := by
  have waitingBefore := lockstep.waiting
  rw [inSpell] at waitingBefore
  refine lockstep.pushSpell inSpell readable reads ?_ (fun type => ?_)
    (waitingBefore.read notReady sameDamage) fun change read mirrors => ?_
  · rw [Survey.readSpellLine_of_not_ready inSpell notReady]
  · rw [Survey.readSpellLine_of_not_ready inSpell notReady]
  · have present := lockstep.isSome_waitingDamage inSpell change
    obtain ⟨other, readInSpell, isMirrored⟩ := exists_of_rel_some (inSpell ▸ mirrors.spell)
    have nextMirrors := mirrors.readSpellLine sound inSpell readInSpell directive
      (mirrored _ _ isMirrored) (fun _ => by rw [present, sameDamage])
      (fun ready => by rw [notReady] at ready; cases ready)
    rw [waitingDamage, inSpell, Option.bind_some] at nextMirrors
    rw [sameDamage]
    exact nextMirrors

theorem spell_eq (lockstep : renumbering.Lockstep atStart mapping start survey) :
    renumbering.context.spell = survey.context.spell := by
  rw [lockstep.context_eq]

/-- A line that names the spell that a block copies. -/
theorem copySpell (lockstep : renumbering.Lockstep atStart mapping start survey)
    (sound : mapping.Sound)
    (isRead : ReadLine atStart survey.context line (.spellContent .copySpell ref argument))
    (inSpell : survey.context.spell = some before) :
    (renumbering.spellLine line .copySpell ref argument).Lockstep atStart mapping start
      (survey.readSpellLine .copySpell argument) := by
  have notReady : (before.read .copySpell argument).ready = false :=
    lockstep.waiting.notReady before inSpell
  simp only [spellLine, lockstep.spell_eq, inSpell]
  split
  · next ref number =>
      have isForm : ReadLine atStart survey.context line
          ((LineForm.spellContent .copySpell (some ref)).meaning (.number number)) := isRead
      have isSpell : ref.type = .spell := isForm.fromTable rfl ref rfl
      obtain ⟨written, emitted, readable, reads⟩ := exists_emitEntity
        { renumbering with context := { renumbering.context with
          spell := some (before.read .copySpell (.number number)) } }
        (lockstep.mapping_eq ▸ sound) isForm ref
      rw [emitted]
      rw [lockstep.mapping_eq] at reads
      exact lockstep.pushUnready sound inSpell readable reads notReady rfl
        fun damage other mirrored => { mirrored with
          copied := ArgumentMoved.isKnownSummon_movedNumber sound isSpell number }
  · rw [emit_of_reads isRead.reads (by simp) (by simp)]
    exact lockstep.pushUnready sound inSpell isRead.readable isRead.reads notReady rfl
      fun damage other mirrored => { mirrored with copied := rfl }

/-- A damage line without a number. -/
theorem unreadDamage (lockstep : renumbering.Lockstep atStart mapping start survey)
    (sound : mapping.Sound)
    (isDamage : directive.isDamage = true)
    (isRead : ReadLine atStart survey.context line (.spellContent directive ref argument))
    (inSpell : survey.context.spell = some before) (noNumber : argument.number? = none) :
    (renumbering.spellLine line directive ref argument).Lockstep atStart mapping start
      (survey.readSpellLine directive argument) := by
  have unchanged := SpellBlock.read_of_noNumber isDamage noNumber
  rw [spellLine_of_noNumber (lockstep.spell_eq.trans inSpell) isDamage noNumber,
    emit_of_reads isRead.reads (by simp) (by simp)]
  refine lockstep.pushUnready sound inSpell isRead.readable isRead.reads ?_ ?_
    fun damage other mirrored => ?_
  · rw [unchanged]
    exact lockstep.waiting.notReady before inSpell
  · rw [unchanged]
  · rw [unchanged, unchanged]
    exact mirrored

/-! ### A damage value with a meaning -/

/-- A damage line whose effect is known: it is written for where its content is now. -/
theorem readyDamage (lockstep : renumbering.Lockstep atStart mapping start survey)
    (sound : mapping.Sound) (isDamage : directive.isDamage = true) {number : Int}
    (isRead : ReadLine atStart survey.context line (.spellContent directive ref (.number number)))
    (inSpell : survey.context.spell = some before)
    (ready : (before.read directive (.number number)).ready = true) :
    (renumbering.spellLine line directive ref (.number number)).Lockstep atStart mapping start
      (survey.readSpellLine directive (.number number)) := by
  have readEq := SpellBlock.read_of_isDamage isDamage
  have isForm : ReadLine atStart survey.context line
      ((LineForm.spellContent directive ref).meaning (.number number)) := isRead
  let resolved : SpellBlock := { before.read directive (.number number) with resolved := true }
  have sameDamage : resolved.damage = some number := by
    simp only [resolved, readEq]
  obtain ⟨written, emitted, readable, reads⟩ := exists_emitDamage
    { renumbering with context := { renumbering.context with spell := some resolved } }
    (lockstep.mapping_eq ▸ sound) isForm resolved sameDamage
  rw [spellLine_of_ready (lockstep.spell_eq.trans inSpell) isDamage ready, emitted]
  rw [lockstep.mapping_eq] at reads
  refine lockstep.pushSpell inSpell readable reads ?_ (fun type => ?_)
    (.of_resolved fun _ => by rw [readEq]; rfl) fun change read mirrors => ?_
  · rw [Survey.readSpellLine_of_ready inSpell ready]
  · rw [Survey.readSpellLine_of_ready inSpell ready]
    exact ModDefinition.nextImplicitIndex_recordDamage _
  · obtain ⟨other, readInSpell, mirrored⟩ := exists_of_rel_some (inSpell ▸ mirrors.spell)
    have mirroredNow : (before.read directive (.number number)).MirroredBy
        (mapping.movedDamage (before.read directive (.number number)))
        (other.read directive (.number (mapping.movedNumber
          (interpretDamage resolved.effect number resolved.isKnownSummon) number))) := by
      simp only [resolved, readEq]
      exact { mirrored with damage := fun _ => rfl }
    have nextMirrors := mirrors.readSpellLine sound inSpell readInSpell directive mirroredNow
      (fun _ => by rw [readEq]; rfl) fun _ => damageFollows_movedDamage sound _
    refine nextMirrors.of_resolved fun spell isSpell unresolved => ?_
    rw [Survey.readSpellLine_of_ready inSpell ready] at isSpell
    obtain rfl := Option.some.inj isSpell
    cases unresolved

/-- A damage line before the effect: it waits, and may yet be written in another way. -/
theorem waitingDamageLine (lockstep : renumbering.Lockstep atStart mapping start survey)
    (sound : mapping.Sound) (isDamage : directive.isDamage = true) {number : Int}
    (isRead : ReadLine atStart survey.context line (.spellContent directive ref (.number number)))
    (inSpell : survey.context.spell = some before)
    (notReady : (before.read directive (.number number)).ready = false) :
    (renumbering.spellLine line directive ref (.number number)).Lockstep atStart mapping start
      (survey.readSpellLine directive (.number number)) := by
  have readEq := SpellBlock.read_of_isDamage isDamage
  have readSpellLineEq := Survey.readSpellLine_of_not_ready inSpell notReady
  have reads := isRead.reads
  rw [lockstep.consistent.inSpellBlock_eq] at reads
  -- Whatever number takes the place of the value, the line is read with it.
  have renders : ∀ written value, written.Readable atStart →
      Reads survey.context.spell.isSome written.line (.spellContent directive ref (.number value)) →
      Renders atStart mapping start (renumbering.output.toList ++ [written])
        (survey.readSpellLine directive (.number number)) (some value) := by
    intro written value readable reads
    have before := lockstep.renders none (fun _ member => by cases member)
    rw [written_none] at before
    refine before.concat readable reads (by simp) (by simp) (by simp)
      fun read _ mirrors _ => ⟨_, rfl, ?_⟩
    obtain ⟨other, readInSpell, mirrored⟩ := exists_of_rel_some (inSpell ▸ mirrors.spell)
    refine mirrors.readSpellLine sound inSpell readInSpell directive ?_ (fun _ => ?_)
      fun ready => ?_
    · rw [readEq, readEq]
      exact { mirrored with damage := fun _ => rfl }
    · rw [readEq]
      rfl
    · rw [notReady] at ready
      cases ready
  rw [spellLine_of_not_ready (lockstep.spell_eq.trans inSpell) isDamage notReady]
  refine ⟨lockstep.mapping_eq, ?_, fun type => ?_, ?_, ?_, ?_, fun change short => ?_⟩
  · rw [readSpellLineEq, lockstep.context_eq]
  · rw [readSpellLineEq]
    exact lockstep.counts_eq type
  · rw [readSpellLineEq]
    exact lockstep.consistent.withSpell (by rw [inSpell]; rfl) _
  · rw [readSpellLineEq]
    exact .of_damage notReady (by rw [readEq]; rfl) _
  · intro position isPosition
    obtain rfl := Option.some.inj isPosition
    rw [Array.size_push]
    exact Nat.lt_succ_self _
  · unfold waitingDamage Renumbering.written
    rw [readSpellLineEq, Array.toList_push, readEq]
    rw [readSpellLineEq, readEq] at renders
    cases change with
    | none => exact renders { line } number isRead.readable reads
    | some remap =>
        have isForm : ReadLine atStart survey.context line
            ((LineForm.spellContent directive ref).meaning (.number number)) := isRead
        obtain ⟨readable, readsNew⟩ := isForm.replaced (short remap rfl)
          (.damage remap.type remap.old remap.new) trivial rfl
        rw [lockstep.consistent.inSpellBlock_eq] at readsNew
        simp only [← Array.length_toList, modify_concat_last]
        exact renders (damageLine line remap) remap.argument readable readsNew

/-- The effect of a spell, which gives its damage value a meaning. -/
theorem effect (lockstep : renumbering.Lockstep atStart mapping start survey)
    (sound : mapping.Sound)
    (isRead : ReadLine atStart survey.context line (.spellContent .effect ref argument))
    (inSpell : survey.context.spell = some before) :
    (renumbering.spellLine line .effect ref argument).Lockstep atStart mapping start
      (survey.readSpellLine .effect argument) := by
  have mirrored : ∀ damage other, before.MirroredBy damage other →
      (before.read .effect argument).MirroredBy damage (other.read .effect argument) :=
    fun damage other mirrored => { mirrored with effect := rfl }
  have emitted := emit_of_reads isRead.reads (by simp) (by simp)
  have waitingBefore := lockstep.waiting
  rw [inSpell] at waitingBefore
  cases ready : (before.read .effect argument).ready with
  | false =>
      rw [spellLine_effect (lockstep.spell_eq.trans inSpell) ready, emitted]
      exact lockstep.pushUnready sound inSpell isRead.readable isRead.reads ready rfl mirrored
  | true =>
      obtain ⟨isSome, output, spellLineEq, outputEq⟩ := exists_spellLine_effect
        (lockstep.spell_eq.trans inSpell) waitingBefore lockstep.bound ready emitted ref
      obtain ⟨position, pending⟩ := Option.isSome_iff_exists.1 isSome
      have readSpellLineEq := Survey.readSpellLine_of_ready inSpell ready
      have reads := isRead.reads
      rw [lockstep.consistent.inSpellBlock_eq] at reads
      have short := shortChange_remapDamage sound (before.read .effect argument)
      have renders : Renders atStart mapping start output.toList
          (survey.readSpellLine .effect argument)
          (mapping.movedDamage (before.read .effect argument)) := by
        rw [outputEq, lockstep.mapping_eq]
        refine (lockstep.renders _ short).concat isRead.readable reads (by simp) (by simp) (by simp)
          fun read _ mirrors _ => ⟨_, rfl, ?_⟩
        rw [waitingDamage_remapDamage mapping pending inSpell (before.read .effect argument) rfl]
          at mirrors
        obtain ⟨other, readInSpell, isMirrored⟩ := exists_of_rel_some (inSpell ▸ mirrors.spell)
        refine mirrors.readSpellLine sound inSpell readInSpell .effect (mirrored _ _ isMirrored)
          (fun _ => ?_) fun _ => damageFollows_movedDamage sound _
        rw [ModMapping.movedDamage, Option.isSome_map]
      rw [spellLineEq]
      refine ⟨lockstep.mapping_eq, ?_, fun type => ?_, ?_, ?_, ?_, fun change _ => ?_⟩
      · rw [readSpellLineEq, lockstep.context_eq]
      · rw [readSpellLineEq, ModDefinition.nextImplicitIndex_recordDamage]
        exact lockstep.counts_eq type
      · rw [readSpellLineEq]
        exact lockstep.consistent.withSpell (by rw [inSpell]; rfl) _
      · rw [readSpellLineEq]
        exact .of_resolved fun isSome => by cases isSome
      · intro position isPosition
        cases isPosition
      · refine renders.of_mirrors (fun read mirrors => ?_) id
        refine mirrors.of_resolved fun block isBlock unresolved => ?_
        rw [readSpellLineEq] at isBlock
        obtain rfl := Option.some.inj isBlock
        cases unresolved

/-! ### The end of a block -/

theorem inSpellBlock_eq (lockstep : renumbering.Lockstep atStart mapping start survey) :
    renumbering.context.inSpellBlock = survey.context.spell.isSome := by
  rw [← lockstep.consistent.inSpellBlock_eq, lockstep.context_eq]
  rfl

/-- When a block ends, the damage line that waits is replaced, if there is one. -/
theorem exists_finished (lockstep : renumbering.Lockstep atStart mapping start survey)
    (sound : mapping.Sound) :
    ∃ context output change,
      renumbering.leaveSpell =
        { renumbering with context, output, pendingDamage := none } ∧
      context.closeBlock = renumbering.context.closeBlock ∧
      output.toList = renumbering.written change ∧ ShortChange change ∧
      ∀ spell, survey.context.spell = some spell → spell.resolved = false →
        DamageFollows mapping spell (renumbering.waitingDamage survey change) := by
  obtain ⟨context, output, finished, closed, outputEq⟩ := exists_finishSpell
    (lockstep.spell_eq ▸ lockstep.waiting) (lockstep.spell_eq ▸ lockstep.inSpellBlock_eq)
  refine ⟨context, output, _, finished, closed, outputEq, ?_, fun spell inSpell unresolved => ?_⟩
  · rw [lockstep.mapping_eq]
    intro remap moves
    obtain ⟨spell, -, moves⟩ := Option.bind_eq_some_iff.1 moves
    split at moves
    · cases moves
    · exact shortChange_remapDamage sound spell remap moves
  · rw [lockstep.spell_eq, inSpell, Option.bind_some, unresolved, if_neg Bool.false_ne_true,
      lockstep.mapping_eq]
    cases pending : renumbering.pendingDamage with
    | some position =>
        rw [waitingDamage_remapDamage mapping pending inSpell spell rfl]
        exact damageFollows_movedDamage sound spell
    | none =>
        have noDamage : spell.damage = none := by
          rw [← Option.not_isSome_iff_eq_none]
          intro present
          have isSome := lockstep.waiting.waits spell inSpell unresolved present
          rw [pending] at isSome
          cases isSome
        rw [DamageFollows, SpellBlock.damageTarget, waitingDamage, inSpell, pending,
          Option.bind_some, noDamage]
        rfl

/-- The end of a block, which is left out if it repeats the end of the block before. -/
theorem blockEnd (lockstep : renumbering.Lockstep atStart mapping start survey)
    (sound : mapping.Sound)
    (isRead : ReadLine atStart survey.context line .blockEnd) :
    (renumbering.closeBlock line).Lockstep atStart mapping start survey.closeBlock := by
  obtain ⟨context, output, change, finishedEq, closed, outputEq, short, follows⟩ :=
    lockstep.exists_finished sound
  have renders := lockstep.renders change short
  rw [← outputEq] at renders
  have lockstepOf : ∀ {output : Array OutputLine},
      Renders atStart mapping start output.toList survey.closeBlock none →
      ({ renumbering with
        context := context.closeBlock, output, pendingDamage := none } : Renumbering).Lockstep
        atStart mapping start survey.closeBlock := by
    intro output renders
    refine ⟨lockstep.mapping_eq, ?_, fun type => ?_,
      lockstep.consistent.closeBlock isRead.not_inDescription, waiting_none,
      fun position isPosition => (by cases isPosition), fun change _ => ?_⟩
    · simp only [closed, lockstep.context_eq]
      rfl
    · rw [survey.nextImplicitIndex_closeBlock]
      exact lockstep.counts_eq type
    · rw [written_of_pendingDamage_eq_none rfl]
      exact renders
  have reads := isRead.reads
  rw [lockstep.consistent.inSpellBlock_eq] at reads
  simp only [Renumbering.closeBlock, finishedEq]
  rcases emit_of_blockEnd isRead.reads { renumbering with
      context := context.closeBlock, output, pendingDamage := none } with
    ⟨dropped, repeated⟩ | pushed
  · rw [dropped]
    refine lockstepOf ?_
    have noBlock := renders.ends repeated
    have noSpell : survey.context.spell = none := by
      apply lockstep.consistent.spell_eq_none
      intro inside
      have isSome := lockstep.consistent.spell_blockLine inside
      rw [noBlock.blockLine] at isSome
      cases isSome
    refine renders.of_mirrors (fun read mirrors => ?_) fun _ => ⟨rfl, rfl⟩
    have mirrors : survey.Mirrors mapping start none read :=
      mirrors.of_resolved fun spell isSpell _ => by
        rw [noSpell] at isSpell
        cases isSpell
    refine mirrors.of_unread noSpell.symm noBlock.active.symm ⟨survey.definition.displayName, ?_⟩
    simp only [Survey.closeBlock, noSpell]
  · rw [pushed]
    refine lockstepOf ?_
    rw [Array.toList_push]
    exact renders.concat isRead.readable reads (by simp) (by simp) (fun _ => ⟨rfl, rfl⟩)
      fun read _ mirrors _ => ⟨_, rfl, mirrors.closeBlock sound follows⟩

end Lockstep

end Renumbering

end ModMerge
