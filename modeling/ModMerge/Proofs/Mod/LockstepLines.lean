import ModMerge.Proofs.Mod.Lockstep

/-!
# Lines in lockstep

For each kind of line, renumbering writes what a survey of the written lines needs to go on
mirroring the survey of the mod.
-/

namespace ModMerge

/-- A line of the mod and what it is read as, outside of descriptions. -/
structure ReadLine (atStart : Prop) (context : ParseContext) (line : Line)
    (meaning : LineMeaning) : Prop where
  outside : context.inDescription = false
  read : ∃ classified, classify context line = .ok classified ∧ classified.meaning = meaning
  plain : Plain line
  unmarked : atStart → Unmarked line

namespace ReadLine

variable {atStart : Prop} {context : ParseContext} {line : Line} {meaning : LineMeaning}
  {form : LineForm} {number : Int}

theorem reads (isRead : ReadLine atStart context line meaning) :
    Reads context.inSpellBlock line meaning := by
  obtain ⟨classified, read, rfl⟩ := isRead.read
  exact reads_of_classify isRead.outside read

theorem readable (isRead : ReadLine atStart context line meaning) :
    OutputLine.Readable atStart { line } :=
  OutputLine.readable_of_unchanged isRead.plain isRead.unmarked

theorem not_inDescription (isRead : ReadLine atStart context line meaning) :
    context.state ≠ .inDescription := by
  rw [ne_eq, ← inDescription_iff, isRead.outside]
  exact Bool.false_ne_true

theorem fromTable {argument : Argument}
    (isRead : ReadLine atStart context line (form.meaning argument)) :
    form.FromTable := by
  obtain ⟨classified, read, isForm⟩ := isRead.read
  exact LineForm.fromTable_of_classify read isForm

/-- The line with its number replaced. -/
theorem replaced (isRead : ReadLine atStart context line (form.meaning (.number number)))
    {new : Int}
    (short : Text.Short new) (change : LineChange)
    (plainWords : change.PlainWords) {written : OutputLine}
    (writtenEq : written = { line := Text.leadingBlanks line ++ replaceArgument (Text.trim line) new
                             change := some change }) :
    written.Readable atStart ∧
    Reads context.inSpellBlock written.line (form.meaning (.number new)) := by
  obtain ⟨classified, read, isForm⟩ := isRead.read
  obtain ⟨reads, plain, begins⟩ :=
    reads_replaceArgument isRead.outside read isForm short isRead.plain
  subst writtenEq
  refine ⟨OutputLine.readable_of_changed ?_ ?_ (isBlankText_of_reads reads ?_) plainWords, reads⟩
  · exact (isRead.plain.of_subset (List.takeWhile_prefix _).subset).append plain
  · refine unmarked_append (Text.allBlank_leadingBlanks line) ?_
    rw [Unmarked, begins]
    decide
  · cases form <;> simp [LineForm.meaning]

/-- The line of a definition without an id, with an id. -/
theorem identified {word newWord : String} {ref newRef : DirectiveRef} {id : Int}
    (isRead : ReadLine atStart context line (.blockStart word ref .absent))
    (inTable : newRef ∈ directiveTable) (opens : newRef.rule.opensBlock = true)
    (isWord : newWord ∈ newRef.rule.words) (short : Text.Short id) (change : LineChange)
    (plainWords : change.PlainWords) :
    OutputLine.Readable atStart
      { line := Text.leadingBlanks line ++
          directiveWithId newWord id (afterDirectiveWord (Text.trim line))
        change := some change } ∧
    Reads context.inSpellBlock (Text.leadingBlanks line ++
        directiveWithId newWord id (afterDirectiveWord (Text.trim line)))
      (.blockStart newWord newRef (.number id)) := by
  obtain ⟨classified, read, isStart⟩ := isRead.read
  obtain ⟨reads, plain⟩ := reads_directiveWithId isRead.outside read isStart inTable opens isWord
    short isRead.plain
  refine ⟨OutputLine.readable_of_changed ?_ ?_ (isBlankText_of_reads reads (by simp)) plainWords,
    reads⟩
  · exact (isRead.plain.of_subset (List.takeWhile_prefix _).subset).append plain
  · refine unmarked_append (Text.allBlank_leadingBlanks line) ?_
    rw [Unmarked, directiveWithId, List.head?_cons]
    decide

/-- The line of a definition without an id, once the definition has one. -/
theorem assigned {word newWord : String} {ref newRef : DirectiveRef} {mapping : ModMapping}
    {definition : ModDefinition} {id : Int}
    (isRead : ReadLine atStart context line (.blockStart word ref .absent)) (sound : mapping.Sound)
    (isNew : ref.rule.role = .new) (inTable : newRef ∈ directiveTable)
    (opens : newRef.rule.opensBlock = true) (isWord : newWord ∈ newRef.rule.words)
    (sameType : newRef.type = ref.type)
    (settled : mapping.implicitId? ref.type (definition.nextImplicitIndex ref.type) = some id)
    (change : LineChange) (plainWords : change.PlainWords) :
    OutputLine.Readable atStart
      { line := Text.leadingBlanks line ++
          directiveWithId newWord id (afterDirectiveWord (Text.trim line))
        change := some change } ∧
    Reads context.inSpellBlock (Text.leadingBlanks line ++
        directiveWithId newWord id (afterDirectiveWord (Text.trim line)))
      (.blockStart newWord newRef (.number id)) ∧
    ArgumentMoved mapping definition ref .absent newRef (.number id) := by
  have modding := sound.implicit _ _ _ settled
  obtain ⟨readable, reads⟩ := isRead.identified inTable opens isWord
    (ModMapping.short_of_isModding modding) change plainWords
  refine ⟨readable, reads, .assigned isNew ?_ sameType settled⟩
  have positive := (ModMapping.bounds_of_isModding modding).1
  have accepts := (of_opensBlock newRef inTable opens).1
  rw [DirectiveRef.resolve, if_neg (by omega), if_pos accepts, sameType]

end ReadLine

/-- A block is opened only outside of spell blocks. -/
theorem Survey.outside_of_openBlock (survey : Survey) {next : Survey} {lineNumber : Nat}
    {ref : DirectiveRef} {argument : Argument}
    (opened : survey.openBlock lineNumber ref argument = .ok next) :
    survey.context.state ≠ .inSpellBlock := by
  intro inside
  obtain ⟨context, isOpened, -⟩ := bind_eq_ok.1 opened
  rw [ParseContext.openBlock, if_pos inside] at isOpened
  cases isOpened

namespace Renumbering

variable {atStart : Prop} {renumbering : Renumbering} {context : ParseContext} {line : Line}
  {form : LineForm} {number : Int}

/-- A line with a number is written with the number that names the same content. -/
theorem exists_written_number (renumbering : Renumbering) (sound : renumbering.mapping.Sound)
    (isRead : ReadLine atStart context line (form.meaning (.number number)))
    (content : Option EntityId)
    (change : RemappedArgument → LineChange) (plainWords : ∀ remap, (change remap).PlainWords)
    {next : Renumbering} (nextEq : next =
      match content.bind fun content =>
          renumbering.mapping.remapContent content (number < 0) with
      | some remap =>
          renumbering.emitChanged
            (Text.leadingBlanks line ++ replaceArgument (Text.trim line) remap.argument)
            (change remap)
      | none => renumbering.emit line) :
    ∃ written, next = { renumbering with output := renumbering.output.push written } ∧
      written.Readable atStart ∧ Reads context.inSpellBlock written.line
        (form.meaning (.number (renumbering.mapping.movedNumber content number))) := by
  cases moves : content.bind fun content =>
      renumbering.mapping.remapContent content (number < 0) with
  | some remap =>
      have moved : renumbering.mapping.movedNumber content number = remap.argument := by
        rw [ModMapping.movedNumber, moves]
      have short : Text.Short remap.argument := by
        obtain ⟨found, -, moves⟩ := Option.bind_eq_some_iff.1 moves
        exact ModMapping.short_of_remapContent sound moves
      rw [moves] at nextEq
      rw [moved]
      exact ⟨_, nextEq, isRead.replaced short (change remap) (plainWords remap) rfl⟩
  | none =>
      have stays : renumbering.mapping.movedNumber content number = number := by
        rw [ModMapping.movedNumber, moves]
      rw [moves] at nextEq
      rw [stays]
      refine ⟨{ line }, ?_, isRead.readable, isRead.reads⟩
      rw [nextEq]
      exact emit_of_reads isRead.reads (by cases form <;> simp [LineForm.meaning])
        (by cases form <;> simp [LineForm.meaning]) renumbering

theorem exists_emitEntity (renumbering : Renumbering) (sound : renumbering.mapping.Sound)
    (isRead : ReadLine atStart context line (form.meaning (.number number))) (ref : DirectiveRef) :
    ∃ written, renumbering.emitEntity line ref number =
        { renumbering with output := renumbering.output.push written } ∧
      written.Readable atStart ∧ Reads context.inSpellBlock written.line
        (form.meaning (.number (renumbering.mapping.movedNumber (ref.resolve number) number))) :=
  exists_written_number renumbering sound isRead (ref.resolve number)
    (fun remap => .remapped remap.type remap.old remap.new) (fun _ => trivial) rfl

theorem exists_emitDamage (renumbering : Renumbering) (sound : renumbering.mapping.Sound)
    (isRead : ReadLine atStart context line (form.meaning (.number number))) (spell : SpellBlock)
    (damage : spell.damage = some number) :
    ∃ written, renumbering.emitDamage line spell =
        { renumbering with output := renumbering.output.push written } ∧
      written.Readable atStart ∧ Reads context.inSpellBlock written.line
        (form.meaning (.number (renumbering.mapping.movedNumber
          (interpretDamage spell.effect number spell.isKnownSummon) number))) := by
  refine exists_written_number renumbering sound isRead
    (interpretDamage spell.effect number spell.isKnownSummon)
    (fun remap => .damage remap.type remap.old remap.new) (fun _ => trivial) ?_
  simp only [emitDamage, ModMapping.remapDamage, SpellBlock.damageTarget, damage, Option.bind_some,
    Option.any_some]
  rfl

/-! ### Lines outside of the spell machinery -/

namespace Lockstep

variable {mapping : ModMapping} {start survey nextSurvey : Survey} {meaning : LineMeaning}
  {lineNumber : Nat}

/-- A line that is written and leaves the context as it is. -/
theorem keep (lockstep : renumbering.Lockstep atStart mapping start survey) {written : OutputLine}
    (readable : written.Readable atStart)
    (reads : Reads survey.context.inSpellBlock written.line meaning)
    (notBlank : meaning ≠ .blank) (noDescription : meaning ≠ .descriptionStart true)
    (notEnd : meaning ≠ .blockEnd) (context : nextSurvey.context = survey.context)
    (counts : ∀ type, nextSurvey.definition.nextImplicitIndex type =
      survey.definition.nextImplicitIndex type)
    (leads : ∀ damage read, survey.Mirrors mapping start damage read → ∀ lineNumber,
      ∃ nextRead, read.advance lineNumber meaning = .ok nextRead ∧
        nextSurvey.Mirrors mapping start damage nextRead) :
    ({ renumbering with output := renumbering.output.push written } : Renumbering).Lockstep atStart
      mapping start nextSurvey := by
  rw [lockstep.consistent.inSpellBlock_eq] at reads
  refine lockstep.push rfl rfl lockstep.mapping_eq ?_ (fun type => ?_) ?_ ?_ readable reads
    notBlank noDescription notEnd fun change _ read _ mirrors => ?_
  · rw [context]
    exact lockstep.context_eq
  · rw [counts]
    exact lockstep.counts_eq type
  · rw [context]
    exact lockstep.consistent
  · rw [context]
    exact lockstep.waiting
  · have same : ({ renumbering with output := renumbering.output.push written } :
        Renumbering).waitingDamage nextSurvey change = renumbering.waitingDamage survey change :=
      waitingDamage_congr rfl (by rw [context]) change
    rw [same]
    exact leads _ read mirrors

/-- A line that means nothing to a survey. -/
theorem text (lockstep : renumbering.Lockstep atStart mapping start survey)
    (isRead : ReadLine atStart survey.context line meaning) (notBlank : meaning ≠ .blank)
    (noDescription : meaning ≠ .descriptionStart true) (notEnd : meaning ≠ .blockEnd)
    (passed : ∀ (survey : Survey) lineNumber, survey.advance lineNumber meaning = .ok survey) :
    (renumbering.emit line).Lockstep atStart mapping start survey := by
  rw [emit_of_reads isRead.reads notBlank notEnd]
  exact lockstep.keep isRead.readable isRead.reads notBlank noDescription notEnd rfl
    (fun _ => rfl) fun _ read mirrors lineNumber => ⟨read, passed read lineNumber, mirrors⟩

theorem name (lockstep : renumbering.Lockstep atStart mapping start survey) {given : String}
    (isRead : ReadLine atStart survey.context line (.name (some given))) :
    (renumbering.emit line).Lockstep atStart mapping start (survey.bindName given) := by
  obtain ⟨entities, -, context⟩ := survey.bindName_unchanged given
  rw [emit_of_reads isRead.reads (by simp) (by simp)]
  refine lockstep.keep isRead.readable isRead.reads (by simp) (by simp) (by simp) context
    (fun type => ?_) fun _ read mirrors lineNumber => ?_
  · rw [ModDefinition.nextImplicitIndex, entities, ModDefinition.nextImplicitIndex]
  · exact ⟨_, read.advance_name lineNumber given, mirrors.bindName given⟩

/-- A line within a block that names content. -/
theorem entity (lockstep : renumbering.Lockstep atStart mapping start survey)
    (sound : mapping.Sound)
    {word : String} {ref : DirectiveRef} {argument : Argument}
    (isRead : ReadLine atStart survey.context line (.entity word ref argument))
    (advanced : survey.advance lineNumber (.entity word ref argument) = .ok nextSurvey) :
    ∃ next, renumbering.advance lineNumber line (.entity word ref argument) = .ok next ∧
      next.Lockstep atStart mapping start nextSurvey := by
  have notNew : ref.rule.role ≠ .new :=
    (ReadLine.fromTable isRead : (LineForm.entity word ref).FromTable)
  have context : nextSurvey.context = survey.context := by
    obtain rfl := Except.ok.inj advanced
    split <;> rfl
  have counts : ∀ type, nextSurvey.definition.nextImplicitIndex type =
      survey.definition.nextImplicitIndex type := by
    intro type
    obtain rfl := Except.ok.inj advanced
    split
    · exact survey.definition.nextImplicitIndex_recordArgument (fun _ => notNew) type
    · rfl
  have leads : ∀ {newArgument : Argument},
      ArgumentMoved mapping survey.definition ref argument ref newArgument →
      ∀ damage read, survey.Mirrors mapping start damage read → ∀ lineNumber, ∃ nextRead,
        read.advance lineNumber (.entity word ref newArgument) = .ok nextRead ∧
        nextSurvey.Mirrors mapping start damage nextRead :=
    fun moved _ _ mirrors readLineNumber => mirrors.entity sound moved advanced readLineNumber
  cases argument with
  | number number =>
      have isForm : ReadLine atStart survey.context line
          ((LineForm.entity word ref).meaning (.number number)) := isRead
      have sound := lockstep.mapping_eq ▸ sound
      obtain ⟨written, emitted, readable, reads⟩ := exists_emitEntity renumbering sound isForm ref
      refine ⟨_, congrArg Except.ok emitted, ?_⟩
      rw [lockstep.mapping_eq] at reads
      exact lockstep.keep readable reads (by simp [LineForm.meaning]) (by simp [LineForm.meaning])
        (by simp [LineForm.meaning]) context counts (leads (.number number))
  | name name =>
      refine ⟨_, congrArg Except.ok (emit_of_reads isRead.reads (by simp) (by simp) _), ?_⟩
      exact lockstep.keep isRead.readable isRead.reads (by simp) (by simp) (by simp) context counts
        (leads (.name name))
  | absent =>
      refine ⟨_, congrArg Except.ok (emit_of_reads isRead.reads (by simp) (by simp) _), ?_⟩
      exact lockstep.keep isRead.readable isRead.reads (by simp) (by simp) (by simp) context counts
        (leads (.absent notNew))

/-! ### Blocks -/

/-- The line that opens a block is written so that it opens the block of the same content. -/
theorem exists_emitBlockStart (lockstep : renumbering.Lockstep atStart mapping start survey)
    (sound : mapping.Sound) {word : String} {ref : DirectiveRef} {argument : Argument}
    (isRead : ReadLine atStart survey.context line (.blockStart word ref argument))
    (provided : ∀ type, (survey.definition.recordArgument ref argument).nextImplicitIndex type ≤
      (mapping.implicitIds type).length) (lineNumber : Nat) :
    ∃ written newWord newRef newArgument implicitCounts,
      renumbering.emitBlockStart lineNumber line word ref argument = .ok { renumbering with
        output := renumbering.output.push written, implicitCounts } ∧
      written.Readable atStart ∧
      Reads survey.context.inSpellBlock written.line (.blockStart newWord newRef newArgument) ∧
      ArgumentMoved mapping survey.definition ref argument newRef newArgument ∧
      ∀ type, implicitCounts.get type =
        (survey.definition.recordArgument ref argument).nextImplicitIndex type := by
  obtain ⟨inTable, opens, isWord⟩ :=
    (ReadLine.fromTable isRead : (LineForm.blockStart word ref).FromTable)
  have unchanged : (argument = .absent → ref.rule.role ≠ .new) → ∀ type,
      renumbering.implicitCounts.get type =
        (survey.definition.recordArgument ref argument).nextImplicitIndex type := by
    intro kept type
    rw [lockstep.counts_eq, survey.definition.nextImplicitIndex_recordArgument kept]
  cases argument with
  | number number =>
      have isForm : ReadLine atStart survey.context line
          ((LineForm.blockStart word ref).meaning (.number number)) := isRead
      obtain ⟨written, emitted, readable, reads⟩ :=
        exists_emitEntity renumbering (lockstep.mapping_eq ▸ sound) isForm ref
      rw [lockstep.mapping_eq] at reads
      exact ⟨written, word, ref, _, renumbering.implicitCounts, congrArg Except.ok emitted,
        readable, reads, .number number, unchanged (by simp)⟩
  | name name =>
      exact ⟨{ line }, word, ref, _, renumbering.implicitCounts,
        congrArg Except.ok (emit_of_reads isRead.reads (by simp) (by simp) _), isRead.readable,
        isRead.reads, .name name, unchanged (by simp)⟩
  | absent =>
      by_cases isNew : ref.rule.role = .new
      · obtain ⟨id, settled⟩ := exists_implicitId? isNew provided
        have counted := get_set_implicitCounts isNew lockstep.counts_eq
        have plainWord := (spelling_of_opensBlock ref inTable opens word isWord).2.2.2
        simp only [emitBlockStart, if_pos isNew, lockstep.counts_eq, lockstep.mapping_eq, settled]
        cases select : ref.rule.implicitSelect with
        | none =>
            obtain ⟨readable, reads, moved⟩ := isRead.assigned sound isNew inTable opens isWord rfl
              settled (.assigned ref.type id) trivial
            exact ⟨_, word, ref, _, _, rfl, readable, reads, moved, counted⟩
        | some selectWord =>
            obtain ⟨newRef, newInTable, sameType, -, newOpens, newIsWord⟩ :=
              exists_select_of_implicitSelect ref inTable selectWord select
            have plainSelect :=
              (spelling_of_opensBlock newRef newInTable newOpens selectWord newIsWord).2.2.2
            obtain ⟨readable, reads, moved⟩ := isRead.assigned sound isNew newInTable newOpens
              newIsWord sameType settled (.converted word selectWord id)
              ⟨plainWord, plainSelect⟩
            exact ⟨_, selectWord, newRef, _, _, rfl, readable, reads, moved, counted⟩
      · refine ⟨{ line }, word, ref, _, renumbering.implicitCounts, ?_, isRead.readable,
          isRead.reads, .absent isNew, unchanged fun _ => isNew⟩
        simp only [emitBlockStart, if_neg isNew]
        exact congrArg Except.ok (emit_of_reads isRead.reads (by simp) (by simp) _)

theorem blockStart (lockstep : renumbering.Lockstep atStart mapping start survey)
    (sound : mapping.Sound)
    {word : String} {ref : DirectiveRef} {argument : Argument}
    (isRead : ReadLine atStart survey.context line (.blockStart word ref argument))
    (advanced : survey.advance lineNumber (.blockStart word ref argument) = .ok nextSurvey)
    (provided : ∀ type, nextSurvey.definition.nextImplicitIndex type ≤
      (mapping.implicitIds type).length) :
    ∃ next, renumbering.advance lineNumber line (.blockStart word ref argument) = .ok next ∧
      next.Lockstep atStart mapping start nextSurvey := by
  have consistent := Survey.consistent_advance lockstep.consistent isRead.not_inDescription
    (fun _ same => by cases same) advanced
  have outside : survey.context.state ≠ .inSpellBlock := survey.outside_of_openBlock advanced
  have noSpell := lockstep.consistent.spell_eq_none outside
  obtain ⟨same, sameOpened, spell, -, entities, -, -⟩ :=
    survey.exists_openBlock lineNumber ref argument outside
  obtain rfl := Except.ok.inj (sameOpened.symm.trans advanced)
  have counted : ∀ type, same.definition.nextImplicitIndex type =
      (survey.definition.recordArgument ref argument).nextImplicitIndex type := by
    intro type
    rw [ModDefinition.nextImplicitIndex, entities, ModDefinition.nextImplicitIndex]
  obtain ⟨written, newWord, newRef, newArgument, implicitCounts, emitted, readable, reads, moved,
    counts⟩ := lockstep.exists_emitBlockStart sound isRead
      (fun type => counted type ▸ provided type) lineNumber
  have nothingWaits : renumbering.pendingDamage = none :=
    Waiting.pending_eq_none (noSpell ▸ lockstep.waiting)
  have noDamage : ∀ block ∈ same.context.spell, block.damage = none := by
    intro block isOpen
    rw [spell, noSpell] at isOpen
    split at isOpen <;> cases isOpen
    rfl
  rw [lockstep.consistent.inSpellBlock_eq] at reads
  refine ⟨{ renumbering with
    output := renumbering.output.push written
    implicitCounts
    context := { same.context with active := none } },
    openBlock_eq emitted lockstep.context_eq advanced, ?_⟩
  refine lockstep.push rfl rfl lockstep.mapping_eq rfl (fun type => ?_) consistent ?_ readable
    reads (by simp) (by simp) (by simp) fun change _ read inBlock mirrors readLineNumber => ?_
  · rw [counts, counted]
  · rw [nothingWaits]
    exact .of_noDamage noDamage
  · have readOutside : read.context.state ≠ .inSpellBlock := by
      rw [ne_eq, ← inSpellBlock_iff, inBlock, noSpell]
      exact Bool.false_ne_true
    have noneGiven : same.context.spell.bind (·.damage) = none :=
      Option.bind_eq_none_iff.2 noDamage
    obtain ⟨nextRead, readOpened, nextMirrors⟩ := mirrors.openBlock sound moved noSpell outside
      sameOpened readOutside readLineNumber
    refine ⟨nextRead, readOpened, ?_⟩
    unfold waitingDamage
    simp only [nothingWaits, noneGiven]
    exact nextMirrors

end Lockstep

end Renumbering

end ModMerge
