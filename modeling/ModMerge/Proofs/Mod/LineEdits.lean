import ModMerge.Proofs.Mod.Drafts

/-!
# What renumbering changes in a line

A line is drafted as it stands, with another number in the place of its own, or with the id
that it is given behind its directive (`LineEdit`). A line that is changed is always another
line, and it is never one that could be left out.
-/

namespace ModMerge

/-! ### Numbers that move -/

/-- Content that moved is named by another number. -/
theorem argument_ne_of_remapContent {mapping : ModMapping} {content : EntityId} {number : Int}
    {remap : RemappedArgument} (isNamed : content.IsNamedBy number)
    (moves : mapping.remapContent content (number < 0) = some remap) :
    remap.argument ≠ number := by
  obtain ⟨different, rfl⟩ := ModMapping.remapContent_eq_some_iff.1 moves
  rw [EntityId.IsNamedBy] at isNamed
  simp only [decide_eq_true_eq]
  split at isNamed <;> split <;> omega

/-- The damage value does not change while it waits for its effect. -/
theorem SpellBlock.damage_of_settlement {later : List LineMeaning} {spell settled : SpellBlock}
    (settles : spell.settlement later = some settled) : settled.damage = spell.damage := by
  induction later generalizing spell with
  | nil =>
      cases ready : spell.ready with
      | true =>
          rw [settlement_of_ready ready] at settles
          rw [Option.some.inj settles]
      | false =>
          rw [settlement_nil ready] at settles
          split at settles
          · cases settles
          · rw [Option.some.inj settles]
  | cons meaning later inductionHypothesis =>
      cases ready : spell.ready with
      | true =>
          rw [settlement_of_ready ready] at settles
          rw [Option.some.inj settles]
      | false =>
          by_cases isEnd : meaning = .blockEnd
          · rw [isEnd, settlement_blockEnd, settlement_nil ready] at settles
            split at settles
            · cases settles
            · rw [Option.some.inj settles]
          by_cases isContent : ∃ directive ref argument,
              meaning = .spellContent directive ref argument
          · obtain ⟨directive, ref, argument, rfl⟩ := isContent
            rw [settlement_spellContent ready] at settles
            split at settles
            · cases settles
            · next noDamage =>
                rw [inductionHypothesis settles,
                  damage_read (Bool.not_eq_true _ ▸ noDamage)]
          · rw [settlement_cons isEnd fun directive ref argument same =>
              isContent ⟨directive, ref, argument, same⟩] at settles
            exact inductionHypothesis settles

/-! ### The ways in which a line is drafted -/

/-- The change is told by the id of content that a number named before and the id that the content
has now, which the new number has but for its sign. -/
def LineChange.Tells (mapping : ModMapping) (number new : Int) (change : LineChange) : Prop :=
  ∃ content : EntityId, content.IsNamedBy number ∧
    mapping.newId content.type content.id ≠ content.id ∧
    new.natAbs = (mapping.newId content.type content.id).natAbs ∧
    change.numbers = [content.id, mapping.newId content.type content.id]

/-- How a line is drafted: as it stands, with the number of content that moved, or with the id
that it is given. -/
inductive IsDraft (mapping : ModMapping) (surveyed : SurveyedLine) : OutputLine → Prop where
  | same (noneAssigned : ∀ word ref, surveyed.meaning = .blockStart word ref .absent →
      ref.rule.role = .new → mapping.implicitId? ref.type
        (surveyed.before.definition.nextImplicitIndex ref.type) = none) :
      IsDraft mapping surveyed { line := surveyed.line }
  | moved (form : LineForm) (number new : Int) (change : LineChange)
      (isForm : surveyed.meaning = form.meaning (.number number)) (different : new ≠ number)
      (plainWords : change.PlainWords) (tells : change.Tells mapping number new) :
      IsDraft mapping surveyed
        ⟨Text.leadingBlanks surveyed.line ++ replaceArgument (Text.trim surveyed.line) new,
          some change⟩
  | assigned (word : String) (ref : DirectiveRef) (id : Int)
      (isStart : surveyed.meaning = .blockStart word ref .absent) (isNew : ref.rule.role = .new)
      (isAssigned : mapping.implicitId? ref.type
        (surveyed.before.definition.nextImplicitIndex ref.type) = some id) :
      IsDraft mapping surveyed (ModMapping.assignedLine surveyed.line word ref id)

theorem tells_of_remapContent {mapping : ModMapping} {content : EntityId} {number : Int}
    {negative : Bool} {remap : RemappedArgument} {change : LineChange}
    (isNamed : content.IsNamedBy number)
    (moves : mapping.remapContent content negative = some remap)
    (numbers : change.numbers = [remap.old, remap.new]) :
    change.Tells mapping number remap.argument := by
  obtain ⟨different, rfl⟩ := ModMapping.remapContent_eq_some_iff.1 moves
  refine ⟨content, isNamed, different, ?_, numbers⟩
  simp only
  split
  · exact Int.natAbs_neg _
  · rfl

namespace IsDraft

variable {mapping : ModMapping} {survey : Survey} {line : Line} {number : Int}

theorem entityLine (form : LineForm) (ref : DirectiveRef) :
    IsDraft mapping ⟨survey, line, form.meaning (.number number)⟩
      (mapping.entityLine line ref number) := by
  rw [ModMapping.entityLine]
  cases moves : mapping.remapArgument ref number with
  | none => exact .same fun _ _ isStart => by cases form <;> cases isStart
  | some remap =>
      obtain ⟨content, found, remapped⟩ := Option.bind_eq_some_iff.1 moves
      have isNamed := isNamedBy_of_resolve found
      exact .moved form number remap.argument (.remapped remap.type remap.old remap.new) rfl
        (argument_ne_of_remapContent isNamed remapped) trivial
        (tells_of_remapContent isNamed remapped rfl)

/-- A damage line is changed only for its own damage value. -/
theorem damageLine (form : LineForm) {settled : Option SpellBlock}
    (sameDamage : ∀ spell ∈ settled, spell.damage = some number) :
    IsDraft mapping ⟨survey, line, form.meaning (.number number)⟩
      (mapping.damageLine line settled) := by
  rw [ModMapping.damageLine]
  cases moves : settled.bind mapping.remapDamage with
  | none => exact .same fun _ _ isStart => by cases form <;> cases isStart
  | some remap =>
      obtain ⟨spell, isSettled, spellMoves⟩ := Option.bind_eq_some_iff.1 moves
      obtain ⟨content, found, remapped⟩ := Option.bind_eq_some_iff.1 spellMoves
      rw [SpellBlock.damageTarget, sameDamage spell isSettled] at found
      rw [sameDamage spell isSettled, Option.any_some] at remapped
      have isNamed := isNamedBy_of_interpretDamage found
      exact .moved form number remap.argument (.damage remap.type remap.old remap.new) rfl
        (argument_ne_of_remapContent isNamed remapped) trivial
        (tells_of_remapContent isNamed remapped rfl)

end IsDraft

theorem SurveyedLine.IsRead.isDraft {mapping : ModMapping} {surveyed : SurveyedLine}
    (isRead : surveyed.IsRead) {later : List LineMeaning} {written : OutputLine}
    (drafted : mapping.draft surveyed later = some written) :
    IsDraft mapping surveyed written := by
  obtain ⟨survey, line, meaning⟩ := surveyed
  cases meaning with
  | descriptionText _ | modName _ | descriptionStart _ | otherMetadata _ => cases drafted
  | blank | comment | blockEnd | name _ | text _ =>
      obtain rfl := Option.some.inj drafted
      exact .same (by simp)
  | entity word ref argument =>
      cases argument with
      | number number =>
          obtain rfl := Option.some.inj drafted
          exact .entityLine (.entity word ref) ref
      | name _ | absent =>
          obtain rfl := Option.some.inj drafted
          exact .same (by simp)
  | blockStart word ref argument =>
      obtain rfl := Option.some.inj drafted
      cases argument with
      | number number => exact .entityLine (.blockStart word ref) ref
      | name _ => exact .same (by simp)
      | absent =>
          simp only [ModMapping.blockStartLine]
          split
          · next id isAssigned =>
              split at isAssigned
              · next isNew => exact .assigned word ref id rfl isNew isAssigned
              · cases isAssigned
          · next noneAssigned =>
              refine .same fun _ _ isStart isNew => ?_
              cases isStart
              rwa [if_pos isNew] at noneAssigned
  | spellContent directive ref argument =>
      obtain rfl := Option.some.inj drafted
      obtain ⟨before, inSpell⟩ := isRead.exists_spell
      have damage : ∀ {number : Int}, argument = .number number → directive.isDamage = true →
          IsDraft mapping ⟨survey, line, .spellContent directive ref argument⟩
            (mapping.damageLine line (survey.context.spell.bind fun spell =>
              (spell.read directive argument).settlement later)) := by
        rintro number rfl isDamage
        refine .damageLine (.spellContent directive ref) fun settled settles => ?_
        rw [inSpell, Option.bind_some] at settles
        rw [SpellBlock.damage_of_settlement settles]
        rcases SpellDirective.isDamage_iff.1 isDamage with rfl | rfl <;> rfl
      simp only [ModMapping.spellLine]
      split
      · exact .entityLine (.spellContent _ _) _
      · exact damage rfl rfl
      · exact damage rfl rfl
      · exact .same (by simp)

/-- The numbers of a draft have been read or assigned, and only those that have been assigned may
have too many digits. -/
theorem IsDraft.assigns_of_long {mapping : ModMapping} {surveyed : SurveyedLine}
    {written : OutputLine} (isDraft : IsDraft mapping surveyed written) (isRead : surveyed.IsRead) :
    ∀ number ∈ written.numbers, ¬ Text.Short number → mapping.Assigns number := by
  intro number isWritten long
  cases isDraft with
  | same => cases isWritten
  | moved form old new change isForm _ _ tells =>
      obtain ⟨content, isNamed, moves, -, numbers⟩ := tells
      obtain ⟨classified, read, meaning⟩ := isRead.read
      have shortOld : Text.Short old := by
        refine short_of_classify read old ?_
        rw [meaning, isForm]
        cases form <;> rfl
      replace isWritten : number ∈ change.numbers := isWritten
      rw [numbers, List.mem_pair] at isWritten
      rcases isWritten with rfl | rfl
      · exact absurd (isNamed.short shortOld) long
      · exact .inl ⟨_, _, moves, rfl⟩
  | assigned word ref id _ _ isAssigned =>
      rw [ModMapping.numbers_assignedLine, List.mem_singleton] at isWritten
      exact .inr ⟨_, _, isWritten ▸ isAssigned⟩

/-! ### Edits -/

/-- How a line is written. -/
inductive LineEdit (mapping : ModMapping) (surveyed : SurveyedLine) : OutputLine → Prop where
  /-- The line stays as it is. -/
  | unchanged : LineEdit mapping surveyed { line := surveyed.line }
  /-- The line has another number in the place of its own. -/
  | renumbered (directive : NumberedDirective) (old new : Int) (change : LineChange)
      (isLine : directive.line = surveyed.line)
      (isNumber : argumentNumber? surveyed.line = some old)
      (different : new ≠ old) :
      LineEdit mapping surveyed { line := directive.withNumber new, change := some change }
  /-- The line creates content without an id. It has the word of its directive, or of the
  directive that selects such content, and the id behind it. -/
  | identified (directiveChars moreChars rest : Line) (ref : DirectiveRef) (id : Int)
      (change : LineChange)
      (isStart : surveyed.meaning =
        .blockStart (String.ofList (directiveChars.map Char.toLower)) ref .absent)
      (isNew : ref.rule.role = .new)
      (unnumbered : Unnumbered surveyed.line (Text.leadingBlanks surveyed.line)
        (directiveChars ++ moreChars) rest)
      (isAssigned : mapping.implicitId? ref.type
        (surveyed.before.definition.nextImplicitIndex ref.type) = some id) :
      LineEdit mapping surveyed
        { line := Text.leadingBlanks surveyed.line ++ directiveWithId
            (ref.rule.implicitSelect.getD (String.ofList (directiveChars.map Char.toLower))) id
            rest
          change := some change }

/-- What is drafted for a line is an edit of the line. -/
theorem IsDraft.lineEdit {mapping : ModMapping} {surveyed : SurveyedLine} {written : OutputLine}
    (isDraft : IsDraft mapping surveyed written) (isRead : surveyed.IsRead) :
    LineEdit mapping surveyed written := by
  cases isDraft with
  | same => exact .unchanged
  | moved form number new change isForm different =>
      obtain ⟨survey, line, meaning⟩ := surveyed
      obtain rfl : meaning = _ := isForm
      obtain ⟨classified, read, isForm⟩ := isRead.read
      obtain ⟨isNumber, directive, isLine, withNumber⟩ :=
        exists_numberedDirective (isRead.outside (by cases form <;> simp [LineForm.meaning])) read
          isForm isRead.last
      rw [withNumber]
      exact .renumbered directive number new change isLine isNumber different
  | assigned word ref id isStart isNew isAssigned =>
      obtain ⟨survey, line, meaning⟩ := surveyed
      obtain rfl : meaning = _ := isStart
      obtain ⟨classified, read, isStart⟩ := isRead.read
      have outside := isRead.outside fun _ same => by cases same
      obtain ⟨directiveChars, moreChars, rfl, unnumbered⟩ :=
        exists_unnumbered outside read isStart isRead.last
      obtain ⟨change, assignedEq⟩ := ModMapping.exists_assignedLine_eq line
        (String.ofList (directiveChars.map Char.toLower)) ref id
      rw [assignedEq]
      exact .identified directiveChars moreChars _ ref id change rfl isNew unnumbered isAssigned

theorem SurveyedLine.IsRead.lineEdit_of_draft {mapping : ModMapping} {surveyed : SurveyedLine}
    (isRead : surveyed.IsRead) {later : List LineMeaning} {written : OutputLine}
    (drafted : mapping.draft surveyed later = some written) : LineEdit mapping surveyed written :=
  (isRead.isDraft drafted).lineEdit isRead

/-! ### Lines that are changed -/

namespace LineEdit

variable {mapping : ModMapping} {surveyed : SurveyedLine} {written : OutputLine}

/-- A line that is changed gives a number of its own, which the line before did not give. -/
theorem argumentNumber?_of_change (edit : LineEdit mapping surveyed written)
    (isRead : surveyed.IsRead) {change : LineChange} (isChanged : written.change = some change) :
    ∃ new, argumentNumber? written.line = some new ∧ written.line ≠ surveyed.line := by
  cases edit with
  | unchanged => cases isChanged
  | renumbered directive old new _ isLine isNumber moved =>
      refine ⟨new, directive.argumentNumber?_withNumber new, fun same => moved ?_⟩
      have isNew := directive.argumentNumber?_withNumber new
      rw [show directive.withNumber new = surveyed.line from same, isNumber] at isNew
      exact (Option.some.inj isNew).symm
  | identified directiveChars moreChars rest ref id _ isStart isNew unnumbered isAssigned =>
      obtain ⟨survey, line, meaning⟩ := surveyed
      obtain rfl : meaning = _ := isStart
      obtain ⟨ne_nil, isWord⟩ := isRead.isWord_implicitSelect
      exact ⟨id, unnumbered.argumentNumber?_directiveWithId ne_nil isWord id,
        unnumbered.directiveWithId_ne isWord id⟩

/-- Only lines that are never left out are changed. -/
theorem substantial_of_change (edit : LineEdit mapping surveyed written)
    (isRead : surveyed.IsRead) {change : LineChange} (isChanged : written.change = some change) :
    Substantial surveyed.line := by
  cases edit with
  | unchanged => cases isChanged
  | renumbered _ _ _ _ _ isNumber => exact substantial_of_argumentNumber? isNumber
  | identified _ _ _ _ _ _ isStart =>
      obtain ⟨survey, line, meaning⟩ := surveyed
      obtain rfl : meaning = _ := isStart
      exact isRead.substantial (by simp) (by simp) (by simp)

theorem change_eq_none_iff (edit : LineEdit mapping surveyed written) (isRead : surveyed.IsRead) :
    written.change = none ↔ written.line = surveyed.line := by
  cases isChanged : written.change with
  | none =>
      cases edit with
      | unchanged => exact iff_of_true rfl rfl
      | renumbered | identified => cases isChanged
  | some change =>
      obtain ⟨_, -, different⟩ := edit.argumentNumber?_of_change isRead isChanged
      exact iff_of_false (by simp) different

/-- The indentation stays. -/
theorem leadingBlanks_eq (edit : LineEdit mapping surveyed written) :
    Text.leadingBlanks written.line = Text.leadingBlanks surveyed.line := by
  cases edit with
  | unchanged => rfl
  | renumbered directive old new change isLine =>
      rw [← isLine, directive.leadingBlanks_line]
      exact directive.leadingBlanks_withNumber new
  | identified directiveChars moreChars rest ref id change =>
      refine (takeWhile_dropWhile_append (Text.allBlank_leadingBlanks surveyed.line)
        fun character isHead => ?_).1
      obtain rfl := Option.some.inj isHead
      decide

/-- No blanks are written at the end of a line. -/
theorem last (edit : LineEdit mapping surveyed written) (isRead : surveyed.IsRead) :
    ∀ character ∈ written.line.getLast?, Text.isBlank character = false := by
  have numbered : ∀ {indent wordChars blanks tail : Line}, NumberSlot blanks tail → ∀ number,
      ∀ character ∈ (indent ++ numberedLine wordChars blanks number tail).getLast?,
        Text.isBlank character = false := by
    intro indent wordChars blanks tail slot number
    have ne_nil : numberedLine wordChars blanks number tail ≠ [] := List.cons_ne_nil _ _
    rw [List.getLast?_append_of_ne_nil _ ne_nil]
    exact (slot.isTrimmed wordChars number).last
  cases edit with
  | unchanged => exact isRead.last
  | renumbered directive old new => exact numbered directive.slot new
  | identified directiveChars moreChars rest ref id change isStart isNew unnumbered =>
      rw [directiveWithId_eq_numberedLine]
      exact numbered unnumbered.slot id

/-- A line that is changed is neither blank nor the end of a block, before as after. -/
theorem similar (edit : LineEdit mapping surveyed written) (isRead : surveyed.IsRead) :
    OutputLine.Similar { line := surveyed.line } written := by
  cases isChanged : written.change with
  | none =>
      have same := (edit.change_eq_none_iff isRead).1 isChanged
      exact ⟨congrArg Text.isBlankText same, congrArg isEndLine same⟩
  | some change =>
      obtain ⟨new, isNumber, -⟩ := edit.argumentNumber?_of_change isRead isChanged
      exact OutputLine.similar_of_substantial (edit.substantial_of_change isRead isChanged)
        (substantial_of_argumentNumber? isNumber)

end LineEdit

end ModMerge
