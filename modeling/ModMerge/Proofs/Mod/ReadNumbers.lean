import ModMerge.Proofs.Mod.Recording
import ModMerge.Proofs.Script.Reading

/-!
# Ids that have been read

Whatever id reading a mod records has been read as a number: by the line that names it or, for
what a spell summons, by the damage line of its block. A number that can be read can be written, so
all ids of a mod that has been read can be (`shortIds_of_parse`).
-/

namespace ModMerge

/-- The ids that a mod defines or edits have no more digits than can be read. -/
def ModDefinition.ShortIds (definition : ModDefinition) : Prop :=
  ∀ type id, id ∈ (definition.entities.get type).defined ∨
    id ∈ (definition.entities.get type).vanillaEdited → Text.Short id

/-- The damage value of a spell block has been read. -/
def SpellBlock.ShortDamage (spell : SpellBlock) : Prop :=
  ∀ damage ∈ spell.damage, Text.Short damage

/-- The numbers that a survey remembers have been read. -/
structure Survey.ShortNumbers (survey : Survey) : Prop where
  damage : ∀ spell ∈ survey.context.spell, spell.ShortDamage
  ids : survey.definition.ShortIds

/-! ### Recording -/

namespace ModDefinition.ShortIds

variable {definition : ModDefinition}

theorem recordId (short : definition.ShortIds) {content : EntityId}
    (shortId : Text.Short content.id) : (definition.recordId content).ShortIds := by
  rintro type id (defined | edited)
  · rcases mem_defined_recordId.1 defined with ⟨-, rfl⟩ | known
    · exact shortId
    · exact short type id (.inl known)
  · rcases mem_vanillaEdited_recordId.1 edited with ⟨-, rfl⟩ | known
    · exact shortId
    · exact short type id (.inr known)

theorem recordArgument (short : definition.ShortIds) (ref : DirectiveRef) {argument : Argument}
    (shortNumber : ∀ number ∈ argument.number?, Text.Short number) :
    (definition.recordArgument ref argument).ShortIds := by
  cases argument with
  | number number =>
      simp only [ModDefinition.recordArgument]
      split
      · next content resolved =>
          exact short.recordId ((isNamedBy_of_resolve resolved).short (shortNumber number rfl))
      · exact short
  | name name => exact short
  | absent =>
      simp only [ModDefinition.recordArgument]
      split
      · rintro type id known
        rw [defined_recordImplicit, vanillaEdited_recordImplicit] at known
        exact short type id known
      · exact short

theorem recordDamage (short : definition.ShortIds) {spell : SpellBlock}
    (shortDamage : spell.ShortDamage) : (definition.recordDamage spell).ShortIds := by
  rw [ModDefinition.recordDamage]
  split
  · next content isTarget =>
      obtain ⟨damage, isDamage, interpreted⟩ := Option.bind_eq_some_iff.1 isTarget
      exact short.recordId
        ((isNamedBy_of_interpretDamage interpreted).short (shortDamage damage isDamage))
  · exact short

end ModDefinition.ShortIds

theorem SpellBlock.ShortDamage.read {spell : SpellBlock} (short : spell.ShortDamage)
    (directive : SpellDirective) {argument : Argument}
    (shortNumber : ∀ number ∈ argument.number?, Text.Short number) :
    (spell.read directive argument).ShortDamage := by
  cases directive with
  | effect | copySpell => exact short
  | damage | damageMonster =>
      cases argument with
      | number number => exact shortNumber
      | name _ | absent => exact short

/-- Which spell a block edits does not change its damage value. -/
theorem exists_of_noteSelected {context : ParseContext} {ref : DirectiveRef} {argument : Argument}
    {spell : SpellBlock} (inSpell : (context.noteSelected ref argument).spell = some spell) :
    ∃ before, context.spell = some before ∧ before.damage = spell.damage := by
  rw [ParseContext.noteSelected] at inSpell
  split at inSpell
  · obtain ⟨before, isBefore, rfl⟩ := Option.map_eq_some_iff.1 inSpell
    exact ⟨before, isBefore, rfl⟩
  · exact ⟨spell, inSpell, rfl⟩

/-! ### Reading -/

namespace Survey.ShortNumbers

variable {survey next : Survey}

theorem openBlock (short : survey.ShortNumbers) {lineNumber : Nat} {ref : DirectiveRef}
    {argument : Argument} (shortNumber : ∀ number ∈ argument.number?, Text.Short number)
    (opened : survey.openBlock lineNumber ref argument = .ok next) : next.ShortNumbers := by
  obtain ⟨context, isOpened, finished⟩ := bind_eq_ok.1 opened
  obtain rfl := Except.ok.inj finished
  constructor
  · intro spell inSpell
    obtain ⟨before, isBefore, sameDamage⟩ := exists_of_noteSelected inSpell
    rw [SpellBlock.ShortDamage, ← sameDamage]
    rw [ParseContext.openBlock] at isOpened
    split at isOpened
    · cases isOpened
    · obtain rfl := Except.ok.inj isOpened
      split at isBefore
      · obtain rfl := Option.some.inj isBefore
        exact nofun
      · exact short.damage before isBefore
  · have recorded := short.ids.recordArgument ref shortNumber
    simp only
    split
    · exact recorded
    · exact recorded

theorem closeBlock (short : survey.ShortNumbers) : survey.closeBlock.ShortNumbers := by
  constructor
  · exact nofun
  · simp only [Survey.closeBlock]
    split
    · next spell inSpell =>
        split
        · exact short.ids
        · exact short.ids.recordDamage (short.damage spell inSpell)
    · exact short.ids

theorem readSpellLine (short : survey.ShortNumbers) (directive : SpellDirective)
    {argument : Argument} (shortNumber : ∀ number ∈ argument.number?, Text.Short number) :
    (survey.readSpellLine directive argument).ShortNumbers := by
  rw [Survey.readSpellLine]
  split
  · exact short
  · next before inSpell =>
      have shortDamage := (short.damage before inSpell).read directive shortNumber
      simp only
      split
      · exact ⟨fun _ same => Option.some.inj same ▸ shortDamage,
          short.ids.recordDamage shortDamage⟩
      · exact ⟨fun _ same => Option.some.inj same ▸ shortDamage, short.ids⟩

theorem advance (short : survey.ShortNumbers) {lineNumber : Nat} {meaning : LineMeaning}
    (shortNumber : ∀ number ∈ meaning.number?, Text.Short number)
    (advanced : survey.advance lineNumber meaning = .ok next) : next.ShortNumbers := by
  cases meaning with
  | descriptionText closes =>
      obtain rfl := Except.ok.inj advanced
      split <;> exact ⟨short.damage, short.ids⟩
  | descriptionStart staysOpen =>
      cases staysOpen with
      | false => obtain rfl := Except.ok.inj advanced; exact short
      | true =>
          obtain ⟨-, rfl⟩ := Survey.advance_descriptionStart_eq_ok_iff.1 advanced
          exact ⟨short.damage, short.ids⟩
  | blockStart word ref argument => exact short.openBlock shortNumber advanced
  | blockEnd =>
      obtain rfl := Except.ok.inj advanced
      exact short.closeBlock
  | spellContent directive ref argument =>
      obtain rfl := Except.ok.inj advanced
      exact short.readSpellLine directive shortNumber
  | name given =>
      cases given with
      | none => obtain rfl := Except.ok.inj advanced; exact short
      | some name =>
          simp only [Survey.advance] at advanced
          split at advanced
          · split at advanced
            all_goals
              obtain rfl := Except.ok.inj advanced
              exact ⟨short.damage, short.ids⟩
          · obtain rfl := Except.ok.inj advanced
            exact short
  | entity word ref argument =>
      obtain rfl := Except.ok.inj advanced
      split
      · exact ⟨short.damage, short.ids.recordArgument ref shortNumber⟩
      · exact short
  | modName given =>
      cases given <;>
      · obtain rfl := Except.ok.inj advanced
        exact ⟨short.damage, short.ids⟩
  | blank | comment | otherMetadata word | text word =>
      obtain rfl := Except.ok.inj advanced
      exact short

theorem run (short : survey.ShortNumbers) {lines : List ScriptLine}
    (ran : survey.run lines = .ok next) : next.ShortNumbers := by
  refine invariant_of_foldlM (fun _ _ survey => survey.ShortNumbers) ?_ short ran
  rintro - line - before after shortBefore stepped
  obtain ⟨classified, read, advanced⟩ := Survey.step_eq_ok_iff.1 stepped
  exact shortBefore.advance (short_of_classify read) advanced

theorem finish (short : survey.ShortNumbers) : survey.finish.ShortIds := by
  rw [Survey.finish]
  split
  · next spell inSpell =>
      have warned (warning : String) : Survey.ShortNumbers
          { survey with definition := survey.definition.recordWarning warning } :=
        ⟨short.damage, short.ids⟩
      exact (warned _).closeBlock.ids
  · exact short.ids

end Survey.ShortNumbers

end ModMerge
