import ModMerge.Proofs.Mod.Mirroring

/-!
# Mirrored lines

Line by line, a survey of what renumbering has written goes on to mirror the survey of the
mod. A line of a spell block may be mirrored before the damage value has its meaning; what
then stands for the value has to be moved like the content that it turns out to name
(`DamageFollows`).
-/

namespace ModMerge

/-- What an opened block leaves behind, besides the lines that it began in. -/
theorem Survey.exists_openBlock (survey : Survey) (lineNumber : Nat) (ref : DirectiveRef)
    (argument : Argument) (outside : survey.context.state ≠ .inSpellBlock) :
    ∃ next, survey.openBlock lineNumber ref argument = .ok next ∧
      next.context.spell = (if ref.type = .spell then
        some { startLine := lineNumber
               selected := if ref.rule.role = .select then .ofArgument argument else {} }
        else survey.context.spell) ∧
      next.context.active = survey.definition.blockBinding ref argument ∧
      next.definition.entities = (survey.definition.recordArgument ref argument).entities ∧
      next.definition.references = (survey.definition.recordArgument ref argument).references ∧
      next.definition.names = (survey.definition.recordArgument ref argument).names := by
  simp only [Survey.openBlock, ParseContext.openBlock, if_neg outside]
  refine ⟨_, rfl, ?_, ?_, ?_, ?_, ?_⟩
  · by_cases isSpell : ref.type = .spell
    · by_cases selects : ref.rule.role = .select <;>
        simp [isSpell, selects, ParseContext.noteSelected, ParseContext.inSpellBlock,
          ParseContext.modifySpell]
    · simp [isSpell, outside, ParseContext.noteSelected, ParseContext.inSpellBlock]
  · by_cases isSpell : ref.type = .spell
    · by_cases selects : ref.rule.role = .select <;>
        simp [isSpell, selects, ParseContext.noteSelected, ParseContext.inSpellBlock,
          ParseContext.modifySpell]
    · simp [isSpell, outside, ParseContext.noteSelected, ParseContext.inSpellBlock]
  all_goals
    simp only
    split <;> rfl

theorem Survey.names_closeBlock (survey : Survey) :
    survey.closeBlock.definition.names = survey.definition.names := by
  simp only [Survey.closeBlock]
  split
  · split
    · rfl
    · exact ModDefinition.names_recordDamage _
  · rfl

theorem Survey.nextImplicitIndex_closeBlock (survey : Survey) (type : EntityType) :
    survey.closeBlock.definition.nextImplicitIndex type =
      survey.definition.nextImplicitIndex type := by
  simp only [Survey.closeBlock]
  split
  · split
    · rfl
    · exact ModDefinition.nextImplicitIndex_recordDamage _
  · rfl

theorem Survey.nextImplicitIndex_readSpellLine (survey : Survey) (directive : SpellDirective)
    (argument : Argument) (type : EntityType) :
    (survey.readSpellLine directive argument).definition.nextImplicitIndex type =
      survey.definition.nextImplicitIndex type := by
  rw [readSpellLine]
  split
  · rfl
  · simp only
    split
    · exact ModDefinition.nextImplicitIndex_recordDamage _
    · rfl

theorem Survey.nextImplicitIndex_finish (survey : Survey) (type : EntityType) :
    survey.finish.nextImplicitIndex type = survey.definition.nextImplicitIndex type := by
  rw [Survey.finish]
  split
  · exact Survey.nextImplicitIndex_closeBlock _ type
  · rfl

/-- The survey past a line that gives a name. -/
def Survey.bindName (survey : Survey) (name : String) : Survey :=
  match survey.context.active with
  | some binding =>
      if name.isEmpty then survey
      else { survey with definition := survey.definition.recordName name binding }
  | none => survey

theorem Survey.advance_name (survey : Survey) (lineNumber : Nat) (name : String) :
    survey.advance lineNumber (.name (some name)) = .ok (survey.bindName name) := by
  simp only [advance, bindName]
  cases survey.context.active with
  | none => rfl
  | some binding => cases name.isEmpty <;> rfl

theorem Survey.bindName_unchanged (survey : Survey) (name : String) :
    (survey.bindName name).definition.entities = survey.definition.entities ∧
    (survey.bindName name).definition.references = survey.definition.references ∧
    (survey.bindName name).context = survey.context := by
  rw [bindName]
  split
  · split <;> exact ⟨rfl, rfl, rfl⟩
  · exact ⟨rfl, rfl, rfl⟩

/-- What stands for the damage value of a spell names the content of the value where it is
now. -/
def DamageFollows (mapping : ModMapping) (spell : SpellBlock) (damage : Option Int) : Prop :=
  (damage.bind fun value => interpretDamage spell.effect value spell.isKnownSummon) =
    spell.damageTarget.map mapping.movedContent

/-- The number that takes the place of the damage value of a spell. -/
def ModMapping.movedDamage (mapping : ModMapping) (spell : SpellBlock) : Option Int :=
  spell.damage.map fun value =>
    mapping.movedNumber (interpretDamage spell.effect value spell.isKnownSummon) value

theorem ModMapping.movedDamage_eq (mapping : ModMapping) (spell : SpellBlock) :
    mapping.movedDamage spell =
      match mapping.remapDamage spell with
      | some remap => some remap.argument
      | none => spell.damage := by
  cases hasDamage : spell.damage with
  | none => simp [movedDamage, remapDamage, SpellBlock.damageTarget, hasDamage]
  | some value =>
      simp only [movedDamage, remapDamage, SpellBlock.damageTarget, hasDamage, Option.map_some,
        Option.bind_some, Option.any_some, movedNumber]
      cases (interpretDamage spell.effect value spell.isKnownSummon).bind fun content =>
        mapping.remapContent content (value < 0) <;> rfl

theorem damageFollows_movedDamage {mapping : ModMapping} (sound : mapping.Sound)
    (spell : SpellBlock) : DamageFollows mapping spell (mapping.movedDamage spell) := by
  rw [DamageFollows, ModMapping.movedDamage, SpellBlock.damageTarget]
  cases spell.damage with
  | none => rfl
  | some value =>
      exact ModMapping.read_movedNumber sound
        (ModMapping.followsSign_interpretDamage spell.effect spell.isKnownSummon) value

namespace SpellBlock.MirroredBy

variable {mapping : ModMapping} {damage : Option Int} {spell read : SpellBlock}

theorem isKnownSummon_eq (mirrored : spell.MirroredBy damage read) :
    read.isKnownSummon = spell.isKnownSummon :=
  congrArg₂ or mirrored.selected mirrored.copied

theorem ready_eq (mirrored : spell.MirroredBy damage read)
    (present : spell.resolved = false → damage.isSome = spell.damage.isSome) :
    read.ready = spell.ready := by
  rw [ready, ready, mirrored.resolved, mirrored.effect]
  cases resolved : spell.resolved with
  | true => rfl
  | false => rw [mirrored.damage resolved, present resolved]

theorem damageTarget_eq (mirrored : spell.MirroredBy damage read)
    (unresolved : spell.resolved = false) (follows : DamageFollows mapping spell damage) :
    read.damageTarget = spell.damageTarget.map mapping.movedContent := by
  rw [damageTarget, mirrored.damage unresolved, mirrored.effect, mirrored.isKnownSummon_eq]
  exact follows

end SpellBlock.MirroredBy

theorem ModDefinition.Mirrors.recordDamage {mapping : ModMapping}
    {definition base read : ModDefinition} (mirrors : definition.Mirrors mapping base read)
    (sound : mapping.Sound) {spell other : SpellBlock}
    (targets : other.damageTarget = spell.damageTarget.map mapping.movedContent) :
    (definition.recordDamage spell).Mirrors mapping base (read.recordDamage other) := by
  rw [ModDefinition.recordDamage, ModDefinition.recordDamage, targets]
  cases spell.damageTarget with
  | none => exact mirrors
  | some content => exact mirrors.recordId sound content

namespace Survey.Mirrors

variable {mapping : ModMapping} {survey start read next : Survey} {damage : Option Int}

/-- The mirror does not show what a mod says about itself. -/
theorem of_unread (mirrors : survey.Mirrors mapping start damage read)
    (spell : next.context.spell = survey.context.spell)
    (active : next.context.active = survey.context.active)
    (definition : ∃ displayName, next.definition = { survey.definition with displayName }) :
    next.Mirrors mapping start damage read := by
  obtain ⟨displayName, definition⟩ := definition
  refine ⟨?_, ?_, fun nameless => ⟨?_, ?_⟩⟩
  · rw [spell]
    exact mirrors.spell
  · rw [definition]
    exact mirrors.definition.of_same rfl rfl rfl rfl
  · rw [active]
    exact (mirrors.names nameless).active
  · rw [definition]
    exact (mirrors.names nameless).names

/-- A damage value that has been dealt with may stand for anything. -/
theorem of_resolved (mirrors : survey.Mirrors mapping start damage read) {other : Option Int}
    (same : ∀ spell, survey.context.spell = some spell → spell.resolved = false →
      damage = other) : survey.Mirrors mapping start other read := by
  refine ⟨?_, mirrors.definition, mirrors.names⟩
  cases inSpell : survey.context.spell with
  | none =>
      have readNoSpell : read.context.spell = none := eq_none_of_rel (inSpell ▸ mirrors.spell)
      rw [readNoSpell]
      exact .none
  | some spell =>
      obtain ⟨readSpell, readInSpell, mirrored⟩ := exists_of_rel_some (inSpell ▸ mirrors.spell)
      rw [readInSpell]
      refine .some { mirrored with damage := fun unresolved => ?_ }
      rw [mirrored.damage unresolved, same spell inSpell unresolved]

/-- Both open a block. -/
theorem openBlock (mirrors : survey.Mirrors mapping start damage read) (sound : mapping.Sound)
    {lineNumber : Nat} {ref newRef : DirectiveRef} {argument newArgument : Argument}
    (moved : ArgumentMoved mapping survey.definition ref argument newRef newArgument)
    (noSpell : survey.context.spell = none) (outside : survey.context.state ≠ .inSpellBlock)
    (opened : survey.openBlock lineNumber ref argument = .ok next)
    (readOutside : read.context.state ≠ .inSpellBlock) (readLineNumber : Nat) :
    ∃ nextRead, read.openBlock readLineNumber newRef newArgument = .ok nextRead ∧
      next.Mirrors mapping start none nextRead := by
  obtain ⟨same, sameOpened, spell, active, entities, references, names⟩ :=
    survey.exists_openBlock lineNumber ref argument outside
  obtain rfl := Except.ok.inj (opened.symm.trans sameOpened)
  obtain ⟨nextRead, readOpened, readSpell, readActive, readEntities, readReferences, readNames⟩ :=
    read.exists_openBlock readLineNumber newRef newArgument readOutside
  have noReadSpell : read.context.spell = none := eq_none_of_rel (noSpell ▸ mirrors.spell)
  have sameType : newRef.type = ref.type := by
    cases moved with
    | assigned isNew resolves sameType settled => exact sameType
    | number number | name name | absent notNew => rfl
  refine ⟨nextRead, readOpened, ?_, ?_, fun nameless => ⟨?_, ?_⟩⟩
  · rw [spell, readSpell, sameType]
    split
    · next isSpell =>
        refine .some ⟨rfl, rfl, ?_, rfl, fun _ => rfl⟩
        exact moved.isKnownSummon_selected sound isSpell
    · rw [noSpell, noReadSpell]
      exact .none
  · exact (moved.recordArgument sound mirrors.definition).of_same entities references readEntities
      readReferences
  · rw [active, readActive]
    exact moved.blockBinding sound (mirrors.names nameless).names
  · rw [names, readNames, ModDefinition.names_recordArgument, ModDefinition.names_recordArgument]
    exact (mirrors.names nameless).names

/-- Both close their block. -/
theorem closeBlock (mirrors : survey.Mirrors mapping start damage read) (sound : mapping.Sound)
    (follows : ∀ spell, survey.context.spell = some spell → spell.resolved = false →
      DamageFollows mapping spell damage) :
    survey.closeBlock.Mirrors mapping start none read.closeBlock := by
  have definition : survey.closeBlock.definition.Mirrors mapping start.definition
      read.closeBlock.definition := by
    simp only [Survey.closeBlock]
    cases inSpell : survey.context.spell with
    | none =>
        have readNoSpell : read.context.spell = none := eq_none_of_rel (inSpell ▸ mirrors.spell)
        rw [readNoSpell]
        exact mirrors.definition
    | some spell =>
        obtain ⟨other, readSpell, mirrored⟩ := exists_of_rel_some (inSpell ▸ mirrors.spell)
        simp only [readSpell, mirrored.resolved]
        cases resolved : spell.resolved with
        | true => exact mirrors.definition
        | false =>
            exact mirrors.definition.recordDamage sound
              (mirrored.damageTarget_eq resolved (follows spell inSpell resolved))
  refine ⟨.none, definition, fun nameless => ⟨.none, ?_⟩⟩
  rw [names_closeBlock, names_closeBlock]
  exact (mirrors.names nameless).names

/-- Both read a line of a spell block. -/
theorem readSpellLine (mirrors : survey.Mirrors mapping start damage read) (sound : mapping.Sound)
    {spell other : SpellBlock} (inSpell : survey.context.spell = some spell)
    (readInSpell : read.context.spell = some other) (directive : SpellDirective)
    {argument newArgument : Argument} {newDamage : Option Int}
    (mirrored : (spell.read directive argument).MirroredBy newDamage
      (other.read directive newArgument))
    (present : (spell.read directive argument).resolved = false →
      newDamage.isSome = (spell.read directive argument).damage.isSome)
    (follows : (spell.read directive argument).ready = true →
      DamageFollows mapping (spell.read directive argument) newDamage) :
    (survey.readSpellLine directive argument).Mirrors mapping start newDamage
      (read.readSpellLine directive newArgument) := by
  simp only [Survey.readSpellLine, inSpell, readInSpell, mirrored.ready_eq present]
  cases ready : (spell.read directive argument).ready with
  | false =>
      exact ⟨.some mirrored, mirrors.definition, fun nameless =>
        ⟨(mirrors.names nameless).active, (mirrors.names nameless).names⟩⟩
  | true =>
      have unresolved : (spell.read directive argument).resolved = false := by
        rw [SpellBlock.ready, Bool.and_eq_true, Bool.and_eq_true, Bool.not_eq_true'] at ready
        exact ready.1.1
      have targets := mirrored.damageTarget_eq unresolved (follows ready)
      refine ⟨.some ⟨mirrored.effect, rfl, mirrored.selected, mirrored.copied, ?_⟩, ?_, ?_⟩
      · exact fun resolved => by cases resolved
      · exact mirrors.definition.recordDamage sound targets
      · intro nameless
        refine ⟨(mirrors.names nameless).active, ?_⟩
        simp only [if_true, ModDefinition.names_recordDamage]
        exact (mirrors.names nameless).names

/-- Both bind a name. -/
theorem bindName (mirrors : survey.Mirrors mapping start damage read) (name : String) :
    (survey.bindName name).Mirrors mapping start damage (read.bindName name) := by
  obtain ⟨entities, references, context⟩ := survey.bindName_unchanged name
  obtain ⟨readEntities, readReferences, readContext⟩ := read.bindName_unchanged name
  refine ⟨?_, mirrors.definition.of_same entities references readEntities readReferences,
    fun nameless => ⟨?_, fun type key => ?_⟩⟩
  · rw [context, readContext]
    exact mirrors.spell
  · rw [context, readContext]
    exact (mirrors.names nameless).active
  have names := (mirrors.names nameless).names type key
  simp only [Survey.bindName]
  cases active : survey.context.active with
  | none =>
      have readNone : read.context.active = none :=
        eq_none_of_rel (active ▸ (mirrors.names nameless).active)
      simp only [readNone]
      exact names
  | some binding =>
      obtain ⟨settled, readActive, settledAs⟩ :=
        exists_of_rel_some (active ▸ (mirrors.names nameless).active)
      simp only [readActive]
      split
      · exact names
      · simp only [ModDefinition.recordName, settledAs.type_eq, EntityTable.modify,
          EntityTable.get_set]
        split
        · next sameType =>
            subst sameType
            simp only [Std.TreeMap.getElem?_insert, Std.LawfulEqCmp.compare_eq_iff_eq]
            split
            · exact .some settledAs
            · exact names
        · exact names

/-- Both read a line within a block that names content. -/
theorem entity (mirrors : survey.Mirrors mapping start damage read) (sound : mapping.Sound)
    {lineNumber : Nat} {word : String} {ref : DirectiveRef} {argument newArgument : Argument}
    (moved : ArgumentMoved mapping survey.definition ref argument ref newArgument)
    (advanced : survey.advance lineNumber (.entity word ref argument) = .ok next)
    (readLineNumber : Nat) :
    ∃ nextRead, read.advance readLineNumber (.entity word ref newArgument) = .ok nextRead ∧
      next.Mirrors mapping start damage nextRead := by
  refine ⟨_, rfl, ?_⟩
  obtain rfl := Except.ok.inj advanced
  split
  · refine ⟨mirrors.spell, moved.recordArgument sound mirrors.definition, fun nameless => ?_⟩
    refine ⟨(mirrors.names nameless).active, ?_⟩
    simp only [ModDefinition.names_recordArgument]
    exact (mirrors.names nameless).names
  · exact mirrors

end Survey.Mirrors

end ModMerge
