import ModMerge.Proofs.Mod.SurveyedLines

/-!
# Surveys that record the same

The ids of a type are a set, so what is recorded does not depend on when it is. A definition
that `Adds` an id to another goes on to do so if both record the same, and two that add the same
id to a third record the same (`Adds.of_same`). Surveys that stand in the same context and have
recorded the same read the same to the end.
-/

namespace ModMerge

/-- Two definitions that record the same; only how their sets of ids came about may differ. -/
structure ModDefinition.SameRecords (first second : ModDefinition) : Prop where
  modName : second.modName = first.modName
  displayName : second.displayName = first.displayName
  warnings : second.warnings = first.warnings
  definedIds : ∀ type, (second.entity type).definedIds = (first.entity type).definedIds
  vanillaEditedIds : ∀ type,
    (second.entity type).vanillaEditedIds = (first.entity type).vanillaEditedIds
  implicitCount : ∀ type, (second.entity type).implicitCount = (first.entity type).implicitCount
  entityFrozen : ∀ type, (second.entity type).frozen = (first.entity type).frozen
  names : second.names = first.names
  references : second.references = first.references
  frozen : second.frozen = first.frozen

/-- The second definition has recorded what the first has and `extra` besides. -/
structure ModDefinition.Adds (extra : Option EntityId) (first second : ModDefinition) : Prop where
  displayName : second.displayName = first.displayName
  warnings : second.warnings = first.warnings
  defined : ∀ type id, id ∈ (second.entities.get type).defined ↔
    ((defaultRange type).isVanilla id = false ∧ extra = some ⟨type, id⟩) ∨
      id ∈ (first.entities.get type).defined
  vanillaEdited : ∀ type id, id ∈ (second.entities.get type).vanillaEdited ↔
    ((defaultRange type).isVanilla id = true ∧ extra = some ⟨type, id⟩) ∨
      id ∈ (first.entities.get type).vanillaEdited
  implicitCount : ∀ type, second.nextImplicitIndex type = first.nextImplicitIndex type
  names : second.names = first.names
  references : second.references = first.references

namespace ModDefinition.Adds

variable {extra : Option EntityId} {base first second : ModDefinition}

theorem refl (definition : ModDefinition) : definition.Adds none definition where
  displayName := rfl
  warnings := rfl
  defined _ _ := by simp
  vanillaEdited _ _ := by simp
  implicitCount _ := rfl
  names := rfl
  references := rfl

/-- What is recorded by the second definition alone is what it adds. -/
theorem recordMore (adds : first.Adds none second) (content : EntityId) :
    first.Adds (some content) (second.recordId content) where
  displayName := displayName_recordId.trans adds.displayName
  warnings := warnings_recordId.trans adds.warnings
  defined type id := by
    rw [mem_defined_recordId, adds.defined, Option.some.injEq]
    simp
  vanillaEdited type id := by
    rw [mem_vanillaEdited_recordId, adds.vanillaEdited, Option.some.injEq]
    simp
  implicitCount type := nextImplicitIndex_recordId.trans (adds.implicitCount type)
  names := names_recordId.trans adds.names
  references := references_recordId.trans adds.references

/-- Definitions that add the same have recorded the same. -/
theorem of_same (toFirst : base.Adds extra first) (toSecond : base.Adds extra second) :
    first.Adds none second where
  displayName := toSecond.displayName.trans toFirst.displayName.symm
  warnings := toSecond.warnings.trans toFirst.warnings.symm
  defined type id := by
    rw [toSecond.defined, toFirst.defined]
    simp
  vanillaEdited type id := by
    rw [toSecond.vanillaEdited, toFirst.vanillaEdited]
    simp
  implicitCount type := (toSecond.implicitCount type).trans (toFirst.implicitCount type).symm
  names := toSecond.names.trans toFirst.names.symm
  references := toSecond.references.trans toFirst.references.symm

/-! ### What both record -/

theorem recordId (adds : first.Adds extra second) (content : EntityId) :
    (first.recordId content).Adds extra (second.recordId content) where
  displayName := by rw [displayName_recordId, displayName_recordId, adds.displayName]
  warnings := by rw [warnings_recordId, warnings_recordId, adds.warnings]
  defined type id := by
    rw [mem_defined_recordId, mem_defined_recordId, adds.defined, or_left_comm]
  vanillaEdited type id := by
    rw [mem_vanillaEdited_recordId, mem_vanillaEdited_recordId, adds.vanillaEdited, or_left_comm]
  implicitCount type := by
    rw [nextImplicitIndex_recordId, nextImplicitIndex_recordId, adds.implicitCount]
  names := by rw [names_recordId, names_recordId, adds.names]
  references := by rw [references_recordId, references_recordId, adds.references]

theorem recordImplicit (adds : first.Adds extra second) (type : EntityType) :
    (first.recordImplicit type).Adds extra (second.recordImplicit type) where
  displayName := adds.displayName
  warnings := adds.warnings
  defined other id := by
    rw [defined_recordImplicit, defined_recordImplicit]
    exact adds.defined other id
  vanillaEdited other id := by
    rw [vanillaEdited_recordImplicit, vanillaEdited_recordImplicit]
    exact adds.vanillaEdited other id
  implicitCount other := by
    rw [nextImplicitIndex_recordImplicit, nextImplicitIndex_recordImplicit, adds.implicitCount]
  names := adds.names
  references := adds.references

theorem recordReference (adds : first.Adds extra second) (type : EntityType) (name : String) :
    (first.recordReference type name).Adds extra (second.recordReference type name) :=
  { adds with references := by simp only [ModDefinition.recordReference, adds.references] }

theorem recordName (adds : first.Adds extra second) (name : String) (binding : NameBinding) :
    (first.recordName name binding).Adds extra (second.recordName name binding) :=
  { adds with
    names := congrArg (·.modify binding.type (·.insert (nameKey name) binding)) adds.names }

theorem recordWarning (adds : first.Adds extra second) (warning : String) :
    (first.recordWarning warning).Adds extra (second.recordWarning warning) :=
  { adds with warnings := congrArg (· ++ [warning]) adds.warnings }

theorem recordArgument (adds : first.Adds extra second) (ref : DirectiveRef)
    (argument : Argument) :
    (first.recordArgument ref argument).Adds extra (second.recordArgument ref argument) := by
  cases argument with
  | number number =>
      simp only [ModDefinition.recordArgument]
      split
      · exact adds.recordId _
      · exact adds
  | name name => exact adds.recordReference ref.type name
  | absent =>
      simp only [ModDefinition.recordArgument]
      split
      · exact adds.recordImplicit ref.type
      · exact adds

theorem recordDamage (adds : first.Adds extra second) (spell : SpellBlock) :
    (first.recordDamage spell).Adds extra (second.recordDamage spell) := by
  rw [ModDefinition.recordDamage, ModDefinition.recordDamage]
  split
  · exact adds.recordId _
  · exact adds

/-- Names in a block are bound alike. -/
theorem blockBinding_eq (adds : first.Adds extra second) (ref : DirectiveRef)
    (argument : Argument) : second.blockBinding ref argument = first.blockBinding ref argument := by
  cases argument with
  | number number => rfl
  | name name => simp only [ModDefinition.blockBinding, nameBinding?, adds.names]
  | absent => simp only [ModDefinition.blockBinding, adds.implicitCount]

end ModDefinition.Adds

/-! ### Line by line -/

/-- Two surveys in the same context, of which the second has recorded `extra` besides. -/
structure Survey.Adds (extra : Option EntityId) (first second : Survey) : Prop where
  context : second.context = first.context
  definition : first.definition.Adds extra second.definition

namespace Survey.Adds

variable {extra : Option EntityId} {first second next : Survey}

theorem closeBlock (adds : first.Adds extra second) :
    first.closeBlock.Adds extra second.closeBlock := by
  simp only [Survey.closeBlock, adds.context]
  refine ⟨rfl, ?_⟩
  split
  · split
    · exact adds.definition
    · exact adds.definition.recordDamage _
  · exact adds.definition

theorem readSpellLine (adds : first.Adds extra second) (directive : SpellDirective)
    (argument : Argument) :
    (first.readSpellLine directive argument).Adds extra
      (second.readSpellLine directive argument) := by
  simp only [Survey.readSpellLine, adds.context]
  split
  · exact adds
  · split
    · exact ⟨rfl, adds.definition.recordDamage _⟩
    · exact ⟨rfl, adds.definition⟩

theorem exists_openBlock (adds : first.Adds extra second) {lineNumber : Nat} {ref : DirectiveRef}
    {argument : Argument} (opened : first.openBlock lineNumber ref argument = .ok next) :
    ∃ other, second.openBlock lineNumber ref argument = .ok other ∧ next.Adds extra other := by
  obtain ⟨context, isOpened, finished⟩ := bind_eq_ok.1 opened
  obtain rfl := Except.ok.inj finished
  rw [Survey.openBlock, adds.definition.blockBinding_eq, adds.context, isOpened]
  refine ⟨_, rfl, rfl, ?_⟩
  simp only
  split
  · exact (adds.definition.recordArgument ref argument).recordWarning _
  · exact adds.definition.recordArgument ref argument

theorem bindName (adds : first.Adds extra second) (name : String) :
    (first.bindName name).Adds extra (second.bindName name) := by
  simp only [Survey.bindName, adds.context]
  split
  · split
    · exact adds
    · exact ⟨rfl, adds.definition.recordName name _⟩
  · exact adds

/-- Both surveys read a line alike. -/
theorem exists_advance (adds : first.Adds extra second) {lineNumber : Nat} {meaning : LineMeaning}
    (advanced : first.advance lineNumber meaning = .ok next) :
    ∃ other, second.advance lineNumber meaning = .ok other ∧ next.Adds extra other := by
  cases meaning with
  | descriptionText closes =>
      obtain rfl := Except.ok.inj advanced
      refine ⟨_, rfl, ?_⟩
      split
      · exact ⟨congrArg ParseContext.leaveDescription adds.context, adds.definition⟩
      · exact adds
  | modName given =>
      cases given with
      | none => obtain rfl := Except.ok.inj advanced; exact ⟨_, rfl, adds⟩
      | some name =>
          obtain rfl := Except.ok.inj advanced
          exact ⟨_, rfl, adds.context, { adds.definition with displayName := rfl }⟩
  | descriptionStart staysOpen =>
      cases staysOpen with
      | false => obtain rfl := Except.ok.inj advanced; exact ⟨_, rfl, adds⟩
      | true =>
          obtain ⟨isIdle, rfl⟩ := advance_descriptionStart_eq_ok_iff.1 advanced
          rw [← adds.context] at isIdle ⊢
          exact ⟨_, advance_descriptionStart_eq_ok_iff.2 ⟨isIdle, rfl⟩, rfl, adds.definition⟩
  | blockStart word ref argument => exact adds.exists_openBlock advanced
  | blockEnd =>
      obtain rfl := Except.ok.inj advanced
      exact ⟨_, rfl, adds.closeBlock⟩
  | spellContent directive ref argument =>
      obtain rfl := Except.ok.inj advanced
      exact ⟨_, rfl, adds.readSpellLine directive argument⟩
  | name given =>
      cases given with
      | none => obtain rfl := Except.ok.inj advanced; exact ⟨_, rfl, adds⟩
      | some name =>
          rw [Survey.advance_name] at advanced ⊢
          obtain rfl := Except.ok.inj advanced
          exact ⟨_, rfl, adds.bindName name⟩
  | entity word ref argument =>
      obtain rfl := Except.ok.inj advanced
      refine ⟨_, rfl, ?_⟩
      split
      · exact ⟨adds.context, adds.definition.recordArgument ref argument⟩
      · exact adds
  | blank | comment | otherMetadata word | text word =>
      obtain rfl := Except.ok.inj advanced
      exact ⟨_, rfl, adds⟩

theorem exists_step (adds : first.Adds extra second) {line : ScriptLine}
    (stepped : first.step line = .ok next) :
    ∃ other, second.step line = .ok other ∧ next.Adds extra other := by
  obtain ⟨classified, read, advanced⟩ := step_eq_ok_iff.1 stepped
  obtain ⟨other, advancedToo, addsNext⟩ := adds.exists_advance advanced
  exact ⟨other, step_eq_ok_iff.2 ⟨classified, adds.context ▸ read, advancedToo⟩, addsNext⟩

/-- Both surveys read further lines alike, and the lines mean the same to them. -/
theorem exists_run (adds : first.Adds extra second) {lines : List ScriptLine}
    (ran : first.run lines = .ok next) :
    ∃ other, second.run lines = .ok other ∧ next.Adds extra other ∧
      (second.readings lines).map (·.meaning) = (first.readings lines).map (·.meaning) := by
  induction lines generalizing first second with
  | nil =>
      obtain rfl := Except.ok.inj ran
      exact ⟨second, rfl, adds, rfl⟩
  | cons line rest inductionHypothesis =>
      obtain ⟨middle, stepped, remaining⟩ := run_cons_eq_ok.1 ran
      obtain ⟨otherMiddle, steppedToo, addsMiddle⟩ := adds.exists_step stepped
      obtain ⟨other, ranToo, addsNext, meanings⟩ := inductionHypothesis addsMiddle remaining
      obtain ⟨classified, read, -⟩ := step_eq_ok_iff.1 stepped
      refine ⟨other, run_cons_eq_ok.2 ⟨otherMiddle, steppedToo, ranToo⟩, addsNext, ?_⟩
      simp only [readings, stepped, steppedToo, adds.context, read, List.map_cons, meanings]

theorem finish (adds : first.Adds extra second) : first.finish.Adds extra second.finish := by
  have warned : ∀ warning, Survey.Adds extra
      ⟨first.context, first.definition.recordWarning warning⟩
      ⟨first.context, second.definition.recordWarning warning⟩ :=
    fun warning => ⟨rfl, adds.definition.recordWarning warning⟩
  rw [Survey.finish, Survey.finish, adds.context]
  split
  · exact (warned _).closeBlock.definition
  · exact adds.definition

end Survey.Adds

/-! ### Whole scripts -/

namespace ModDefinition

/-- Nothing that has been read is frozen. -/
theorem keptByRecording_notFrozen : KeptByRecording fun definition =>
    definition.frozen = false ∧ ∀ type, (definition.entities.get type).frozen = false where
  displayName _ _ notFrozen := notFrozen
  warning _ _ notFrozen := notFrozen
  reference _ _ _ notFrozen := notFrozen
  name _ _ _ notFrozen := notFrozen
  id definition content _ notFrozen := by
    rw [recordId]
    split <;>
      refine ⟨notFrozen.1, fun type => ?_⟩ <;>
      simp only [recordVanilla, recordDefined, EntityTable.modify, EntityTable.get_set] <;>
      split <;> exact notFrozen.2 _
  implicit definition other notFrozen := by
    refine ⟨notFrozen.1, fun type => ?_⟩
    simp only [recordImplicit, EntityTable.modify, EntityTable.get_set]
    split <;> exact notFrozen.2 _

/-- Mods of one name that record the same are the same when they have been read. -/
theorem Adds.sameRecords_of_parse {modName : String} {script otherScript : List Char}
    {first second : ModDefinition} (adds : first.Adds none second)
    (parsed : ModDefinition.parse modName script = .ok first)
    (parsedToo : ModDefinition.parse modName otherScript = .ok second) :
    first.SameRecords second := by
  have nothingFrozen : ({ modName } : ModDefinition).frozen = false ∧
      ∀ type, (({ modName } : ModDefinition).entities.get type).frozen = false :=
    ⟨rfl, fun type => by rw [EntityTable.get_uniform]⟩
  obtain ⟨notFrozen, noneFrozen⟩ := keptByRecording_notFrozen.parse nothingFrozen parsed
  obtain ⟨notFrozenToo, noneFrozenToo⟩ := keptByRecording_notFrozen.parse nothingFrozen parsedToo
  have firstName := (keptByRecording_modName modName).parse rfl parsed
  have secondName := (keptByRecording_modName modName).parse rfl parsedToo
  exact
    { modName := secondName.trans firstName.symm
      displayName := adds.displayName
      warnings := adds.warnings
      definedIds := fun type => IdSet.ids_eq_of_mem_iff fun id => by
        simpa [entity] using adds.defined type id
      vanillaEditedIds := fun type => IdSet.ids_eq_of_mem_iff fun id => by
        simpa [entity] using adds.vanillaEdited type id
      implicitCount := adds.implicitCount
      entityFrozen := fun type => by
        simp only [entity, noneFrozen, noneFrozenToo, notFrozen, notFrozenToo]
      names := adds.names
      references := adds.references
      frozen := notFrozenToo.trans notFrozen.symm }

end ModDefinition
end ModMerge
