import ModMerge.Proofs.Mod.SurveyedLines

/-!
# What names are bound to

A name is bound to content of its own type. If the content has an id, that has been recorded; if it
has none, it is one of the definitions without an id that have been passed. The same holds of the
content of the open block, to which the next name is bound. Every line keeps this, and so it holds
of all that is read. With the ids on their sides of what the base game owns, a definition is well
formed.
-/

namespace ModMerge

/-- The content is part of the definition: its id has been recorded, or it is one of the
definitions without an id that are counted. -/
def ModDefinition.Contains (definition : ModDefinition) (binding : NameBinding) : Prop :=
  match binding.target with
  | .explicit id =>
      id ∈ (definition.entities.get binding.type).defined ∨
        id ∈ (definition.entities.get binding.type).vanillaEdited
  | .implicit index => index < definition.nextImplicitIndex binding.type

/-- Each name is bound under the type of its content, and the definition contains that. -/
def ModDefinition.ContainsNamed (definition : ModDefinition) : Prop :=
  ∀ type (key : String) binding, (definition.names.get type)[key]? = some binding →
    binding.type = type ∧ definition.Contains binding

/-- What is bound, and what the next name is bound to, has been found. -/
structure Survey.ContainsNamed (survey : Survey) : Prop where
  names : survey.definition.ContainsNamed
  active : ∀ binding ∈ survey.context.active, survey.definition.Contains binding

namespace ModDefinition

variable {definition grown : ModDefinition} {binding : NameBinding} {content : EntityId}
  {type : EntityType}

theorem Contains.of_entities_eq (contains : definition.Contains binding)
    (same : grown.entities = definition.entities) : grown.Contains binding := by
  simp only [Contains, nextImplicitIndex, same]
  exact contains

/-- What has been recorded stays. -/
theorem keptByRecording_contains (binding : NameBinding) :
    KeptByRecording fun definition => definition.Contains binding where
  displayName _ _ contains := contains
  warning _ _ contains := contains
  reference _ _ _ contains := contains
  name _ _ _ contains := contains
  id definition content _ contains := by
    obtain ⟨type, id | index⟩ := binding
    · rcases contains with defined | edited
      · exact .inl (mem_defined_recordId.2 (.inr defined))
      · exact .inr (mem_vanillaEdited_recordId.2 (.inr edited))
    · exact Nat.lt_of_lt_of_eq contains nextImplicitIndex_recordId.symm
  implicit definition other contains := by
    obtain ⟨type, id | index⟩ := binding
    · simpa only [Contains, defined_recordImplicit, vanillaEdited_recordImplicit] using contains
    · exact (keptByRecording_nextImplicitIndex type (index + 1)).implicit _ _ contains

theorem contains_recordId (definition : ModDefinition) (content : EntityId) :
    (definition.recordId content).Contains ⟨content.type, .explicit content.id⟩ := by
  cases vanilla : (defaultRange content.type).isVanilla content.id with
  | false => exact .inl (mem_defined_recordId.2 (.inl ⟨vanilla, rfl⟩))
  | true => exact .inr (mem_vanillaEdited_recordId.2 (.inl ⟨vanilla, rfl⟩))

theorem contains_recordImplicit (definition : ModDefinition) (type : EntityType) :
    (definition.recordImplicit type).Contains
      ⟨type, .implicit (definition.nextImplicitIndex type)⟩ := by
  simp only [Contains, nextImplicitIndex_recordImplicit, if_true]
  exact Nat.lt_succ_self _

theorem ContainsNamed.mono (named : definition.ContainsNamed)
    (names : grown.names = definition.names)
    (grows : ∀ binding, definition.Contains binding → grown.Contains binding) :
    grown.ContainsNamed := by
  intro type key binding bound
  rw [names] at bound
  obtain ⟨sameType, contains⟩ := named type key binding bound
  exact ⟨sameType, grows binding contains⟩

/-- A line that begins a block records the content that the block is about. -/
theorem contains_blockBinding (named : definition.ContainsNamed) {ref : DirectiveRef}
    {argument : Argument} (bound : binding ∈ definition.blockBinding ref argument) :
    (definition.recordArgument ref argument).Contains binding := by
  cases argument with
  | number number =>
      obtain ⟨content, resolved, rfl⟩ := Option.map_eq_some_iff.1 bound
      simp only [recordArgument, resolved]
      exact contains_recordId definition content
  | name name =>
      simp only [blockBinding] at bound
      split at bound
      · cases bound
      · exact (named _ _ _ bound).2
  | absent =>
      simp only [blockBinding] at bound
      split at bound
      · next isNew =>
          obtain rfl := Option.some.inj bound
          simp only [recordArgument, if_pos isNew]
          exact contains_recordImplicit definition ref.type
      · cases bound

theorem ContainsNamed.recordName (named : definition.ContainsNamed)
    (contains : definition.Contains binding) (name : String) :
    (definition.recordName name binding).ContainsNamed := by
  intro type key other bound
  simp only [ModDefinition.recordName, EntityTable.modify, EntityTable.get_set] at bound
  by_cases sameType : binding.type = type
  · subst sameType
    rw [if_pos rfl, Std.TreeMap.getElem?_insert] at bound
    split at bound
    · obtain rfl := Option.some.inj bound
      exact ⟨rfl, contains⟩
    · exact named _ key other bound
  · rw [if_neg sameType] at bound
    exact named type key other bound

end ModDefinition

namespace Survey

variable {survey next : Survey} {lineNumber : Nat} {meaning : LineMeaning}

/-- Only names and the beginnings of blocks bear on what names are bound to. -/
theorem names_active_advance
    (opensNone : ∀ word ref argument, meaning ≠ .blockStart word ref argument)
    (namesNone : ∀ name, meaning ≠ .name (some name))
    (advanced : survey.advance lineNumber meaning = .ok next) :
    next.definition.names = survey.definition.names ∧
      (next.context.active = survey.context.active ∨ next.context.active = none) := by
  cases meaning with
  | descriptionText closes =>
      obtain rfl := Except.ok.inj advanced
      cases closes <;> exact ⟨rfl, .inl rfl⟩
  | descriptionStart staysOpen =>
      cases staysOpen with
      | false => obtain rfl := Except.ok.inj advanced; exact ⟨rfl, .inl rfl⟩
      | true =>
          obtain ⟨-, rfl⟩ := advance_descriptionStart_eq_ok_iff.1 advanced
          exact ⟨rfl, .inl rfl⟩
  | blockStart word ref argument => exact absurd rfl (opensNone word ref argument)
  | blockEnd =>
      obtain rfl := Except.ok.inj advanced
      exact ⟨survey.names_closeBlock, .inr rfl⟩
  | spellContent directive ref argument =>
      obtain rfl := Except.ok.inj advanced
      rw [readSpellLine]
      split
      · exact ⟨rfl, .inl rfl⟩
      · simp only
        split
        · exact ⟨ModDefinition.names_recordDamage _, .inl rfl⟩
        · exact ⟨rfl, .inl rfl⟩
  | modName given => cases given <;> (obtain rfl := Except.ok.inj advanced; exact ⟨rfl, .inl rfl⟩)
  | name given =>
      cases given with
      | none => obtain rfl := Except.ok.inj advanced; exact ⟨rfl, .inl rfl⟩
      | some name => exact absurd rfl (namesNone name)
  | entity word ref argument =>
      obtain rfl := Except.ok.inj advanced
      split
      · exact ⟨ModDefinition.names_recordArgument ref argument, .inl rfl⟩
      · exact ⟨rfl, .inl rfl⟩
  | blank | comment | otherMetadata word | text word =>
      obtain rfl := Except.ok.inj advanced
      exact ⟨rfl, .inl rfl⟩

namespace ContainsNamed

theorem advance (named : survey.ContainsNamed)
    (advanced : survey.advance lineNumber meaning = .ok next) : next.ContainsNamed := by
  have grows : ∀ binding, survey.definition.Contains binding → next.definition.Contains binding :=
    fun binding contains =>
      (ModDefinition.keptByRecording_contains binding).advance contains advanced
  by_cases opens : ∃ word ref argument, meaning = .blockStart word ref argument
  · obtain ⟨word, ref, argument, rfl⟩ := opens
    obtain ⟨opened, isOpened, -, active, entities, -, names⟩ :=
      survey.exists_openBlock lineNumber ref argument (survey.outside_of_openBlock advanced)
    obtain rfl := Except.ok.inj (isOpened.symm.trans advanced)
    refine ⟨named.names.mono ?_ grows, fun binding bound => ?_⟩
    · rw [names, ModDefinition.names_recordArgument]
    · rw [active] at bound
      exact (ModDefinition.contains_blockBinding named.names bound).of_entities_eq entities
  by_cases names : ∃ name, meaning = .name (some name)
  · obtain ⟨name, rfl⟩ := names
    rw [survey.advance_name] at advanced
    obtain rfl := Except.ok.inj advanced
    rw [bindName]
    split
    · next binding isActive =>
        split
        · exact named
        · exact ⟨named.names.recordName (named.active binding isActive) name, named.active⟩
    · exact named
  · obtain ⟨sameNames, active⟩ := names_active_advance
      (fun word ref argument same => opens ⟨word, ref, argument, same⟩)
      (fun name same => names ⟨name, same⟩) advanced
    refine ⟨named.names.mono sameNames grows, fun binding bound => ?_⟩
    rcases active with same | nothing
    · exact grows binding (named.active binding (same ▸ bound))
    · rw [nothing] at bound
      cases bound

theorem run (named : survey.ContainsNamed) {lines : List ScriptLine}
    (ran : survey.run lines = .ok next) : next.ContainsNamed := by
  refine invariant_of_foldlM (fun _ _ survey => survey.ContainsNamed) ?_ named ran
  intro _ _ _ _ _ before stepped
  obtain ⟨classified, -, advanced⟩ := Survey.step_eq_ok_iff.1 stepped
  exact before.advance advanced

theorem finish (named : survey.ContainsNamed) : survey.finish.ContainsNamed := by
  refine named.names.mono ?_ fun binding contains =>
    (ModDefinition.keptByRecording_contains binding).finish contains
  rw [Survey.finish]
  split
  · rw [Survey.names_closeBlock]
    rfl
  · rfl

end ContainsNamed

end Survey

/-- Whatever names a mod binds, it binds them to content of their type that it contains. -/
theorem ModDefinition.containsNamed_of_parse {modName : String} {script : List Char}
    {definition : ModDefinition}
    (parsed : ModDefinition.parse modName script = .ok definition) : definition.ContainsNamed := by
  obtain ⟨last, surveyed, -, rfl⟩ := ModDefinition.parse_eq_ok_iff.1 parsed
  have initially : ({ definition := { modName } } : Survey).ContainsNamed := by
    refine ⟨fun type key binding bound => ?_, fun binding bound => by cases bound⟩
    rw [EntityTable.get_uniform, Std.TreeMap.getElem?_emptyc] at bound
    cases bound
  exact (initially.run surveyed).finish

/-! ### Well-formed definitions -/

/-- The base game owns zero. -/
theorem vanillaEnd_nonneg (type : EntityType) : 0 ≤ (defaultRange type).vanillaEnd := by
  cases type <;> decide

/-- Each id is on its side of what the base game owns, and each name stands for content of its
type that the definition contains. -/
structure ModDefinition.IsWellFormed (definition : ModDefinition) : Prop where
  vanillaEdited : ∀ type, ∀ id ∈ (definition.entity type).vanillaEditedIds,
    0 ≤ id ∧ id ≤ (defaultRange type).vanillaEnd
  defined : ∀ type, ∀ id ∈ (definition.entity type).definedIds, (defaultRange type).vanillaEnd < id
  nonneg : ∀ type, ∀ id ∈ (definition.entity type).definedIds ++
    (definition.entity type).vanillaEditedIds, 0 ≤ id
  disjoint : ∀ type, List.Disjoint (definition.entity type).definedIds
    (definition.entity type).vanillaEditedIds
  explicitName : ∀ type (key : String) boundType id,
    (definition.names.get type)[key]? = some ⟨boundType, .explicit id⟩ → boundType = type ∧
      (id ∈ (definition.entity type).definedIds ∨ id ∈ (definition.entity type).vanillaEditedIds)
  implicitName : ∀ type (key : String) boundType index,
    (definition.names.get type)[key]? = some ⟨boundType, .implicit index⟩ → boundType = type ∧
      index < (definition.entity type).implicitCount

/-- Every definition that is read from a script is well formed. -/
theorem ModDefinition.isWellFormed_of_parse {modName : String} {script : List Char}
    {definition : ModDefinition}
    (parsed : ModDefinition.parse modName script = .ok definition) : definition.IsWellFormed := by
  have noneDefined : ∀ {type : EntityType} {id : Int},
      id ∉ (({ modName } : ModDefinition).entities.get type).defined := by
    intro type id member
    rw [EntityTable.get_uniform] at member
    exact Std.TreeSet.not_mem_emptyc member
  have noneEdited : ∀ {type : EntityType} {id : Int},
      id ∉ (({ modName } : ModDefinition).entities.get type).vanillaEdited := by
    intro type id member
    rw [EntityTable.get_uniform] at member
    exact Std.TreeSet.not_mem_emptyc member
  have vanillaEdited : ∀ type, ∀ id ∈ (definition.entity type).vanillaEditedIds,
      0 ≤ id ∧ id ≤ (defaultRange type).vanillaEnd := by
    intro type id member
    have onlyVanilla := keptByRecording_onlyVanillaEdited.parse
      (fun _ _ member => absurd member noneEdited) parsed
    exact (EntityRange.isVanilla_iff _ _).1 (onlyVanilla type id ((IdSet.mem_ids _ _).1 member))
  have defined : ∀ type, ∀ id ∈ (definition.entity type).definedIds,
      (defaultRange type).vanillaEnd < id := by
    intro type id member
    have isDefined := (IdSet.mem_ids _ _).1 member
    have notNegative : 0 ≤ id := keptByRecording_noNegativeDefined.parse
      (fun _ _ member => absurd member noneDefined) parsed type id isDefined
    have notVanilla := keptByRecording_noVanillaDefined.parse
      (fun _ _ member => absurd member noneDefined) parsed type id isDefined
    rw [Bool.eq_false_iff, ne_eq, EntityRange.isVanilla_iff] at notVanilla
    omega
  have named := containsNamed_of_parse parsed
  refine ⟨vanillaEdited, defined, fun type id member => ?_, fun type id isDefined isEdited => ?_,
    fun type key boundType id bound => ?_, fun type key boundType index bound => ?_⟩
  · rcases List.mem_append.1 member with isDefined | isEdited
    · exact Int.le_trans (vanillaEnd_nonneg type) (Int.le_of_lt (defined type id isDefined))
    · exact (vanillaEdited type id isEdited).1
  · exact Int.not_le.2 (defined type id isDefined) (vanillaEdited type id isEdited).2
  · obtain ⟨rfl, contains⟩ := named type key _ bound
    exact ⟨rfl, contains.imp (IdSet.mem_ids _ _).2 (IdSet.mem_ids _ _).2⟩
  · obtain ⟨rfl, contains⟩ := named type key _ bound
    exact ⟨rfl, contains⟩

/-- A mod with ids of its own and of the base game, a montag by a negative damage value, and names
that are given in blocks with an id, without one, and of a name. -/
def rangerScript : List Char :=
  ("#newmonster 5000\n#name \"Scout\"\n#end\n#newmonster\n#name \"Ghost\"\n#end\n" ++
    "#selectmonster 30\n#name \"Ogre\"\n#end\n#selectmonster \"Scout\"\n#name \"Ranger\"\n#end\n" ++
    "#newspell 2000\n#effect 1\n#damage -2000\n#end").toList

theorem isWellFormed_of_parse_rangerScript :
    ∃ definition, ModDefinition.parse "Rangers" rangerScript = .ok definition ∧
      definition.IsWellFormed := by
  obtain ⟨definition, parsed⟩ : ∃ definition,
      ModDefinition.parse "Rangers" rangerScript = .ok definition :=
    exists_eq_ok_of_isOk (by decide +kernel)
  exact ⟨definition, parsed, ModDefinition.isWellFormed_of_parse parsed⟩

end ModMerge
