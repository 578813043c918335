import ModMerge.Mod.Source
import ModMerge.Proofs.Allocation.AssignedIds
import ModMerge.Proofs.Mod.Transcripts

/-!
# A renumbered mod means the same

Reading what renumbering has written of a mod gives the definition of the mod again, with
every id where the allocation has moved it to and every definition without an id at the id
that it was assigned.
-/

namespace ModMerge

namespace ModDefinition

/-- A definition that was read again from the renumbered mod. -/
structure RereadAs (mapping : ModMapping) (definition reread : ModDefinition) : Prop where
  definedIds : ∀ type id, id ∈ reread.definedIds type ↔
    (∃ old ∈ definition.definedIds type, mapping.newId type old = id) ∨
    id ∈ mapping.implicitIds type
  vanillaEditedIds : ∀ type,
    (reread.entity type).vanillaEditedIds = (definition.entity type).vanillaEditedIds
  implicitCount : ∀ type, (reread.entity type).implicitCount = 0
  references : reread.references = definition.references
  /-- The same names are bound, each to the id that it stands for in the mapping. -/
  names : ∀ type name, Option.Rel
    (fun binding settled => ∃ id, mapping.resolveName? type name = some id ∧
      settled = ⟨binding.type, .explicit id⟩)
    (definition.nameBinding? type name) (reread.nameBinding? type name)

variable {mapping : ModMapping} {definition base read : ModDefinition}

/-- An id that has been given to a definition without one, by its index. -/
theorem mem_implicitIds_iff (provides : mapping.Provides definition) {type : EntityType}
    {id : Int} : id ∈ mapping.implicitIds type ↔
      ∃ index < definition.nextImplicitIndex type, mapping.implicitId? type index = some id := by
  rw [← provides.implicitIds, ModMapping.implicitIds, Array.mem_toList_iff, Array.length_toList]
  constructor
  · intro member
    obtain ⟨index, bound, isId⟩ := Array.mem_iff_getElem.1 member
    exact ⟨index, bound, by rw [ModMapping.implicitId?, Array.getElem?_eq_getElem bound, isId]⟩
  · rintro ⟨index, -, settled⟩
    exact Array.mem_of_getElem? settled

theorem Mirrors.mem_definedIds (mirrors : definition.Mirrors mapping base read)
    (provides : mapping.Provides definition) (type : EntityType) (id : Int) :
    id ∈ read.definedIds type ↔ id ∈ base.definedIds type ∨
      (∃ old ∈ definition.definedIds type, mapping.newId type old = id) ∨
      id ∈ mapping.implicitIds type := by
  simp only [definedIds, EntityDefinition.definedIds, IdSet.mem_ids, entity,
    mem_implicitIds_iff provides]
  exact mirrors.defined type id

end ModDefinition

/-- When a mod has been renumbered with ids that were assigned to it, reading what was written goes
on from wherever reading has come. -/
theorem leadsFrom_of_provides {atStart : Prop} {mapping : ModMapping} {modName : String}
    {script : List Char} {last : Survey} {renumbered : RenumberedMod}
    (provides : mapping.Provides last.finish)
    (unmarked : atStart → ∀ line ∈ scriptLines script, Unmarked line.text)
    (surveyed : Survey.ofScript modName script = .ok last)
    (renumberEq : mapping.renumber modName script = .ok renumbered) :
    ∀ start : Survey, start.context.Consistent → start.context.inDescription = false →
      start.context.spell = none → renumbered.LeadsFrom atStart mapping last start := by
  have enough : ∀ type, last.definition.nextImplicitIndex type ≤
      (mapping.implicitIds type).length := by
    intro type
    rw [provides.implicitIds, last.nextImplicitIndex_finish]
  exact fun start consistent outside noSpell =>
    leadsFrom_of_renumber provides.sound unmarked surveyed enough consistent outside noSpell
      renumberEq

/-- A mod that is renumbered with ids that were assigned to it is read again as what it was. -/
theorem exists_rereadAs {mapping : ModMapping} {modName : String} {script : List Char}
    {definition : ModDefinition} (provides : mapping.Provides definition)
    (unmarked : ∀ line ∈ scriptLines script, Unmarked line.text)
    (parsed : ModDefinition.parse modName script = .ok definition) :
    ∃ renumbered, mapping.renumber modName script = .ok renumbered ∧
      ∀ newName, ∃ reread, ModDefinition.parse newName renumbered.text = .ok reread ∧
        definition.RereadAs mapping reread := by
  obtain ⟨last, surveyed, -, rfl⟩ := ModDefinition.parse_eq_ok_iff.1 parsed
  have same := last.sameContent_finish (Survey.consistent_of_ofScript surveyed)
  obtain ⟨renumbered, renumbersTo⟩ :=
    exists_renumbersTo parsed fun type => (provides.implicitIds type).ge
  have renumberEq := renumbersTo.eq_ok provides.sound.shortIds
  have leadsFrom :=
    leadsFrom_of_provides provides (fun _ : True => unmarked) surveyed renumberEq
  refine ⟨renumbered, renumberEq, fun newName => ?_⟩
  have leads := leadsFrom { definition := { modName := newName } }
    ParseContext.consistent_initial rfl rfl
  obtain ⟨read, parsedAgain, readSame, -, mirrors⟩ :=
    leads.reaches.exists_parse (leads.legible.map_text_scriptLines trivial)
  have definitionMirrors := mirrors.definition.of_sameContent same readSame
  have nameless : ({ definition := { modName := newName } } : Survey).Nameless := ⟨rfl, rfl⟩
  refine ⟨read.finish, parsedAgain, fun type id => ?_,
    fun type => IdSet.ids_eq_of_mem_iff fun id => ?_, fun type => ?_, ?_, fun type name => ?_⟩
  · rw [definitionMirrors.mem_definedIds provides]
    simp [ModDefinition.definedIds, EntityDefinition.definedIds, ModDefinition.entity,
      EntityTable.get_uniform, IdSet.mem_ids]
  · have edited := definitionMirrors.vanillaEdited type id
    simpa [EntityTable.get_uniform, ModDefinition.entity] using edited
  · have count := definitionMirrors.implicitCount type
    rw [ModDefinition.nextImplicitIndex, ModDefinition.nextImplicitIndex,
      EntityTable.get_uniform] at count
    exact count
  · have references := definitionMirrors.references
    simpa using references
  · have named := (mirrors.names nameless).names type (nameKey name)
    rw [same.names, readSame.names] at named
    rw [ModDefinition.nameBinding?, ModDefinition.nameBinding?]
    cases bound : (last.finish.names.get type)[nameKey name]? with
    | none =>
        rw [bound] at named
        rw [eq_none_of_rel named]
        exact .none
    | some binding =>
        rw [bound] at named
        obtain ⟨settled, readBound, settledAs⟩ := exists_of_rel_some named
        obtain ⟨id, target, resolves⟩ := settledAs.target
        rw [readBound]
        refine .some ⟨id, ?_, ?_⟩
        · rw [ModMapping.resolveName?, provides.names type _ binding bound, resolves]
        · rw [← settledAs.type_eq, ← target]

theorem ModSource.modName_of_definition {source : ModSource} {definition : ModDefinition}
    (parsed : source.definition = .ok definition) : definition.modName = source.name :=
  (ModDefinition.keptByRecording_modName _).parse rfl parsed

/-- The mods that were read are those of the sources. -/
theorem map_modName_of_mapM {sources : List ModSource} {definitions : List ModDefinition}
    (read : sources.mapM ModSource.definition = .ok definitions) :
    definitions.map (·.modName) = sources.map (·.name) := by
  have each := forall₂_of_mapM read
  clear read
  induction each with
  | nil => rfl
  | cons parsed _ inductionHypothesis =>
      rw [List.map_cons, List.map_cons, inductionHypothesis,
        ModSource.modName_of_definition parsed]

/-- Mods that were read in the order of their names are treated in that order. -/
theorem inNameOrder_of_mapM {sources : List ModSource} {definitions : List ModDefinition}
    (ascending : (sources.map (·.name)).Pairwise (· ≤ ·))
    (read : sources.mapM ModSource.definition = .ok definitions) :
    inNameOrder definitions = definitions := by
  rw [← map_modName_of_mapM read, List.pairwise_map] at ascending
  exact inNameOrder_of_pairwise ascending

/-- Whatever the ranges are, each mod that was read and allocated has an id for every definition
without one, and what is assigned to it can be written unless a bound of its range is too long. -/
theorem exists_provided_of_allocate {ranges : RangeTable} {sources : List ModSource}
    {definitions : List ModDefinition} {result : AllocationResult}
    (distinct : (sources.map (·.name)).Nodup)
    (read : sources.mapM ModSource.definition = .ok definitions)
    (allocated : allocate ranges definitions = .ok result) {source : ModSource}
    (member : source ∈ sources) :
    ∃ definition ∈ definitions, source.definition = .ok definition ∧
      definition.modName = source.name ∧
      (∀ type, ((result.mappingOf source.name).implicitIds type).length =
        definition.nextImplicitIndex type) ∧
      ∀ id, (result.mappingOf source.name).Assigns id → ¬ Text.Short id →
        ∃ type, (ranges.get type).isModding id = true ∧ ¬ (ranges.get type).Short := by
  obtain ⟨definition, known, parsed⟩ :=
    exists_mem_of_forall₂ (forall₂_of_mapM read) member
  have sameName := ModSource.modName_of_definition parsed
  rw [← map_modName_of_mapM read] at distinct
  refine ⟨definition, known, parsed, sameName, ?_⟩
  rw [← sameName]
  exact ⟨length_implicitIds_of_allocate distinct allocated known, fun _ assigns long =>
    exists_long_range_of_assigns distinct allocated known assigns long⟩

/-- However many mods are allocated together, each can be renumbered, and what has been written
of it can be read and means what the mod means. -/
theorem renumbered_means_the_same {sources : List ModSource} {definitions : List ModDefinition}
    {result : AllocationResult} (distinct : (sources.map (·.name)).Nodup)
    (unmarked : ∀ source ∈ sources, ∀ line ∈ scriptLines source.script, Unmarked line.text)
    (read : sources.mapM ModSource.definition = .ok definitions)
    (allocated : allocate defaultRanges definitions = .ok result) :
    ∀ source ∈ sources, ∃ definition ∈ definitions, source.definition = .ok definition ∧
      ∃ renumbered, (result.mappingOf source.name).renumber source.name source.script =
          .ok renumbered ∧
        ∀ newName, ∃ reread, ModDefinition.parse newName renumbered.text = .ok reread ∧
          definition.RereadAs (result.mappingOf source.name) reread := by
  intro source member
  obtain ⟨definition, known, parsed⟩ :=
    exists_mem_of_forall₂ (forall₂_of_mapM read) member
  have sameName : definition.modName = source.name :=
    (ModDefinition.keptByRecording_modName _).parse rfl parsed
  have provides : (result.mappingOf source.name).Provides definition := by
    rw [← sameName]
    rw [← map_modName_of_mapM read] at distinct
    refine provides_of_allocate distinct allocated known ?_ ?_
    · exact ModDefinition.keptByRecording_noVanillaDefined.parse
        (fun type id member => by simp [EntityTable.get_uniform] at member) parsed
    · exact ModDefinition.keptByRecording_namesKeyed.parse
        (fun type key member => by simp [EntityTable.get_uniform] at member) parsed
  exact ⟨definition, known, parsed, exists_rereadAs provides (unmarked source member) parsed⟩

/-- Two mods with a monster of the same number; the second summons its own before it says how. -/
def overlappingSources : List ModSource :=
  [{ name := "Abysia", script := "#newmonster 5000\n#end".toList },
    { name := "Caelum", script := "#newspell\n#damage 5000\n#effect 1\n#end".toList }]

theorem exists_allocate_overlappingSources :
    ∃ definitions result, overlappingSources.mapM ModSource.definition = .ok definitions ∧
      allocate defaultRanges definitions = .ok result := by
  let parsed := (overlappingSources.mapM ModSource.definition).toOption.getD []
  have read : overlappingSources.mapM ModSource.definition = .ok parsed := by
    have succeeds : (overlappingSources.mapM ModSource.definition).isOk = true := by
      decide +kernel
    obtain ⟨definitions, isRead⟩ := exists_eq_ok_of_isOk succeeds
    simp only [parsed, isRead]
    rfl
  have succeeds : (allocate defaultRanges parsed).isOk = true := by
    rw [allocate, inNameOrder_of_mapM (by decide +kernel) read]
    decide +kernel
  obtain ⟨result, allocated⟩ := exists_eq_ok_of_isOk succeeds
  exact ⟨parsed, result, read, allocated⟩

theorem renumbered_means_the_same_overlappingSources :
    ∃ definitions result, overlappingSources.mapM ModSource.definition = .ok definitions ∧
      allocate defaultRanges definitions = .ok result ∧
      ∀ source ∈ overlappingSources, ∃ definition ∈ definitions,
        source.definition = .ok definition ∧
        ∃ renumbered, (result.mappingOf source.name).renumber source.name source.script =
            .ok renumbered ∧
          ∀ newName, ∃ reread, ModDefinition.parse newName renumbered.text = .ok reread ∧
            definition.RereadAs (result.mappingOf source.name) reread := by
  obtain ⟨definitions, result, read, allocated⟩ := exists_allocate_overlappingSources
  refine ⟨definitions, result, read, allocated, ?_⟩
  exact renumbered_means_the_same (by decide) (by decide +kernel) read allocated

end ModMerge
