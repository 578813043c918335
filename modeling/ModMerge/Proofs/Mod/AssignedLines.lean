import ModMerge.Proofs.Mod.NamedContent
import ModMerge.Proofs.Mod.SameMeaning

/-!
# Content without an id follows the id that it is assigned

Reading a mod, allocating its ids and renumbering it each count the definitions without an id
for themselves. The three counts agree: the line that is counted as the `k`-th when a mod is
read is written with the `k`-th of the ids that the mod is assigned, and the names bound to it
stand for that id.
-/

namespace ModMerge

/-- Each name of the mod stands for the id of the content that it is bound to, and there are no
others. -/
def ModMapping.ResolvesNames (mapping : ModMapping) (definition : ModDefinition) : Prop :=
  ∀ type name, match definition.nameBinding? type name with
    | none => mapping.resolveName? type name = none
    | some ⟨_, .explicit id⟩ => mapping.resolveName? type name = some (mapping.newId type id)
    | some ⟨_, .implicit index⟩ => ∃ id, (mapping.implicitIds type)[index]? = some id ∧
        mapping.resolveName? type name = some id

/-- The lines that create content without an id are written with the ids that are assigned, in
order. -/
def ModMapping.WritesImplicitIds (mapping : ModMapping) (transcript : List RenumberedLine) :
    Prop :=
  ∀ type before line after, transcript = before ++ line :: after →
    line.meaning.createsUnnumbered type = true →
      ∃ written id, line.written = some written ∧ argumentNumber? written.line = some id ∧
        (mapping.implicitIds type)[before.countP fun earlier =>
          earlier.meaning.createsUnnumbered type]? = some id

theorem ModMapping.getElem?_implicitIds (mapping : ModMapping) (type : EntityType) (index : Nat) :
    (mapping.implicitIds type)[index]? = mapping.implicitId? type index :=
  Array.getElem?_toList

/-! ### Names -/

theorem resolvesNames_of_allocate {ranges : RangeTable} {definitions : List ModDefinition}
    {definition : ModDefinition} {result : AllocationResult}
    (distinct : (definitions.map (·.modName)).Nodup)
    (allocated : allocate ranges definitions = .ok result) (member : definition ∈ definitions)
    (keyed : definition.NamesKeyed) (named : definition.ContainsNamed) :
    (result.mappingOf definition.modName).ResolvesNames definition := by
  intro type name
  have names := names_of_allocate distinct allocated member keyed type (nameKey name)
  change ModMapping.resolveName? _ type name = (definition.nameBinding? type name).bind _ at names
  split
  · next unbound => rw [names, unbound, Option.bind_none]
  · next bindingType id bound =>
      obtain ⟨rfl, -⟩ := named _ _ _ bound
      rw [names, bound]
      rfl
  · next bindingType index bound =>
      obtain ⟨rfl, contains⟩ := named _ _ _ bound
      have inRange : index < definition.nextImplicitIndex bindingType := contains
      rw [← length_implicitIds_of_allocate distinct allocated member] at inRange
      refine ⟨_, List.getElem?_eq_getElem inRange, ?_⟩
      rw [names, bound, ← List.getElem?_eq_getElem inRange, ModMapping.getElem?_implicitIds]
      rfl

/-! ### Lines -/

/-- A line that creates content without an id is written with the id that is assigned to it. -/
theorem RenumberedLine.Fits.exists_assigned {mapping : ModMapping}
    {before after : List RenumberedLine} {line : RenumberedLine} {type : EntityType} {id : Int}
    (fits : line.Fits mapping before after) (isRead : line.IsRead)
    (creates : line.meaning.createsUnnumbered type = true)
    (isAssigned : mapping.implicitId? type
      (line.before.definition.nextImplicitIndex type) = some id) :
    ∃ written, line.written = some written ∧ argumentNumber? written.line = some id := by
  obtain ⟨⟨survey, text, meaning⟩, isWritten⟩ := line
  obtain ⟨word, ref, rfl, isNew, rfl⟩ := LineMeaning.createsUnnumbered_iff.1 creates
  obtain ⟨written, isWritten, drafted⟩ :=
    fits.exists_written rfl (isRead.substantial (by simp) (by simp) (by simp))
  refine ⟨written, isWritten, ?_⟩
  cases isRead.isDraft drafted with
  | same noneAssigned => cases (noneAssigned word ref rfl isNew).symm.trans isAssigned
  | moved form _ _ _ isForm => cases form <;> cases isForm
  | assigned _ _ other isStart _ isOther =>
      cases isStart
      obtain rfl := Option.some.inj (isOther.symm.trans isAssigned)
      exact isRead.argumentNumber?_assignedLine other

theorem exists_transcript_writesImplicitIds {mapping : ModMapping} {modName : String}
    {script : List Char} {definition : ModDefinition}
    (parsed : ModDefinition.parse modName script = .ok definition)
    (provided : ∀ type, (mapping.implicitIds type).length = definition.nextImplicitIndex type) :
    ∃ renumbered transcript, mapping.RenumbersTo modName script renumbered ∧
      IsTranscript transcript modName script renumbered ∧
      mapping.WritesImplicitIds transcript := by
  obtain ⟨renumbered, transcript, renumbersTo, isTranscript, fits⟩ :=
    exists_transcript parsed fun type => (provided type).ge
  refine ⟨renumbered, transcript, renumbersTo, isTranscript, ?_⟩
  intro type before line after split creates
  have readings : surveyedLines modName script = before.map (·.toSurveyedLine) ++
      line.toSurveyedLine :: after.map (·.toSurveyedLine) := by
    rw [← isTranscript.reads, split, List.map_append, List.map_cons]
  have index := Survey.nextImplicitIndex_before readings type
  have nothingYet : ({ modName } : ModDefinition).nextImplicitIndex type = 0 := by
    rw [ModDefinition.nextImplicitIndex, EntityTable.get_uniform]
  rw [nothingYet, Nat.zero_add, List.countP_map] at index
  have inRange : line.before.definition.nextImplicitIndex type <
      (mapping.implicitIds type).length := by
    rw [provided, nextImplicitIndex_of_parse parsed, readings, List.countP_append,
      List.countP_cons, List.countP_map, index, creates, if_pos rfl]
    omega
  obtain ⟨isRead, lineFits⟩ := fits before line after split
  obtain ⟨id, isAssigned⟩ : ∃ id, (mapping.implicitIds type)[
      line.before.definition.nextImplicitIndex type]? = some id :=
    ⟨_, List.getElem?_eq_getElem inRange⟩
  obtain ⟨written, isWritten, isNumber⟩ := lineFits.exists_assigned isRead creates
    ((mapping.getElem?_implicitIds type _).symm.trans isAssigned)
  refine ⟨written, id, isWritten, isNumber, ?_⟩
  rw [index] at isAssigned
  exact isAssigned

/-- Whatever the ranges are, in each of the mods that are allocated together the lines that create
content without an id are written with the ids assigned to it, in order, and each name stands for
the id of its content. A mod is refused only if one of its numbers is too long to be written, and
such a number comes from a range whose bounds are too long. -/
theorem names_and_lines_follow_assigned_ids {ranges : RangeTable} {sources : List ModSource}
    {definitions : List ModDefinition} {result : AllocationResult}
    (distinct : (sources.map (·.name)).Nodup)
    (read : sources.mapM ModSource.definition = .ok definitions)
    (allocated : allocate ranges definitions = .ok result) :
    ∀ source ∈ sources, ∃ definition ∈ definitions, source.definition = .ok definition ∧
      (result.mappingOf source.name).ResolvesNames definition ∧
      ∃ renumbered transcript,
        (result.mappingOf source.name).RenumbersTo source.name source.script renumbered ∧
        (∀ number ∈ renumbered.numbers, ¬ Text.Short number →
          ∃ type, (ranges.get type).isModding number = true ∧ ¬ (ranges.get type).Short) ∧
        IsTranscript transcript source.name source.script renumbered ∧
        (result.mappingOf source.name).WritesImplicitIds transcript := by
  intro source member
  obtain ⟨definition, known, parsed, sameName, provided, assigned⟩ :=
    exists_provided_of_allocate distinct read allocated member
  rw [← map_modName_of_mapM read] at distinct
  have keyed : definition.NamesKeyed := ModDefinition.keptByRecording_namesKeyed.parse
    (fun type key member => by simp [EntityTable.get_uniform] at member) parsed
  have named := ModDefinition.containsNamed_of_parse parsed
  have resolves := resolvesNames_of_allocate distinct allocated known keyed named
  rw [sameName] at resolves
  obtain ⟨renumbered, transcript, renumbersTo, isTranscript, writes⟩ :=
    exists_transcript_writesImplicitIds parsed provided
  exact ⟨definition, known, parsed, resolves, renumbered, transcript, renumbersTo,
    fun number isWritten long =>
      assigned number (renumbersTo.assigns_of_long number isWritten long) long,
    isTranscript, writes⟩

theorem names_and_lines_follow_assigned_ids_overlappingSources :
    ∃ definitions result, overlappingSources.mapM ModSource.definition = .ok definitions ∧
      allocate defaultRanges definitions = .ok result ∧
      ∀ source ∈ overlappingSources, ∃ definition ∈ definitions,
        source.definition = .ok definition ∧
        (result.mappingOf source.name).ResolvesNames definition ∧
        ∃ renumbered transcript,
          (result.mappingOf source.name).renumber source.name source.script = .ok renumbered ∧
          IsTranscript transcript source.name source.script renumbered ∧
          (result.mappingOf source.name).WritesImplicitIds transcript := by
  obtain ⟨definitions, result, read, allocated⟩ := exists_allocate_overlappingSources
  refine ⟨definitions, result, read, allocated, fun source member => ?_⟩
  obtain ⟨definition, known, parsed, resolves, renumbered, transcript, renumbersTo, long,
    isTranscript, writes⟩ :=
    names_and_lines_follow_assigned_ids (by decide) read allocated source member
  refine ⟨definition, known, parsed, resolves, renumbered, transcript, ?_, isTranscript, writes⟩
  rw [renumbersTo.renumber_eq, whenWritable_of_short]
  intro number isWritten
  by_contra isLong
  obtain ⟨type, -, longRange⟩ := long number isWritten isLong
  exact longRange (short_defaultRanges type)

end ModMerge
