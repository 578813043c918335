import ModMerge.Proofs.Allocation.SharedEdits
import ModMerge.Proofs.Allocation.TypeViews

/-!
# Types do not interfere

Of the steps of a mod those about a type are a matter of what the mod touches of this type. So two
allocations of mods that agree on a type (`SameModsOn`) take the same steps about it and end with
the same view of it, although the steps between them are different ones.
-/

namespace ModMerge

/-! ### Mods that agree on a type -/

/-- Mods that touch the same content of a type. -/
structure ModDefinition.AgreesOn (type : EntityType) (first second : ModDefinition) : Prop where
  definedIds : first.definedIds type = second.definedIds type
  vanillaEditedIds : (first.entity type).vanillaEditedIds = (second.entity type).vanillaEditedIds
  implicitCount : (first.entity type).implicitCount = (second.entity type).implicitCount

/-- Mods of the same names, one by one, that agree on a type. -/
def SameModsOn (type : EntityType) : List ModDefinition → List ModDefinition → Prop :=
  List.Forall₂ fun first second => first.modName = second.modName ∧ first.AgreesOn type second

namespace ModDefinition

theorem filter_explicitSteps (definition : ModDefinition) (ranges : RangeTable)
    (type : EntityType) :
    (definition.explicitSteps ranges).filter (·.type = type) =
      definition.stepsOfType ranges type := by
  rw [explicitSteps_eq, filter_flatMap_of_type definition.nodup_entityTypes
    fun type step => type_of_mem_stepsOfType]
  split
  · rfl
  · next notListed =>
      exact (stepsOfType_of_isEmpty ranges (isEmpty_of_not_mem_entityTypes notListed)).symm

theorem stepsOfType_congr {first second : ModDefinition} {type : EntityType}
    (sameName : first.modName = second.modName)
    (sameIds : first.definedIds type = second.definedIds type) (ranges : RangeTable) :
    first.stepsOfType ranges type = second.stepsOfType ranges type := by
  rw [stepsOfType, stepsOfType, insideIds, insideIds, outsideIds, outsideIds, sameName, sameIds]

theorem filter_implicitSteps (definition : ModDefinition) (type : EntityType) :
    definition.implicitSteps.filter (·.type = type) =
      if (definition.entity type).implicitCount = 0 then []
      else [⟨definition.modName, type, (definition.entity type).implicitCount⟩] := by
  rw [implicitSteps, List.filterMap_eq_flatMap_toList, filter_flatMap_of_type
    definition.nodup_entityTypes]
  · by_cases none : (definition.entity type).implicitCount = 0
    · simp [none]
    · have listed : type ∈ definition.entityTypes := by
        by_contra notListed
        have empty := isEmpty_of_not_mem_entityTypes notListed
        simp only [EntityDefinition.isEmpty, Bool.and_eq_true, beq_iff_eq] at empty
        exact none empty.2
      simp [none, listed]
  · intro type step member
    simp only [Option.mem_toList, Option.ite_none_left_eq_some, Option.some.injEq] at member
    rw [← member.2]

end ModDefinition

namespace SameModsOn

variable {type : EntityType} {ordered ordered' : List ModDefinition}

theorem map_eq (same : SameModsOn type ordered ordered') {Value : Type}
    {value : ModDefinition → Value}
    (respects : ∀ first second, first.modName = second.modName → first.AgreesOn type second →
      value first = value second) :
    ordered.map value = ordered'.map value := by
  induction same with
  | nil => rfl
  | cons here _ inductionHypothesis =>
      rw [List.map_cons, List.map_cons, respects _ _ here.1 here.2, inductionHypothesis]

theorem flatMap_eq (same : SameModsOn type ordered ordered') {Value : Type}
    {values : ModDefinition → List Value}
    (respects : ∀ first second, first.modName = second.modName → first.AgreesOn type second →
      values first = values second) :
    ordered.flatMap values = ordered'.flatMap values := by
  rw [List.flatMap_def, List.flatMap_def, same.map_eq respects]

theorem initial_eq (same : SameModsOn type ordered ordered') (ranges : RangeTable) :
    Allocation.initial ranges ordered = .initial ranges ordered' := by
  have names := same.map_eq fun _ _ sameName _ => sameName
  have mappings := congrArg (List.foldl (fun mappings modName =>
    mappings.insert modName { modName }) (∅ : Std.TreeMap String ModMapping)) names
  rw [List.foldl_map, List.foldl_map] at mappings
  rw [Allocation.initial, Allocation.initial, mappings]

theorem editorsOf_eq (same : SameModsOn type ordered ordered') (id : Int) :
    editorsOf ordered type id = editorsOf ordered' type id := by
  induction same with
  | nil => rfl
  | @cons first second _ _ here _ inductionHypothesis =>
      have edits : (first.entity type).vanillaEdited.contains id =
          (second.entity type).vanillaEdited.contains id := by
        rw [Bool.eq_iff_iff, Std.TreeSet.contains_iff_mem, Std.TreeSet.contains_iff_mem,
          ← IdSet.mem_ids, ← IdSet.mem_ids]
        exact iff_of_eq (congrArg (id ∈ ·) here.2.vanillaEditedIds)
      simp only [editorsOf, List.filter_cons, edits] at inductionHypothesis ⊢
      split
      · rw [List.map_cons, List.map_cons, here.1, inductionHypothesis]
      · exact inductionHypothesis

theorem sharedEdits_eq (same : SameModsOn type ordered ordered') :
    sharedEdits ordered type = sharedEdits ordered' type := by
  have ids := congrArg (List.foldl IdSet.insertAll ∅)
    (same.map_eq fun _ _ _ agrees => agrees.vanillaEditedIds)
  rw [List.foldl_map, List.foldl_map] at ids
  simp only [sharedEdits, editedIds, ids, same.editorsOf_eq]

end SameModsOn

theorem filter_sharedEditConflicts (definitions : List ModDefinition) (type : EntityType) :
    (sharedEditConflicts definitions).filter (·.type = type) =
      (sharedEdits definitions type).map fun (mods, ids) => .sharedEdit type ids mods := by
  rw [sharedEditConflicts, filter_flatMap_of_type EntityType.nodup_all,
    if_pos (EntityType.mem_all type)]
  intro type conflict member
  obtain ⟨group, -, rfl⟩ := List.mem_map.1 member
  rfl

namespace Allocation

variable {type : EntityType} {ranges : RangeTable} {ordered ordered' : List ModDefinition}

theorem view_reserveExplicit_congr {first second : Allocation}
    {definition definition' : ModDefinition} (same : first.view type = second.view type)
    (agrees : definition.AgreesOn type definition') :
    (first.reserveExplicit definition).view type =
      (second.reserveExplicit definition').view type := by
  have sameLedger : first.ledgers.get type = second.ledgers.get type :=
    congrArg TypeView.ledger same
  have sameRecorded : (first.view type).recorded = (second.view type).recorded :=
    congrArg TypeView.recorded same
  have sameCollisions : (first.view type).collisions = (second.view type).collisions :=
    congrArg TypeView.collisions same
  refine TypeView.ext ?_ sameRecorded sameCollisions
  simp only [view, get_reserveExplicit, sameLedger, agrees.definedIds]

theorem view_foldl_reserveExplicit_congr {first second : Allocation}
    (sameMods : SameModsOn type ordered ordered') (same : first.view type = second.view type) :
    (ordered.foldl reserveExplicit first).view type =
      (ordered'.foldl reserveExplicit second).view type := by
  induction sameMods generalizing first second with
  | nil => exact same
  | cons here _ inductionHypothesis =>
      exact inductionHypothesis (view_reserveExplicit_congr same here.2)

/-- What the placing of all ids leaves behind of a type is a matter of what mods touch of it. -/
theorem view_allocateAll_congr (same : SameModsOn type ordered ordered')
    {placed placed' : Allocation} (placing : allocateAll ranges ordered = .ok placed)
    (placing' : allocateAll ranges ordered' = .ok placed') :
    placed.view type = placed'.view type := by
  obtain ⟨start, started, run⟩ := bind_eq_ok.1 placing
  obtain ⟨start', started', run'⟩ := bind_eq_ok.1 placing'
  have reserved : (ordered.foldl reserveExplicit (.initial ranges ordered)).view type =
      (ordered'.foldl reserveExplicit (.initial ranges ordered')).view type := by
    rw [same.initial_eq ranges]
    exact view_foldl_reserveExplicit_congr same rfl
  have implicit : start.view type = start'.view type := by
    refine view_eq_of_foldlM (·.view type) (·.type = type) ?_ ?_ ?_ reserved started started'
    · intro before step after different
      exact view_placeImplicit_of_ne (of_decide_eq_false different)
    · intro step first second first' second' about
      obtain rfl := of_decide_eq_true about
      exact view_placeImplicit_congr
    · simp only [List.filter_flatMap, ModDefinition.filter_implicitSteps]
      refine same.flatMap_eq fun first second sameName agrees => ?_
      rw [sameName, agrees.implicitCount]
  refine view_eq_of_foldlM (·.view type) (·.type = type) ?_ ?_ ?_ implicit run run'
  · intro before step after different
    exact view_placeExplicit_of_ne (of_decide_eq_false different)
  · intro step first second first' second' about
    obtain rfl := of_decide_eq_true about
    exact view_placeExplicit_congr
  · simp only [List.filter_flatMap, ModDefinition.filter_explicitSteps]
    exact same.flatMap_eq fun first second sameName agrees =>
      ModDefinition.stepsOfType_congr sameName agrees.definedIds ranges

end Allocation

/-! ### The two allocations -/

section

variable {type : EntityType} {ranges : RangeTable} {definitions definitions' : List ModDefinition}
  {result result' : AllocationResult}

/-- The order of names brings mods of the same name to the same place. -/
theorem sameModsOn_inNameOrder
    (sameNames : (definitions'.map (·.modName)).Perm (definitions.map (·.modName)))
    (agree : ∀ definition ∈ definitions, ∀ definition' ∈ definitions',
      definition.modName = definition'.modName → definition.AgreesOn type definition') :
    SameModsOn type (inNameOrder definitions) (inNameOrder definitions') := by
  have names : (inNameOrder definitions).map (·.modName) =
      (inNameOrder definitions').map (·.modName) :=
    map_mergeSort_byName_eq_of_perm ModDefinition.modName sameNames.symm
  have together : List.Forall₂ (fun first second : ModDefinition => first.modName = second.modName)
      (inNameOrder definitions) (inNameOrder definitions') := by
    rwa [← List.forall₂_eq_eq_eq, List.forall₂_map_left_iff, List.forall₂_map_right_iff] at names
  rw [List.forall₂_iff_zip] at together
  refine List.forall₂_iff_zip.2 ⟨together.1, fun {first second} paired => ?_⟩
  obtain ⟨known, known'⟩ := List.of_mem_zip paired
  have sameName := together.2 paired
  exact ⟨sameName, agree first (mem_inNameOrder.1 known) second (mem_inNameOrder.1 known') sameName⟩

/-- The conflicts over a type are the collisions noted for it and the edits shared in it. -/
theorem filter_conflicts_of_allocate (allocated : allocate ranges definitions = .ok result)
    {placed : Allocation} (placing : allocateAll ranges (inNameOrder definitions) = .ok placed) :
    result.conflicts.filter (·.type = type) =
      (placed.view type).collisions.map Collision.toConflict ++
        (sharedEdits (inNameOrder definitions) type).map fun (mods, ids) =>
          .sharedEdit type ids mods := by
  rw [(reported_of_allocate allocated placing).1, List.filter_append, List.filter_map,
    filter_sharedEditConflicts]
  rfl

/-- What becomes of the content of a type is a matter of this type alone: mods that touch the same
content of it are treated alike in it, whatever they touch of other types. -/
theorem entityTypes_do_not_interfere (distinct : (definitions.map (·.modName)).Nodup)
    (sameNames : (definitions'.map (·.modName)).Perm (definitions.map (·.modName)))
    (agree : ∀ definition ∈ definitions, ∀ definition' ∈ definitions',
      definition.modName = definition'.modName → definition.AgreesOn type definition')
    (allocated : allocate ranges definitions = .ok result)
    (allocated' : allocate ranges definitions' = .ok result') :
    (∀ definition ∈ definitions,
      (result.mappingOf definition.modName).remapsOf type =
        (result'.mappingOf definition.modName).remapsOf type ∧
      (result.mappingOf definition.modName).implicitIds type =
        (result'.mappingOf definition.modName).implicitIds type) ∧
    result.conflicts.filter (·.type = type) = result'.conflicts.filter (·.type = type) := by
  have distinct' : (definitions'.map (·.modName)).Nodup := sameNames.nodup_iff.2 distinct
  obtain ⟨placed, placing, resolved⟩ := exists_placed_of_allocate distinct allocated
  obtain ⟨placed', placing', resolved'⟩ := exists_placed_of_allocate distinct' allocated'
  have sameMods := sameModsOn_inNameOrder sameNames agree
  have sameView := Allocation.view_allocateAll_congr sameMods placing placing'
  refine ⟨fun definition known => ?_, ?_⟩
  · obtain ⟨definition', known', sameName⟩ :=
      List.mem_map.1 (sameNames.mem_iff.2 (List.mem_map_of_mem known))
    have named := ModMapping.sameBesidesNames_of_resolveNames (resolved definition known).2
    have named' := ModMapping.sameBesidesNames_of_resolveNames (resolved' definition' known').2
    rw [sameName] at named'
    have recorded := ModMapping.onType_mappingOf placed type definition.modName
    rw [sameView, ← ModMapping.onType_mappingOf placed'] at recorded
    obtain ⟨remapped, implicit⟩ := Prod.mk.inj recorded
    rw [ModMapping.remapsOf, ModMapping.remapsOf, ModMapping.implicitIds, ModMapping.implicitIds,
      named.remapped, named'.remapped, named.implicit, named'.implicit, remapped, implicit]
    exact ⟨rfl, rfl⟩
  · rw [filter_conflicts_of_allocate allocated placing,
      filter_conflicts_of_allocate allocated' placing', sameView, sameMods.sharedEdits_eq]

/-- A defined id is content of no other type. -/
theorem ModDefinition.agreesOn_recordDefined (definition : ModDefinition) {other : EntityType}
    (different : other ≠ type) (id : Int) :
    definition.AgreesOn type (definition.recordDefined other id) := by
  have same : (definition.recordDefined other id).entity type = definition.entity type := by
    simp only [entity, recordDefined, EntityTable.get_modify_of_ne _ _ different]
  exact ⟨by rw [definedIds, definedIds, same], by rw [same], by rw [same]⟩

/-- The overlapping mods, the later one first, with a spell of the same id in each of them. -/
def overlappingModsWithSpells : List ModDefinition :=
  overlappingMods.reverse.map (·.recordDefined .spell 5000)

theorem entityTypes_do_not_interfere_overlappingModsWithSpells :
    ∃ result result', allocate defaultRanges overlappingMods = .ok result ∧
      allocate defaultRanges overlappingModsWithSpells = .ok result' ∧
      (result.mappingOf "Caelum").remapsOf .monster =
        (result'.mappingOf "Caelum").remapsOf .monster ∧
      result.conflicts.filter (·.type = .monster) =
        result'.conflicts.filter (·.type = .monster) := by
  obtain ⟨result, allocated⟩ := exists_allocate_overlappingMods
  have ordered : inNameOrder overlappingModsWithSpells =
      overlappingMods.map (·.recordDefined .spell 5000) := by
    refine inNameOrder_eq_of_perm ((List.reverse_perm overlappingMods).map _) ?_
    rw [List.pairwise_map]
    decide +kernel
  have succeeds : (allocate defaultRanges overlappingModsWithSpells).isOk = true := by
    rw [allocate, ordered]
    decide +kernel
  obtain ⟨result', allocated'⟩ := exists_eq_ok_of_isOk succeeds
  have agree : ∀ definition ∈ overlappingMods, ∀ definition' ∈ overlappingModsWithSpells,
      definition.modName = definition'.modName → definition.AgreesOn .monster definition' := by
    intro definition known _ known' sameName
    obtain ⟨spelless, spellessKnown, rfl⟩ := List.mem_map.1 known'
    obtain rfl := List.inj_on_of_nodup_map (f := (·.modName)) (by decide) known
      (List.mem_reverse.1 spellessKnown) sameName
    exact definition.agreesOn_recordDefined (by decide) 5000
  obtain ⟨entries, conflicts⟩ := entityTypes_do_not_interfere (by decide) (by decide) agree
    allocated allocated'
  exact ⟨result, result', allocated, allocated',
    (entries overlappingMods[1] (by simp [overlappingMods])).1, conflicts⟩

end

end ModMerge
