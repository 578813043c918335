import Mathlib.Data.List.Perm.Basic
import ModMerge.Proofs.Allocation.ExplicitPass
import ModMerge.Proofs.Allocation.Names

/-!
# Final ids

Once an allocation has succeeded, each mod has a final id for each id that it numbered and
for each definition without an id. Together these are the ids that were settled on in the
passes, so no two of them agree, and mods own them all.
-/

namespace ModMerge

theorem inNameOrder_perm (definitions : List ModDefinition) :
    (inNameOrder definitions).Perm definitions :=
  List.mergeSort_perm ..

theorem mem_inNameOrder {definitions : List ModDefinition} {definition : ModDefinition} :
    definition ∈ inNameOrder definitions ↔ definition ∈ definitions :=
  (inNameOrder_perm definitions).mem_iff

theorem nodup_modNames_inNameOrder {definitions : List ModDefinition}
    (distinct : (definitions.map (·.modName)).Nodup) :
    ((inNameOrder definitions).map (·.modName)).Nodup :=
  ((inNameOrder_perm definitions).map _).nodup_iff.2 distinct

namespace AllocationResult

/-- What became of the ids of a mod. -/
def mappingOf (result : AllocationResult) (modName : String) : ModMapping :=
  result.mappings.getD modName { modName }

/-- The ids that the content of a type of a mod has in the end. -/
def finalIds (result : AllocationResult) (definition : ModDefinition) (type : EntityType) :
    List Int :=
  (definition.definedIds type).map ((result.mappingOf definition.modName).newId type) ++
    (result.mappingOf definition.modName).implicitIds type

end AllocationResult

/-- An allocation that succeeds has placed all ids, written what mods share of the base game, and
resolved the names of the mods. -/
theorem allocate_eq_ok_iff {ranges : RangeTable} {definitions : List ModDefinition}
    {result : AllocationResult} :
    allocate ranges definitions = .ok result ↔
      ∃ placed mappings, allocateAll ranges (inNameOrder definitions) = .ok placed ∧
        requireRanges ((sharedEditConflicts (inNameOrder definitions)).map (·.ids)) = .ok () ∧
        resolveAllNames placed.mappings (inNameOrder definitions) = .ok mappings ∧
        result = {
          mappings
          conflicts := placed.collisions.map Collision.toConflict ++
            sharedEditConflicts (inNameOrder definitions)
          warnings := placed.warnings ++ (sharedEditConflicts (inNameOrder definitions)).map
            fun conflict => .sharedEdit conflict.type conflict.ids conflict.mods } := by
  constructor
  · intro allocated
    obtain ⟨placed, placing, written⟩ := bind_eq_ok.1 allocated
    obtain ⟨_, shared, rest⟩ := bind_eq_ok.1 written
    obtain ⟨mappings, resolving, finished⟩ := bind_eq_ok.1 rest
    exact ⟨placed, mappings, mapError_eq_ok.1 placing, mapError_eq_ok.1 shared,
      mapError_eq_ok.1 resolving, (Except.ok.inj finished).symm⟩
  · rintro ⟨placed, mappings, placing, shared, resolving, rfl⟩
    exact bind_eq_ok.2 ⟨placed, mapError_eq_ok.2 placing, bind_eq_ok.2 ⟨(),
      mapError_eq_ok.2 shared, bind_eq_ok.2 ⟨mappings, mapError_eq_ok.2 resolving, rfl⟩⟩⟩

/-- An allocation that succeeds has placed all ids, and then resolved the names of each mod
in the mapping that was placed for it. -/
theorem exists_placed_of_allocate {ranges : RangeTable} {definitions : List ModDefinition}
    {result : AllocationResult} (distinct : (definitions.map (·.modName)).Nodup)
    (allocated : allocate ranges definitions = .ok result) :
    ∃ placed, allocateAll ranges (inNameOrder definitions) = .ok placed ∧
      ∀ definition ∈ definitions, definition.modName ∈ result.mappings ∧
        (placed.mappingOf definition.modName).resolveNames definition =
          .ok (result.mappingOf definition.modName) := by
  obtain ⟨placed, mappings, placing, -, resolving, rfl⟩ := allocate_eq_ok_iff.1 allocated
  refine ⟨placed, placing, fun definition member => ?_⟩
  have inOrder := mem_inNameOrder.2 member
  obtain ⟨progress, -⟩ :=
    Allocation.progress_allocateAll (nodup_modNames_inNameOrder distinct) placing
  obtain ⟨_, progress⟩ := progress default
  have known := progress.known _ (List.mem_map_of_mem inOrder)
  have placedFor : placed.mappings[definition.modName]? =
      some (placed.mappingOf definition.modName) := by
    rw [Allocation.mappingOf, Std.TreeMap.getD_eq_getD_getElem?,
      Std.TreeMap.getElem?_eq_some_getElem known, Option.getD_some]
  obtain ⟨named, resolved, found⟩ :=
    (getElem?_of_resolveAllNames (nodup_modNames_inNameOrder distinct) resolving).1
      definition inOrder _ placedFor
  refine ⟨?_, ?_⟩
  · rw [← Std.TreeMap.isSome_getElem?_iff_mem, found, Option.isSome_some]
  · rw [resolved, AllocationResult.mappingOf, Std.TreeMap.getD_eq_getD_getElem?, found,
      Option.getD_some]

/-- What an allocation reports is what was noted while ids were placed and, after that, what mods
share of the base game. -/
theorem reported_of_allocate {ranges : RangeTable} {definitions : List ModDefinition}
    {result : AllocationResult} {placed : Allocation}
    (allocated : allocate ranges definitions = .ok result)
    (placing : allocateAll ranges (inNameOrder definitions) = .ok placed) :
    result.conflicts =
      placed.collisions.map Collision.toConflict ++
        sharedEditConflicts (inNameOrder definitions) ∧
    result.warnings =
      placed.warnings ++ (sharedEditConflicts (inNameOrder definitions)).map
        fun conflict => .sharedEdit conflict.type conflict.ids conflict.mods := by
  obtain ⟨_, mappings, isPlaced, -, -, rfl⟩ := allocate_eq_ok_iff.1 allocated
  obtain rfl := Except.ok.inj (placing.symm.trans isPlaced)
  exact ⟨rfl, rfl⟩

/-- Placing ids and resolving names agree on the final ids of a mod. -/
theorem agreesOn_of_resolveNames {mapping after : ModMapping} {definition : ModDefinition}
    (resolved : mapping.resolveNames definition = .ok after) (type : EntityType) :
    mapping.AgreesOn type after := by
  have same := ModMapping.sameBesidesNames_of_resolveNames resolved
  refine ⟨?_, fun id => ?_, fun id => ?_⟩
  · rw [ModMapping.implicitIds, ModMapping.implicitIds, same.implicit]
  · rw [ModMapping.newId, ModMapping.newId, same.remapped]
  · rw [ModMapping.isRemapped, ModMapping.isRemapped, same.remapped]

namespace Allocation

/-- The ids settled on for a mod are the new ids of those that it numbered. -/
theorem flatMap_settledIds_perm (allocation : Allocation) (ranges : RangeTable)
    (definition : ModDefinition) (type : EntityType) :
    ((definition.explicitSteps ranges).flatMap (allocation.settledIds type)).Perm
      ((definition.definedIds type).map
        ((allocation.mappingOf definition.modName).newId type)) := by
  have otherTypes : ∀ step : ExplicitStep, step.type ≠ type →
      allocation.settledIds type step = [] := fun _ different => if_neg different
  rw [definition.flatMap_explicitSteps ranges otherTypes]
  have settled : (definition.stepsOfType ranges type).flatMap (allocation.settledIds type) =
      ((definition.stepsOfType ranges type).flatMap (·.ids)).map
        ((allocation.mappingOf definition.modName).newId type) := by
    rw [List.map_flatMap]
    apply List.flatMap_congr
    intro step member
    rw [settledIds, if_pos (ModDefinition.type_of_mem_stepsOfType member),
      ModDefinition.modName_of_mem_stepsOfType member]
  rw [settled, ModDefinition.flatMap_ids_stepsOfType]
  exact (definition.inside_append_outside_perm ranges type).map _

/-- The final ids of all mods are the ids that were kept and those that were handed out. -/
theorem Progress.final_perm {allocation : Allocation} {ranges : RangeTable}
    {ordered : List ModDefinition} {type : EntityType} {fresh : List Int}
    (progress : allocation.Progress ranges (ordered.map (·.modName)) type
      (ordered.flatMap (·.explicitSteps ranges)) [] fresh) :
    (ordered.flatMap fun definition =>
      (definition.definedIds type).map
          ((allocation.mappingOf definition.modName).newId type) ++
        (allocation.mappingOf definition.modName).implicitIds type).Perm
    (keptIds type (ordered.flatMap (·.explicitSteps ranges)) ++ fresh) := by
  have settled := progress.settled
  rw [List.flatMap_map, List.flatMap_assoc] at settled
  refine (List.flatMap_append_perm ..).symm.trans (List.perm_append_comm.trans ?_)
  refine List.Perm.trans ?_ settled
  refine List.Perm.append_left _ (List.Perm.flatMap_left _ fun definition _ => ?_)
  exact (allocation.flatMap_settledIds_perm ranges definition type).symm

end Allocation

/-- The final ids of all mods are those that the passes have settled on. -/
theorem exists_settled_of_allocate {ranges : RangeTable} {definitions : List ModDefinition}
    {result : AllocationResult} (distinct : (definitions.map (·.modName)).Nodup)
    (allocated : allocate ranges definitions = .ok result) (type : EntityType) :
    ∃ settled : List Int, settled.Nodup ∧
      (∀ id ∈ settled, (ranges.get type).isModding id = true) ∧
      (definitions.flatMap fun definition => result.finalIds definition type).Perm settled := by
  obtain ⟨placed, placing, resolved⟩ := exists_placed_of_allocate distinct allocated
  obtain ⟨progress, -⟩ :=
    Allocation.progress_allocateAll (nodup_modNames_inNameOrder distinct) placing
  obtain ⟨fresh, progress⟩ := progress type
  refine ⟨keptIds type ((inNameOrder definitions).flatMap (·.explicitSteps ranges)) ++ fresh,
    progress.accounts.nodup, fun id settled => ?_, ?_⟩
  · apply progress.accounts.isModding
    rcases List.mem_append.1 settled with isKept | isFresh
    · exact .inl isKept
    · exact .inr (.inl isFresh)
  · refine List.Perm.trans ?_ progress.final_perm
    refine (List.Perm.flatMap_left _ fun definition member => ?_).trans
      ((inNameOrder_perm definitions).symm.flatMap_right _)
    have agrees := agreesOn_of_resolveNames (resolved definition member).2 type
    rw [AllocationResult.finalIds, funext agrees.newId, agrees.implicitIds]

/-- Mods own the final ids. -/
theorem isModding_of_mem_finalIds {ranges : RangeTable} {definitions : List ModDefinition}
    {result : AllocationResult} (distinct : (definitions.map (·.modName)).Nodup)
    (allocated : allocate ranges definitions = .ok result) {definition : ModDefinition}
    (member : definition ∈ definitions) {type : EntityType} {id : Int}
    (isFinal : id ∈ result.finalIds definition type) : (ranges.get type).isModding id = true := by
  obtain ⟨settled, -, modding, perm⟩ := exists_settled_of_allocate distinct allocated type
  exact modding id (perm.mem_iff.1 (List.mem_flatMap.2 ⟨definition, member, isFinal⟩))

/-- No two pieces of content end up with the same id, and mods own all the ids. -/
theorem nodup_finalIds {ranges : RangeTable} {definitions : List ModDefinition}
    {result : AllocationResult} (distinct : (definitions.map (·.modName)).Nodup)
    (allocated : allocate ranges definitions = .ok result) :
    (∀ definition ∈ definitions, definition.modName ∈ result.mappings) ∧
    ∀ type, (definitions.flatMap fun definition => result.finalIds definition type).Nodup ∧
      ∀ definition ∈ definitions, ∀ id ∈ result.finalIds definition type,
        (ranges.get type).isModding id = true := by
  obtain ⟨placed, -, resolved⟩ := exists_placed_of_allocate distinct allocated
  refine ⟨fun definition member => (resolved definition member).1, fun type => ⟨?_, ?_⟩⟩
  · obtain ⟨settled, nodup, -, perm⟩ := exists_settled_of_allocate distinct allocated type
    exact perm.nodup_iff.2 nodup
  · exact fun definition member id isFinal =>
      isModding_of_mem_finalIds distinct allocated member isFinal

/-- Two mods that number a monster alike; the second has one more without an id. -/
def overlappingMods : List ModDefinition :=
  [((({ modName := "Abysia" } : ModDefinition).recordDefined .monster 5000).recordDefined
      .monster 5001),
    ((({ modName := "Caelum" } : ModDefinition).recordDefined .monster 5001).recordImplicit
      .monster)]

/-- Mods that are listed in the order of their names are treated in the order of the list. -/
theorem inNameOrder_of_pairwise {definitions : List ModDefinition}
    (ordered : definitions.Pairwise fun first second => first.modName ≤ second.modName) :
    inNameOrder definitions = definitions :=
  List.mergeSort_of_pairwise (ordered.imp decide_eq_true)

theorem exists_allocate_overlappingMods :
    ∃ result, allocate defaultRanges overlappingMods = .ok result := by
  refine exists_eq_ok_of_isOk ?_
  rw [allocate, inNameOrder_of_pairwise (by decide +kernel)]
  decide +kernel

theorem nodup_finalIds_overlappingMods :
    ∃ result, allocate defaultRanges overlappingMods = .ok result ∧
      (overlappingMods.flatMap fun definition => result.finalIds definition .monster).Nodup := by
  obtain ⟨result, allocated⟩ := exists_allocate_overlappingMods
  have distinct : (overlappingMods.map (·.modName)).Nodup := by decide
  exact ⟨result, allocated, ((nodup_finalIds distinct allocated).2 .monster).1⟩

end ModMerge
