import ModMerge.Proofs.Allocation.MovedIds
import ModMerge.Proofs.Ids.WrittenRanges
import ModMerge.Proofs.Mod.MovedContent
import ModMerge.Proofs.Mod.Recording

/-!
# What an allocation assigns to a mod

Under the ranges of the game an allocation that succeeds gives each mod all that renumbering
asks for: base-game content stays, there is an id for every definition without one, and each
name stands for the content that it is bound to.
-/

namespace ModMerge

/-! ### Definitions without an id -/

theorem Allocation.implicitTotal_cons (modName : String) (type : EntityType)
    (step : ImplicitStep) (rest : List ImplicitStep) :
    implicitTotal modName type (step :: rest) =
      (if step.modName = modName ∧ step.type = type then step.count else 0) +
        implicitTotal modName type rest := by
  have shift : ∀ (steps : List ImplicitStep) (start : Nat), steps.foldl (fun total step =>
      if step.modName = modName ∧ step.type = type then total + step.count else total) start =
      start + implicitTotal modName type steps := by
    intro steps
    induction steps with
    | nil => exact fun start => rfl
    | cons first others inductionHypothesis =>
        intro start
        rw [implicitTotal, List.foldl_cons, List.foldl_cons, inductionHypothesis,
          inductionHypothesis]
        split <;> omega
  rw [implicitTotal, List.foldl_cons, shift]
  split <;> omega

theorem Allocation.implicitTotal_append (modName : String) (type : EntityType)
    (first second : List ImplicitStep) :
    implicitTotal modName type (first ++ second) =
      implicitTotal modName type first + implicitTotal modName type second := by
  induction first with
  | nil => exact (Nat.zero_add _).symm
  | cons step rest inductionHypothesis =>
      rw [List.cons_append, implicitTotal_cons, inductionHypothesis, implicitTotal_cons,
        Nat.add_assoc]

namespace ModDefinition

variable {definition : ModDefinition} {type : EntityType}

theorem nextImplicitIndex_of_isEmpty (empty : (definition.entity type).isEmpty = true) :
    definition.nextImplicitIndex type = 0 := by
  simp only [EntityDefinition.isEmpty, Bool.and_eq_true, beq_iff_eq] at empty
  exact empty.2

/-- A mod asks for as many ids as it has definitions without one. -/
theorem implicitTotal_implicitSteps (definition : ModDefinition) (type : EntityType) :
    Allocation.implicitTotal definition.modName type definition.implicitSteps =
      definition.nextImplicitIndex type := by
  have general : ∀ types : List EntityType, types.Nodup →
      Allocation.implicitTotal definition.modName type (types.filterMap fun type =>
        let count := (definition.entity type).implicitCount
        if count = 0 then none else some ⟨definition.modName, type, count⟩) =
      if type ∈ types then definition.nextImplicitIndex type else 0 := by
    intro types nodup
    induction types with
    | nil => rfl
    | cons first rest inductionHypothesis =>
        rw [List.nodup_cons] at nodup
        have remaining := inductionHypothesis nodup.2
        have sameCount : (definition.entity first).implicitCount =
            definition.nextImplicitIndex first := rfl
        rw [List.filterMap_cons]
        by_cases nothing : definition.nextImplicitIndex first = 0
        · simp only [sameCount, nothing, if_true, remaining, List.mem_cons]
          by_cases same : type = first
          · subst same
            simp [nodup.1, nothing]
          · simp [same]
        · simp only [sameCount, nothing, if_false, Allocation.implicitTotal_cons, remaining,
            List.mem_cons]
          by_cases same : type = first
          · subst same
            simp [nodup.1]
          · simp [same, Ne.symm same]
  rw [implicitSteps, general _ definition.nodup_entityTypes]
  split
  · rfl
  · next notListed =>
      exact (nextImplicitIndex_of_isEmpty (isEmpty_of_not_mem_entityTypes notListed)).symm

theorem modName_of_mem_implicitSteps {step : ImplicitStep}
    (member : step ∈ definition.implicitSteps) : step.modName = definition.modName := by
  obtain ⟨type, -, stepEq⟩ := List.mem_filterMap.1 member
  simp only [Option.ite_none_left_eq_some, Option.some.injEq] at stepEq
  rw [← stepEq.2]

/-- Of the mods of an allocation only one is the mod of its name. -/
theorem implicitTotal_of_mem {ordered : List ModDefinition}
    (distinct : (ordered.map (·.modName)).Nodup) (member : definition ∈ ordered)
    (type : EntityType) :
    Allocation.implicitTotal definition.modName type (ordered.flatMap (·.implicitSteps)) =
      definition.nextImplicitIndex type := by
  obtain ⟨front, back, rfl⟩ := List.append_of_mem member
  have others : ∀ steps : List ImplicitStep, (∀ step ∈ steps, step.modName ≠ definition.modName) →
      Allocation.implicitTotal definition.modName type steps = 0 := by
    intro steps different
    induction steps with
    | nil => rfl
    | cons step rest inductionHypothesis =>
        rw [Allocation.implicitTotal_cons, if_neg fun same =>
          different step List.mem_cons_self same.1, inductionHypothesis fun other member =>
          different other (List.mem_cons_of_mem step member)]
  have absent : ∀ definitions : List ModDefinition,
      definition.modName ∉ definitions.map (·.modName) →
      ∀ step ∈ definitions.flatMap (·.implicitSteps), step.modName ≠ definition.modName := by
    intro definitions absent step inSteps same
    obtain ⟨other, known, isStep⟩ := List.mem_flatMap.1 inSteps
    rw [modName_of_mem_implicitSteps isStep] at same
    exact absent (same ▸ List.mem_map_of_mem known)
  rw [List.map_append, List.map_cons, List.nodup_middle, List.nodup_cons, List.mem_append,
    not_or] at distinct
  rw [List.flatMap_append, List.flatMap_cons, Allocation.implicitTotal_append,
    Allocation.implicitTotal_append, others _ (absent front distinct.1.1),
    others _ (absent back distinct.1.2), implicitTotal_implicitSteps, Nat.zero_add, Nat.add_zero]

end ModDefinition

/-! ### What is assigned -/

/-- All that renumbering a mod asks of its mapping. -/
structure ModMapping.Provides (mapping : ModMapping) (definition : ModDefinition) : Prop where
  sound : mapping.Sound
  implicitIds : ∀ type,
    (mapping.implicitIds type).length = definition.nextImplicitIndex type
  names : ∀ type (key : String) binding, (definition.names.get type)[key]? = some binding →
    (mapping.names.get type)[key]? = mapping.resolveBinding? binding

section

variable {definitions : List ModDefinition} {definition : ModDefinition}
  {result : AllocationResult}

/-- Only ids that the mod defines move. -/
theorem mem_definedIds_of_newId_ne {ranges : RangeTable}
    (distinct : (definitions.map (·.modName)).Nodup)
    (allocated : allocate ranges definitions = .ok result) (member : definition ∈ definitions)
    {type : EntityType} {id : Int}
    (moves : (result.mappingOf definition.modName).newId type id ≠ id) :
    id ∈ definition.definedIds type := by
  obtain ⟨placed, placing, resolved⟩ := exists_placed_of_allocate distinct allocated
  have agrees := agreesOn_of_resolveNames (resolved definition member).2
  refine Allocation.mem_definedIds_of_isRemapped (nodup_modNames_inNameOrder distinct)
    (mem_inNameOrder.2 member) placing ?_
  rw [← (agrees type).isRemapped, ← Bool.not_eq_false]
  exact fun kept => moves (ModMapping.newId_of_not_isRemapped kept)

/-- Content moves to ids that mods own. -/
theorem isModding_newId_of_allocate {ranges : RangeTable}
    (distinct : (definitions.map (·.modName)).Nodup)
    (allocated : allocate ranges definitions = .ok result) (member : definition ∈ definitions)
    {type : EntityType} {id : Int}
    (moves : (result.mappingOf definition.modName).newId type id ≠ id) :
    (ranges.get type).isModding ((result.mappingOf definition.modName).newId type id) = true :=
  isModding_of_mem_finalIds distinct allocated member (List.mem_append_left _
    (List.mem_map_of_mem (mem_definedIds_of_newId_ne distinct allocated member moves)))

/-- Content without an id is given ids that mods own. -/
theorem isModding_implicitId_of_allocate {ranges : RangeTable}
    (distinct : (definitions.map (·.modName)).Nodup)
    (allocated : allocate ranges definitions = .ok result) (member : definition ∈ definitions)
    {type : EntityType} {index : Nat} {id : Int}
    (settled : (result.mappingOf definition.modName).implicitId? type index = some id) :
    (ranges.get type).isModding id = true :=
  isModding_of_mem_finalIds distinct allocated member (List.mem_append_right _
    (Array.mem_toList_iff.2 (Array.mem_of_getElem? settled)))

/-- Whatever the ranges are, an id that is assigned can be written, unless it is one that mods own
in a range with a bound that has too many digits itself. -/
theorem exists_long_range_of_assigns {ranges : RangeTable}
    (distinct : (definitions.map (·.modName)).Nodup)
    (allocated : allocate ranges definitions = .ok result) (member : definition ∈ definitions)
    {id : Int} (assigns : (result.mappingOf definition.modName).Assigns id)
    (long : ¬ Text.Short id) :
    ∃ type, (ranges.get type).isModding id = true ∧ ¬ (ranges.get type).Short := by
  have isLong : ∀ {type}, (ranges.get type).isModding id = true → ¬ (ranges.get type).Short :=
    fun modding short => long (short.of_isModding modding)
  obtain ⟨type, old, moves, rfl⟩ | ⟨type, index, settled⟩ := assigns
  · have modding := isModding_newId_of_allocate distinct allocated member moves
    exact ⟨type, modding, isLong modding⟩
  · have modding := isModding_implicitId_of_allocate distinct allocated member settled
    exact ⟨type, modding, isLong modding⟩

theorem sound_of_allocate (distinct : (definitions.map (·.modName)).Nodup)
    (allocated : allocate defaultRanges definitions = .ok result)
    (member : definition ∈ definitions) (noVanilla : definition.NoVanillaDefined) :
    (result.mappingOf definition.modName).Sound := by
  have isRange : ∀ type, defaultRanges.get type = defaultRange type :=
    EntityTable.get_ofFunction defaultRange
  refine ⟨fun type id vanilla => ?_, fun type id moves => ?_, fun type index id settled => ?_⟩
  · by_contra moves
    have isDefined := mem_definedIds_of_newId_ne distinct allocated member moves
    have notVanilla := noVanilla type id ((IdSet.mem_ids _ _).1 isDefined)
    rw [vanilla] at notVanilla
    cases notVanilla
  · rw [← isRange]
    exact isModding_newId_of_allocate distinct allocated member moves
  · rw [← isRange]
    exact isModding_implicitId_of_allocate distinct allocated member settled

/-- Whatever the ranges are, there is an id for every definition without one. -/
theorem length_implicitIds_of_allocate {ranges : RangeTable}
    (distinct : (definitions.map (·.modName)).Nodup)
    (allocated : allocate ranges definitions = .ok result) (member : definition ∈ definitions)
    (type : EntityType) :
    ((result.mappingOf definition.modName).implicitIds type).length =
      definition.nextImplicitIndex type := by
  obtain ⟨placed, placing, resolved⟩ := exists_placed_of_allocate distinct allocated
  have distinctOrdered := nodup_modNames_inNameOrder distinct
  obtain ⟨-, start, started, same⟩ := Allocation.progress_allocateAll distinctOrdered placing
  obtain ⟨_, progress⟩ :=
    Allocation.implicitProgress_allocateImplicit distinctOrdered started type
  have length := progress.length_implicitIds definition.modName
  rw [ModDefinition.implicitTotal_of_mem distinctOrdered (mem_inNameOrder.2 member)] at length
  have agrees := agreesOn_of_resolveNames (resolved definition member).2 type
  rw [agrees.implicitIds, ModMapping.implicitIds, (same definition.modName).implicit]
  exact length

/-- Whatever the ranges are, a name stands for what it is bound to, and for nothing if it is not
bound. -/
theorem names_of_allocate {ranges : RangeTable} (distinct : (definitions.map (·.modName)).Nodup)
    (allocated : allocate ranges definitions = .ok result) (member : definition ∈ definitions)
    (keyed : definition.NamesKeyed) (type : EntityType) (key : String) :
    ((result.mappingOf definition.modName).names.get type)[key]? =
      (definition.names.get type)[key]?.bind
        (result.mappingOf definition.modName).resolveBinding? := by
  obtain ⟨placed, placing, resolved⟩ := exists_placed_of_allocate distinct allocated
  have distinctOrdered := nodup_modNames_inNameOrder distinct
  obtain ⟨-, start, started, same⟩ := Allocation.progress_allocateAll distinctOrdered placing
  obtain ⟨_, startProgress⟩ :=
    Allocation.implicitProgress_allocateImplicit distinctOrdered started default
  obtain ⟨sameResolved, names⟩ :=
    ModMapping.names_of_resolveNames keyed (resolved definition member).2
  have noNames : (placed.mappingOf definition.modName).names = .uniform ∅ :=
    (same definition.modName).names.trans (startProgress.untouched _).2.1
  rw [names type key, noNames, EntityTable.get_uniform, Std.TreeMap.getElem?_emptyc,
    Option.or_none, funext fun binding => sameResolved.resolveBinding? binding]

/-- An allocation provides for each of its mods. -/
theorem provides_of_allocate (distinct : (definitions.map (·.modName)).Nodup)
    (allocated : allocate defaultRanges definitions = .ok result)
    (member : definition ∈ definitions) (noVanilla : definition.NoVanillaDefined)
    (keyed : definition.NamesKeyed) :
    (result.mappingOf definition.modName).Provides definition := by
  refine ⟨sound_of_allocate distinct allocated member noVanilla,
    length_implicitIds_of_allocate distinct allocated member, fun type key binding bound => ?_⟩
  rw [names_of_allocate distinct allocated member keyed, bound, Option.bind_some]

end

end ModMerge
