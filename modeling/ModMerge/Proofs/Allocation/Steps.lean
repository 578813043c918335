import Mathlib.Data.List.Nodup
import ModMerge.Allocation.Basic

/-!
# The steps of an allocation

The steps of a mod list each id that the mod defines once: ids within the range of their
type in runs, and the ids outside of it together. `SoundSteps` collects what the pass over
numbered ids needs to know about the steps of several mods.
-/

namespace ModMerge

/-- Of the parts that types contribute, only one matters if the others are empty. -/
theorem flatMap_of_only {Value : Type} {types : List EntityType} (nodup : types.Nodup)
    {part : EntityType → List Value} {type : EntityType}
    (others : ∀ other, other ≠ type → part other = []) :
    types.flatMap part = if type ∈ types then part type else [] := by
  induction types with
  | nil => rfl
  | cons first rest inductionHypothesis =>
      rw [List.nodup_cons] at nodup
      rw [List.flatMap_cons, inductionHypothesis nodup.2]
      by_cases same : first = type
      · subst same
        simp [nodup.1]
      · simp [others first same, Ne.symm same]

/-- Of the values that belong to types, those of one type are the part of this type. -/
theorem filter_flatMap_of_type {Value : Type} {types : List EntityType} (nodup : types.Nodup)
    {typeOf : Value → EntityType} {part : EntityType → List Value}
    (own : ∀ type, ∀ value ∈ part type, typeOf value = type) (type : EntityType) :
    (types.flatMap part).filter (typeOf · = type) = if type ∈ types then part type else [] := by
  have others : ∀ other, other ≠ type → (part other).filter (typeOf · = type) = [] := by
    intro other different
    simp only [List.filter_eq_nil_iff, decide_eq_true_eq]
    exact fun value member same => different ((own other value member).symm.trans same)
  have here : (part type).filter (typeOf · = type) = part type := by
    simpa only [List.filter_eq_self, decide_eq_true_eq] using own type
  rw [List.filter_flatMap, flatMap_of_only nodup others, here]

namespace ExplicitStep

/-- The mod that numbered the ids. -/
def modName : ExplicitStep → String
  | run modName .. | outOfRange modName .. => modName

def type : ExplicitStep → EntityType
  | run _ type _ | outOfRange _ type _ => type

def ids : ExplicitStep → List Int
  | run _ _ ids | outOfRange _ _ ids => ids

/-- The ids of a type that are reserved until the step has been taken. -/
def waitingIds (type : EntityType) : ExplicitStep → List Int
  | run _ other ids => if other = type then ids else []
  | outOfRange .. => []

end ExplicitStep

theorem waitingIds_of_type_ne {type : EntityType} {step : ExplicitStep}
    (different : step.type ≠ type) : step.waitingIds type = [] := by
  cases step with
  | run modName other ids => exact if_neg different
  | outOfRange modName other ids => rfl

/-- What is required of the steps of a pass: they belong to known mods, the ids of each are
listed once and lie on its side of the range, and no mod has an id of a type in two steps. -/
structure SoundSteps (ranges : RangeTable) (modNames : List String) (steps : List ExplicitStep) :
    Prop where
  known : ∀ step ∈ steps, step.modName ∈ modNames
  nodup : ∀ step ∈ steps, step.ids.Nodup
  inside : ∀ modName type ids, .run modName type ids ∈ steps →
    ∀ id ∈ ids, (ranges.get type).isModding id = true
  outside : ∀ modName type ids, .outOfRange modName type ids ∈ steps →
    ∀ id ∈ ids, (ranges.get type).isModding id = false
  apart : steps.Pairwise fun first second =>
    first.modName = second.modName → first.type = second.type → first.ids.Disjoint second.ids

/-- A mod has no id in common with its own earlier steps. -/
theorem SoundSteps.disjoint_earlier {ranges : RangeTable} {modNames : List String}
    {done rest : List ExplicitStep} {step : ExplicitStep}
    (sound : SoundSteps ranges modNames (done ++ step :: rest)) :
    ∀ earlier ∈ done, earlier.modName = step.modName → earlier.type = step.type →
      earlier.ids.Disjoint step.ids := by
  obtain ⟨-, -, across⟩ := List.pairwise_append.1 sound.apart
  exact fun earlier member => across earlier member step List.mem_cons_self

namespace ModDefinition

/-- The ids of a type that a mod defines, in ascending order. -/
def definedIds (definition : ModDefinition) (type : EntityType) : List Int :=
  (definition.entity type).definedIds

/-- The defined ids of a type within its range. -/
def insideIds (definition : ModDefinition) (ranges : RangeTable) (type : EntityType) :
    List Int :=
  (definition.definedIds type).filter (ranges.get type).isModding

/-- The defined ids of a type outside its range. -/
def outsideIds (definition : ModDefinition) (ranges : RangeTable) (type : EntityType) :
    List Int :=
  (definition.definedIds type).filter fun id => !(ranges.get type).isModding id

theorem pairwise_definedIds (definition : ModDefinition) (type : EntityType) :
    (definition.definedIds type).Pairwise (· < ·) :=
  IdSet.ids_pairwise_lt _

theorem nodup_definedIds (definition : ModDefinition) (type : EntityType) :
    (definition.definedIds type).Nodup :=
  (definition.pairwise_definedIds type).imp Int.ne_of_lt

theorem isModding_of_mem_insideIds {definition : ModDefinition} {ranges : RangeTable}
    {type : EntityType} {id : Int} (member : id ∈ definition.insideIds ranges type) :
    (ranges.get type).isModding id = true :=
  (List.mem_filter.1 member).2

theorem not_isModding_of_mem_outsideIds {definition : ModDefinition} {ranges : RangeTable}
    {type : EntityType} {id : Int} (member : id ∈ definition.outsideIds ranges type) :
    (ranges.get type).isModding id = false := by
  simpa using (List.mem_filter.1 member).2

theorem inside_append_outside_perm (definition : ModDefinition) (ranges : RangeTable)
    (type : EntityType) :
    (definition.insideIds ranges type ++ definition.outsideIds ranges type).Perm
      (definition.definedIds type) :=
  List.filter_append_perm ..

theorem nodup_entityTypes (definition : ModDefinition) : definition.entityTypes.Nodup :=
  EntityType.nodup_all.filter _

/-- A type that is not listed has no content. -/
theorem isEmpty_of_not_mem_entityTypes {definition : ModDefinition} {type : EntityType}
    (notListed : type ∉ definition.entityTypes) : (definition.entity type).isEmpty = true := by
  simpa [entityTypes, EntityType.mem_all] using notListed

theorem definedIds_of_isEmpty {definition : ModDefinition} {type : EntityType}
    (empty : (definition.entity type).isEmpty = true) : definition.definedIds type = [] := by
  simp only [EntityDefinition.isEmpty, Bool.and_eq_true] at empty
  exact List.isEmpty_iff.1 (Std.TreeSet.isEmpty_toList.trans empty.1.1)

/-! ### Numbered ids -/

/-- The steps of a mod that are about one type. -/
def stepsOfType (definition : ModDefinition) (ranges : RangeTable) (type : EntityType) :
    List ExplicitStep :=
  (splitRuns (definition.insideIds ranges type)).map (.run definition.modName type) ++
    if (definition.outsideIds ranges type).isEmpty then []
    else [.outOfRange definition.modName type (definition.outsideIds ranges type)]

theorem explicitSteps_eq (definition : ModDefinition) (ranges : RangeTable) :
    definition.explicitSteps ranges =
      definition.entityTypes.flatMap (definition.stepsOfType ranges) := by
  simp only [explicitSteps, List.partition_eq_filter_filter]
  rfl

theorem mem_stepsOfType {definition : ModDefinition} {ranges : RangeTable} {type : EntityType}
    {step : ExplicitStep} (member : step ∈ definition.stepsOfType ranges type) :
    (∃ ids ∈ splitRuns (definition.insideIds ranges type),
      step = .run definition.modName type ids) ∨
    step = .outOfRange definition.modName type (definition.outsideIds ranges type) := by
  rcases List.mem_append.1 member with inRuns | isOutside
  · obtain ⟨ids, isRun, rfl⟩ := List.mem_map.1 inRuns
    exact .inl ⟨ids, isRun, rfl⟩
  · split at isOutside
    · cases isOutside
    · exact .inr (List.mem_singleton.1 isOutside)

/-- The steps of one type list the ids of the type, those within the range first. -/
theorem flatMap_ids_stepsOfType (definition : ModDefinition) (ranges : RangeTable)
    (type : EntityType) : (definition.stepsOfType ranges type).flatMap (·.ids) =
      definition.insideIds ranges type ++ definition.outsideIds ranges type := by
  have runs : ((splitRuns (definition.insideIds ranges type)).map
      (ExplicitStep.run definition.modName type)).flatMap (·.ids) =
      definition.insideIds ranges type := by
    rw [List.flatMap_map]
    exact List.flatMap_id'.trans (flatten_splitRuns _)
  rw [stepsOfType, List.flatMap_append, runs]
  split
  · next empty => rw [List.isEmpty_iff.1 empty, List.flatMap_nil]
  · rw [List.flatMap_singleton, ExplicitStep.ids]

theorem modName_of_mem_stepsOfType {definition : ModDefinition} {ranges : RangeTable}
    {type : EntityType} {step : ExplicitStep}
    (member : step ∈ definition.stepsOfType ranges type) : step.modName = definition.modName := by
  obtain ⟨ids, -, rfl⟩ | rfl := mem_stepsOfType member <;> rfl

theorem type_of_mem_stepsOfType {definition : ModDefinition} {ranges : RangeTable}
    {type : EntityType} {step : ExplicitStep}
    (member : step ∈ definition.stepsOfType ranges type) : step.type = type := by
  obtain ⟨ids, -, rfl⟩ | rfl := mem_stepsOfType member <;> rfl

theorem stepsOfType_of_isEmpty {definition : ModDefinition} {type : EntityType}
    (ranges : RangeTable) (empty : (definition.entity type).isEmpty = true) :
    definition.stepsOfType ranges type = [] := by
  have nothing := definedIds_of_isEmpty empty
  simp [stepsOfType, insideIds, outsideIds, nothing, splitRuns]

theorem mem_explicitSteps_iff {definition : ModDefinition} {ranges : RangeTable}
    {step : ExplicitStep} : step ∈ definition.explicitSteps ranges ↔
      step ∈ definition.stepsOfType ranges step.type := by
  rw [explicitSteps_eq, List.mem_flatMap]
  constructor
  · rintro ⟨type, -, member⟩
    rw [type_of_mem_stepsOfType member]
    exact member
  · intro member
    refine ⟨step.type, ?_, member⟩
    by_contra notListed
    rw [stepsOfType_of_isEmpty ranges (isEmpty_of_not_mem_entityTypes notListed)] at member
    cases member

/-- The runs of a type are those of the ids within its range. -/
theorem run_mem_explicitSteps_iff {definition : ModDefinition} {ranges : RangeTable}
    {modName : String} {type : EntityType} {ids : List Int} :
    .run modName type ids ∈ definition.explicitSteps ranges ↔
      modName = definition.modName ∧ ids ∈ splitRuns (definition.insideIds ranges type) := by
  rw [mem_explicitSteps_iff]
  constructor
  · intro member
    obtain ⟨run, isRun, same⟩ | same := mem_stepsOfType member
    · obtain ⟨sameName, -, rfl⟩ := ExplicitStep.run.inj same
      exact ⟨sameName, isRun⟩
    · cases same
  · rintro ⟨rfl, isRun⟩
    exact List.mem_append_left _ (List.mem_map_of_mem isRun)

theorem outOfRange_mem_explicitSteps {definition : ModDefinition} {ranges : RangeTable}
    {type : EntityType} {id : Int} (outside : id ∈ definition.outsideIds ranges type) :
    .outOfRange definition.modName type (definition.outsideIds ranges type) ∈
      definition.explicitSteps ranges := by
  rw [mem_explicitSteps_iff]
  refine List.mem_append_right _ ?_
  rw [if_neg fun empty => ?_]
  · exact List.mem_singleton.2 rfl
  · have nothing : definition.outsideIds ranges type = [] := List.isEmpty_iff.1 empty
    rw [nothing] at outside
    cases outside

/-- What steps contribute to one type comes from the steps about it. -/
theorem flatMap_explicitSteps (definition : ModDefinition) (ranges : RangeTable)
    {type : EntityType} {Value : Type} {part : ExplicitStep → List Value}
    (others : ∀ step, step.type ≠ type → part step = []) :
    (definition.explicitSteps ranges).flatMap part =
      (definition.stepsOfType ranges type).flatMap part := by
  have otherTypes : ∀ other, other ≠ type →
      (definition.stepsOfType ranges other).flatMap part = [] := by
    intro other different
    rw [List.flatMap_eq_nil_iff]
    intro step member
    apply others
    rw [type_of_mem_stepsOfType member]
    exact different
  rw [explicitSteps_eq, List.flatMap_assoc,
    flatMap_of_only definition.nodup_entityTypes otherTypes]
  split
  · rfl
  · next notListed =>
      rw [stepsOfType_of_isEmpty ranges (isEmpty_of_not_mem_entityTypes notListed),
        List.flatMap_nil]

/-- The ids of a mod that wait to be placed are those within the range. -/
theorem flatMap_waitingIds (definition : ModDefinition) (ranges : RangeTable)
    (type : EntityType) : (definition.explicitSteps ranges).flatMap (·.waitingIds type) =
      definition.insideIds ranges type := by
  rw [definition.flatMap_explicitSteps ranges fun step => waitingIds_of_type_ne,
    stepsOfType, List.flatMap_append, List.flatMap_map]
  have noneOutside : (if (definition.outsideIds ranges type).isEmpty then []
      else [ExplicitStep.outOfRange definition.modName type
        (definition.outsideIds ranges type)]).flatMap (·.waitingIds type) = [] := by
    split <;> rfl
  simp only [noneOutside, List.append_nil, ExplicitStep.waitingIds, ↓reduceIte]
  exact List.flatMap_id'.trans (flatten_splitRuns _)

/-- A step lists ids of its type that the mod defines, each once. -/
theorem nodup_flatMap_ids_stepsOfType (definition : ModDefinition) (ranges : RangeTable)
    (type : EntityType) : ((definition.stepsOfType ranges type).flatMap (·.ids)).Nodup := by
  rw [flatMap_ids_stepsOfType]
  exact (definition.inside_append_outside_perm ranges type).nodup_iff.2
    (definition.nodup_definedIds type)

/-- No id of a type is in two steps of a mod. -/
theorem apart_explicitSteps (definition : ModDefinition) (ranges : RangeTable) :
    (definition.explicitSteps ranges).Pairwise fun first second =>
      first.type = second.type → first.ids.Disjoint second.ids := by
  rw [explicitSteps_eq]
  refine List.pairwise_flatMap.2 ⟨?_, ?_⟩
  · intro type _
    have nodup := definition.nodup_flatMap_ids_stepsOfType ranges type
    refine (List.nodup_flatMap.1 nodup).2.imp ?_
    exact fun disjoint _ => disjoint
  · refine definition.nodup_entityTypes.imp ?_
    intro type other different first inFirst second inSecond sameType
    rw [type_of_mem_stepsOfType inFirst, type_of_mem_stepsOfType inSecond] at sameType
    exact absurd sameType different

end ModDefinition

/-- The steps of mods with different names are sound. -/
theorem soundSteps_explicitSteps (ranges : RangeTable) {definitions : List ModDefinition}
    (distinct : (definitions.map (·.modName)).Nodup) :
    SoundSteps ranges (definitions.map (·.modName))
      (definitions.flatMap (·.explicitSteps ranges)) := by
  have origin : ∀ step ∈ definitions.flatMap (·.explicitSteps ranges),
      ∃ definition ∈ definitions, step ∈ definition.stepsOfType ranges step.type := by
    intro step member
    obtain ⟨definition, known, member⟩ := List.mem_flatMap.1 member
    exact ⟨definition, known, ModDefinition.mem_explicitSteps_iff.1 member⟩
  constructor
  case known =>
    intro step member
    obtain ⟨definition, known, member⟩ := origin step member
    rw [ModDefinition.modName_of_mem_stepsOfType member]
    exact List.mem_map_of_mem known
  case nodup =>
    intro step member
    obtain ⟨definition, -, member⟩ := origin step member
    have nodup := definition.nodup_flatMap_ids_stepsOfType ranges step.type
    exact (List.nodup_flatMap.1 nodup).1 step member
  case inside =>
    intro modName type ids member id inIds
    obtain ⟨definition, -, member⟩ := origin _ member
    obtain ⟨run, isRun, same⟩ | same := ModDefinition.mem_stepsOfType member
    · obtain ⟨-, -, rfl⟩ := ExplicitStep.run.inj same
      have inside : id ∈ definition.insideIds ranges type := by
        rw [← flatten_splitRuns (definition.insideIds ranges type)]
        exact List.mem_flatten_of_mem isRun inIds
      exact ModDefinition.isModding_of_mem_insideIds inside
    · cases same
  case outside =>
    intro modName type ids member id inIds
    obtain ⟨definition, -, member⟩ := origin _ member
    obtain ⟨run, -, same⟩ | same := ModDefinition.mem_stepsOfType member
    · cases same
    · obtain ⟨-, -, idsEq⟩ := ExplicitStep.outOfRange.inj same
      rw [idsEq] at inIds
      exact ModDefinition.not_isModding_of_mem_outsideIds inIds
  case apart =>
    refine List.pairwise_flatMap.2 ⟨?_, ?_⟩
    · intro definition _
      refine (definition.apart_explicitSteps ranges).imp ?_
      exact fun apart _ => apart
    · refine (List.pairwise_map.1 distinct).imp ?_
      intro definition other different first inFirst second inSecond sameName
      rw [ModDefinition.modName_of_mem_stepsOfType
          (ModDefinition.mem_explicitSteps_iff.1 inFirst),
        ModDefinition.modName_of_mem_stepsOfType
          (ModDefinition.mem_explicitSteps_iff.1 inSecond)] at sameName
      exact absurd sameName different

end ModMerge
