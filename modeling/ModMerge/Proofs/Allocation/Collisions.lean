import ModMerge.Proofs.Allocation.CollisionPass
import ModMerge.Proofs.Allocation.MovedIds

/-!
# Collisions are reported exactly

Two mods collide over the ids that the earlier one keeps and that the later one moves away
from. For each type an allocation reports one collision for each such pair of mods, with these
ids in ascending order, and no others.
-/

namespace ModMerge

namespace AllocationResult

/-- The ids of a type that both mods define within the range, that the owner keeps and that lie
in runs from which the claimant was moved; in ascending order. -/
def collidingIds (result : AllocationResult) (ranges : RangeTable) (type : EntityType)
    (owner claimant : ModDefinition) : List Int :=
  (claimant.insideIds ranges type).filter fun id =>
    (owner.definedIds type).contains id &&
      !(result.mappingOf owner.modName).isRemapped type id &&
      (result.mappingOf claimant.modName).isRemapped type id

theorem mem_collidingIds {result : AllocationResult} {ranges : RangeTable} {type : EntityType}
    {owner claimant : ModDefinition} {id : Int} :
    id ∈ result.collidingIds ranges type owner claimant ↔
      id ∈ owner.insideIds ranges type ∧ id ∈ claimant.insideIds ranges type ∧
      (result.mappingOf owner.modName).isRemapped type id = false ∧
      (result.mappingOf claimant.modName).isRemapped type id = true := by
  simp only [collidingIds, ModDefinition.insideIds, List.mem_filter, Bool.and_eq_true,
    List.contains_iff_mem, Bool.not_eq_true']
  tauto

theorem pairwise_collidingIds (result : AllocationResult) (ranges : RangeTable)
    (type : EntityType) (owner claimant : ModDefinition) :
    (result.collidingIds ranges type owner claimant).Pairwise (· < ·) :=
  ((claimant.pairwise_definedIds type).filter _).filter _

end AllocationResult

/-! ### Steps in the order of names -/

theorem modName_of_mem_explicitSteps {definition : ModDefinition} {ranges : RangeTable}
    {step : ExplicitStep} (member : step ∈ definition.explicitSteps ranges) :
    step.modName = definition.modName :=
  ModDefinition.modName_of_mem_stepsOfType (ModDefinition.mem_explicitSteps_iff.1 member)

/-- Mods take their steps in the order of their names. -/
theorem pairwise_modName_explicitSteps (ranges : RangeTable) {ordered : List ModDefinition}
    (sorted : ordered.Pairwise fun first second => first.modName ≤ second.modName) :
    (ordered.flatMap (·.explicitSteps ranges)).Pairwise fun first second =>
      first.modName ≤ second.modName := by
  refine List.pairwise_flatMap.2 ⟨fun definition _ => ?_, sorted.imp ?_⟩
  · refine List.pairwise_of_forall_mem_list fun first inFirst second inSecond => ?_
    rw [modName_of_mem_explicitSteps inFirst, modName_of_mem_explicitSteps inSecond]
  · intro definition other below first inFirst second inSecond
    rw [modName_of_mem_explicitSteps inFirst, modName_of_mem_explicitSteps inSecond]
    exact below

namespace Allocation

variable {ranges : RangeTable} {ordered : List ModDefinition} {placed : Allocation}
  {definition owner claimant : ModDefinition} {type : EntityType} {id : Int}

/-- An id within the range is placed in a run. -/
theorem exists_run_of_mem_insideIds (known : definition ∈ ordered)
    (inside : id ∈ definition.insideIds ranges type) :
    ∃ ids, id ∈ ids ∧
      .run definition.modName type ids ∈ ordered.flatMap (·.explicitSteps ranges) := by
  obtain ⟨ids, isRun, inIds⟩ := exists_mem_splitRuns inside
  exact ⟨ids, inIds, List.mem_flatMap.2
    ⟨definition, known, ModDefinition.run_mem_explicitSteps_iff.2 ⟨rfl, isRun⟩⟩⟩

theorem exists_definition_of_run_mem {modName : String} {ids : List Int}
    (isStep : .run modName type ids ∈ ordered.flatMap (·.explicitSteps ranges))
    (inIds : id ∈ ids) : ∃ definition ∈ ordered, definition.modName = modName ∧
      id ∈ definition.insideIds ranges type := by
  obtain ⟨definition, known, inSteps⟩ := List.mem_flatMap.1 isStep
  obtain ⟨rfl, isRun⟩ := ModDefinition.run_mem_explicitSteps_iff.1 inSteps
  exact ⟨definition, known, rfl, mem_of_mem_splitRuns isRun inIds⟩

/-- An id of a step is remapped exactly if the step moves its ids. -/
theorem isRemapped_iff_moves (distinct : (ordered.map (·.modName)).Nodup)
    (allocated : allocateAll ranges ordered = .ok placed) {earlier later : List ExplicitStep}
    {modName : String} {ids : List Int}
    (steps : ordered.flatMap (·.explicitSteps ranges) =
      earlier ++ .run modName type ids :: later) (inIds : id ∈ ids) :
    (placed.mappingOf modName).isRemapped type id = true ↔
      (ExplicitStep.run modName type ids).Moves earlier := by
  obtain ⟨_, progress⟩ := (progress_allocateAll distinct allocated).1 type
  exact progress.isRemapped_iff _ _ _ steps rfl id inIds

/-- A mod has to give way over an id that a mod of a smaller name keeps. -/
theorem collidesOver_of_kept (distinct : (ordered.map (·.modName)).Nodup)
    (sorted : ordered.Pairwise fun first second => first.modName ≤ second.modName)
    (allocated : allocateAll ranges ordered = .ok placed) (ownerKnown : owner ∈ ordered)
    (claimantKnown : claimant ∈ ordered) (before : owner.modName < claimant.modName)
    (ownerInside : id ∈ owner.insideIds ranges type)
    (claimantInside : id ∈ claimant.insideIds ranges type)
    (kept : (placed.mappingOf owner.modName).isRemapped type id = false) :
    (placed.mappingOf claimant.modName).isRemapped type id = true ∧
      CollidesOver type owner.modName claimant.modName id
        (ordered.flatMap (·.explicitSteps ranges)) := by
  obtain ⟨ownerIds, inOwnerIds, ownerStep⟩ := exists_run_of_mem_insideIds ownerKnown ownerInside
  obtain ⟨ids, inIds, isStep⟩ := exists_run_of_mem_insideIds claimantKnown claimantInside
  obtain ⟨earlier, later, steps⟩ := List.append_of_mem isStep
  have inOrder := pairwise_modName_explicitSteps ranges sorted
  rw [steps] at inOrder ownerStep
  -- The owner's step comes first, since steps are taken in the order of names.
  have isEarlier : .run owner.modName type ownerIds ∈ earlier := by
    rcases List.mem_append.1 ownerStep with isEarlier | notEarlier
    · exact isEarlier
    · rcases List.mem_cons.1 notEarlier with same | isLater
      · exact absurd (ExplicitStep.run.inj same).1 (ne_of_lt before)
      · have notBefore := (List.pairwise_cons.1 (List.pairwise_append.1 inOrder).2.1).1 _ isLater
        exact absurd before (not_lt.2 notBefore)
  obtain ⟨front, back, rfl⟩ := List.append_of_mem isEarlier
  have stays : ¬ (ExplicitStep.run owner.modName type ownerIds).Moves front := by
    rw [List.append_assoc, List.cons_append] at steps
    rw [← isRemapped_iff_moves distinct allocated steps inOwnerIds, kept]
    exact Bool.false_ne_true
  have keptBefore : KeptByMod owner.modName type id
      (front ++ .run owner.modName type ownerIds :: back) :=
    ⟨front, _, back, rfl, ownerIds, rfl, stays, inOwnerIds⟩
  have moves : (ExplicitStep.run claimant.modName type ids).Moves
      (front ++ .run owner.modName type ownerIds :: back) :=
    ⟨id, inIds, mem_keptIds_iff.2 ⟨_, keptBefore⟩⟩
  exact ⟨(isRemapped_iff_moves distinct allocated steps inIds).2 moves, _, _, later, steps, ids,
    rfl, moves, inIds, keptBefore⟩

/-- Two mods collide over an id exactly if the one with the smaller name keeps it and the other
one had to move away from it. -/
theorem collidesOver_iff (distinct : (ordered.map (·.modName)).Nodup)
    (sorted : ordered.Pairwise fun first second => first.modName ≤ second.modName)
    (allocated : allocateAll ranges ordered = .ok placed) {ownerName claimantName : String} :
    CollidesOver type ownerName claimantName id (ordered.flatMap (·.explicitSteps ranges)) ↔
      ∃ owner ∈ ordered, ∃ claimant ∈ ordered, owner.modName = ownerName ∧
        claimant.modName = claimantName ∧ ownerName < claimantName ∧
        id ∈ owner.insideIds ranges type ∧ id ∈ claimant.insideIds ranges type ∧
        (placed.mappingOf ownerName).isRemapped type id = false ∧
        (placed.mappingOf claimantName).isRemapped type id = true := by
  constructor
  · rintro ⟨_, _, later, steps, ids, rfl, moves, inIds, front, _, back, rfl, ownerIds, rfl, stays,
      inOwnerIds⟩
    have moved := (isRemapped_iff_moves distinct allocated steps inIds).2 moves
    have inOrder := pairwise_modName_explicitSteps ranges sorted
    have apart := (soundSteps_explicitSteps ranges distinct).apart
    rw [steps] at inOrder apart
    have isEarlier : .run ownerName type ownerIds ∈
        front ++ .run ownerName type ownerIds :: back := by simp
    have atMost := (List.pairwise_append.1 inOrder).2.2 _ isEarlier _ List.mem_cons_self
    have different : ownerName ≠ claimantName := fun same =>
      (List.pairwise_append.1 apart).2.2 _ isEarlier _ List.mem_cons_self same rfl inOwnerIds inIds
    obtain ⟨claimant, claimantKnown, claimantEq, claimantInside⟩ :=
      exists_definition_of_run_mem (steps ▸ List.mem_append_right _ List.mem_cons_self) inIds
    rw [List.append_assoc, List.cons_append] at steps
    obtain ⟨owner, ownerKnown, ownerEq, ownerInside⟩ :=
      exists_definition_of_run_mem (steps ▸ List.mem_append_right _ List.mem_cons_self) inOwnerIds
    refine ⟨owner, ownerKnown, claimant, claimantKnown, ownerEq, claimantEq,
      lt_of_le_of_ne atMost different, ownerInside, claimantInside, ?_, moved⟩
    rw [← Bool.not_eq_true, isRemapped_iff_moves distinct allocated steps inOwnerIds]
    exact stays
  · rintro ⟨owner, ownerKnown, claimant, claimantKnown, rfl, rfl, before, ownerInside,
      claimantInside, kept, -⟩
    exact (collidesOver_of_kept distinct sorted allocated ownerKnown claimantKnown before
      ownerInside claimantInside kept).2

end Allocation

/-! ### The report -/

section

variable {ranges : RangeTable} {definitions : List ModDefinition} {result : AllocationResult}

theorem collisions_of_allocate {placed : Allocation}
    (allocated : allocate ranges definitions = .ok result)
    (placing : allocateAll ranges (inNameOrder definitions) = .ok placed) :
    result.collisions = placed.collisions.map Collision.toConflict := by
  have noCollision :
      (sharedEditConflicts (inNameOrder definitions)).filter (!·.isWarning) = [] := by
    refine List.filter_eq_nil_iff.2 fun conflict member => ?_
    obtain ⟨type, -, inType⟩ := List.mem_flatMap.1 member
    obtain ⟨⟨mods, ids⟩, -, rfl⟩ := List.mem_map.1 inType
    simp [ModConflict.isWarning]
  rw [AllocationResult.collisions, (reported_of_allocate allocated placing).1, List.filter_append,
    noCollision, List.append_nil, List.filter_eq_self]
  intro conflict member
  obtain ⟨collision, -, rfl⟩ := List.mem_map.1 member
  rfl

/-- What has been noted for two mods are the ids that they collide over. -/
theorem noted_iff_mem_collidingIds (distinct : (definitions.map (·.modName)).Nodup)
    (allocated : allocate ranges definitions = .ok result) {placed : Allocation}
    (placing : allocateAll ranges (inNameOrder definitions) = .ok placed)
    {owner claimant : ModDefinition} (ownerKnown : owner ∈ definitions)
    (claimantKnown : claimant ∈ definitions) (before : owner.modName < claimant.modName)
    (type : EntityType) (id : Int) :
    Noted placed.collisions (type, owner.modName, claimant.modName) id ↔
      id ∈ result.collidingIds ranges type owner claimant := by
  obtain ⟨again, placingAgain, resolved⟩ := exists_placed_of_allocate distinct allocated
  obtain rfl := Except.ok.inj (placing.symm.trans placingAgain)
  have distinctOrdered := nodup_modNames_inNameOrder distinct
  have collisions := Allocation.collisionProgress_allocateAll distinctOrdered placing
  have isRemapped : ∀ definition ∈ definitions,
      (placed.mappingOf definition.modName).isRemapped type id =
        (result.mappingOf definition.modName).isRemapped type id := fun definition member =>
    ((agreesOn_of_resolveNames (resolved definition member).2 type).isRemapped id).symm
  rw [collisions.noted_iff, Allocation.collidesOver_iff distinctOrdered
    (pairwise_inNameOrder definitions) placing, AllocationResult.mem_collidingIds]
  constructor
  · rintro ⟨owner', ownerKnown', claimant', claimantKnown', ownerEq, claimantEq, -, inOwner,
      inClaimant, kept, moved⟩
    obtain rfl := List.inj_on_of_nodup_map distinct (mem_inNameOrder.1 ownerKnown') ownerKnown
      ownerEq
    obtain rfl := List.inj_on_of_nodup_map distinct (mem_inNameOrder.1 claimantKnown')
      claimantKnown claimantEq
    rw [isRemapped _ ownerKnown] at kept
    rw [isRemapped _ claimantKnown] at moved
    exact ⟨inOwner, inClaimant, kept, moved⟩
  · rintro ⟨inOwner, inClaimant, kept, moved⟩
    rw [← isRemapped _ ownerKnown] at kept
    rw [← isRemapped _ claimantKnown] at moved
    exact ⟨owner, mem_inNameOrder.2 ownerKnown, claimant, mem_inNameOrder.2 claimantKnown, rfl,
      rfl, before, inOwner, inClaimant, kept, moved⟩

/-- The collisions that an allocation reports: one for each type and each two mods that collide
over ids of the type. -/
theorem mem_collisions_iff (distinct : (definitions.map (·.modName)).Nodup)
    (allocated : allocate ranges definitions = .ok result) :
    result.collisions.Nodup ∧ ∀ conflict, conflict ∈ result.collisions ↔
      ∃ type, ∃ owner ∈ definitions, ∃ claimant ∈ definitions,
        owner.modName < claimant.modName ∧
        result.collidingIds ranges type owner claimant ≠ [] ∧
        conflict = .collision type (result.collidingIds ranges type owner claimant)
          owner.modName claimant.modName := by
  obtain ⟨placed, placing, -⟩ := exists_placed_of_allocate distinct allocated
  have distinctOrdered := nodup_modNames_inNameOrder distinct
  have collisions := Allocation.collisionProgress_allocateAll distinctOrdered placing
  -- The ids of a collision are those that were noted for its parties, in ascending order.
  have idsEq : ∀ collision ∈ placed.collisions, ∀ type, ∀ owner ∈ definitions,
      ∀ claimant ∈ definitions, owner.modName < claimant.modName →
      collision.parties = (type, owner.modName, claimant.modName) →
      collision.ids.mergeSort = result.collidingIds ranges type owner claimant := by
    intro collision member type owner ownerKnown claimant claimantKnown before parties
    have distinctIds := collisions.grouped.nodup collision member
    refine (pairwise_lt_mergeSort distinctIds).sortedLT.eq_of_mem_iff
      (result.pairwise_collidingIds ranges type owner claimant).sortedLT fun id => ?_
    rw [List.mem_mergeSort, collisions.grouped.mem_ids_iff member, parties,
      noted_iff_mem_collidingIds distinct allocated placing ownerKnown claimantKnown before]
  rw [collisions_of_allocate allocated placing]
  refine ⟨?_, fun conflict => ?_⟩
  · refine List.Nodup.map_on (fun first inFirst second inSecond same => ?_)
      (List.Nodup.of_map _ collisions.grouped.parties)
    obtain ⟨sameType, -, sameOwner, sameClaimant⟩ := ModConflict.collision.inj same
    refine List.inj_on_of_nodup_map collisions.grouped.parties inFirst inSecond ?_
    rw [Collision.parties, sameType, sameOwner, sameClaimant, Collision.parties]
  · rw [List.mem_map]
    constructor
    · rintro ⟨collision, member, rfl⟩
      obtain ⟨id, inIds⟩ :=
        List.exists_mem_of_ne_nil _ (collisions.grouped.notEmpty collision member)
      have isNoted := (collisions.grouped.mem_ids_iff member).1 inIds
      obtain ⟨owner, ownerKnown, claimant, claimantKnown, ownerEq, claimantEq, before, -⟩ :=
        (Allocation.collidesOver_iff distinctOrdered (pairwise_inNameOrder definitions)
          placing).1 ((collisions.noted_iff _ _ _ _).1 isNoted)
      have ownerKnown := mem_inNameOrder.1 ownerKnown
      have claimantKnown := mem_inNameOrder.1 claimantKnown
      rw [← ownerEq, ← claimantEq] at before
      have ids := idsEq collision member collision.type owner ownerKnown claimant claimantKnown
        before (by rw [Collision.parties, ownerEq, claimantEq])
      refine ⟨collision.type, owner, ownerKnown, claimant, claimantKnown, before, ?_, ?_⟩
      · rw [← ids]
        exact List.ne_nil_of_mem (List.mem_mergeSort.2 inIds)
      · rw [Collision.toConflict, ids, ownerEq, claimantEq]
    · rintro ⟨type, owner, ownerKnown, claimant, claimantKnown, before, notEmpty, rfl⟩
      obtain ⟨id, inIds⟩ := List.exists_mem_of_ne_nil _ notEmpty
      obtain ⟨collision, member, parties, -⟩ :=
        (noted_iff_mem_collidingIds distinct allocated placing ownerKnown claimantKnown before
          type id).2 inIds
      refine ⟨collision, member, ?_⟩
      rw [Collision.toConflict, idsEq collision member type owner ownerKnown claimant claimantKnown
        before parties]
      obtain ⟨rfl, mods⟩ := Prod.mk.inj parties
      obtain ⟨ownerEq, claimantEq⟩ := Prod.mk.inj mods
      rw [ownerEq, claimantEq]

/-- A mod moves an id only if it collides with a mod of a smaller name over an id of the same
run. -/
theorem exists_colliding_of_moved (distinct : (definitions.map (·.modName)).Nodup)
    (allocated : allocate ranges definitions = .ok result) {claimant : ModDefinition}
    (known : claimant ∈ definitions) {type : EntityType} {id : Int}
    (inside : id ∈ claimant.insideIds ranges type)
    (moved : (result.mappingOf claimant.modName).isRemapped type id = true) :
    ∃ owner ∈ definitions, owner.modName < claimant.modName ∧
      ∃ other ∈ result.collidingIds ranges type owner claimant,
        SameRun (claimant.insideIds ranges type) id other := by
  obtain ⟨placed, placing, resolved⟩ := exists_placed_of_allocate distinct allocated
  have distinctOrdered := nodup_modNames_inNameOrder distinct
  have agrees : ∀ definition ∈ definitions,
      (placed.mappingOf definition.modName).AgreesOn type (result.mappingOf definition.modName) :=
    fun definition member => agreesOn_of_resolveNames (resolved definition member).2 type
  rw [(agrees claimant known).isRemapped] at moved
  obtain ⟨ids, isRun, inIds⟩ := exists_mem_splitRuns inside
  have isStep : .run claimant.modName type ids ∈
      (inNameOrder definitions).flatMap (·.explicitSteps ranges) :=
    List.mem_flatMap.2 ⟨claimant, mem_inNameOrder.2 known,
      ModDefinition.run_mem_explicitSteps_iff.2 ⟨rfl, isRun⟩⟩
  obtain ⟨earlier, later, steps⟩ := List.append_of_mem isStep
  have moves := (Allocation.isRemapped_iff_moves distinctOrdered placing steps inIds).1 moved
  obtain ⟨other, inRun, isKept⟩ := moves
  obtain ⟨keeper, kept⟩ := mem_keptIds_iff.1 isKept
  have collides : CollidesOver type keeper claimant.modName other
      ((inNameOrder definitions).flatMap (·.explicitSteps ranges)) :=
    ⟨earlier, _, later, steps, ids, rfl, ⟨other, inRun, isKept⟩, inRun, kept⟩
  obtain ⟨owner, ownerKnown, claimant', claimantKnown', rfl, sameName, before, ownerInside,
    otherInside, ownerKept, otherMoved⟩ :=
    (Allocation.collidesOver_iff distinctOrdered (pairwise_inNameOrder definitions) placing).1
      collides
  obtain rfl := List.inj_on_of_nodup_map distinctOrdered claimantKnown' (mem_inNameOrder.2 known)
    sameName
  have ownerKnown := mem_inNameOrder.1 ownerKnown
  have ascending : (claimant'.insideIds ranges type).Pairwise (· < ·) :=
    (claimant'.pairwise_definedIds type).filter _
  refine ⟨owner, ownerKnown, before, other, ?_,
    (mem_run_iff_sameRun ascending isRun inIds).1 inRun⟩
  rw [← (agrees owner ownerKnown).isRemapped] at ownerKept
  rw [← (agrees claimant' known).isRemapped] at otherMoved
  exact AllocationResult.mem_collidingIds.2 ⟨ownerInside, otherInside, ownerKept, otherMoved⟩

/-- Of two mods that define an id within the range one has to move it. -/
theorem isRemapped_of_shared (distinct : (definitions.map (·.modName)).Nodup)
    (allocated : allocate ranges definitions = .ok result) {first second : ModDefinition}
    (firstKnown : first ∈ definitions) (secondKnown : second ∈ definitions)
    (different : first.modName ≠ second.modName) {type : EntityType} {id : Int}
    (inFirst : id ∈ first.insideIds ranges type) (inSecond : id ∈ second.insideIds ranges type) :
    (result.mappingOf first.modName).isRemapped type id = true ∨
      (result.mappingOf second.modName).isRemapped type id = true := by
  obtain ⟨placed, placing, resolved⟩ := exists_placed_of_allocate distinct allocated
  have distinctOrdered := nodup_modNames_inNameOrder distinct
  rw [(agreesOn_of_resolveNames (resolved first firstKnown).2 type).isRemapped,
    (agreesOn_of_resolveNames (resolved second secondKnown).2 type).isRemapped]
  by_contra bothKept
  rw [not_or, Bool.not_eq_true, Bool.not_eq_true] at bothKept
  have moved : ∀ owner ∈ definitions, ∀ claimant ∈ definitions,
      owner.modName < claimant.modName → id ∈ owner.insideIds ranges type →
      id ∈ claimant.insideIds ranges type →
      (placed.mappingOf owner.modName).isRemapped type id = false →
      (placed.mappingOf claimant.modName).isRemapped type id = true :=
    fun owner ownerKnown claimant claimantKnown before inOwner inClaimant kept =>
      (Allocation.collidesOver_of_kept distinctOrdered (pairwise_inNameOrder definitions) placing
        (mem_inNameOrder.2 ownerKnown) (mem_inNameOrder.2 claimantKnown) before inOwner inClaimant
        kept).1
  rcases lt_or_gt_of_ne different with before | after
  · have isMoved := moved first firstKnown second secondKnown before inFirst inSecond bothKept.1
    rw [bothKept.2] at isMoved
    cases isMoved
  · have isMoved := moved second secondKnown first firstKnown after inSecond inFirst bothKept.2
    rw [bothKept.1] at isMoved
    cases isMoved

/-- The collisions that an allocation reports are exactly those that there are: for each type and
each two mods one with all their ids, if they collide. So each run that moves is accounted for,
and so is each id that two mods define. -/
theorem collisions_exact (distinct : (definitions.map (·.modName)).Nodup)
    (allocated : allocate ranges definitions = .ok result) :
    (result.collisions.Nodup ∧ ∀ conflict, conflict ∈ result.collisions ↔
      ∃ type, ∃ owner ∈ definitions, ∃ claimant ∈ definitions,
        owner.modName < claimant.modName ∧
        result.collidingIds ranges type owner claimant ≠ [] ∧
        conflict = .collision type (result.collidingIds ranges type owner claimant)
          owner.modName claimant.modName) ∧
    (∀ conflict ∈ result.collisions, conflict.ids.Pairwise (· < ·)) ∧
    (∀ claimant ∈ definitions, ∀ type run,
      IsMaximalRun (claimant.insideIds ranges type) run →
      (∃ id ∈ run, (result.mappingOf claimant.modName).isRemapped type id = true) →
      ∃ ids owner, .collision type ids owner claimant.modName ∈ result.collisions ∧
        ∃ id ∈ run, id ∈ ids) ∧
    ∀ first ∈ definitions, ∀ second ∈ definitions, first.modName ≠ second.modName →
      ∀ type id, id ∈ first.insideIds ranges type → id ∈ second.insideIds ranges type →
      ∃ ids owner claimant, .collision type ids owner claimant ∈ result.collisions ∧
        (claimant = first.modName ∨ claimant = second.modName) := by
  obtain ⟨nodup, memIff⟩ := mem_collisions_iff distinct allocated
  have reported : ∀ claimant ∈ definitions, ∀ type id, id ∈ claimant.insideIds ranges type →
      (result.mappingOf claimant.modName).isRemapped type id = true →
      ∃ ids owner, .collision type ids owner claimant.modName ∈ result.collisions ∧
        ∃ other ∈ ids, SameRun (claimant.insideIds ranges type) id other := by
    intro claimant known type id inside moved
    obtain ⟨owner, ownerKnown, before, other, inIds, same⟩ :=
      exists_colliding_of_moved distinct allocated known inside moved
    refine ⟨_, owner.modName, (memIff _).2 ⟨type, owner, ownerKnown, claimant, known, before,
      List.ne_nil_of_mem inIds, rfl⟩, other, inIds, same⟩
  refine ⟨⟨nodup, memIff⟩, fun conflict member => ?_, ?_, ?_⟩
  · obtain ⟨type, owner, -, claimant, -, -, -, rfl⟩ := (memIff conflict).1 member
    exact result.pairwise_collidingIds ranges type owner claimant
  · rintro claimant known type run maximal ⟨id, inRun, moved⟩
    obtain ⟨ids, owner, isReported, other, inIds, same⟩ :=
      reported claimant known type id (maximal.subset id inRun) moved
    exact ⟨ids, owner, isReported, other, (maximal.mem_iff_sameRun inRun).2 same, inIds⟩
  · intro first firstKnown second secondKnown different type id inFirst inSecond
    rcases isRemapped_of_shared distinct allocated firstKnown secondKnown different inFirst
      inSecond with moved | moved
    · obtain ⟨ids, owner, isReported, -⟩ := reported first firstKnown type id inFirst moved
      exact ⟨ids, owner, _, isReported, .inl rfl⟩
    · obtain ⟨ids, owner, isReported, -⟩ := reported second secondKnown type id inSecond moved
      exact ⟨ids, owner, _, isReported, .inr rfl⟩

theorem collisions_exact_overlappingMods :
    ∃ result, allocate defaultRanges overlappingMods = .ok result ∧
      ∃ ids owner claimant, .collision .monster ids owner claimant ∈ result.collisions ∧
        (claimant = "Abysia" ∨ claimant = "Caelum") := by
  obtain ⟨result, allocated⟩ := exists_allocate_overlappingMods
  obtain ⟨-, -, -, shared⟩ := collisions_exact (by decide) allocated
  exact ⟨result, allocated, shared overlappingMods[0] (by simp [overlappingMods])
    overlappingMods[1] (by simp [overlappingMods]) (by decide) .monster 5001 (by decide +kernel)
    (by decide +kernel)⟩

end

end ModMerge
