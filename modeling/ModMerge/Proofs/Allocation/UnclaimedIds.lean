import ModMerge.Proofs.Allocation.Collisions
import ModMerge.Proofs.Allocation.SplitRuns

/-!
# Ids that are handed out are unclaimed

An id within the range stays reserved for as long as some mod that numbered it has not moved away
from it. So definitions without an id never get an id that a mod numbered, and content that moves
gets one only after each mod that numbered it has moved away.
-/

namespace ModMerge

namespace Allocation

variable {ranges : RangeTable} {ordered : List ModDefinition} {modNames : List String}
  {done rest earlier later : List ExplicitStep} {step : ExplicitStep}
  {before after placed : Allocation} {type : EntityType} {modName : String} {old id : Int}

/-- A step that moves its ids replaces them by ids that were available. -/
theorem exists_handsOut_of_moves (sound : SoundSteps ranges modNames (done ++ step :: rest))
    (progress : ∀ type, ∃ fresh, before.Progress ranges modNames type done (step :: rest) fresh)
    (moves : step.Moves done) (stepped : before.placeExplicit step = .ok after) :
    ∃ newIds allocator,
      (before.ledgers.get step.type).allocator.HandsOut newIds allocator ∧
      before.Recorded step newIds after := by
  obtain ⟨fresh, progress⟩ := progress step.type
  cases placed_of_placeExplicit stepped with
  | @kept modName type ids free =>
      have progress : before.Progress ranges modNames type done
        (.run modName type ids :: rest) fresh := progress
      exact absurd moves (progress.stays_of_free free)
  | @moved modName type ids newIds _ _ _ assign _ mappings _ _ =>
      have progress : before.Progress ranges modNames type done
        (.run modName type ids :: rest) fresh := progress
      obtain ⟨⟨handed, allocator⟩, allocated, finished⟩ := map_eq_ok.1 assign
      obtain ⟨rfl, -⟩ := Prod.mk.inj finished
      exact ⟨handed, allocator, (IdAllocator.handsOut_of_allocateIds allocated).1,
        progress.recorded_of_assign sound assign mappings⟩
  | @replaced modName type ids newIds allocator _ handed _ mappings _ _ =>
      have progress : before.Progress ranges modNames type done
        (.outOfRange modName type ids :: rest) fresh := progress
      exact ⟨newIds, allocator, (IdAllocator.handsOut_of_allocateSingles handed).1,
        progress.recorded_of_allocateSingles sound handed mappings⟩

/-! ### The moment at which an id moves -/

/-- `before` is what has been decided about mods that are treated in order when an id of one of
them is about to move: neither has the id moved yet nor is `target` used, and the next step moves
the id to `target`. -/
structure HandsOutNext (ranges : RangeTable) (ordered : List ModDefinition) (modName : String)
    (type : EntityType) (old target : Int) (before : Allocation) : Prop where
  notMoved : (before.mappingOf modName).isRemapped type old = false
  notUsed : target ∉ (before.ledgers.get type).allocator.used
  exists_step : ∃ step after, step.modName = modName ∧ step.type = type ∧ old ∈ step.ids ∧
    DecidedBefore ranges ordered step before ∧ before.placeExplicit step = .ok after ∧
    (after.mappingOf modName).isRemapped type old = true ∧
    (after.mappingOf modName).newId type old = target

namespace Taken

theorem not_isRemapped_before
    (taken : Taken ranges ordered earlier step later before after placed)
    (distinct : (ordered.map (·.modName)).Nodup) (member : old ∈ step.ids) :
    (before.mappingOf step.modName).isRemapped step.type old = false := by
  obtain ⟨_, progress⟩ := taken.progress step.type
  rw [← Bool.not_eq_true]
  intro isRemapped
  obtain ⟨other, isEarlier, sameName, sameType, inOther⟩ :=
    progress.exists_step step.modName old isRemapped
  exact (taken.sound distinct).disjoint_earlier other isEarlier sameName sameType inOther member

/-- An id that is not reserved any more has been left by each mod that numbered it. -/
theorem moved_of_not_reserved
    (taken : Taken ranges ordered earlier step later before after placed)
    {ids : List Int} (inIds : id ∈ ids)
    (isStep : .run modName type ids ∈ ordered.flatMap (·.explicitSteps ranges))
    (free : id ∉ (before.ledgers.get type).allocator.reserved) :
    ∃ front back, earlier = front ++ .run modName type ids :: back ∧
      (ExplicitStep.run modName type ids).Moves front ∧
      (before.mappingOf modName).isRemapped type id = true := by
  obtain ⟨_, progress⟩ := taken.progress type
  rw [progress.accounts.mem_reserved, not_or] at free
  have isEarlier : .run modName type ids ∈ earlier := by
    rw [taken.steps] at isStep
    refine (List.mem_append.1 isStep).resolve_right fun isWaiting => free.2 ?_
    exact List.mem_flatMap.2 ⟨_, isWaiting, by simp [ExplicitStep.waitingIds, inIds]⟩
  obtain ⟨front, back, split⟩ := List.append_of_mem isEarlier
  have moves : (ExplicitStep.run modName type ids).Moves front := by
    by_contra stays
    exact free.1 (mem_keptIds_iff.2 ⟨modName, front, _, back, split, ids, rfl, stays, inIds⟩)
  exact ⟨front, back, split, moves,
    (progress.isRemapped_iff front _ back split rfl id inIds).2 moves⟩

end Taken

/-- An id that has moved did so at one moment, and by then each mod that numbered the new id had
moved away from it; all of these come no later in the order of names. -/
theorem exists_handsOutNext (distinct : (ordered.map (·.modName)).Nodup)
    (sorted : ordered.Pairwise fun first second => first.modName ≤ second.modName)
    (allocated : allocateAll ranges ordered = .ok placed)
    (isRemapped : (placed.mappingOf modName).isRemapped type old = true) :
    ∃ before,
      HandsOutNext ranges ordered modName type old ((placed.mappingOf modName).newId type old)
        before ∧
      ∀ owner ∈ ordered,
        (placed.mappingOf modName).newId type old ∈ owner.insideIds ranges type →
        (before.mappingOf owner.modName).isRemapped type
          ((placed.mappingOf modName).newId type old) = true ∧
        (placed.mappingOf owner.modName).isRemapped type
          ((placed.mappingOf modName).newId type old) = true ∧
        owner.modName ≤ modName := by
  obtain ⟨_, progress⟩ := (progress_allocateAll distinct allocated).1 type
  obtain ⟨step, isStep, rfl, rfl, inStep⟩ := progress.exists_step modName old isRemapped
  obtain ⟨earlier, later, before, after, taken⟩ := exists_taken distinct allocated isStep
  have moves := (progress.isRemapped_iff _ _ _ taken.steps rfl old inStep).1 isRemapped
  obtain ⟨newIds, allocator, handsOut, recorded⟩ :=
    exists_handsOut_of_moves (taken.sound distinct) taken.progress moves taken.stepped
  have target := taken.newId_placed distinct inStep
  have isNew : (placed.mappingOf step.modName).newId step.type old ∈ newIds := by
    rw [target, ← recorded.map_newId]
    exact List.mem_map_of_mem inStep
  generalize (placed.mappingOf step.modName).newId step.type old = new at target isNew
  refine ⟨before, ⟨taken.not_isRemapped_before distinct inStep, handsOut.not_mem_used isNew,
    step, after, rfl, rfl, inStep, taken.decidedBefore, taken.stepped,
    (recorded.isRemapped _ _ _).2 (.inl ⟨rfl, rfl, inStep⟩), target.symm⟩,
    fun owner known inside => ?_⟩
  obtain ⟨ids, inIds, isRun⟩ := exists_run_of_mem_insideIds known inside
  obtain ⟨front, back, rfl, left, hadMoved⟩ :=
    taken.moved_of_not_reserved inIds isRun (handsOut.not_mem_reserved isNew)
  have inOrder := pairwise_modName_explicitSteps ranges sorted
  have steps := taken.steps
  rw [steps] at inOrder
  refine ⟨hadMoved, ?_, (List.pairwise_append.1 inOrder).2.2 (.run owner.modName step.type ids)
    (by simp) step List.mem_cons_self⟩
  rw [List.append_assoc, List.cons_append] at steps
  exact (isRemapped_iff_moves distinct allocated steps inIds).2 left

/-- No mod numbered an id that a definition without one gets. -/
theorem not_mem_insideIds_of_mem_implicitIds (distinct : (ordered.map (·.modName)).Nodup)
    (allocated : allocateAll ranges ordered = .ok placed) {definition owner : ModDefinition}
    (known : definition ∈ ordered) (ownerKnown : owner ∈ ordered)
    (isImplicit : id ∈ (placed.mappingOf definition.modName).implicitIds type) :
    id ∉ owner.insideIds ranges type := by
  obtain ⟨-, start, started, same⟩ := progress_allocateAll distinct allocated
  obtain ⟨fresh, progress⟩ := implicitProgress_allocateImplicit distinct started type
  intro inside
  refine progress.accounts.not_waiting id (progress.implicitIds_perm.mem_iff.1 ?_)
    (List.mem_flatMap.2 ⟨owner, ownerKnown, inside⟩)
  refine List.mem_flatMap.2 ⟨definition.modName, List.mem_map_of_mem known, ?_⟩
  rwa [ModMapping.implicitIds, (same definition.modName).implicit] at isImplicit

end Allocation

/-! ### Mods that were allocated -/

/-- An id that an allocation hands out is claimed by no mod. No mod numbered an id that a
definition without one gets. An id to which content moves may have been numbered by mods; but
when it was handed out, all of these had moved away from it, so that none keeps it, and none of
them comes after the mod that gets it. -/
theorem unclaimed_when_handed_out {ranges : RangeTable} {definitions : List ModDefinition}
    {result : AllocationResult} (distinct : (definitions.map (·.modName)).Nodup)
    (allocated : allocate ranges definitions = .ok result) (type : EntityType) :
    (∀ definition ∈ definitions,
      ∀ id ∈ (result.mappingOf definition.modName).implicitIds type,
        ∀ owner ∈ definitions, id ∉ owner.insideIds ranges type) ∧
    ∀ receiver ∈ definitions, ∀ old,
      (result.mappingOf receiver.modName).isRemapped type old = true →
      let target := (result.mappingOf receiver.modName).newId type old
      ∃ before,
        Allocation.HandsOutNext ranges (inNameOrder definitions) receiver.modName type old target
          before ∧
        ∀ owner ∈ definitions, target ∈ owner.insideIds ranges type →
          (before.mappingOf owner.modName).isRemapped type target = true ∧
          (result.mappingOf owner.modName).isRemapped type target = true ∧
          owner.modName ≤ receiver.modName := by
  obtain ⟨placed, placing, resolved⟩ := exists_placed_of_allocate distinct allocated
  have distinctOrdered := nodup_modNames_inNameOrder distinct
  have agrees : ∀ definition ∈ definitions,
      (placed.mappingOf definition.modName).AgreesOn type (result.mappingOf definition.modName) :=
    fun definition member => agreesOn_of_resolveNames (resolved definition member).2 type
  refine ⟨fun definition known id isImplicit owner ownerKnown => ?_,
    fun receiver known old isRemapped => ?_⟩
  · rw [(agrees definition known).implicitIds] at isImplicit
    exact Allocation.not_mem_insideIds_of_mem_implicitIds distinctOrdered placing
      (mem_inNameOrder.2 known) (mem_inNameOrder.2 ownerKnown) isImplicit
  · rw [(agrees receiver known).isRemapped] at isRemapped
    obtain ⟨before, next, left⟩ := Allocation.exists_handsOutNext distinctOrdered
      (pairwise_inNameOrder definitions) placing isRemapped
    rw [← (agrees receiver known).newId] at next left
    refine ⟨before, next, fun owner ownerKnown inside => ?_⟩
    rw [(agrees owner ownerKnown).isRemapped]
    exact left owner (mem_inNameOrder.2 ownerKnown) inside

/-- A table with five monsters to hand out. -/
def tightRanges : RangeTable :=
  .ofFunction fun type =>
    if type = .monster then ⟨0, 5, none, by decide, by simp⟩ else defaultRange type

/-- Three mods that number the monster 2. When the second moves away, its monster 3 is left for
the third. -/
def tightMods : List ModDefinition :=
  [(({ modName := "Abysia" } : ModDefinition).recordDefined .monster 1).recordDefined .monster 2,
    (({ modName := "Caelum" } : ModDefinition).recordDefined .monster 2).recordDefined .monster 3,
    ({ modName := "Ermor" } : ModDefinition).recordDefined .monster 2]

theorem unclaimed_when_handed_out_tightMods :
    ∃ result before, allocate tightRanges tightMods = .ok result ∧
      Allocation.HandsOutNext tightRanges (inNameOrder tightMods) "Ermor" .monster 2 3 before ∧
      (before.mappingOf "Caelum").isRemapped .monster 3 = true ∧
      (result.mappingOf "Caelum").isRemapped .monster 3 = true := by
  have outcome : ((allocate tightRanges tightMods).toOption.any fun result =>
      (result.mappingOf "Ermor").isRemapped .monster 2 &&
        (result.mappingOf "Ermor").newId .monster 2 == 3) = true := by
    rw [allocate, inNameOrder_of_pairwise (by decide +kernel)]
    decide +kernel
  cases allocated : allocate tightRanges tightMods with
  | error error => simp [allocated, Except.toOption] at outcome
  | ok result =>
      simp only [allocated, Except.toOption, Option.any_some, Bool.and_eq_true, beq_iff_eq]
        at outcome
      have numbered : 3 ∈ tightMods[1].insideIds tightRanges .monster := by decide +kernel
      obtain ⟨before, next, left⟩ := (unclaimed_when_handed_out (by decide) allocated .monster).2
        tightMods[2] (List.getElem_mem (by decide)) 2 outcome.1
      have target : (result.mappingOf tightMods[2].modName).newId .monster 2 = 3 := outcome.2
      rw [target] at next left
      obtain ⟨hadMoved, moved, -⟩ := left tightMods[1] (List.getElem_mem (by decide)) numbered
      exact ⟨result, before, rfl, next, hadMoved, moved⟩

end ModMerge
