import Mathlib.Data.List.Induction
import ModMerge.Proofs.Allocation.FinalIds
import ModMerge.Proofs.Ids.MaximalRuns
import ModMerge.Proofs.NameOrder

/-!
# Which ids move

Whether an id of a mod stays can be told from the numbered ids alone: its run stays if none
of it belongs to a run that stays in a mod of an earlier name (`Stays`). The pass over
numbered ids decides by the used ids instead, among which there are fresh ones. Both agree,
so neither fresh ids nor later mods have a say in what moves.
-/

namespace ModMerge

/-- An id of a mod stays, given the ids that earlier mods keep: it lies within the range,
and nothing of its run is kept. -/
def Stays (range : EntityRange) (kept : Int → Prop) (defined : List Int) (id : Int) : Prop :=
  id ∈ defined.filter range.isModding ∧
    ∀ other, SameRun (defined.filter range.isModding) id other → ¬ kept other

/-- The ids that mods keep, given what each of them defines in the order of their names. -/
def KeptBy (range : EntityRange) (mods : List (List Int)) : Int → Prop :=
  mods.foldl (fun kept defined id => kept id ∨ Stays range kept defined id) fun _ => False

theorem KeptBy_concat (range : EntityRange) (mods : List (List Int)) (defined : List Int)
    (id : Int) : KeptBy range (mods ++ [defined]) id ↔
      KeptBy range mods id ∨ Stays range (KeptBy range mods) defined id := by
  simp [KeptBy]

theorem mem_keepIds {type : EntityType} {kept : List Int} {step : ExplicitStep} {id : Int} :
    id ∈ keepIds type kept step ↔ id ∈ kept ∨
      ∃ modName ids, step = .run modName type ids ∧ id ∈ ids ∧ ∀ other ∈ ids, other ∉ kept := by
  cases step with
  | outOfRange modName other ids => simp [keepIds]
  | run modName other ids =>
      rw [keepIds]
      split
      · next stays =>
          obtain ⟨rfl, free⟩ := stays
          rw [List.mem_append]
          refine or_congr_right ⟨fun member => ⟨modName, ids, rfl, member, free⟩, ?_⟩
          rintro ⟨_, _, same, member, -⟩
          rw [(ExplicitStep.run.inj same).2.2]
          exact member
      · next moves =>
          rw [iff_self_or]
          rintro ⟨_, _, same, -, free⟩
          obtain ⟨-, rfl, rfl⟩ := ExplicitStep.run.inj same
          exact absurd ⟨rfl, free⟩ moves

/-- Of steps that share no id of the type each decides for itself. -/
theorem mem_foldl_keepIds {type : EntityType} {steps : List ExplicitStep} (kept : List Int)
    (apart : steps.Pairwise fun first second =>
      first.type = second.type → first.ids.Disjoint second.ids) (id : Int) :
    id ∈ steps.foldl (keepIds type) kept ↔ id ∈ kept ∨
      ∃ modName ids, .run modName type ids ∈ steps ∧ id ∈ ids ∧ ∀ other ∈ ids, other ∉ kept := by
  induction steps generalizing kept with
  | nil => simp
  | cons step rest inductionHypothesis =>
      rw [List.pairwise_cons] at apart
      have unaffected : ∀ modName ids, .run modName type ids ∈ rest →
          ∀ other ∈ ids, other ∈ keepIds type kept step ↔ other ∈ kept := by
        intro modName ids member other inIds
        rw [mem_keepIds, or_iff_left]
        rintro ⟨_, _, rfl, inStep, -⟩
        exact apart.1 _ member rfl inStep inIds
      rw [List.foldl_cons, inductionHypothesis _ apart.2, mem_keepIds, or_assoc]
      refine or_congr_right ⟨?_, ?_⟩
      · rintro (⟨modName, ids, rfl, inIds, free⟩ | ⟨modName, ids, member, inIds, free⟩)
        · exact ⟨modName, ids, List.mem_cons_self, inIds, free⟩
        · refine ⟨modName, ids, List.mem_cons_of_mem _ member, inIds, fun other inIds => ?_⟩
          rw [← unaffected modName ids member other inIds]
          exact free other inIds
      · rintro ⟨modName, ids, member, inIds, free⟩
        rcases List.mem_cons.1 member with same | inRest
        · exact .inl ⟨modName, ids, same.symm, inIds, free⟩
        · refine .inr ⟨modName, ids, inRest, inIds, fun other inIds => ?_⟩
          rw [unaffected modName ids inRest other inIds]
          exact free other inIds

/-- A mod has a run of an id that stays exactly if the id stays. -/
theorem exists_run_iff_stays (definition : ModDefinition) (ranges : RangeTable)
    (type : EntityType) (kept : List Int) (id : Int) :
    (∃ modName ids, .run modName type ids ∈ definition.explicitSteps ranges ∧ id ∈ ids ∧
      ∀ other ∈ ids, other ∉ kept) ↔
    Stays (ranges.get type) (· ∈ kept) (definition.definedIds type) id := by
  have ascending : (definition.insideIds ranges type).Pairwise (· < ·) :=
    (definition.pairwise_definedIds type).filter _
  simp only [ModDefinition.run_mem_explicitSteps_iff]
  constructor
  · rintro ⟨_, ids, ⟨-, isRun⟩, inIds, free⟩
    refine ⟨mem_of_mem_splitRuns isRun inIds, fun other same => free other ?_⟩
    exact (mem_run_iff_sameRun ascending isRun inIds).2 same
  · rintro ⟨inside, free⟩
    obtain ⟨ids, isRun, inIds⟩ := exists_mem_splitRuns inside
    refine ⟨_, ids, ⟨rfl, isRun⟩, inIds, fun other otherInIds => free other ?_⟩
    exact (mem_run_iff_sameRun ascending isRun inIds).1 otherInIds

/-- The steps of mods keep the ids that the mods keep. -/
theorem mem_keptIds_iff_keptBy (ranges : RangeTable) (type : EntityType)
    (mods : List ModDefinition) (id : Int) :
    id ∈ keptIds type (mods.flatMap (·.explicitSteps ranges)) ↔
      KeptBy (ranges.get type) (mods.map (·.definedIds type)) id := by
  induction mods using List.reverseRecOn generalizing id with
  | nil => simp [keptIds, KeptBy]
  | append_singleton mods definition inductionHypothesis =>
      rw [List.flatMap_append, List.flatMap_singleton, keptIds, List.foldl_append,
        mem_foldl_keepIds _ (definition.apart_explicitSteps ranges), exists_run_iff_stays,
        List.map_append, List.map_singleton, KeptBy_concat]
      have same : (· ∈ keptIds type (mods.flatMap (·.explicitSteps ranges))) =
          KeptBy (ranges.get type) (mods.map (·.definedIds type)) :=
        funext fun id => propext (inductionHypothesis id)
      rw [← same]
      rfl

namespace Allocation

variable {ranges : RangeTable} {before after : List ModDefinition} {definition : ModDefinition}
  {placed : Allocation} {type : EntityType} {id : Int}

/-- A run moves exactly if it meets what earlier mods keep; other runs of the same mod do
not matter. -/
theorem moves_iff_exists_keptBy {ids : List Int} {front back : List ExplicitStep}
    (steps : definition.explicitSteps ranges =
      front ++ .run definition.modName type ids :: back) :
    (ExplicitStep.run definition.modName type ids).Moves
        (before.flatMap (·.explicitSteps ranges) ++ front) ↔
      ∃ other ∈ ids, KeptBy (ranges.get type) (before.map (·.definedIds type)) other := by
  have apart := definition.apart_explicitSteps ranges
  rw [steps] at apart
  obtain ⟨apartFront, -, apartStep⟩ := List.pairwise_append.1 apart
  refine exists_congr fun other => and_congr_right fun inIds => ?_
  rw [keptIds, List.foldl_append, mem_foldl_keepIds _ apartFront, or_iff_left]
  · exact mem_keptIds_iff_keptBy ranges type before other
  · rintro ⟨_, _, member, inOther, -⟩
    exact apartStep _ member _ List.mem_cons_self rfl inOther inIds

/-- An id that a mod defines moves unless it stays. -/
theorem isRemapped_iff_not_stays
    (distinct : ((before ++ definition :: after).map (·.modName)).Nodup)
    (allocated : allocateAll ranges (before ++ definition :: after) = .ok placed)
    (member : id ∈ definition.definedIds type) :
    (placed.mappingOf definition.modName).isRemapped type id = true ↔
      ¬ Stays (ranges.get type) (KeptBy (ranges.get type) (before.map (·.definedIds type)))
        (definition.definedIds type) id := by
  obtain ⟨_, progress⟩ := (progress_allocateAll distinct allocated).1 type
  have remapped : ∀ front step back, definition.explicitSteps ranges = front ++ step :: back →
      step.modName = definition.modName → step.type = type → id ∈ step.ids →
      ((placed.mappingOf definition.modName).isRemapped type id = true ↔
        step.Moves (before.flatMap (·.explicitSteps ranges) ++ front)) := by
    intro front step back steps sameName sameType inStep
    rw [← sameName]
    refine progress.isRemapped_iff _ step
      (back ++ after.flatMap (·.explicitSteps ranges)) ?_ sameType id inStep
    simp [steps]
  cases inRange : (ranges.get type).isModding id with
  | true =>
      have inside : id ∈ definition.insideIds ranges type := List.mem_filter.2 ⟨member, inRange⟩
      have ascending : (definition.insideIds ranges type).Pairwise (· < ·) :=
        (definition.pairwise_definedIds type).filter _
      obtain ⟨ids, isRun, inIds⟩ := exists_mem_splitRuns inside
      obtain ⟨front, back, steps⟩ := List.append_of_mem
        (ModDefinition.run_mem_explicitSteps_iff.2 ⟨rfl, isRun⟩)
      rw [remapped front _ back steps rfl rfl inIds, moves_iff_exists_keptBy steps]
      constructor
      · rintro ⟨other, otherInIds, isKept⟩ stays
        exact stays.2 other ((mem_run_iff_sameRun ascending isRun inIds).1 otherInIds) isKept
      · intro moves
        by_contra noneKept
        refine moves ⟨inside, fun other same isKept => noneKept ⟨other, ?_, isKept⟩⟩
        exact (mem_run_iff_sameRun ascending isRun inIds).2 same
  | false =>
      have outside : id ∈ definition.outsideIds ranges type :=
        List.mem_filter.2 ⟨member, by rw [inRange, Bool.not_false]⟩
      obtain ⟨front, back, steps⟩ := List.append_of_mem
        (ModDefinition.outOfRange_mem_explicitSteps outside)
      rw [remapped front _ back steps rfl rfl outside]
      refine ⟨fun _ stays => ?_, fun _ => trivial⟩
      rw [(List.mem_filter.1 stays.1).2] at inRange
      cases inRange

/-- Nothing but ids that the mod defines moves. -/
theorem mem_definedIds_of_isRemapped {ordered : List ModDefinition}
    (distinct : (ordered.map (·.modName)).Nodup) (known : definition ∈ ordered)
    (allocated : allocateAll ranges ordered = .ok placed)
    (isRemapped : (placed.mappingOf definition.modName).isRemapped type id = true) :
    id ∈ definition.definedIds type := by
  obtain ⟨_, progress⟩ := (progress_allocateAll distinct allocated).1 type
  obtain ⟨step, member, sameName, rfl, inStep⟩ := progress.exists_step _ id isRemapped
  obtain ⟨origin, originKnown, member⟩ := List.mem_flatMap.1 member
  rw [ModDefinition.mem_explicitSteps_iff] at member
  rw [ModDefinition.modName_of_mem_stepsOfType member] at sameName
  obtain rfl := List.inj_on_of_nodup_map distinct originKnown known sameName
  rw [← (origin.inside_append_outside_perm ranges _).mem_iff,
    ← origin.flatMap_ids_stepsOfType]
  exact List.mem_flatMap.2 ⟨step, member, inStep⟩

end Allocation

/-- An allocation of mods that succeeded, with one of the mods singled out. The mods before
it have smaller names and those after it have greater ones; in which order they were given
does not matter. -/
structure AllocatedAmong (ranges : RangeTable) (before : List ModDefinition)
    (definition : ModDefinition) (after : List ModDefinition) (result : AllocationResult) :
    Prop where
  ascending : (before ++ definition :: after).Pairwise fun first second =>
    first.modName < second.modName
  allocated : ∃ definitions, definitions.Perm (before ++ definition :: after) ∧
    allocate ranges definitions = .ok result

theorem pairwise_inNameOrder (definitions : List ModDefinition) :
    (inNameOrder definitions).Pairwise fun first second => first.modName ≤ second.modName :=
  pairwise_mergeSort_byName ModDefinition.modName definitions

/-- The order of names leaves no choice when no two mods have the same name. -/
theorem inNameOrder_eq_of_perm {definitions ordered : List ModDefinition}
    (perm : definitions.Perm ordered)
    (ascending : ordered.Pairwise fun first second => first.modName < second.modName) :
    inNameOrder definitions = ordered := by
  have distinct : (ordered.map (·.modName)).Nodup :=
    List.pairwise_map.2 (ascending.imp ne_of_lt)
  have sameOrder : inNameOrder definitions = inNameOrder ordered :=
    mergeSort_byName_eq_of_perm ModDefinition.modName ((perm.map _).nodup_iff.2 distinct) perm
  rw [sameOrder, inNameOrder_of_pairwise (ascending.imp le_of_lt)]

namespace AllocatedAmong

variable {ranges : RangeTable} {before after : List ModDefinition} {definition : ModDefinition}
  {result : AllocationResult}

theorem distinct (among : AllocatedAmong ranges before definition after result) :
    ((before ++ definition :: after).map (·.modName)).Nodup :=
  List.pairwise_map.2 (among.ascending.imp ne_of_lt)

/-- What moved in the end is what moved when ids were placed. -/
theorem exists_placed (among : AllocatedAmong ranges before definition after result) :
    ∃ placed, allocateAll ranges (before ++ definition :: after) = .ok placed ∧
      ∀ type, (placed.mappingOf definition.modName).AgreesOn type
        (result.mappingOf definition.modName) := by
  obtain ⟨definitions, perm, allocated⟩ := among.allocated
  have distinct : (definitions.map (·.modName)).Nodup :=
    (perm.map _).nodup_iff.2 among.distinct
  obtain ⟨placed, placing, resolved⟩ := exists_placed_of_allocate distinct allocated
  rw [inNameOrder_eq_of_perm perm among.ascending] at placing
  have member : definition ∈ definitions := perm.mem_iff.2 (by simp)
  exact ⟨placed, placing, agreesOn_of_resolveNames (resolved definition member).2⟩

theorem isRemapped_iff (among : AllocatedAmong ranges before definition after result)
    (type : EntityType) (id : Int) :
    (result.mappingOf definition.modName).isRemapped type id = true ↔
      id ∈ definition.definedIds type ∧
      ¬ Stays (ranges.get type) (KeptBy (ranges.get type) (before.map (·.definedIds type)))
        (definition.definedIds type) id := by
  obtain ⟨placed, placing, agrees⟩ := among.exists_placed
  rw [(agrees type).isRemapped]
  constructor
  · intro isRemapped
    have member := Allocation.mem_definedIds_of_isRemapped among.distinct
      (List.mem_append_right before List.mem_cons_self) placing isRemapped
    exact ⟨member, (Allocation.isRemapped_iff_not_stays among.distinct placing member).1 isRemapped⟩
  · rintro ⟨member, moves⟩
    exact (Allocation.isRemapped_iff_not_stays among.distinct placing member).2 moves

end AllocatedAmong

/-- Exactly which ids of a mod move: of the ids that it defines within the range, those whose
run does not stay, and all outside of it. Two allocations in which the earlier mods and the
mod itself define the same ids of a type move the same ids of the mod, whatever else there
is. -/
theorem moved_iff_run_not_kept {ranges : RangeTable} {before after : List ModDefinition}
    {definition : ModDefinition} {result : AllocationResult}
    (among : AllocatedAmong ranges before definition after result) (type : EntityType) :
    (∀ id ∈ definition.definedIds type,
      ((ranges.get type).isModding id = true →
        ((result.mappingOf definition.modName).isRemapped type id = true ↔
          ∃ other, SameRun ((definition.definedIds type).filter (ranges.get type).isModding)
            id other ∧ KeptBy (ranges.get type) (before.map (·.definedIds type)) other)) ∧
      ((ranges.get type).isModding id = false →
        (result.mappingOf definition.modName).isRemapped type id = true)) ∧
    (∀ id, (result.mappingOf definition.modName).isRemapped type id = true →
      id ∈ definition.definedIds type) ∧
    ∀ {ranges' before' definition' after' result'},
      AllocatedAmong ranges' before' definition' after' result' →
      ranges'.get type = ranges.get type →
      before'.map (·.definedIds type) = before.map (·.definedIds type) →
      definition'.definedIds type = definition.definedIds type →
      ∀ id, (result'.mappingOf definition'.modName).isRemapped type id =
        (result.mappingOf definition.modName).isRemapped type id := by
  refine ⟨fun id member => ⟨fun inside => ?_, fun outside => ?_⟩, fun id isRemapped => ?_, ?_⟩
  · have inFilter : id ∈ (definition.definedIds type).filter (ranges.get type).isModding :=
      List.mem_filter.2 ⟨member, inside⟩
    rw [among.isRemapped_iff, Stays]
    simp [member, inFilter]
  · refine (among.isRemapped_iff type id).2 ⟨member, fun stays => ?_⟩
    rw [(List.mem_filter.1 stays.1).2] at outside
    cases outside
  · exact ((among.isRemapped_iff type id).1 isRemapped).1
  · intro ranges' before' definition' after' result' among' sameRange sameEarlier sameIds id
    rw [Bool.eq_iff_iff, among.isRemapped_iff, among'.isRemapped_iff, sameRange, sameEarlier,
      sameIds]

theorem moved_iff_run_not_kept_overlappingMods :
    ∃ first second result, overlappingMods = [first, second] ∧
      AllocatedAmong defaultRanges [first] second [] result ∧
      (result.mappingOf second.modName).isRemapped .monster 5001 = true := by
  obtain ⟨result, allocated⟩ := exists_allocate_overlappingMods
  have among : AllocatedAmong defaultRanges [overlappingMods[0]] overlappingMods[1] [] result := {
    ascending := by decide +kernel
    allocated := ⟨overlappingMods, .refl _, allocated⟩ }
  have firstIds : overlappingMods[0].definedIds .monster = [5000, 5001] := by decide +kernel
  have secondIds : overlappingMods[1].definedIds .monster = [5001] := by decide +kernel
  have ownRun : ∀ id : Int, id ∈ [5000, 5001] →
      (defaultRanges.get .monster).isModding id = true := by decide +kernel
  refine ⟨_, _, result, rfl, among, ?_⟩
  refine (((moved_iff_run_not_kept among .monster).1 5001 (by simp [secondIds])).1
    (ownRun 5001 (by simp))).2 ⟨5001, ?_, ?_⟩
  · intro id above below
    rw [secondIds, List.filter_cons_of_pos (ownRun 5001 (by simp)), List.mem_cons]
    omega
  · rw [List.map_singleton, firstIds]
    refine .inr ⟨List.mem_filter.2 ⟨by simp, ownRun 5001 (by simp)⟩, fun _ _ => id⟩

end ModMerge
