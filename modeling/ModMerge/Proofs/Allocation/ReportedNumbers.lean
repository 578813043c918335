import ModMerge.Proofs.Allocation.CollisionPass
import ModMerge.Proofs.Allocation.ReportSections
import ModMerge.Proofs.Ids.WrittenRanges

/-!
# Numbers in reports

A report on an allocation writes the ids that moved, the ids that these became, and the ids of all
conflicts, and does not look at how many digits they have. It need not: an allocation that succeeds
has written every run that it moved and every set of shared ids before.
-/

namespace ModMerge

/-- The ids that a mapping moves can be written, and so can those that they become. -/
def ModMapping.ShortRemaps (mapping : ModMapping) : Prop :=
  ∀ remap ∈ mapping.remaps, Text.Short remap.old ∧ Text.Short remap.new

namespace ModMapping

variable {mapping other : ModMapping} {type : EntityType} {ids newIds : List Int}

theorem ShortRemaps.congr (short : mapping.ShortRemaps) (same : other.remapped = mapping.remapped) :
    other.ShortRemaps := by
  intro remap member
  rw [mem_remaps_iff, target?, same, ← target?, ← mem_remaps_iff] at member
  exact short remap member

theorem ShortRemaps.recordRemap (short : mapping.ShortRemaps) {old new : Int}
    (shortOld : Text.Short old) (shortNew : Text.Short new) :
    (mapping.recordRemap type old new).ShortRemaps := by
  intro remap member
  rw [mem_remaps_iff, target?_recordRemap] at member
  split at member
  · next recorded =>
      rw [← recorded.2.2, ← Option.some.inj member]
      exact ⟨shortOld, shortNew⟩
  · exact short remap ((mapping.mem_remaps_iff).2 member)

theorem ShortRemaps.recordRemaps (short : mapping.ShortRemaps)
    (shortIds : ∀ id ∈ ids, Text.Short id) (shortNewIds : ∀ id ∈ newIds, Text.Short id) :
    (mapping.recordRemaps type ids newIds).ShortRemaps := by
  induction ids generalizing mapping newIds with
  | nil => exact short
  | cons old rest inductionHypothesis =>
      cases newIds with
      | nil => exact short
      | cons new newRest =>
          rw [List.forall_mem_cons] at shortIds shortNewIds
          rw [recordRemaps_cons]
          exact inductionHypothesis (short.recordRemap shortIds.1 shortNewIds.1) shortIds.2
            shortNewIds.2

end ModMapping

namespace Allocation

variable {ranges : RangeTable} {before after : Allocation}

/-- All that is to be reported so far can be written. -/
structure Reportable (allocation : Allocation) : Prop where
  remaps : ∀ modName, (allocation.mappingOf modName).ShortRemaps
  collisions : ∀ collision ∈ allocation.collisions, ∀ id ∈ collision.ids, Text.Short id

theorem Reportable.shortRemaps_modify (reportable : before.Reportable) {modName : String}
    {change : ModMapping → ModMapping}
    (mappings : after.mappings = before.mappings.modify modName change)
    (shortChange : ∀ mapping : ModMapping, mapping.ShortRemaps → (change mapping).ShortRemaps)
    (other : String) : (after.mappingOf other).ShortRemaps := by
  by_cases known : modName ∈ before.mappings
  · rw [mappingOf_modify known mappings]
    split
    · exact shortChange _ (reportable.remaps other)
    · exact reportable.remaps other
  · have unchanged : after.mappingOf other = before.mappingOf other := by
      rw [mappingOf, mappingOf, mappings, Std.TreeMap.getD_modify]
      split
      · next same =>
          rw [← Std.LawfulEqCmp.compare_eq_iff_eq.1 same, Std.TreeMap.getElem?_eq_none known,
            Std.TreeMap.getD_eq_fallback known]
          rfl
      · rfl
    rw [unchanged]
    exact reportable.remaps other

/-- Whatever moves ids has written them, and has written the new ids or the bounds of their
range. -/
theorem Reportable.placeExplicit (reportable : before.Reportable) {step : ExplicitStep}
    (stepped : before.placeExplicit step = .ok after) : after.Reportable := by
  cases step with
  | run modName type ids =>
      simp only [Allocation.placeExplicit, placeRun] at stepped
      split at stepped
      · obtain rfl := Except.ok.inj stepped
        exact ⟨reportable.remaps, reportable.collisions⟩
      · obtain ⟨⟨newIds, assigned⟩, -, rest⟩ := bind_eq_ok.1 stepped
        obtain ⟨⟨⟩, written, finished⟩ := bind_eq_ok.1 rest
        obtain rfl := Except.ok.inj finished
        have short := requireRanges_eq_ok_iff.1 (mapError_eq_ok.1 written)
        simp only [List.forall_mem_cons] at short
        refine ⟨reportable.shortRemaps_modify rfl fun mapping earlier =>
          earlier.recordRemaps short.1 short.2.1, fun collision member id inIds => ?_⟩
        rcases noted_noteAll_iff.1 ⟨collision, member, rfl, inIds⟩ with
          ⟨-, isTaken⟩ | ⟨earlier, was, -, inEarlier⟩
        · exact short.1 id (List.mem_filter.1 isTaken).1
        · exact reportable.collisions earlier was id inEarlier
  | outOfRange modName type ids =>
      obtain ⟨⟨newIds, allocator⟩, handed, rest⟩ := bind_eq_ok.1 stepped
      obtain ⟨⟨⟩, written, last⟩ := bind_eq_ok.1 rest
      obtain ⟨⟨⟩, bounded, finished⟩ := bind_eq_ok.1 last
      obtain rfl := Except.ok.inj finished
      have short := requireRanges_eq_ok_iff.1 (mapError_eq_ok.1 written)
      have shortRange : (before.ledgers.get type).allocator.range.Short :=
        Text.requireWritable_eq_ok_iff.1 (mapError_eq_ok.1 bounded)
      have handsOut := (IdAllocator.handsOut_of_allocateSingles handed).1
      exact ⟨reportable.shortRemaps_modify rfl fun mapping earlier =>
        earlier.recordRemaps (short ids List.mem_cons_self) fun id isNew =>
          shortRange.of_isModding (handsOut.isModding isNew), reportable.collisions⟩

theorem reportable_allocateAll {ordered : List ModDefinition} {placed : Allocation}
    (distinct : (ordered.map (·.modName)).Nodup)
    (allocated : allocateAll ranges ordered = .ok placed) : placed.Reportable := by
  obtain ⟨start, started, run⟩ := bind_eq_ok.1 allocated
  obtain ⟨_, progress⟩ := implicitProgress_allocateImplicit distinct started default
  have initially : start.Reportable := by
    refine ⟨fun modName remap member => ?_, ?_⟩
    · rw [ModMapping.mem_remaps_iff, ModMapping.target?, (progress.untouched modName).1] at member
      simp at member
    · rw [(noted_allocateImplicit started).1]
      exact fun _ member => absurd member List.not_mem_nil
  exact invariant_of_foldlM (fun _ _ => Reportable)
    (fun _ _ _ _ _ reportable stepped => reportable.placeExplicit stepped) initially run

end Allocation

/-- What an allocation has decided can be reported. -/
theorem AllocationResult.short_of_allocate {ranges : RangeTable}
    {definitions : List ModDefinition} {result : AllocationResult}
    (distinct : (definitions.map (·.modName)).Nodup)
    (allocated : allocate ranges definitions = .ok result) :
    (∀ (modName : String) (mapping : ModMapping), result.mappings[modName]? = some mapping →
      mapping.ShortRemaps) ∧
    ∀ conflict ∈ result.conflicts, ∀ id ∈ conflict.ids, Text.Short id := by
  constructor
  · intro modName mapping found
    have listed := Std.TreeMap.mem_toList_iff_getElem?_eq_some.2 found
    rw [toList_mappings_of_allocate distinct allocated] at listed
    obtain ⟨definition, member, same⟩ := List.mem_map.1 listed
    obtain ⟨rfl, rfl⟩ := Prod.mk.inj same
    obtain ⟨placed, placing, resolved⟩ := exists_placed_of_allocate distinct allocated
    have reportable :=
      Allocation.reportable_allocateAll (nodup_modNames_inNameOrder distinct) placing
    have unnamed := ModMapping.sameBesidesNames_of_resolveNames
      (resolved definition (mem_inNameOrder.1 member)).2
    exact (reportable.remaps definition.modName).congr unnamed.remapped
  · obtain ⟨placed, mappings, placing, shared, -, rfl⟩ := allocate_eq_ok_iff.1 allocated
    have reportable :=
      Allocation.reportable_allocateAll (nodup_modNames_inNameOrder distinct) placing
    intro conflict member
    rcases List.mem_append.1 member with isCollision | isShared
    · obtain ⟨collision, isNoted, rfl⟩ := List.mem_map.1 isCollision
      exact fun id inIds => reportable.collisions collision isNoted id (List.mem_mergeSort.1 inIds)
    · exact requireRanges_eq_ok_iff.1 shared conflict.ids (List.mem_map_of_mem isShared)

end ModMerge
