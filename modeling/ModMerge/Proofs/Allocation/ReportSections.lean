import Mathlib.Algebra.Order.Ring.Nat
import Mathlib.Data.List.Infix
import ModMerge.Allocation.Report
import ModMerge.Proofs.Allocation.SplitRuns
import ModMerge.Proofs.Allocation.FinalIds
import ModMerge.Proofs.Mod.FiniteMapping
import ModMerge.Proofs.NameOrder

/-!
# Sections on moved ids

A report to be kept counts all ids that moved. If mods collide it also has a section on each mod
that had ids moved: with the first of them, and with the number of those that it leaves out. An
id also moves if it lies outside the range of its type, and where no mods collide, nothing more
is said about such ids.
-/

namespace ModMerge

/-- What a report has on the moved ids of a mod. -/
structure RemapSection where
  modName : String
  shown : List Remap
  leftOut : Nat
deriving DecidableEq, Repr

namespace RemapSection

/-- The section on a mod with the given moved ids. -/
def ofRemaps (modName : String) (remaps : List Remap) : RemapSection :=
  { modName, shown := remaps.take remapsShown, leftOut := remaps.length - remapsShown }

/-- The lines of a section: a heading, one line for each moved id that is shown, and one with the
number of the others if there are any. -/
def lines (part : RemapSection) : List String :=
  ("### " ++ part.modName) :: part.shown.map AllocationResult.markdownRemapLine ++
    (if part.leftOut = 0 then []
    else ["- ... and " ++ Text.decimalString part.leftOut ++ " more"]) ++ [""]

/-- How many moved ids a section shows or leaves out. -/
def count (part : RemapSection) : Nat :=
  part.shown.length + part.leftOut

theorem count_ofRemaps (modName : String) (remaps : List Remap) :
    (ofRemaps modName remaps).count = remaps.length := by
  simp only [count, ofRemaps, List.length_take]
  omega

theorem markdownModSection_eq_lines (modName : String) (mapping : ModMapping)
    (moved : mapping.remaps ≠ []) :
    AllocationResult.markdownModSection modName mapping =
      (ofRemaps modName mapping.remaps).lines := by
  have leftOut : (ofRemaps modName mapping.remaps).leftOut =
      mapping.remaps.length - remapsShown := rfl
  rw [AllocationResult.markdownModSection, if_neg (by simpa using moved), lines]
  congr 2
  split
  · rw [if_neg (by omega), leftOut]
  · rw [if_pos (by omega)]

end RemapSection

/-! ### The mods of an allocation -/

section

variable {ranges : RangeTable} {definitions : List ModDefinition} {result : AllocationResult}

namespace Allocation

/-- Placing ids neither adds mods nor drops any. -/
theorem mem_mappings_of_allocateAll {ordered : List ModDefinition} {placed : Allocation}
    (allocated : allocateAll ranges ordered = .ok placed) (modName : String) :
    modName ∈ placed.mappings ↔ modName ∈ ordered.map (·.modName) := by
  obtain ⟨reserved, implicit, explicit⟩ := bind_eq_ok.1 allocated
  let Knows := fun allocation : Allocation =>
    modName ∈ allocation.mappings ↔ modName ∈ ordered.map (·.modName)
  have initially : Knows (ordered.foldl reserveExplicit (.initial ranges ordered)) := by
    simp only [Knows, mappings_foldl_reserveExplicit]
    exact (initial_mappings ranges ordered modName).1
  have afterImplicit : Knows reserved := by
    refine invariant_of_foldlM (fun _ _ => Knows) ?_ initially implicit
    intro _ _ _ before after knows stepped
    obtain ⟨_, _, -, -, mappings, -⟩ := exists_of_placeImplicit stepped
    simp only [Knows, mappings, Std.TreeMap.mem_modify]
    exact knows
  refine invariant_of_foldlM (fun _ _ => Knows) ?_ afterImplicit explicit
  exact fun _ _ _ before after knows stepped =>
    (mem_mappings_of_placeExplicit stepped).trans knows

end Allocation

/-- An allocation tells what became of the mods that it was given, and of no others. -/
theorem mem_mappings_of_allocate (distinct : (definitions.map (·.modName)).Nodup)
    (allocated : allocate ranges definitions = .ok result) (modName : String) :
    modName ∈ result.mappings ↔ modName ∈ definitions.map (·.modName) := by
  constructor
  · intro known
    by_contra notGiven
    obtain ⟨placed, mappings, placing, -, resolving, rfl⟩ := allocate_eq_ok_iff.1 allocated
    have notOrdered : modName ∉ (inNameOrder definitions).map (·.modName) := fun member =>
      notGiven (((inNameOrder_perm definitions).map _).mem_iff.1 member)
    have unchanged := (getElem?_of_resolveAllNames (nodup_modNames_inNameOrder distinct)
      resolving).2 modName notOrdered
    rw [← Std.TreeMap.isSome_getElem?_iff_mem, unchanged, Std.TreeMap.isSome_getElem?_iff_mem,
      Allocation.mem_mappings_of_allocateAll placing] at known
    exact notOrdered known
  · intro given
    obtain ⟨definition, member, rfl⟩ := List.mem_map.1 given
    obtain ⟨_, -, resolved⟩ := exists_placed_of_allocate distinct allocated
    exact (resolved definition member).1

/-- The mods of an allocation are listed by their names. -/
theorem toList_mappings_of_allocate (distinct : (definitions.map (·.modName)).Nodup)
    (allocated : allocate ranges definitions = .ok result) :
    result.mappings.toList = (inNameOrder definitions).map fun definition =>
      (definition.modName, result.mappingOf definition.modName) := by
  have sameKeys : result.mappings.keys = (inNameOrder definitions).map (·.modName) := by
    have distinctOrdered := nodup_modNames_inNameOrder distinct
    have ascending : result.mappings.keys.Pairwise (· ≤ ·) :=
      Std.TreeMap.ordered_keys.imp fun before => (compare_lt_iff_lt.1 before).le
    have ascendingNames : ((inNameOrder definitions).map (·.modName)).Pairwise (· ≤ ·) :=
      List.pairwise_map.2 (pairwise_mergeSort_byName ModDefinition.modName definitions)
    refine List.Perm.eq_of_pairwise (fun _ _ _ _ => le_antisymm) ascending ascendingNames ?_
    refine (List.perm_ext_iff_of_nodup Std.TreeMap.nodup_keys distinctOrdered).2 fun modName => ?_
    rw [Std.TreeMap.mem_keys, mem_mappings_of_allocate distinct allocated,
      ((inNameOrder_perm definitions).map _).mem_iff]
  have listed : result.mappings.toList =
      result.mappings.keys.map fun modName => (modName, result.mappingOf modName) := by
    rw [← Std.TreeMap.map_fst_toList_eq_keys, List.map_map]
    refine (List.map_id' _).symm.trans (List.map_congr_left fun pair member => ?_)
    have found := Std.TreeMap.mem_toList_iff_getElem?_eq_some.1 member
    simp [AllocationResult.mappingOf, Std.TreeMap.getD_eq_getD_getElem?, found]
  rw [listed, sameKeys, List.map_map]
  rfl

/-! ### The sections of a report -/

namespace AllocationResult

/-- Whether ids of a mod moved. -/
def hasMoved (result : AllocationResult) (modName : String) : Bool :=
  !(result.mappingOf modName).remaps.isEmpty

/-- The section on a mod. -/
def remapSection (result : AllocationResult) (modName : String) : RemapSection :=
  .ofRemaps modName (result.mappingOf modName).remaps

theorem remaps_eq_nil_of_not_hasMoved {modName : String}
    (notMoved : ¬ result.hasMoved modName = true) : (result.mappingOf modName).remaps = [] := by
  simpa [hasMoved] using notMoved

/-- A mod of which no id moved has no section. -/
theorem flatMap_markdownModSection (result : AllocationResult) (modNames : List String) :
    (modNames.flatMap fun modName => markdownModSection modName (result.mappingOf modName)) =
      ((modNames.filter result.hasMoved).map result.remapSection).flatMap RemapSection.lines := by
  induction modNames with
  | nil => rfl
  | cons modName modNames inductionHypothesis =>
      rw [List.flatMap_cons, inductionHypothesis]
      by_cases moved : result.hasMoved modName = true
      · have notEmpty : (result.mappingOf modName).remaps ≠ [] := by simpa [hasMoved] using moved
        rw [RemapSection.markdownModSection_eq_lines _ _ notEmpty, List.filter_cons_of_pos moved]
        rfl
      · rw [markdownModSection, remaps_eq_nil_of_not_hasMoved moved, List.filter_cons_of_neg moved]
        rfl

/-- The sections on all mods tell of as many moved ids as there are. -/
theorem sum_count_remapSection (result : AllocationResult) (modNames : List String) :
    (((modNames.filter result.hasMoved).map result.remapSection).map RemapSection.count).sum =
      (modNames.map fun modName => (result.mappingOf modName).remapCount).sum := by
  induction modNames with
  | nil => rfl
  | cons modName modNames inductionHypothesis =>
      rw [List.map_cons, List.sum_cons, ← inductionHypothesis,
        ModMapping.remapCount_eq_length_remaps]
      by_cases moved : result.hasMoved modName = true
      · rw [List.filter_cons_of_pos moved, List.map_cons, List.map_cons, List.sum_cons,
          remapSection, RemapSection.count_ofRemaps]
      · rw [List.filter_cons_of_neg moved, remaps_eq_nil_of_not_hasMoved moved, List.length_nil,
          Nat.zero_add]

theorem remapCount_eq_sum (distinct : (definitions.map (·.modName)).Nodup)
    (allocated : allocate ranges definitions = .ok result) :
    result.remapCount = (((inNameOrder definitions).map (·.modName)).map fun modName =>
      (result.mappingOf modName).remapCount).sum := by
  rw [remapCount, toList_mappings_of_allocate distinct allocated, List.foldl_map, List.map_map,
    List.sum_eq_foldl, List.foldl_map]
  rfl

/-- The sections on the mods that had ids moved, in the order of names. -/
def remapSections (result : AllocationResult) (definitions : List ModDefinition) :
    List RemapSection :=
  (((inNameOrder definitions).map (·.modName)).filter result.hasMoved).map result.remapSection

/-- What a report has on collisions ends with the sections. -/
theorem markdownCollisions_eq (distinct : (definitions.map (·.modName)).Nodup)
    (allocated : allocate ranges definitions = .ok result) (collide : result.collisions ≠ []) :
    result.markdownCollisions result.mappings.toList = result.markdownCollisions [] ++
      (result.remapSections definitions).flatMap RemapSection.lines := by
  rw [remapSections, ← flatMap_markdownModSection, markdownCollisions, markdownCollisions,
    if_neg (by simpa using collide), if_neg (by simpa using collide),
    toList_mappings_of_allocate distinct allocated, List.flatMap_map, List.flatMap_map,
    List.flatMap_nil, List.append_nil]

/-- Without collisions a report does not tell which ids moved. -/
theorem markdownReport_of_collisions_eq_nil (noCollision : result.collisions = [])
    (generated : Timestamp) (mods : List (String × ModMapping)) :
    result.markdownReport generated mods =
      "\n".intercalate (result.markdownSummary generated ++
        if result.sharedEdits.isEmpty then ["*No conflicts detected.*"]
        else result.markdownSharedEdits) := by
  rw [markdownReport, markdownCollisions, noCollision]
  rfl

/-- What a report to be kept says about moved ids. If mods collide there is one section on each mod
that had ids moved, in the order of names. It shows the first of its moved ids in order and tells
how many it leaves out, so that the sections account for all ids that the summary counts. If no
mods collide there are no sections. -/
theorem remap_sections_of_allocate (distinct : (definitions.map (·.modName)).Nodup)
    (allocated : allocate ranges definitions = .ok result) (generated : Timestamp) :
    (result.collisions ≠ [] → ∃ sections : List RemapSection,
      result.markdownReport generated result.mappings.toList =
        "\n".intercalate (result.markdownSummary generated ++ result.markdownCollisions [] ++
          sections.flatMap RemapSection.lines ++ result.markdownSharedEdits) ∧
      sections.map (·.modName) =
        ((inNameOrder definitions).map (·.modName)).filter result.hasMoved ∧
      (∀ part ∈ sections, part.shown = (result.mappingOf part.modName).remaps.take 50 ∧
        part.leftOut = (result.mappingOf part.modName).remaps.length - 50) ∧
      "- Remapped ids: " ++ Text.decimalString ((sections.map RemapSection.count).sum : Nat) ∈
        result.markdownSummary generated) ∧
    (result.collisions = [] → ∀ mods, result.markdownReport generated mods =
      "\n".intercalate (result.markdownSummary generated ++
        if result.sharedEdits.isEmpty then ["*No conflicts detected.*"]
        else result.markdownSharedEdits)) := by
  refine ⟨fun collide => ⟨result.remapSections definitions, ?_, ?_, fun part member => ?_, ?_⟩,
    fun noCollision mods => ?_⟩
  · rw [markdownReport, if_neg (by simp [collide]),
      markdownCollisions_eq distinct allocated collide]
    simp only [List.append_assoc]
  · rw [remapSections, List.map_map]
    exact List.map_id _
  · obtain ⟨modName, -, rfl⟩ := List.mem_map.1 member
    exact ⟨rfl, rfl⟩
  · rw [remapSections, sum_count_remapSection, ← remapCount_eq_sum distinct allocated,
      markdownSummary]
    simp
  · exact markdownReport_of_collisions_eq_nil noCollision generated mods

/-- A moment to report at. -/
def reportMoment : Timestamp :=
  ⟨2024, 1, 2, 3, 4, 5⟩

theorem remap_sections_of_allocate_overlappingMods :
    ∃ result, allocate defaultRanges overlappingMods = .ok result ∧ result.collisions ≠ [] ∧
      ∃ sections : List RemapSection,
        result.markdownReport reportMoment result.mappings.toList =
          "\n".intercalate (result.markdownSummary reportMoment ++ result.markdownCollisions [] ++
            sections.flatMap RemapSection.lines ++ result.markdownSharedEdits) ∧
        sections.map (·.modName) = ["Caelum"] := by
  have ordered : inNameOrder overlappingMods = overlappingMods :=
    inNameOrder_of_pairwise (by decide +kernel)
  have outcome : ((allocate defaultRanges overlappingMods).toOption.any fun result =>
      !result.collisions.isEmpty && ((overlappingMods.map (·.modName)).filter result.hasMoved ==
        ["Caelum"])) = true := by
    rw [allocate, ordered]
    decide +kernel
  cases allocated : allocate defaultRanges overlappingMods with
  | error error => simp [allocated, Except.toOption] at outcome
  | ok result =>
      simp only [allocated, Except.toOption, Option.any_some, Bool.and_eq_true, beq_iff_eq,
        Bool.not_eq_true', List.isEmpty_eq_false_iff] at outcome
      obtain ⟨sections, report, names, -⟩ :=
        (remap_sections_of_allocate (by decide) allocated reportMoment).1 outcome.1
      rw [ordered, outcome.2] at names
      exact ⟨result, rfl, outcome.1, sections, report, names⟩

/-- A mod that numbers a monster outside the range of monsters. -/
def strayMod : ModDefinition :=
  ({ modName := "Abysia" } : ModDefinition).recordDefined .monster 30000

/-- An id that moved although no mods collide is counted, but the mod has no section. -/
theorem exists_markdownReport_without_section :
    ∃ result, allocate defaultRanges [strayMod] = .ok result ∧
      (result.mappingOf "Abysia").remaps = [⟨.monster, 30000, 13500⟩] ∧
      "- Remapped ids: 1" ∈ result.markdownSummary reportMoment ∧
      ∀ mods, ¬ "Abysia".toList <:+: (result.markdownReport reportMoment mods).toList := by
  have outcome : ((allocate defaultRanges [strayMod]).toOption.any fun result =>
      result.collisions.isEmpty &&
        (result.mappingOf "Abysia").remaps == [⟨.monster, 30000, 13500⟩] &&
        (result.markdownSummary reportMoment).contains "- Remapped ids: 1" &&
        !decide ("Abysia".toList <:+: (result.markdownReport reportMoment []).toList)) = true := by
    rw [allocate, inNameOrder_of_pairwise (by decide +kernel)]
    decide +kernel
  cases allocated : allocate defaultRanges [strayMod] with
  | error error => simp [allocated, Except.toOption] at outcome
  | ok result =>
      simp only [allocated, Except.toOption, Option.any_some, Bool.and_eq_true, beq_iff_eq,
        List.isEmpty_iff, List.contains_iff_mem, Bool.not_eq_true', decide_eq_false_iff_not]
        at outcome
      obtain ⟨⟨⟨noCollision, remaps⟩, counted⟩, notNamed⟩ := outcome
      refine ⟨result, rfl, remaps, counted, fun mods => ?_⟩
      rwa [markdownReport_of_collisions_eq_nil noCollision] at notNamed ⊢

end AllocationResult

end
end ModMerge
