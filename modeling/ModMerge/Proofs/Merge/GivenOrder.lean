import ModMerge.Proofs.Merge.MergedContent

/-!
# The order in which mods are given

A merge sorts its sources by name before it does anything with them that depends on their order.
Sources of the same name could come out of this in either order, but these are refused, and the
refusal only tells the names.
-/

namespace ModMerge

section

variable {sources sources' : List ModSource}

/-- The names of the sources in order. -/
theorem map_name_inNameOrder_eq_of_perm (perm : sources.Perm sources') :
    (ModSource.inNameOrder sources).map (·.name) =
      (ModSource.inNameOrder sources').map (·.name) :=
  map_mergeSort_byName_eq_of_perm ModSource.name (perm.map _)

theorem MergePlan.check_eq_of_perm (settings : MergeSettings) (perm : sources.Perm sources') :
    MergePlan.check settings sources = MergePlan.check settings sources' := by
  rw [MergePlan.check, MergePlan.check, duplicateNames, duplicateNames,
    map_name_inNameOrder_eq_of_perm perm, perm.isEmpty_eq]

/-- Checking, reading and allocating comes to the same for sources in another order: if the check
has passed, no two of them have the same name. -/
theorem MergePlan.checked_eq_of_perm (settings : MergeSettings) (perm : sources.Perm sources') :
    (do MergePlan.check settings sources; MergePlan.ofSources sources) =
      (do MergePlan.check settings sources'; MergePlan.ofSources sources') := by
  rw [← check_eq_of_perm settings perm]
  -- Without the check, sources of the same name would stay in the order in which they were given.
  cases checked : MergePlan.check settings sources with
  | error stop => rfl
  | ok _ =>
      have distinct : (sources.map (·.name)).Nodup :=
        ModSource.nodup_names_inNameOrder_iff.1 (nodup_names_of_check checked)
      have sameOrder : ModSource.inNameOrder sources = ModSource.inNameOrder sources' :=
        mergeSort_byName_eq_of_perm ModSource.name distinct perm
      simp only [MergePlan.ofSources, readDefinitions, sameOrder]

theorem merge_eq_of_perm {m : Type → Type} [Monad m] [FileStore m] (settings : MergeSettings)
    (surroundings : Surroundings) (moment : Timestamp) (reportPath : Option FilePath)
    (perm : sources.Perm sources') :
    merge (m := m) settings surroundings moment sources reportPath =
      merge settings surroundings moment sources' reportPath := by
  rw [merge, merge, MergePlan.checked_eq_of_perm settings perm]

end

theorem allocate_eq_of_perm (ranges : RangeTable) {definitions definitions' : List ModDefinition}
    (distinct : (definitions.map (·.modName)).Nodup) (perm : definitions.Perm definitions') :
    allocate ranges definitions = allocate ranges definitions' := by
  have sameOrder : inNameOrder definitions = inNameOrder definitions' :=
    mergeSort_byName_eq_of_perm ModDefinition.modName distinct perm
  rw [allocate, allocate, sameOrder]

/-- The order in which mods are given does not matter: a merge has the same outcome and leaves the
same files, and so do allocations of mods that have different names. -/
theorem given_order_does_not_matter :
    (∀ (settings : MergeSettings) (surroundings : Surroundings) (moment : Timestamp)
        (reportPath : Option FilePath) (tree : FileTree) (sources sources' : List ModSource),
      sources.Perm sources' →
      tree.run (merge settings surroundings moment sources reportPath) =
        tree.run (merge settings surroundings moment sources' reportPath)) ∧
    ∀ (ranges : RangeTable) (definitions definitions' : List ModDefinition),
      (definitions.map (·.modName)).Nodup → definitions.Perm definitions' →
      allocate ranges definitions = allocate ranges definitions' := by
  refine ⟨?_, fun ranges definitions definitions' distinct perm =>
    allocate_eq_of_perm ranges distinct perm⟩
  intro settings surroundings moment reportPath tree sources sources' perm
  rw [merge_eq_of_perm settings surroundings moment reportPath perm]

theorem given_order_does_not_matter_overlappingMods :
    (FileTree.empty ["work"]).run (plainMerge overlappingSources none) =
      (FileTree.empty ["work"]).run (plainMerge overlappingSources.reverse none) ∧
    allocate defaultRanges overlappingMods = allocate defaultRanges overlappingMods.reverse :=
  ⟨given_order_does_not_matter.1 _ _ _ _ _ _ _ (List.reverse_perm _).symm,
    given_order_does_not_matter.2 _ _ _ (by decide) (List.reverse_perm _).symm⟩

end ModMerge
