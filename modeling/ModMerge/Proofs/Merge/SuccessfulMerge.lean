import ModMerge.Proofs.Merge.MergedContent
import ModMerge.Proofs.Mod.Transcripts

/-!
# Merges that succeed

Once all mods have been read and have their ids, nothing about them can make a merge fail: each of
them can be renumbered. What is left are the settings, the names of the mods and the files that
are to be written.
-/

namespace ModMerge

open FileTree

/-! ### Frozen mods -/

theorem inNameOrder_map_freeze (definitions : List ModDefinition) :
    inNameOrder (definitions.map (·.freeze)) = (inNameOrder definitions).map (·.freeze) := by
  rw [inNameOrder, inNameOrder, List.map_mergeSort]
  exact fun _ _ _ _ => rfl

theorem allocateAll_map_freeze (ranges : RangeTable) (ordered : List ModDefinition) :
    allocateAll ranges (ordered.map (·.freeze)) = allocateAll ranges ordered := by
  rw [allocateAll, allocateAll, allocateImplicit, allocateImplicit, Allocation.initial,
    Allocation.initial, List.flatMap_map, List.flatMap_map, List.foldl_map, List.foldl_map]
  rfl

theorem sharedEditConflicts_map_freeze (ordered : List ModDefinition) :
    sharedEditConflicts (ordered.map (·.freeze)) = sharedEditConflicts ordered := by
  have sameEditors : editorsOf (ordered.map (·.freeze)) = editorsOf ordered := by
    funext type id
    rw [editorsOf, editorsOf, List.filter_map, List.map_map]
    rfl
  have sameIds : editedIds (ordered.map (·.freeze)) = editedIds ordered := by
    funext type
    rw [editedIds, editedIds, List.foldl_map]
    rfl
  simp only [sharedEditConflicts, sharedEdits, sameEditors, sameIds]

theorem resolveAllNames_map_freeze (mappings : Std.TreeMap String ModMapping)
    (ordered : List ModDefinition) :
    resolveAllNames mappings (ordered.map (·.freeze)) = resolveAllNames mappings ordered := by
  rw [resolveAllNames, resolveAllNames, List.foldlM_map]
  rfl

/-- It makes no difference to an allocation whether mods are frozen. -/
theorem allocate_map_freeze (ranges : RangeTable) (definitions : List ModDefinition) :
    allocate ranges (definitions.map (·.freeze)) = allocate ranges definitions := by
  simp only [allocate, inNameOrder_map_freeze, allocateAll_map_freeze,
    sharedEditConflicts_map_freeze, resolveAllNames_map_freeze]

/-! ### Mods that are ready -/

section

variable {result : AllocationResult}

/-- A mod that is ready can be renumbered. -/
theorem BodyItem.Ready.exists_renumber {item : BodyItem} (ready : item.Ready result) :
    ∃ renumbered, (result.mappingOf item.definition.modName).renumber item.definition.modName
      item.script = .ok renumbered := by
  obtain ⟨definition, parsed, isFrozen⟩ := ready.parsed
  obtain ⟨renumbered, renumbersTo⟩ := exists_renumbersTo parsed fun type => by
    rw [ready.provides.implicitIds, isFrozen]
    rfl
  exact ⟨renumbered, renumbersTo.eq_ok ready.provides.sound.shortIds⟩

/-- Mods that are all ready can be written, one after another: each is renumbered with its own
mapping, which releasing the mappings of mods before it leaves alone. -/
theorem MergedBody.exists_write {items : List BodyItem}
    (ready : ∀ item ∈ items, item.Ready result)
    (distinct : (items.map (·.definition.modName)).Nodup) :
    ∃ body, MergedBody.write result.mappings items = .ok body := by
  let Untouched := fun (_ rest : List BodyItem) (body : MergedBody) =>
    (∀ item ∈ rest, item.Ready result) ∧ (rest.map (·.definition.modName)).Nodup ∧
      ∀ item ∈ rest, body.mappings.getD item.definition.modName
        { modName := item.definition.modName } = result.mappingOf item.definition.modName
  have advances : ∀ done next rest before, Untouched done (next :: rest) before →
      ∃ after, before.addMod next = .ok after ∧ Untouched (done ++ [next]) rest after := by
    rintro done next rest before ⟨ready, distinct, mappings⟩
    rw [List.map_cons, List.nodup_cons] at distinct
    obtain ⟨renumbered, renumberEq⟩ := (ready next List.mem_cons_self).exists_renumber
    rw [← mappings next List.mem_cons_self] at renumberEq
    refine ⟨_, bind_eq_ok.2 ⟨renumbered, renumberEq, rfl⟩,
      fun item member => ready item (List.mem_cons_of_mem next member), distinct.2,
      fun item member => ?_⟩
    have different : next.definition.modName ≠ item.definition.modName := fun same =>
      distinct.1 (same ▸ List.mem_map_of_mem member)
    rw [Std.TreeMap.getD_insert, if_neg (by rwa [compare_eq_iff_eq])]
    exact mappings item (List.mem_cons_of_mem next member)
  have begins : Untouched [] items { mappings := result.mappings } :=
    ⟨ready, distinct, fun _ _ => rfl⟩
  obtain ⟨body, added, -⟩ := exists_foldlM_eq_ok Untouched advances begins
  exact ⟨_, bind_eq_ok.2 ⟨body, added, rfl⟩⟩

end

/-! ### What a merge needs -/

variable {settings : MergeSettings} {surroundings : Surroundings} {moment : Timestamp}
  {sources : List ModSource} {tree : FileTree} {reportPath : Option FilePath}

/-- What a merge needs besides its mods: nothing is wrong with the settings, which can be written,
it can be found out whether there is an icon, and the merged file can be saved and then the report
too. -/
structure MergeSettings.Usable (settings : MergeSettings) (surroundings : Surroundings)
    (tree : FileTree) (reportPath : Option FilePath) : Prop where
  noProblems : settings.problems = .ok []
  writable : settings.description.Writable ∧ settings.version.Writable
  icon : ∃ icon, settings.iconPath surroundings = .ok icon ∧
    ∀ path ∈ icon, ∃ present, (tree.run (FileStore.isPresent path)).1 = .ok present
  output : ∃ path, settings.outputPath surroundings = .ok path ∧ tree.CanSave path ∧
    ∀ report ∈ reportPath, ∀ bytes saved,
      tree.run (FileStore.writeAtomic path bytes) = (.ok (), saved) → saved.CanSave report

theorem exists_header_of_usable (usable : settings.Usable surroundings tree reportPath)
    (moment : Timestamp) (modNames : List String) :
    ∃ header, (tree.run (MergeHeader.build settings surroundings modNames moment)).1 =
      .ok header := by
  have checked := MergeSettings.writable_of_problems usable.noProblems
  have writable : ∀ value ∈ [settings.displayName, settings.description, settings.version],
      value.Writable := by
    simp only [List.forall_mem_cons] at checked ⊢
    exact ⟨checked.2.1, usable.writable.1, usable.writable.2, nofun⟩
  suffices ∃ found, (tree.run (MergeHeader.findIcon settings surroundings)).1 = .ok found by
    obtain ⟨⟨icon, warnings⟩, found⟩ := this
    exact ⟨_, run_header_eq_ok_iff.2 ⟨writable, icon, warnings, found, rfl⟩⟩
  obtain ⟨icon, isIcon, found⟩ := usable.icon
  rw [MergeHeader.findIcon, isIcon]
  cases icon with
  | none => exact ⟨_, rfl⟩
  | some path =>
      obtain ⟨present, looked⟩ := found path rfl
      dsimp only
      rw [run_bind, run_adapt, (LooksOnly.isPresent path).run_eq tree, looked]
      cases present with
      | true => exact ⟨_, rfl⟩
      | false => exact ⟨_, rfl⟩

/-- A merge with all that it needs can be prepared if its mods have different names, can be read
and can be given ids. -/
theorem nonempty_preparedMerge {definitions : List ModDefinition}
    {result : AllocationResult} (usable : settings.Usable surroundings tree reportPath)
    (nonempty : sources ≠ []) (distinct : (sources.map (·.name)).Nodup)
    (read : readDefinitions sources = .ok definitions)
    (allocated : allocate defaultRanges definitions = .ok result) :
    Nonempty (PreparedMerge settings surroundings moment sources tree) := by
  have distinctOrdered := ModSource.nodup_names_inNameOrder_iff.2 distinct
  have checked := MergePlan.check_eq_ok_iff.2 ⟨nonempty, distinctOrdered, usable.noProblems⟩
  obtain ⟨plan, planned⟩ : ∃ plan, MergePlan.ofSources sources = .ok plan := by
    rw [← allocate_map_freeze] at allocated
    exact ⟨_, bind_eq_ok.2 ⟨definitions, mapError_eq_ok.2 read,
      bind_eq_ok.2 ⟨result, mapError_eq_ok.2 allocated, rfl⟩⟩⟩
  obtain ⟨header, headed⟩ := exists_header_of_usable usable moment plan.modNames
  obtain ⟨path, named, -⟩ := usable.output
  obtain ⟨definitions, each, -, allocated, items⟩ :=
    MergePlan.exists_definitions planned distinctOrdered
  have ready := ready_toItem each distinctOrdered allocated
  have sameNames := map_modName_toItem (forall₂_of_mapM each)
  rw [← items] at ready sameNames
  obtain ⟨body, written⟩ := MergedBody.exists_write ready (sameNames ▸ distinctOrdered)
  refine ⟨⟨plan, header, body.lines, path, bind_eq_ok.2 ⟨(), checked, planned⟩, headed, ?_,
    named⟩⟩
  rw [MergePlan.body, written]

namespace PreparedMerge

/-- The mods of a merge that is prepared have different names, and the ids of the merge are those
that an allocation to the mods as they were read gives. -/
theorem exists_allocate (prepared : PreparedMerge settings surroundings moment sources tree) :
    (sources.map (·.name)).Nodup ∧ ∃ definitions, readDefinitions sources = .ok definitions ∧
      allocate defaultRanges definitions = .ok prepared.plan.allocation := by
  obtain ⟨⟨⟩, checked, -⟩ := bind_eq_ok.1 prepared.planned
  obtain ⟨definitions, read, allocated, -⟩ := prepared.exists_definitions
  rw [allocate_map_freeze] at allocated
  have distinctOrdered := MergePlan.nodup_names_of_check checked
  exact ⟨ModSource.nodup_names_inNameOrder_iff.1 distinctOrdered, definitions, read, allocated⟩

/-- A prepared merge saves its files if they can be saved. -/
theorem exists_run_save (prepared : PreparedMerge settings surroundings moment sources tree)
    (usable : settings.Usable surroundings tree reportPath) :
    ∃ after, tree.run (prepared.save reportPath) = (.ok prepared.summary, after) := by
  obtain ⟨path, named, canSave, canReport⟩ := usable.output
  obtain rfl : prepared.path = path := Except.ok.inj (prepared.named.symm.trans named)
  obtain ⟨saved, wrote⟩ := canSave.exists_run (Text.utf8Bytes prepared.text)
  rw [save, run_bind, saveFile, run_adapt, wrote]
  cases reportPath with
  | none => exact ⟨saved, rfl⟩
  | some report =>
      obtain ⟨after, reported⟩ := (canReport report rfl _ saved wrote).exists_run
        (Text.utf8Bytes (prepared.plan.report moment).toList)
      refine ⟨after, ?_⟩
      simp only [Except.mapError, run_bind, saveFile, run_adapt, reported]
      rfl

end PreparedMerge

/-- A merge with all that it needs succeeds exactly if its mods have different names, can be read
and can be given ids. Then it tells how many of these ids moved. -/
theorem run_merge_eq_ok_iff (usable : settings.Usable surroundings tree reportPath)
    (nonempty : sources ≠ []) (remapped : Nat) :
    (∃ summary after, summary.remapped = remapped ∧
      tree.run (merge settings surroundings moment sources reportPath) = (.ok summary, after)) ↔
    (sources.map (·.name)).Nodup ∧ ∃ definitions result, readDefinitions sources = .ok definitions ∧
      allocate defaultRanges definitions = .ok result ∧ result.remapCount = remapped := by
  constructor
  · rintro ⟨summary, after, rfl, merged⟩
    rcases run_merge settings surroundings moment sources tree with ⟨refusal, ran⟩ | ⟨⟨prepared⟩⟩
    · rw [ran reportPath] at merged
      cases merged
    obtain ⟨distinct, definitions, read, allocated⟩ := prepared.exists_allocate
    obtain ⟨saved, ran⟩ := prepared.exists_run_save usable
    rw [prepared.run_merge_eq, ran] at merged
    cases merged
    exact ⟨distinct, definitions, _, read, allocated, rfl⟩
  · rintro ⟨distinct, definitions, result, read, allocated, rfl⟩
    obtain ⟨prepared⟩ : Nonempty (PreparedMerge settings surroundings moment sources tree) :=
      nonempty_preparedMerge usable nonempty distinct read allocated
    obtain ⟨-, definitions', read', allocated'⟩ := prepared.exists_allocate
    obtain rfl := Except.ok.inj (read.symm.trans read')
    obtain rfl := Except.ok.inj (allocated.symm.trans allocated')
    obtain ⟨after, ran⟩ := prepared.exists_run_save usable
    exact ⟨prepared.summary, after, rfl, by rw [prepared.run_merge_eq, ran]⟩

end ModMerge
