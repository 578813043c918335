import ModMerge.Proofs.Merge.Prepared
import ModMerge.Proofs.Settings.ModNames

/-!
# Where a merge writes

Settings that have nothing wrong with them give the merged mod a clean name (`IsCleanName`), but
for a line feed that may end it. It names the directory of the merged mod as well as its file, and
so that file and its temporary name are in this directory of the output directory, whatever tree
there is. A merge without a report touches no other file.
-/

namespace ModMerge

open FileTree

/-! ### Clean names -/

/-- A name of ASCII letters, digits, underscores and hyphens, and so without anything that ends,
parts or hides a name. -/
structure IsCleanName (name : List Char) : Prop where
  notEmpty : name ≠ []
  allowed : ∀ character ∈ name,
    character.isAlphanum = true ∨ character = '_' ∨ character = '-'
  noBlank : ∀ character ∈ name, Text.isBlank character = false
  noDot : '.' ∉ name
  noSeparator : '/' ∉ name

section Names

variable {name text : List Char}

theorem isCleanName_of_allowed (notEmpty : name ≠ [])
    (allowed : ∀ character ∈ name, isModNameChar character = true) : IsCleanName name where
  notEmpty := notEmpty
  allowed character member := isModNameChar_iff.1 (allowed character member)
  noBlank character member := not_isBlank_of_isModNameChar (allowed character member)
  noDot member := absurd (allowed _ member) (by decide)
  noSeparator member := absurd (allowed _ member) (by decide)

/-- A name that passes is clean, unless a line feed ends it. -/
theorem exists_isCleanName_of_isModName (accepted : isModName text = true) :
    ∃ name, IsCleanName name ∧ (text = name ∨ text = name ++ ['\n']) := by
  obtain ⟨name, notEmpty, allowed, whole⟩ := isModName_iff.1 accepted
  exact ⟨name, isCleanName_of_allowed notEmpty allowed, whole⟩

theorem isPathName_of_isModName {name : String} (accepted : isModName name.toList = true) :
    isPathName name = true := by
  obtain ⟨clean, isClean, whole⟩ := exists_isCleanName_of_isModName accepted
  have absent : ∀ {character : Char}, character ∉ clean → character ≠ '\n' →
      character ∉ name.toList := by
    intro character notClean notLineFeed member
    rcases whole with whole | whole <;> rw [whole] at member
    · exact notClean member
    · exact (List.mem_append.1 member).elim notClean fun isLast =>
        notLineFeed (List.mem_singleton.1 isLast)
  refine FilePath.isPathName_iff.2 ⟨?_, ?_, absent isClean.noSeparator (by decide)⟩
  · rintro rfl
    rcases whole with whole | whole
    · exact isClean.notEmpty whole.symm
    · exact List.append_ne_nil_of_right_ne_nil clean (List.cons_ne_nil _ _) whole.symm
  · rintro rfl
    exact absent isClean.noDot (by decide) (by decide)

end Names

/-! ### The place of the merged file -/

section Place

variable {settings : MergeSettings} {surroundings : Surroundings} {directory path : FilePath}

/-- The merged file and its temporary name are in a directory of the output directory that has the
name of the mod. -/
theorem exists_outputPath (accepted : isModName settings.modNameText.toList = true)
    (writable : settings.modName.Writable)
    (isDirectory : settings.outputDirectoryPath surroundings = .ok directory) :
    ∃ path temporary, settings.outputPath surroundings = .ok path ∧
      path.root = directory.root ∧
      path.names = directory.names ++ [settings.modNameText, settings.modNameText ++ ".dm"] ∧
      FileStore.temporaryPath? path = some temporary ∧ temporary.root = directory.root ∧
      temporary.names =
        directory.names ++ [settings.modNameText, settings.modNameText ++ ".dm" ++ ".tmp"] := by
  have isName := isPathName_of_isModName accepted
  have isFileName : isPathName (settings.modNameText ++ ".dm") = true :=
    FilePath.isPathName_append isName (by decide)
  obtain ⟨relative, ofName⟩ := FilePath.ofText_of_isPathName isName
  obtain ⟨relativeFile, ofFileName⟩ := FilePath.ofText_of_isPathName isFileName
  let nested := directory / .ofText settings.modNameText
  obtain ⟨sameRoot, modNames⟩ := FilePath.names_div directory relative
  obtain ⟨sameRoot', names⟩ := FilePath.names_div nested relativeFile
  rw [sameRoot] at sameRoot'
  rw [modNames, ofName, ofFileName] at names
  let path := nested / .ofText (settings.modNameText ++ ".dm")
  obtain ⟨temporary, isTemporary⟩ :
      ∃ temporary, FileStore.temporaryPath? path = some temporary := by
    refine ⟨_, Option.map_eq_some_iff.2 ⟨settings.modNameText ++ ".dm", ?_, rfl⟩⟩
    rw [FilePath.name?, names, List.getLast?_concat]
  obtain ⟨last, split, temporaryRoot, temporaryNames⟩ :=
    FilePath.names_of_temporaryPath? isTemporary
  obtain ⟨inDirectory, isLast⟩ := List.append_inj' (names.symm.trans split) rfl
  rw [← inDirectory, ← List.singleton_inj.1 isLast, List.append_assoc] at temporaryNames
  rw [List.append_assoc] at names
  refine ⟨path, temporary, ?_, sameRoot', names, isTemporary, temporaryRoot.trans sameRoot',
    temporaryNames⟩
  have written : MergeSettings.requireTexts [settings.modName] = .ok () :=
    MergeSettings.requireTexts_eq_ok_iff.2 (List.forall_mem_singleton.2 writable)
  rw [MergeSettings.outputPath, bind_of_eq_ok isDirectory, bind_of_eq_ok written]
  rfl

end Place

/-! ### What a merge touches -/

section Merging

variable {settings : MergeSettings} {surroundings : Surroundings} {moment : Timestamp}
  {sources : List ModSource} {tree after : FileTree} {summary : MergeSummary}

/-- A merge without a report saves its file, and touches no other one but what was under the
temporary name of that file. -/
theorem file?_of_merge
    (ran : tree.run (merge settings surroundings moment sources none) = (.ok summary, after)) :
    settings.outputPath surroundings = .ok summary.path ∧
    (after.file? (tree.goal summary.path)).isSome ∧
    ∃ temporary, FileStore.temporaryPath? summary.path = some temporary ∧
      ∀ place, place ≠ tree.goal summary.path →
        after.file? place = if place = tree.goal temporary then none else tree.file? place := by
  rcases run_merge settings surroundings moment sources tree with
    ⟨stop, ended⟩ | ⟨⟨prepared⟩⟩
  · rw [ended none] at ran
    cases ran
  · rw [prepared.run_merge_eq] at ran
    obtain ⟨_, saved, isSaved, returned⟩ := run_bind_eq_ok.1 ran
    cases returned
    obtain ⟨temporary, made, isTemporary, grown, replaced⟩ :=
      exists_replaced_of_writeAtomic (run_adapt_eq_ok.1 isSaved)
    have isFile := file?_eq_some.2 replaced.saved
    have cleared := replaced.cleared (FilePath.goal_ne_of_temporaryPath? made isTemporary)
    have others := replaced.others
    rw [grown.goal] at isFile cleared
    simp only [grown.goal] at others
    refine ⟨prepared.named, ?_, temporary, isTemporary, fun place elsewhere => ?_⟩
    · exact Option.isSome_iff_exists.2 ⟨_, isFile⟩
    · split
      · rename_i isTemporaryPlace
        rw [isTemporaryPlace, file?, cleared]
      · rename_i notTemporary
        rw [file?_congr (others place elsewhere notTemporary), grown.sameFiles.file?]

/-- Settings that have nothing wrong with them have a clean name, but for a line feed that may end
it. Their merged file and its temporary name are in a directory of the output directory that has
this name, and whatever is merged into whatever tree, only what is under these two is touched: the
file is there, nothing is left under the temporary name, and every other file is as it was. -/
theorem clean_output_of_no_problems {settings : MergeSettings}
    (noProblems : settings.problems = .ok []) :
    (∃ name, IsCleanName name ∧
      (settings.modNameText.toList = name ∨ settings.modNameText.toList = name ++ ['\n'])) ∧
    (∀ surroundings directory, settings.outputDirectoryPath surroundings = .ok directory →
      ∃ path temporary, settings.outputPath surroundings = .ok path ∧
        path.root = directory.root ∧
        path.names = directory.names ++ [settings.modNameText, settings.modNameText ++ ".dm"] ∧
        FileStore.temporaryPath? path = some temporary ∧ temporary.root = directory.root ∧
        temporary.names =
          directory.names ++ [settings.modNameText, settings.modNameText ++ ".dm" ++ ".tmp"]) ∧
    ∀ surroundings moment sources (tree : FileTree) (summary : MergeSummary) (after : FileTree),
      tree.run (merge settings surroundings moment sources none) = (.ok summary, after) →
      settings.outputPath surroundings = .ok summary.path ∧
      (after.file? (tree.goal summary.path)).isSome ∧
      ∃ temporary, FileStore.temporaryPath? summary.path = some temporary ∧
        ∀ place, place ≠ tree.goal summary.path →
          after.file? place = if place = tree.goal temporary then none else tree.file? place := by
  have accepted : isModName settings.modNameText.toList = true := by
    by_contra refused
    obtain ⟨name, isProblem⟩ :=
      (modName_mem_problems_iff noProblems).2 (Bool.eq_false_iff.2 refused)
    cases isProblem
  exact ⟨exists_isCleanName_of_isModName accepted,
    fun _ _ isDirectory => exists_outputPath accepted
      (MergeSettings.writable_of_problems noProblems _ List.mem_cons_self) isDirectory,
    fun _ _ _ _ _ _ ran => file?_of_merge ran⟩

theorem clean_output_of_no_problems_plainSettings :
    plainSettings.problems = .ok [] ∧
    (∃ name, IsCleanName name ∧
      (plainSettings.modNameText.toList = name ∨
        plainSettings.modNameText.toList = name ++ ['\n'])) ∧
    (∃ path temporary, plainSettings.outputPath plainSurroundings = .ok path ∧
      path.names = ["out", "Merged_Mod", "Merged_Mod.dm"] ∧
      FileStore.temporaryPath? path = some temporary ∧
      temporary.names = ["out", "Merged_Mod", "Merged_Mod.dm.tmp"]) ∧
    ∃ summary after, (FileTree.empty ["work"]).run
        (plainMerge [{ name := "Abysia", script := "#newmonster 5000\n#end".toList }] none) =
        (.ok summary, after) ∧
      ∃ temporary, FileStore.temporaryPath? summary.path = some temporary ∧
        ∀ place, place ≠ (FileTree.empty ["work"]).goal summary.path →
          after.file? place = if place = (FileTree.empty ["work"]).goal temporary then none
            else (FileTree.empty ["work"]).file? place := by
  have noProblems : plainSettings.problems = .ok [] := by
    decide +kernel
  obtain ⟨clean, placed, touched⟩ := clean_output_of_no_problems noProblems
  refine ⟨noProblems, clean, ?_, ?_⟩
  · obtain ⟨path, temporary, isPath, -, names, isTemporary, -, temporaryNames⟩ :=
      placed plainSurroundings (.ofText "out") (by decide +kernel)
    exact ⟨path, temporary, isPath, names.trans (by decide +kernel), isTemporary,
      temporaryNames.trans (by decide +kernel)⟩
  · have succeeds : ((FileTree.empty ["work"]).run (plainMerge
        [{ name := "Abysia", script := "#newmonster 5000\n#end".toList }] none)).1.isOk = true := by
      decide +kernel
    rcases outcome : (FileTree.empty ["work"]).run (plainMerge
        [{ name := "Abysia", script := "#newmonster 5000\n#end".toList }] none) with
      ⟨stop | summary, after⟩
    · rw [outcome] at succeeds
      cases succeeds
    · obtain ⟨-, -, onlyThese⟩ := touched _ _ _ _ summary after outcome
      exact ⟨summary, after, rfl, onlyThese⟩

/-- A name that ends in a line feed passes and is not clean. -/
theorem exists_no_problems_not_isCleanName :
    ∃ settings : MergeSettings, settings.problems = .ok [] ∧
      ¬ IsCleanName settings.modNameText.toList :=
  ⟨{ plainSettings with modName := .ofText "ok\n" }, by decide +kernel, fun clean =>
    absurd (clean.noBlank '\n' (by decide +kernel)) (by decide)⟩

end Merging

end ModMerge
