import ModMerge.Proofs.Files.WholeFiles
import ModMerge.Proofs.Merge.Prepared

/-!
# What a failed merge leaves behind

The merged file is saved as a whole or not at all, and so is the report. The two are not saved
together: when it is the report that is refused, the merged file stays. A store may refuse more
than that. If it refuses to rename what was written, and then to remove it, that stays as well,
under its temporary name (`LeftTemporary`).
-/

namespace ModMerge

open FileTree TreeStore

variable {settings : MergeSettings} {surroundings : Surroundings} {moment : Timestamp}
  {sources : List ModSource} {path : FilePath}

/-- A saved mod file leaves free what was free for another file. -/
theorem freeToSave_of_saved {before after : FileTree} {bytes : List UInt8} {modPath : FilePath}
    (free : before.FreeToSave path) (saved : Saved (before.goal modPath) bytes before after)
    (isMod : modPath.EndsIn ".dm") : after.FreeToSave path := by
  intro temporary isTemporary
  have different := FilePath.goal_ne_of_endsIn before isMod
    (FilePath.endsIn_of_temporaryPath? isTemporary)
  rw [saved.goal, saved.others _ different.symm]
  exact free temporary isTemporary

section

variable {Store : Type} [FileStore (StateM Store)] [TreeStore Store] {store after : Store}

/-- The store has the files of the tree and one more, which was to get the given path and is still
under its temporary name, since its removal was refused. -/
def LeftTemporary (path : FilePath) (before : FileTree) (after : Store) : Prop :=
  ∃ temporary bytes refusal, FileStore.temporaryPath? path = some temporary ∧
    Saved (before.goal temporary) bytes before (treeOf after) ∧
    RemovalRefused temporary refusal after

/-- A file of a merge is saved, or it is refused and every file is as it was, unless the removal of
what was written is refused too. What is found out about the input names the merged file, whichever
file was refused. -/
theorem saved_or_refused_of_saveFile (outputPath : FilePath) (text : List Char)
    (warnings : List MergeWarning) (free : (treeOf store).FreeToSave path) :
    (∃ after, runOn store (saveFile outputPath path text warnings) = (.ok (), after) ∧
      Saved ((treeOf store).goal path) (Text.utf8Bytes text) (treeOf store) (treeOf after)) ∨
    ∃ stop after, runOn store (saveFile outputPath path text warnings) = (.error stop, after) ∧
      (SameFiles (treeOf store) (treeOf after) ∨ LeftTemporary path (treeOf store) after) ∧
      ∀ failure passed, stop = .failed failure passed →
        passed = warnings ∧ ∃ error, failure = .notWritten outputPath error := by
  rw [saveFile, runOn_adapt]
  rcases ran : runOn store (FileStore.writeAtomic path (Text.utf8Bytes text)) with
    ⟨error | ⟨⟨⟩⟩, after⟩
  · refine .inr ⟨_, after, rfl, ?_, ?_⟩
    · rcases grownAlong_or_left_of_writeAtomic free ran with
        grown | ⟨temporary, refusal, between, isTemporary, -, grown, writes, isRefused⟩
      · exact .inl grown.sameFiles
      · have saved := (saved_of_write writes).1
        rw [grown.goal] at saved
        exact .inr ⟨temporary, _, refusal, isTemporary, saved.ofSameFiles grown.sameFiles,
          isRefused⟩
    · rintro failure passed isFailure
      dsimp only at isFailure
      split at isFailure
      · split at isFailure
        · cases isFailure
        · cases isFailure
          exact ⟨rfl, _, rfl⟩
      · cases isFailure
  · obtain ⟨temporary, between, isTemporary, grown, replaced⟩ := exists_replaced_of_writeAtomic ran
    have stillFree : between.file? (between.goal temporary) = none := by
      rw [grown.goal, grown.sameFiles.file?]
      exact free temporary isTemporary
    have saved := replaced.savedFile stillFree
    rw [grown.goal] at saved
    exact .inl ⟨after, rfl, saved.ofSameFiles grown.sameFiles⟩

/-- A merge that has ended early has left every file as it was, as it does without a report, unless
all that was refused is its report: then the merged file has been saved as a whole, as it is without
a report, and no other file was touched. In both cases there may be one file more, that which was
refused, if its removal from its temporary name was refused as well. -/
theorem sameFiles_or_saved_of_failed (store : Store) {reportPath : Option FilePath}
    {stop : MergeStop}
    (free : ∀ path, settings.outputPath surroundings = .ok path → (treeOf store).FreeToSave path)
    (freeReport : ∀ path, reportPath = some path → (treeOf store).FreeToSave path)
    (ended : runOn store (merge settings surroundings moment sources reportPath) =
      (.error stop, after)) :
    (runOn store (merge settings surroundings moment sources none) = (.error stop, after) ∧
      (SameFiles (treeOf store) (treeOf after) ∨
        ∃ path, settings.outputPath surroundings = .ok path ∧
          LeftTemporary path (treeOf store) after)) ∨
    ∃ report summary saved bytes, reportPath = some report ∧
      runOn store (merge settings surroundings moment sources none) = (.ok summary, saved) ∧
      settings.outputPath surroundings = .ok summary.path ∧
      Saved ((treeOf store).goal summary.path) bytes (treeOf store) (treeOf saved) ∧
      (SameFiles (treeOf saved) (treeOf after) ∨ LeftTemporary report (treeOf saved) after) ∧
      ∀ failure passed, stop = .failed failure passed →
        passed = summary.warnings ∧ ∃ error, failure = .notWritten summary.path error := by
  rcases runOn_merge settings surroundings moment sources store with ⟨refusal, ran⟩ | ⟨⟨prepared⟩⟩
  · rw [ran reportPath] at ended
    cases ended
    exact .inl ⟨ran none, .inl (.refl _)⟩
  rw [prepared.runOn_merge_eq store, PreparedMerge.save, runOn_bind] at ended ⊢
  rcases saved_or_refused_of_saveFile prepared.path prepared.text prepared.summary.warnings
    (free _ prepared.named) with ⟨saved, ranSave, isSaved⟩ | ⟨refusal, left, refused, kept, -⟩
  · rw [ranSave] at ended ⊢
    cases reportPath with
    | none => cases ended
    | some report =>
        dsimp only at ended
        rw [runOn_bind] at ended
        have freeForReport : (treeOf saved).FreeToSave report :=
          freeToSave_of_saved (freeReport report rfl) isSaved (endsIn_of_outputPath prepared.named)
        rcases saved_or_refused_of_saveFile prepared.path (prepared.plan.report moment).toList
          prepared.summary.warnings freeForReport with
          ⟨finished, ranReport, -⟩ | ⟨refusal, left, refused, kept, found⟩
        · rw [ranReport] at ended
          cases ended
        · rw [refused] at ended
          cases ended
          exact .inr ⟨report, prepared.summary, saved, _, rfl, rfl, prepared.named, isSaved, kept,
            found⟩
  · rw [refused] at ended ⊢
    cases ended
    exact .inl ⟨rfl, kept.imp_right fun left => ⟨prepared.path, prepared.named, left⟩⟩

end

/-- The merge of a single mod into a store, with a report if there is a path for one. -/
def singleMerge {Store : Type} [FileStore (StateM Store)] (store : Store)
    (reportPath : Option FilePath) : Except MergeStop MergeSummary × Store :=
  runOn store (merge plainSettings plainSurroundings plainMoment
    [{ name := "Abysia", script := "#newmonster 5000\n#end".toList }] reportPath)

/-- A working directory with a file where a report would need a directory. -/
def obstructedTree : FileTree where
  workingDirectory := ["work"]
  nodes := [(["work", "blocked"], .file []), (["work"], .directory)]

/-- An empty working directory where the fifth change is refused, and the sixth as well: renaming
what was written, if its two directories had to be made, and removing it. -/
def failingDisk : UnreliableTree where
  tree := .empty ["work"]
  refusals := [none, none, none, none, some ⟨.other 5 "Input/output error", by decide⟩,
    some ⟨.other 5 "Input/output error", by decide⟩]

theorem sameFiles_or_saved_of_failed_obstructedTree :
    ∃ stop after summary saved bytes,
      singleMerge obstructedTree (some (.ofText "blocked/report.md")) = (.error stop, after) ∧
      singleMerge obstructedTree none = (.ok summary, saved) ∧
      Saved (obstructedTree.goal summary.path) bytes obstructedTree saved ∧
      (SameFiles saved after ∨ LeftTemporary (.ofText "blocked/report.md") saved after) := by
  have freeForOutput : ∀ path, plainSettings.outputPath plainSurroundings = .ok path →
      (treeOf obstructedTree).FreeToSave path := by
    intro path isPath temporary isTemporary
    obtain rfl : .ofText "out/Merged_Mod/Merged_Mod.dm" = path :=
      Except.ok.inj (Eq.trans (by decide +kernel) isPath)
    obtain rfl : .ofText "out/Merged_Mod/Merged_Mod.dm.tmp" = temporary :=
      Option.some.inj (Eq.trans (by decide +kernel) isTemporary)
    decide +kernel
  have freeForReport : ∀ path, some (.ofText "blocked/report.md") = some path →
      (treeOf obstructedTree).FreeToSave path := by
    rintro path ⟨⟩ temporary isTemporary
    obtain rfl : .ofText "blocked/report.md.tmp" = temporary :=
      Option.some.inj (Eq.trans (by decide +kernel) isTemporary)
    decide +kernel
  have fails :
      (singleMerge obstructedTree (some (.ofText "blocked/report.md"))).1.isOk = false := by
    decide +kernel
  have succeeds : (singleMerge obstructedTree none).1.isOk = true := by
    decide +kernel
  rcases outcome : singleMerge obstructedTree (some (.ofText "blocked/report.md")) with
    ⟨stop | summary, after⟩
  · rcases sameFiles_or_saved_of_failed obstructedTree freeForOutput freeForReport outcome with
      ⟨refused, -⟩ | ⟨report, summary, saved, bytes, isReport, ran, -, isSaved, kept, -⟩
    · have refusedAlone : singleMerge obstructedTree none = (.error stop, after) := refused
      rw [refusedAlone] at succeeds
      cases succeeds
    · cases isReport
      exact ⟨stop, after, summary, saved, bytes, rfl, ran, isSaved, kept⟩
  · rw [outcome] at fails
    cases fails

/-- What a merge failed with can be looked for. -/
theorem exists_failed {Store : Type} (outcome : Except MergeStop MergeSummary × Store)
    (fails : (match outcome.1 with
      | .error (.failed ..) => true
      | _ => false) = true) :
    ∃ failure warnings, outcome = (.error (.failed failure warnings), outcome.2) := by
  obtain ⟨result, after⟩ := outcome
  split at fails
  · rename_i failure warnings isFailure
    exact ⟨failure, warnings, congrArg (·, after) isFailure⟩
  · cases fails

/-- A merge of which only the report is refused fails, and yet there is a file that there was
not before. So there is if a disk refuses to rename the merged file, and then to remove it. -/
theorem exists_failed_not_sameFiles :
    (∃ failure warnings after,
      singleMerge obstructedTree (some (.ofText "blocked/report.md")) =
        (.error (.failed failure warnings), after) ∧
      obstructedTree.file? ["work", "out", "Merged_Mod", "Merged_Mod.dm"] = none ∧
      (after.file? ["work", "out", "Merged_Mod", "Merged_Mod.dm"]).isSome ∧
      ¬ SameFiles obstructedTree after) ∧
    ∃ failure warnings after,
      singleMerge failingDisk none = (.error (.failed failure warnings), after) ∧
      failingDisk.tree.file? ["work", "out", "Merged_Mod", "Merged_Mod.dm.tmp"] = none ∧
      (after.tree.file? ["work", "out", "Merged_Mod", "Merged_Mod.dm.tmp"]).isSome ∧
      ¬ SameFiles failingDisk.tree after.tree := by
  constructor
  · obtain ⟨failure, warnings, outcome⟩ :=
      exists_failed (singleMerge obstructedTree (some (.ofText "blocked/report.md")))
        (by decide +kernel)
    have appears : ((singleMerge obstructedTree (some (.ofText "blocked/report.md"))).2.file?
        ["work", "out", "Merged_Mod", "Merged_Mod.dm"]).isSome = true := by
      decide +kernel
    refine ⟨failure, warnings, _, outcome, rfl, appears, fun same => ?_⟩
    rw [same.file?] at appears
    exact absurd appears (by decide)
  · obtain ⟨failure, warnings, outcome⟩ :=
      exists_failed (singleMerge failingDisk none) (by decide +kernel)
    have appears : ((singleMerge failingDisk none).2.tree.file?
        ["work", "out", "Merged_Mod", "Merged_Mod.dm.tmp"]).isSome = true := by
      decide +kernel
    refine ⟨failure, warnings, _, outcome, rfl, appears, fun same => ?_⟩
    rw [same.file?] at appears
    exact absurd appears (by decide)

end ModMerge
