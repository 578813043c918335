import ModMerge.CommandLine.Run
import ModMerge.Proofs.Merge.SuccessfulMerge
import ModMerge.Settings.PlainDocument

/-!
# Trying out a merge

The command that shows conflicts reads the same mods as a merge and gives them the same ids, but
writes nothing. It succeeds where the merge does, except that it does not mind mods of the same
name, of which it looks at one alone.
-/

namespace ModMerge

open FileTree

/-! ### Reading -/

section

variable (reader : SettingsReader)

theorem MergeSettings.looksOnly_withFile (settings : MergeSettings) (path : FilePath) :
    LooksOnly (settings.withFile reader path :
      ExceptT LoadError (StateM FileTree) MergeSettings) :=
  .bind (.adapt _ (.query path _)) fun _ => .bind (.mk_pure _) fun _ => .mk_pure _

theorem MergeSettings.looksOnly_withNamedFile (settings : MergeSettings)
    (surroundings : Surroundings) (path : Option FilePath) :
    LooksOnly (settings.withNamedFile reader surroundings path :
      ExceptT LoadError (StateM FileTree) MergeSettings) := by
  cases path with
  | some path =>
      refine .bind (.adapt _ (.isPresent path)) fun present => ?_
      split
      · exact settings.looksOnly_withFile reader path
      · exact .throw _
  | none =>
      refine .bind (.adapt _ (.isPresent _)) fun present => ?_
      split
      · refine .tryCatch (settings.looksOnly_withFile reader _) fun error => ?_
        split
        · exact .pure _
        · exact .throw _
      · exact .pure _

theorem MergeSettings.looksOnly_load (surroundings : Surroundings) (path : Option FilePath)
    (given : List (String × SettingValue)) :
    LooksOnly (load reader surroundings path given :
      ExceptT LoadError (StateM FileTree) MergeSettings) :=
  .bind (looksOnly_withNamedFile reader _ _ _) fun _ => .pure _

end

theorem ModSource.looksOnly_load (path : FilePath) :
    LooksOnly (load path : ExceptT ModFileError (StateM FileTree) ModSource) := by
  unfold load
  split
  · exact .bind (.adapt _ (.query path _)) fun _ => .pure _
  · exact .throw _

theorem ModSource.looksOnly_loadAll (path : FilePath) :
    LooksOnly (loadAll path : ExceptT ModFileError (StateM FileTree) (List ModSource)) := by
  refine .bind (.adapt _ (.isDirectory path)) fun isDirectory => ?_
  split
  · exact .bind (.adapt _ (.bind (.query path _) fun _ => .pure _)) fun paths =>
      .mapM looksOnly_load paths
  · exact .bind (looksOnly_load path) fun _ => .pure _

theorem ModSource.looksOnly_collect (paths : List FilePath) :
    LooksOnly (collect paths : ExceptT ModFileError (StateM FileTree) (List ModSource)) :=
  .bind (.mapM looksOnly_loadAll paths) fun _ => .pure _

namespace CommandLine

variable {surroundings : Surroundings} {moment : Timestamp} {settings : MergeSettings}
  {tree : FileTree} {mods : List String} {markdown : Bool} {answer : Answer}

/-- What a tree has of the mods that a command names. -/
def collected (tree : FileTree) (mods : List String) : Except ModFileError (List ModSource) :=
  (tree.run (ModSource.collect (mods.map .ofText))).1

/-- A command succeeds with an answer. -/
def Succeeds (outcome : Except CommandFault Answer × FileTree) (answer : Answer) : Prop :=
  outcome.1 = .ok answer ∧ answer.succeeded = true

/-- Reading mods leaves the tree as it is. -/
theorem run_readMods (tree : FileTree) (mods : List String) :
    tree.run (readMods mods) =
      ((collected tree mods).mapError ModFileError.message >>= fun sources =>
        (readDefinitions sources).mapError ModParseError.message, tree) := by
  rw [readMods, run_bind, run_adapt, (ModSource.looksOnly_collect _).run_eq tree, ← collected]
  cases collected tree mods <;> rfl

theorem readMods_eq_ok_iff {definitions : List ModDefinition} :
    (tree.run (readMods mods)).1 = .ok definitions ↔
      ∃ sources, collected tree mods = .ok sources ∧ readDefinitions sources = .ok definitions := by
  simp only [run_readMods, bind_eq_ok, mapError_eq_ok]

/-- The report that shows conflicts. -/
def conflictReport (moment : Timestamp) (markdown : Bool) (result : AllocationResult) : String :=
  if markdown then result.markdownReport moment result.mappings.toList else result.textReport

/-- Conflicts can be shown if the mods can be read and can be given ids. -/
theorem succeeds_runConflicts_iff :
    Succeeds (tree.run (runConflicts moment mods markdown)) answer ↔
      ∃ sources definitions result, collected tree mods = .ok sources ∧
        readDefinitions sources = .ok definitions ∧
        allocate defaultRanges definitions = .ok result ∧
        answer = { output := [conflictReport moment markdown result] } := by
  rw [Succeeds, runConflicts, run_bind, run_lift_run]
  dsimp only
  constructor
  · rintro ⟨outcome, succeeded⟩
    cases read : (tree.run (readMods mods)).1 with
    | error message =>
        rw [read] at outcome
        cases outcome
        cases succeeded
    | ok definitions =>
        obtain ⟨sources, isCollected, isRead⟩ := readMods_eq_ok_iff.1 read
        rw [read] at outcome
        dsimp only at outcome
        cases allocated : allocate defaultRanges definitions with
        | ok result =>
            rw [allocated] at outcome
            cases outcome
            exact ⟨sources, definitions, result, isCollected, isRead, allocated, rfl⟩
        | error error =>
            rw [allocated] at outcome
            cases outcome
            cases succeeded
  · rintro ⟨sources, definitions, result, isCollected, isRead, allocated, rfl⟩
    rw [readMods_eq_ok_iff.2 ⟨sources, isCollected, isRead⟩]
    dsimp only
    rw [allocated]
    exact ⟨rfl, rfl⟩

/-- A merge succeeds if its mods can be collected and the merge of them succeeds. -/
theorem succeeds_runMerge_iff {reader : SettingsReader} (options : MergeOptions)
    (loaded : (tree.run (MergeSettings.load reader surroundings
      (options.settingsPath.map .ofText) options.settings)).1 = .ok settings)
    (logged : settings.logLevel.Writable) :
    Succeeds (tree.run (runMerge reader surroundings moment options)) answer ↔
      ∃ sources, collected tree options.mods = .ok sources ∧ ∃ summary after,
        tree.run (merge settings surroundings moment sources (options.report.map .ofText)) =
          (.ok summary, after) ∧
        answer = {
          output := [summary.message, "Remapped ids: " ++ Text.decimalString summary.remapped]
          complaints := summary.warnings.map ("Warning: " ++ ·.line) } := by
  have levelWritable : MergeSettings.requireTexts [settings.logLevel] = .ok () :=
    MergeSettings.requireTexts_eq_ok_iff.2 fun value member => by
      rwa [List.mem_singleton.1 member]
  rw [Succeeds, runMerge, run_bind, run_lift_run, run_bind, run_adapt,
    (MergeSettings.looksOnly_load reader surroundings _ options.settings).run_eq tree, loaded]
  simp only [Except.mapError]
  rw [run_bind, run_mk_pure, levelWritable]
  dsimp only
  rw [run_bind, run_adapt, (ModSource.looksOnly_collect _).run_eq tree, ← collected]
  cases isCollected : collected tree options.mods with
  | error error =>
      refine iff_of_false ?_ (by simp)
      rintro ⟨outcome, succeeded⟩
      cases outcome
      cases succeeded
  | ok sources =>
      change (tree.run (ExceptT.lift _ >>= _)).1 = _ ∧ _ ↔ _
      rw [run_bind, run_lift_run]
      simp only [Except.ok.injEq, exists_eq_left']
      rcases tree.run (merge settings surroundings moment sources
        (options.report.map .ofText)) with ⟨(⟨failure, warnings⟩ | fault) | summary, after⟩
      · refine iff_of_false ?_ (by simp)
        rintro ⟨outcome, succeeded⟩
        cases outcome
        cases succeeded
      · refine iff_of_false ?_ (by simp)
        rintro ⟨outcome, -⟩
        cases outcome
      · constructor
        · rintro ⟨outcome, -⟩
          cases outcome
          exact ⟨summary, after, rfl, rfl⟩
        · rintro ⟨_, _, isSummary, rfl⟩
          cases isSummary
          exact ⟨rfl, rfl⟩

/-- What a report puts before the number of ids that moved. -/
def countLabel (markdown : Bool) : String :=
  if markdown then "- Remapped ids: " else "Remapped ids: "

/-- What a report tells before it tells how many ids moved. -/
def reportFront (moment : Timestamp) (markdown : Bool) (modCount : Nat) : List String :=
  if markdown then
    ["# Dominions Mod Merge Report", "Generated: " ++ moment.text, "", "## Summary",
      "- Mods: " ++ Text.decimalString modCount]
  else []

theorem exists_conflictReport_eq (moment : Timestamp) (markdown : Bool)
    (result : AllocationResult) :
    ∃ back, conflictReport moment markdown result =
      "\n".intercalate (reportFront moment markdown result.mappings.size ++
        (countLabel markdown ++ Text.decimalString result.remapCount) :: back) := by
  cases markdown with
  | false => exact ⟨_, rfl⟩
  | true =>
      simp only [conflictReport, if_true, AllocationResult.markdownReport,
        AllocationResult.markdownSummary, reportFront, countLabel, List.cons_append,
        List.nil_append]
      exact ⟨_, rfl⟩

/-- Showing conflicts tries out a merge with usable settings, however documents of settings are
read. The merge succeeds exactly if the conflicts can be shown and no two of the mods have the same
name, and then both tell the same number of ids that moved. -/
theorem conflicts_foretell_merge (reader : SettingsReader) (moment : Timestamp)
    (options : MergeOptions)
    (loaded : (tree.run (MergeSettings.load reader surroundings
      (options.settingsPath.map .ofText) options.settings)).1 = .ok settings)
    (usable : settings.Usable surroundings tree (options.report.map .ofText))
    (nonempty : collected tree options.mods ≠ .ok []) (markdown : Bool) :
    ((∃ merged, Succeeds (tree.run (runMerge reader surroundings moment options)) merged) ↔
      (∃ shown, Succeeds (tree.run (runConflicts moment options.mods markdown)) shown) ∧
        ∀ sources, collected tree options.mods = .ok sources →
          (sources.map (·.name)).Nodup) ∧
    ∀ merged shown, Succeeds (tree.run (runMerge reader surroundings moment options)) merged →
      Succeeds (tree.run (runConflicts moment options.mods markdown)) shown →
      ∃ (count modCount : Nat) (message : String) (back : List String),
        merged.output = [message, "Remapped ids: " ++ Text.decimalString count] ∧
        shown.output = ["\n".intercalate (reportFront moment markdown modCount ++
          (countLabel markdown ++ Text.decimalString count) :: back)] := by
  have logged : settings.logLevel.Writable :=
    MergeSettings.writable_of_problems usable.noProblems _ (by simp)
  have someSource : ∀ sources, collected tree options.mods = .ok sources → sources ≠ [] := by
    rintro sources isCollected rfl
    exact nonempty isCollected
  refine ⟨⟨?_, ?_⟩, fun merged shown merges shows => ?_⟩
  · rintro ⟨merged, merges⟩
    obtain ⟨sources, isCollected, summary, after, ran, -⟩ :=
      (succeeds_runMerge_iff options loaded logged).1 merges
    obtain ⟨distinct, definitions, result, read, allocated, -⟩ :=
      (run_merge_eq_ok_iff usable (someSource sources isCollected) summary.remapped).1
        ⟨summary, after, rfl, ran⟩
    refine ⟨⟨_, succeeds_runConflicts_iff.2
      ⟨sources, definitions, result, isCollected, read, allocated, rfl⟩⟩, ?_⟩
    rw [isCollected]
    rintro _ ⟨⟩
    exact distinct
  · rintro ⟨⟨shown, shows⟩, distinct⟩
    obtain ⟨sources, definitions, result, isCollected, read, allocated, -⟩ :=
      succeeds_runConflicts_iff.1 shows
    obtain ⟨summary, after, -, ran⟩ :=
      (run_merge_eq_ok_iff usable (someSource sources isCollected) result.remapCount).2
        ⟨distinct sources isCollected, definitions, result, read, allocated, rfl⟩
    exact ⟨_, (succeeds_runMerge_iff options loaded logged).2
      ⟨sources, isCollected, summary, after, ran, rfl⟩⟩
  · obtain ⟨sources, isCollected, summary, after, ran, rfl⟩ :=
      (succeeds_runMerge_iff options loaded logged).1 merges
    obtain ⟨sources', definitions', result', isCollected', read', allocated', rfl⟩ :=
      succeeds_runConflicts_iff.1 shows
    obtain ⟨-, definitions, result, read, allocated, remapped⟩ :=
      (run_merge_eq_ok_iff usable (someSource sources isCollected) summary.remapped).1
        ⟨summary, after, rfl, ran⟩
    obtain rfl := Except.ok.inj (isCollected.symm.trans isCollected')
    obtain rfl := Except.ok.inj (read.symm.trans read')
    obtain rfl := Except.ok.inj (allocated.symm.trans allocated')
    obtain ⟨back, report⟩ := exists_conflictReport_eq moment markdown result
    exact ⟨summary.remapped, result.mappings.size, summary.message, back, rfl,
      by rw [report, remapped]⟩

/-! ### Two trees -/

/-- A document of settings that says where a merged mod goes. -/
def placeDocument : List UInt8 :=
  Text.utf8Bytes "output_dir: out\n".toList

theorem reader_placeDocument : PlainDocument.reader placeDocument =
    .ok (.mapping [(.ofText "output_dir", .ofText "out")]) := by
  with_unfolding_all rfl

/-- The settings that are made of that document. -/
def placeSettings : MergeSettings :=
  { plainSettings with loadedFrom := plainSurroundings.settingsPath }

theorem run_load_placeDocument
    (present : (tree.run (FileStore.isPresent plainSurroundings.settingsPath)).1 = .ok true)
    (read : (tree.run (FileStore.read plainSurroundings.settingsPath)).1 = .ok placeDocument) :
    (tree.run (MergeSettings.load PlainDocument.reader plainSurroundings none [])).1 =
      .ok placeSettings := by
  have reads : LooksOnly (FileStore.read plainSurroundings.settingsPath :
      ExceptT FileError (StateM FileTree) (List UInt8)) := .query _ _
  have fromFile : tree.run (((MergeSettings.default plainSurroundings.home).withFile
      PlainDocument.reader plainSurroundings.settingsPath)) = (.ok placeSettings, tree) := by
    rw [MergeSettings.withFile, run_bind, run_adapt, reads.run_eq tree, read]
    simp only [Except.mapError]
    rw [run_bind, run_mk_pure, reader_placeDocument]
    rfl
  have there : tree.run (MergeSettings.isThere plainSurroundings.settingsPath) =
      (.ok true, tree) := by
    rw [MergeSettings.isThere, run_adapt, (LooksOnly.isPresent _).run_eq tree, present]
    rfl
  rw [MergeSettings.load, run_bind, MergeSettings.withNamedFile, run_bind, there]
  dsimp only
  rw [if_pos rfl, run_tryCatch, fromFile]
  rfl

/-- Mods in directories of their own, below a working directory that has a file with settings. -/
def modTree (files : List (Place × String)) : FileTree where
  workingDirectory := ["work"]
  nodes := files.map (fun (place, script) =>
      ("work" :: place, .file (Text.utf8Bytes script.toList))) ++
    [(["work", "a"], .directory), (["work", "b"], .directory),
      (["work", "settings.yaml"], .file placeDocument), (["work"], .directory)]

/-- Mods of different names, of which the first numbers a monster that no mod can have. -/
def strayTree : FileTree :=
  modTree [(["a", "Abysia.dm"], "#newmonster 30000\n#end\n"),
    (["b", "Caelum.dm"], "#newmonster 5000\n#end\n")]

/-- The merge of mods that leaves every setting to the file. -/
def plainOptions (mods : List String) : MergeOptions :=
  { mods }

theorem usable_placeSettings (saves : (tree.run (FileStore.writeAtomic
    (.ofText "out/Merged_Mod/Merged_Mod.dm") [])).1.isOk = true) :
    placeSettings.Usable plainSurroundings tree none := by
  obtain ⟨⟨⟩, saved⟩ := exists_eq_ok_of_isOk saves
  exact ⟨by decide +kernel, by decide +kernel, ⟨none, rfl, fun path isIcon => by cases isIcon⟩, _,
    by decide +kernel, ⟨_, Prod.ext saved rfl⟩, fun report isReport => by cases isReport⟩

theorem exists_succeeds_runConflicts (moment : Timestamp) (markdown : Bool)
    {sources : List ModSource} (areCollected : collected tree mods = .ok sources)
    (ascending : sources.Pairwise fun first second => first.name ≤ second.name)
    (readable : (sources.mapM ModSource.definition).isOk = true)
    (allocatable :
      (allocate defaultRanges (lastOfEachName (parsedDefinitions sources))).isOk = true) :
    ∃ shown, Succeeds (tree.run (runConflicts moment mods markdown)) shown := by
  obtain ⟨result, allocated⟩ := exists_eq_ok_of_isOk allocatable
  refine ⟨_, succeeds_runConflicts_iff.2 ⟨sources, _, result, areCollected, ?_, allocated, rfl⟩⟩
  rw [readDefinitions, ModSource.inNameOrder_of_pairwise ascending,
    mapM_definition_of_isOk readable]
  rfl

theorem conflicts_foretell_merge_strayTree :
    (strayTree.run (MergeSettings.load PlainDocument.reader plainSurroundings none
      (plainOptions ["a/Abysia.dm", "b/Caelum.dm"]).settings)).1 = .ok placeSettings ∧
    placeSettings.Usable plainSurroundings strayTree none ∧
    collected strayTree ["a/Abysia.dm", "b/Caelum.dm"] ≠ .ok [] ∧
    ∃ merged shown, Succeeds (strayTree.run (runMerge PlainDocument.reader plainSurroundings
        plainMoment (plainOptions ["a/Abysia.dm", "b/Caelum.dm"]))) merged ∧
      Succeeds (strayTree.run
        (runConflicts plainMoment ["a/Abysia.dm", "b/Caelum.dm"] true)) shown ∧
      ∃ (count modCount : Nat) (message : String) (back : List String),
        merged.output = [message, "Remapped ids: " ++ Text.decimalString count] ∧
        shown.output = ["\n".intercalate (reportFront plainMoment true modCount ++
          (countLabel true ++ Text.decimalString count) :: back)] := by
  have areCollected : collected strayTree ["a/Abysia.dm", "b/Caelum.dm"] =
      .ok [{ name := "Abysia", script := "#newmonster 30000\n#end\n".toList },
        { name := "Caelum", script := "#newmonster 5000\n#end\n".toList }] := by
    decide +kernel
  have loaded : (strayTree.run (MergeSettings.load PlainDocument.reader plainSurroundings none
      (plainOptions ["a/Abysia.dm", "b/Caelum.dm"]).settings)).1 = .ok placeSettings :=
    run_load_placeDocument (by decide +kernel) (by decide +kernel)
  have usable : placeSettings.Usable plainSurroundings strayTree none :=
    usable_placeSettings (by decide +kernel)
  have nonempty : collected strayTree ["a/Abysia.dm", "b/Caelum.dm"] ≠ .ok [] := by
    rw [areCollected]
    exact fun same => by cases same
  obtain ⟨foretells, agrees⟩ := conflicts_foretell_merge PlainDocument.reader plainMoment
    (plainOptions ["a/Abysia.dm", "b/Caelum.dm"]) loaded usable nonempty true
  obtain ⟨shown, shows⟩ := exists_succeeds_runConflicts plainMoment true areCollected
    (by decide +kernel) (by decide +kernel) (by
      rw [allocate, inNameOrder_of_pairwise (by decide +kernel)]
      decide +kernel)
  obtain ⟨merged, merges⟩ := foretells.2 ⟨⟨shown, shows⟩, fun sources isCollected => by
    obtain rfl := Except.ok.inj (areCollected.symm.trans isCollected)
    decide⟩
  exact ⟨loaded, usable, nonempty, merged, shown, merges, shows, agrees merged shown merges shows⟩

/-- Mods of the same name. -/
def namesakeTree : FileTree :=
  modTree [(["a", "Mod.dm"], "#newmonster 5000\n#end\n"),
    (["b", "Mod.dm"], "#newmonster 5000\n#end\n")]

/-- Conflicts are shown where the merge fails, since two mods have the same name. -/
theorem exists_runConflicts_not_runMerge :
    (namesakeTree.run (MergeSettings.load PlainDocument.reader plainSurroundings none
      (plainOptions ["a/Mod.dm", "b/Mod.dm"]).settings)).1 = .ok placeSettings ∧
    placeSettings.Usable plainSurroundings namesakeTree none ∧
    collected namesakeTree ["a/Mod.dm", "b/Mod.dm"] ≠ .ok [] ∧
    (∃ shown, Succeeds (namesakeTree.run
      (runConflicts plainMoment ["a/Mod.dm", "b/Mod.dm"] false)) shown) ∧
    ¬ ∃ merged, Succeeds (namesakeTree.run (runMerge PlainDocument.reader plainSurroundings
      plainMoment (plainOptions ["a/Mod.dm", "b/Mod.dm"]))) merged := by
  have areCollected : collected namesakeTree ["a/Mod.dm", "b/Mod.dm"] =
      .ok [{ name := "Mod", script := "#newmonster 5000\n#end\n".toList },
        { name := "Mod", script := "#newmonster 5000\n#end\n".toList }] := by
    decide +kernel
  have loaded : (namesakeTree.run (MergeSettings.load PlainDocument.reader plainSurroundings none
      (plainOptions ["a/Mod.dm", "b/Mod.dm"]).settings)).1 = .ok placeSettings :=
    run_load_placeDocument (by decide +kernel) (by decide +kernel)
  have usable : placeSettings.Usable plainSurroundings namesakeTree none :=
    usable_placeSettings (by decide +kernel)
  have logged : placeSettings.logLevel.Writable := by
    decide
  refine ⟨loaded, usable, ?_, ?_, ?_⟩
  · rw [areCollected]
    exact fun same => by cases same
  · refine exists_succeeds_runConflicts plainMoment false areCollected (by decide +kernel)
      (by decide +kernel) ?_
    rw [allocate, inNameOrder_of_pairwise (by decide +kernel)]
    decide +kernel
  · rintro ⟨merged, merges⟩
    obtain ⟨sources, isCollected, summary, after, ran, -⟩ :=
      (succeeds_runMerge_iff (plainOptions _) loaded logged).1 merges
    obtain rfl := Except.ok.inj (areCollected.symm.trans isCollected)
    have distinct := ((run_merge_eq_ok_iff usable (by decide) summary.remapped).1
      ⟨summary, after, rfl, ran⟩).1
    exact absurd distinct (by decide)

end CommandLine
end ModMerge
