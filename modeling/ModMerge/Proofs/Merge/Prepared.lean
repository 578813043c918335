import ModMerge.Merge.Run
import ModMerge.Proofs.Files.PathNames
import ModMerge.Proofs.Files.Saving
import ModMerge.Proofs.Settings.SettingTexts

/-!
# What a merge has done before it writes

Up to its first file a merge only looks at the files that there are. It has ended by then, or it
has everything that it is going to write (`PreparedMerge`), whether or not a report is asked for.
-/

namespace ModMerge

open FileTree

section

variable {Store : Type} [FileStore (StateM Store)] [TreeStore Store]

theorem looksUp_findIcon (settings : MergeSettings) (surroundings : Surroundings) :
    TreeStore.LooksUp
      (MergeHeader.findIcon settings surroundings :
        ExceptT HeaderError (StateM Store) (List String × List MergeWarning))
      (MergeHeader.findIcon settings surroundings) := by
  unfold MergeHeader.findIcon
  split
  · exact .throw _
  · exact .pure _
  · refine .bind (.adapt _ (.isPresent _)) fun present => ?_
    split
    · exact .pure _
    · exact .pure _

/-- Making a header looks at most for an icon. -/
theorem looksUp_header (settings : MergeSettings) (surroundings : Surroundings)
    (moment : Timestamp) (modNames : List String) :
    TreeStore.LooksUp
      (MergeHeader.build settings surroundings modNames moment :
        ExceptT HeaderError (StateM Store) MergeHeader)
      (MergeHeader.build settings surroundings modNames moment) :=
  .bind (.mk_pure _) fun _ => .bind (looksUp_findIcon settings surroundings) fun _ =>
    .bind (.mk_pure _) fun _ => .pure _

end

/-- What comes of making a header can be told from what is found out about the icon. -/
theorem run_header (settings : MergeSettings) (surroundings : Surroundings) (moment : Timestamp)
    (modNames : List String) (tree : FileTree) :
    (tree.run (MergeHeader.build settings surroundings modNames moment)).1 = (do
      (MergeSettings.requireTexts [settings.displayName, settings.description]).mapError .setting
      let (icon, warnings) ← (tree.run (MergeHeader.findIcon settings surroundings)).1
      (MergeSettings.requireTexts [settings.version]).mapError .setting
      return { lines := MergeHeader.linesWith settings modNames moment icon, warnings }) := by
  have writes (values : List SettingValue) : tree.run (MergeHeader.requireTexts values) =
      ((MergeSettings.requireTexts values).mapError HeaderError.setting, tree) := rfl
  rw [MergeHeader.build, run_bind, writes]
  rcases MergeSettings.requireTexts [settings.displayName, settings.description] with error | ⟨⟨⟩⟩
  · rfl
  · simp only [Except.mapError]
    have looks : TreeStore.LooksUp (MergeHeader.findIcon settings surroundings :
      ExceptT HeaderError (StateM FileTree) _) _ := looksUp_findIcon settings surroundings
    rw [run_bind, looks.looksOnly.run_eq]
    rcases (tree.run (MergeHeader.findIcon settings surroundings)).1 with error | ⟨icon, warnings⟩
    · rfl
    · dsimp only
      rw [run_bind, writes]
      rcases MergeSettings.requireTexts [settings.version] with error | ⟨⟨⟩⟩ <;> rfl

/-- A header is made of texts that can be written. -/
theorem run_header_eq_ok_iff {settings : MergeSettings} {surroundings : Surroundings}
    {moment : Timestamp} {modNames : List String} {tree : FileTree} {header : MergeHeader} :
    (tree.run (MergeHeader.build settings surroundings modNames moment)).1 = .ok header ↔
      (∀ value ∈ [settings.displayName, settings.description, settings.version],
        value.Writable) ∧
      ∃ icon warnings,
        (tree.run (MergeHeader.findIcon settings surroundings)).1 = .ok (icon, warnings) ∧
        header = { lines := MergeHeader.linesWith settings modNames moment icon, warnings } := by
  rw [run_header]
  simp only [bind_eq_ok, mapError_eq_ok, Prod.exists]
  constructor
  · rintro ⟨⟨⟩, front, icon, warnings, found, ⟨⟩, last, returned⟩
    have frontWritable := MergeSettings.requireTexts_eq_ok_iff.1 front
    have lastWritable := MergeSettings.requireTexts_eq_ok_iff.1 last
    simp only [List.forall_mem_cons] at frontWritable ⊢
    exact ⟨⟨frontWritable.1, frontWritable.2.1, List.forall_mem_cons.1 lastWritable⟩, icon,
      warnings, found, (Except.ok.inj returned).symm⟩
  · rintro ⟨writable, icon, warnings, found, rfl⟩
    have front : ∀ value ∈ [settings.displayName, settings.description], value.Writable :=
      fun value member => writable value (List.mem_append_left [settings.version] member)
    have last : ∀ value ∈ [settings.version], value.Writable := fun value member =>
      writable value (List.mem_append_right [settings.displayName, settings.description] member)
    exact ⟨(), MergeSettings.requireTexts_eq_ok_iff.2 front, icon, warnings, found, (),
      MergeSettings.requireTexts_eq_ok_iff.2 last, rfl⟩

/-- A merged file has the name of a mod file. -/
theorem endsIn_of_outputPath {settings : MergeSettings} {surroundings : Surroundings}
    {path : FilePath} (isPath : settings.outputPath surroundings = .ok path) :
    path.EndsIn ".dm" := by
  obtain ⟨directory, -, named⟩ := bind_eq_ok.1 isPath
  obtain ⟨⟨⟩, -, returned⟩ := bind_eq_ok.1 named
  obtain rfl := Except.ok.inj returned
  exact (FilePath.endsIn_ofText settings.modNameText (by decide) (by decide)).div

/-- What a merge has worked out when it begins to write. -/
structure PreparedMerge (settings : MergeSettings) (surroundings : Surroundings)
    (moment : Timestamp) (sources : List ModSource) (tree : FileTree) where
  plan : MergePlan
  header : MergeHeader
  body : Array Line
  path : FilePath
  planned : (do MergePlan.check settings sources; MergePlan.ofSources sources) = .ok plan
  headed : (tree.run (MergeHeader.build settings surroundings plan.modNames moment)).1 =
    .ok header
  written : plan.body (plan.warnings ++ header.warnings) = .ok body
  named : settings.outputPath surroundings = .ok path

namespace PreparedMerge

variable {settings : MergeSettings} {surroundings : Surroundings} {moment : Timestamp}
  {sources : List ModSource} {tree : FileTree}

/-- What the merge will have done. -/
def summary (prepared : PreparedMerge settings surroundings moment sources tree) :
    MergeSummary where
  path := prepared.path
  modNames := prepared.plan.modNames
  remapped := prepared.plan.allocation.remapCount
  collisions := prepared.plan.allocation.collisions.length
  warnings := prepared.plan.warnings ++ prepared.header.warnings

/-- The text of the merged file. -/
def text (prepared : PreparedMerge settings surroundings moment sources tree) : List Char :=
  mergedText prepared.header.lines prepared.body

/-- The part of the merge that writes. -/
def save {m : Type → Type} [Monad m] [FileStore m]
    (prepared : PreparedMerge settings surroundings moment sources tree)
    (reportPath : Option FilePath) : ExceptT MergeStop m MergeSummary := do
  saveFile prepared.path prepared.path prepared.text prepared.summary.warnings
  if let some reportPath := reportPath then
    saveFile prepared.path reportPath (prepared.plan.report moment).toList
      prepared.summary.warnings
  return prepared.summary

end PreparedMerge

section

variable {settings : MergeSettings} {surroundings : Surroundings} {moment : Timestamp}
  {sources : List ModSource} {tree : FileTree}

section

variable {Store : Type} [FileStore (StateM Store)] [TreeStore Store]

/-- All that is left of a merge that has been prepared is to write. -/
theorem PreparedMerge.runOn_merge_eq (store : Store)
    (prepared : PreparedMerge settings surroundings moment sources (TreeStore.treeOf store))
    (reportPath : Option FilePath) :
    runOn store (merge settings surroundings moment sources reportPath) =
      runOn store (prepared.save reportPath) := by
  have headed := (looksUp_header settings surroundings moment prepared.plan.modNames).runOn_eq store
  rw [prepared.headed] at headed
  simp only [merge, runOn_bind, runOn_mk_pure, runOn_adapt, prepared.planned, headed,
    Except.mapError, prepared.written, prepared.named, save]
  rfl

/-- Before a merge writes, it has changed nothing; it has ended by then, or else knows what it
is going to write. Neither depends on whether a report is to be written. -/
theorem runOn_merge (settings : MergeSettings) (surroundings : Surroundings) (moment : Timestamp)
    (sources : List ModSource) (store : Store) :
    (∃ stop, ∀ reportPath,
      runOn store (merge settings surroundings moment sources reportPath) =
        (.error stop, store)) ∨
    Nonempty (PreparedMerge settings surroundings moment sources (TreeStore.treeOf store)) := by
  simp only [merge, runOn_bind, runOn_mk_pure, runOn_adapt]
  cases planned : (do MergePlan.check settings sources; MergePlan.ofSources sources :
    Except MergeStop MergePlan) with
  | error stop => exact .inl ⟨stop, fun _ => rfl⟩
  | ok plan =>
      dsimp only
      rw [(looksUp_header settings surroundings moment plan.modNames).runOn_eq]
      cases headed : ((TreeStore.treeOf store).run
          (MergeHeader.build settings surroundings plan.modNames moment)).1 with
      | error error => exact .inl ⟨_, fun _ => rfl⟩
      | ok header =>
          simp only [Except.mapError]
          cases written : plan.body (plan.warnings ++ header.warnings) with
          | error stop => exact .inl ⟨stop, fun _ => rfl⟩
          | ok body =>
              cases named : settings.outputPath surroundings with
              | error error => exact .inl ⟨_, fun _ => rfl⟩
              | ok path => exact .inr ⟨⟨plan, header, body, path, planned, headed, written, named⟩⟩

end

theorem PreparedMerge.run_merge_eq
    (prepared : PreparedMerge settings surroundings moment sources tree)
    (reportPath : Option FilePath) :
    tree.run (merge settings surroundings moment sources reportPath) =
      tree.run (prepared.save reportPath) :=
  PreparedMerge.runOn_merge_eq tree prepared reportPath

theorem run_merge (settings : MergeSettings) (surroundings : Surroundings) (moment : Timestamp)
    (sources : List ModSource) (tree : FileTree) :
    (∃ stop, ∀ reportPath,
      tree.run (merge settings surroundings moment sources reportPath) = (.error stop, tree)) ∨
    Nonempty (PreparedMerge settings surroundings moment sources tree) :=
  runOn_merge settings surroundings moment sources tree

end

/-! ### A plain merge -/

/-- Settings that say no more than where the merged mod goes. -/
def plainSettings : MergeSettings :=
  { outputDirectory := .ofText "out" }

/-- A machine whose user has no settings. -/
def plainSurroundings : Surroundings :=
  { home := .ofText "/home", settingsPath := .ofText "settings.yaml" }

/-- Some time of a merge. -/
def plainMoment : Timestamp :=
  { year := 2024, month := 1, day := 2, hour := 3, minute := 4, second := 5 }

/-- A merge that depends on nothing but its mods and the files that there are. -/
def plainMerge (sources : List ModSource) (reportPath : Option FilePath) :
    ExceptT MergeStop (StateM FileTree) MergeSummary :=
  merge plainSettings plainSurroundings plainMoment sources reportPath

end ModMerge
