import ModMerge.Proofs.Merge.BodyLines
import ModMerge.Proofs.Merge.Prepared

/-!
# A merged file defines the union of its mods

A merge that succeeds has written a file that can be read as a mod. It defines what the mods
define, where the allocation has moved it to, and every definition without an id at the id that
it was given, provided that no mod but the last leaves a spell block open and that no text of the
header breaks its line or its quotes.
-/

namespace ModMerge

open FileTree

variable {settings : MergeSettings} {surroundings : Surroundings} {moment : Timestamp}
  {sources : List ModSource} {tree : FileTree} {plan : MergePlan}

/-! ### What is merged -/

theorem ModSource.nodup_names_inNameOrder_iff :
    ((inNameOrder sources).map (·.name)).Nodup ↔ (sources.map (·.name)).Nodup :=
  ((List.mergeSort_perm sources _).map _).nodup_iff

/-- There are no duplicate names exactly if all names are different. -/
theorem duplicateNames_eq_nil_iff :
    duplicateNames sources = [] ↔ ((ModSource.inNameOrder sources).map (·.name)).Nodup := by
  rw [List.eq_nil_iff_forall_not_mem, List.nodup_iff_count_le_one]
  refine forall_congr' fun modName => ?_
  simp only [duplicateNames, List.mem_eraseDups, List.mem_filter, decide_eq_true_eq, not_and,
    not_lt]
  refine ⟨fun atMostOnce => ?_, fun atMostOnce _ => atMostOnce⟩
  by_cases member : modName ∈ (ModSource.inNameOrder sources).map (·.name)
  · exact atMostOnce member
  · rw [List.count_eq_zero_of_not_mem member]
    omega

/-- The input of a merge passes if there are mods, all with different names, and nothing is wrong
with the settings. -/
theorem MergePlan.check_eq_ok_iff :
    MergePlan.check settings sources = .ok () ↔ sources ≠ [] ∧
      ((ModSource.inNameOrder sources).map (·.name)).Nodup ∧ settings.problems = .ok [] := by
  rw [← duplicateNames_eq_nil_iff, MergePlan.check]
  cases sources with
  | nil => simp [throw, throwThe, MonadExceptOf.throw, bind, Except.bind]
  | cons source sources =>
      cases duplicateNames (source :: sources) with
      | cons name names => simp [throw, throwThe, MonadExceptOf.throw, bind, Except.bind]
      | nil =>
          rcases settings.problems with error | _ | _ <;>
            simp [throw, throwThe, MonadExceptOf.throw, bind, Except.bind, Except.mapError,
              pure, Except.pure]

theorem MergePlan.nodup_names_of_check (checked : MergePlan.check settings sources = .ok ()) :
    ((ModSource.inNameOrder sources).map (·.name)).Nodup :=
  (check_eq_ok_iff.1 checked).2.1

theorem lastOfEachName_eq_self {definitions : List ModDefinition}
    (distinct : (definitions.map (·.modName)).Nodup) :
    lastOfEachName definitions = definitions := by
  fun_induction lastOfEachName definitions with
  | case1 => rfl
  | case2 definition => rfl
  | case3 definition next rest same inductionHypothesis =>
      rw [List.map_cons, List.map_cons, same] at distinct
      exact absurd List.mem_cons_self (List.nodup_cons.1 distinct).1
  | case4 definition next rest different inductionHypothesis =>
      rw [inductionHypothesis (List.nodup_cons.1 distinct).2]

/-- A mod of a merge, with what it defines. -/
def ModSource.toItem (source : ModSource) (definition : ModDefinition) : BodyItem :=
  { script := source.script, definition := definition.freeze }

/-- The mods are read in the order of their names, and the ids of all of them allocated. -/
theorem MergePlan.exists_definitions (planned : MergePlan.ofSources sources = .ok plan)
    (distinct : ((ModSource.inNameOrder sources).map (·.name)).Nodup) :
    ∃ definitions, (ModSource.inNameOrder sources).mapM ModSource.definition = .ok definitions ∧
      readDefinitions sources = .ok definitions ∧
      allocate defaultRanges (definitions.map (·.freeze)) = .ok plan.allocation ∧
      plan.items = List.zipWith ModSource.toItem (ModSource.inNameOrder sources) definitions := by
  obtain ⟨read, isRead, rest⟩ := bind_eq_ok.1 planned
  obtain ⟨allocation, allocated, finished⟩ := bind_eq_ok.1 rest
  obtain rfl := Except.ok.inj finished
  have reading := mapError_eq_ok.1 isRead
  obtain ⟨definitions, each, same⟩ := bind_eq_ok.1 reading
  have sameRead : lastOfEachName definitions = read := Except.ok.inj same
  rw [lastOfEachName_eq_self (by rwa [map_modName_of_mapM each])] at sameRead
  subst sameRead
  refine ⟨definitions, each, reading, mapError_eq_ok.1 allocated, ?_⟩
  rw [List.zipWith_map]
  rfl

theorem map_definition_toItem {ordered : List ModSource} {definitions : List ModDefinition}
    (each : List.Forall₂ (fun source definition => source.definition = .ok definition) ordered
      definitions) :
    (List.zipWith ModSource.toItem ordered definitions).map (·.definition) =
        definitions.map (·.freeze) ∧
      (List.zipWith ModSource.toItem ordered definitions).map (fun item =>
        (item.definition.modName, item.script)) =
        ordered.map fun source => (source.name, source.script) := by
  induction each with
  | nil => exact ⟨rfl, rfl⟩
  | @cons source definition _ _ parsed _ inductionHypothesis =>
      have sameName := ModSource.modName_of_definition parsed
      simp only [List.zipWith_cons_cons, List.map_cons, inductionHypothesis]
      exact ⟨rfl, by simp only [ModSource.toItem, ModDefinition.freeze, sameName]⟩

theorem map_modName_toItem {ordered : List ModSource} {definitions : List ModDefinition}
    (each : List.Forall₂ (fun source definition => source.definition = .ok definition) ordered
      definitions) :
    (List.zipWith ModSource.toItem ordered definitions).map (·.definition.modName) =
      ordered.map (·.name) := by
  have sameNames := congrArg (List.map Prod.fst) (map_definition_toItem each).2
  rwa [List.map_map, List.map_map] at sameNames

theorem exists_of_mem_toItem {ordered : List ModSource} {definitions : List ModDefinition}
    (each : List.Forall₂ (fun source definition => source.definition = .ok definition) ordered
      definitions) {item : BodyItem}
    (member : item ∈ List.zipWith ModSource.toItem ordered definitions) :
    ∃ source : ModSource, ∃ definition ∈ definitions, source.definition = .ok definition ∧
      item = source.toItem definition := by
  induction each with
  | nil => cases member
  | @cons source definition _ _ parsed _ inductionHypothesis =>
      rcases List.mem_cons.1 member with rfl | inRest
      · exact ⟨source, definition, List.mem_cons_self, parsed, rfl⟩
      · obtain ⟨other, found, known, otherParsed, same⟩ := inductionHypothesis inRest
        exact ⟨other, found, List.mem_cons_of_mem definition known, otherParsed, same⟩

/-- The allocation provides for every mod of the merge. -/
theorem ready_toItem {ordered : List ModSource} {definitions : List ModDefinition}
    {result : AllocationResult} (read : ordered.mapM ModSource.definition = .ok definitions)
    (distinct : (ordered.map (·.name)).Nodup)
    (allocated : allocate defaultRanges (definitions.map (·.freeze)) = .ok result) :
    ∀ item ∈ List.zipWith ModSource.toItem ordered definitions, item.Ready result := by
  intro item member
  obtain ⟨source, definition, known, parsed, rfl⟩ :=
    exists_of_mem_toItem (forall₂_of_mapM read) member
  have sameName := ModSource.modName_of_definition parsed
  have distinctFrozen : ((definitions.map (·.freeze)).map (·.modName)).Nodup := by
    rw [← map_modName_of_mapM read] at distinct
    rw [List.map_map]
    exact distinct
  refine ⟨⟨definition, ?_, rfl⟩, ?_⟩
  · rw [← parsed, ModSource.definition, ← sameName]
    rfl
  · have noVanilla : definition.NoVanillaDefined :=
      ModDefinition.keptByRecording_noVanillaDefined.parse
        (fun type id member => by simp [EntityTable.get_uniform] at member) parsed
    have keyed : definition.NamesKeyed := ModDefinition.keptByRecording_namesKeyed.parse
      (fun type key member => by simp [EntityTable.get_uniform] at member) parsed
    exact provides_of_allocate distinctFrozen allocated (List.mem_map_of_mem known) noVanilla keyed

/-! ### The header -/

theorem exists_icon_of_build {modNames : List String} {header : MergeHeader}
    (headed : (tree.run (MergeHeader.build settings surroundings modNames moment)).1 =
      .ok header) :
    ∃ icon, header.lines = MergeHeader.linesWith settings modNames moment icon ∧
      ∀ line ∈ icon, ∃ path, settings.iconPath surroundings = .ok (some path) ∧
        line = MergeHeader.iconLine path := by
  obtain ⟨-, icon, warnings, found, rfl⟩ := run_header_eq_ok_iff.1 headed
  refine ⟨icon, rfl, fun line member => ?_⟩
  unfold MergeHeader.findIcon at found
  split at found
  · cases found
  · cases found
    cases member
  · rename_i path isPath
    obtain ⟨present, between, -, returned⟩ := run_bind_eq_ok.1 (Prod.ext found rfl)
    cases present with
    | true =>
        cases returned
        exact ⟨path, isPath, List.mem_singleton.1 member⟩
    | false =>
        cases returned
        cases member

/-- The lines of a merged file are those of its header and of its body. -/
theorem map_text_scriptLines_mergedText {header : List String} {body : Array Line}
    (headed : ∃ first rest, header = first :: rest ∧ Unmarked first.toList)
    (unbrokenHeader : ∀ line ∈ header, Text.Unbroken line.toList)
    (unbrokenBody : ∀ line ∈ body.toList, Text.Unbroken line) :
    (scriptLines (mergedText header body)).map (·.text) =
      header.map readChars ++ body.toList.map (·.map correctChar) := by
  obtain ⟨first, rest, rfl, unmarked⟩ := headed
  have unbroken : ∀ line ∈ first.toList :: (rest.map String.toList ++ body.toList),
      Text.Unbroken line := by
    intro line member
    rw [← List.cons_append, ← List.map_cons, List.mem_append, List.mem_map] at member
    rcases member with ⟨written, inHeader, rfl⟩ | inBody
    · exact unbrokenHeader written inHeader
    · exact unbrokenBody line inBody
  have cut : Text.lines (mergedText (first :: rest) body) =
      first.toList :: (rest.map String.toList ++ body.toList) := by
    rw [mergedText, List.map_cons, List.cons_append, Text.lines_joinLines_append unbroken]
    exact List.append_nil _
  rw [map_text_scriptLines, cut]
  · simp [readChars]
  · intro line isFirst
    rw [cut] at isFirst
    obtain rfl := Option.some.inj isFirst
    exact unmarked

theorem MergePlan.exists_write_of_body {warnings : List MergeWarning} {body : Array Line}
    (written : plan.body warnings = .ok body) :
    ∃ all, MergedBody.write plan.allocation.mappings plan.items = .ok all ∧ all.lines = body := by
  rw [MergePlan.body] at written
  split at written
  · next all isWritten => exact ⟨all, isWritten, Except.ok.inj written⟩
  · split at written <;> cases written

/-- Freezing definitions does not change what is gathered of them. -/
theorem AllocationResult.GatheredIn.of_freeze {result : AllocationResult}
    {definitions : List ModDefinition} {read : ModDefinition}
    (gathered : result.GatheredIn (definitions.map (·.freeze)) read) :
    result.GatheredIn definitions read where
  definedIds type id := (gathered.definedIds type id).trans (by
    simp only [List.mem_map, exists_exists_and_eq_and]
    rfl)
  vanillaEditedIds type id := (gathered.vanillaEditedIds type id).trans (by
    simp only [List.mem_map, exists_exists_and_eq_and]
    rfl)
  implicitCount := gathered.implicitCount

/-! ### A merge that has been prepared -/

/-- The texts of a merge that are quoted in the header do not break their quotes or lines. -/
structure QuotableTexts (settings : MergeSettings) (surroundings : Surroundings)
    (sources : List ModSource) : Prop where
  displayName : Quotable settings.displayNameText
  description : Quotable settings.descriptionText
  version : Quotable settings.versionText
  names : ∀ source ∈ sources, Quotable source.name
  icon : ∀ path, settings.iconPath surroundings = .ok (some path) →
    Text.Unbroken path.name.toList

namespace PreparedMerge

/-- The mods of a merge, which the allocation provides for. -/
theorem exists_definitions
    (prepared : PreparedMerge settings surroundings moment sources tree) :
    ∃ definitions, readDefinitions sources = .ok definitions ∧
      allocate defaultRanges (definitions.map (·.freeze)) = .ok prepared.plan.allocation ∧
      prepared.plan.items.map (·.definition) = definitions.map (·.freeze) ∧
      (prepared.plan.items.map fun item => (item.definition.modName, item.script)) =
        (ModSource.inNameOrder sources).map (fun source => (source.name, source.script)) ∧
      (∀ item ∈ prepared.plan.items, item.Ready prepared.plan.allocation) ∧
      (prepared.plan.items.map (·.definition.modName)).Nodup := by
  obtain ⟨⟨⟩, checked, planned⟩ := bind_eq_ok.1 prepared.planned
  have distinct := MergePlan.nodup_names_of_check checked
  obtain ⟨definitions, read, isRead, allocated, items⟩ :=
    MergePlan.exists_definitions planned distinct
  obtain ⟨sameDefinitions, sameSources⟩ := map_definition_toItem (forall₂_of_mapM read)
  have sameNames := map_modName_toItem (forall₂_of_mapM read)
  have ready := ready_toItem read distinct allocated
  rw [← items] at sameDefinitions sameSources sameNames ready
  exact ⟨definitions, isRead, allocated, sameDefinitions, sameSources, ready,
    sameNames ▸ distinct⟩

/-- The mods of a merge have the names of its sources. -/
theorem quotable_modName (prepared : PreparedMerge settings surroundings moment sources tree)
    (texts : QuotableTexts settings surroundings sources) :
    ∀ modName ∈ prepared.plan.modNames, Quotable modName := by
  obtain ⟨definitions, -, -, -, sameSources, -⟩ := prepared.exists_definitions
  intro modName member
  obtain ⟨item, isItem, rfl⟩ := List.mem_map.1 member
  have listed := List.mem_map_of_mem (f := fun item : BodyItem =>
    (item.definition.modName, item.script)) isItem
  rw [sameSources] at listed
  obtain ⟨source, inOrder, same⟩ := List.mem_map.1 listed
  rw [← (Prod.mk.inj same).1]
  exact texts.names source ((List.mergeSort_perm ..).mem_iff.1 inOrder)

/-- No mod but the last leaves a spell block open if no source but the last does. -/
theorem leavesSpellOpen_eq_false
    (prepared : PreparedMerge settings surroundings moment sources tree)
    (closed : ∀ source ∈ (ModSource.inNameOrder sources).dropLast,
      leavesSpellOpen source.name source.script = false) :
    ∀ item ∈ prepared.plan.items.dropLast,
      leavesSpellOpen item.definition.modName item.script = false := by
  obtain ⟨definitions, -, -, -, sameSources, -⟩ := prepared.exists_definitions
  intro item member
  have listed := List.mem_map_of_mem (f := fun item : BodyItem =>
    (item.definition.modName, item.script)) member
  rw [List.map_dropLast, sameSources, ← List.map_dropLast] at listed
  obtain ⟨source, inOrder, same⟩ := List.mem_map.1 listed
  obtain ⟨sameName, sameScript⟩ := Prod.mk.inj same
  rw [← sameName, ← sameScript]
  exact closed source inOrder

/-- The header of a merged file gives the mod its name and defines nothing. -/
theorem reaches_header (prepared : PreparedMerge settings surroundings moment sources tree)
    (texts : QuotableTexts settings surroundings sources) (newName : String) :
    ({ definition := { modName := newName } } : Survey).Reaches
      (prepared.header.lines.map readChars) fun read =>
        read.context.spell = none ∧
        prepared.plan.allocation.GatheredIn [] read.closeBlock.definition := by
  obtain ⟨iconLines, headerLines, areIcons⟩ := exists_icon_of_build prepared.headed
  have icons : ∀ line ∈ iconLines, ∃ path : FilePath, line = MergeHeader.iconLine path ∧
      Text.Unbroken path.name.toList := by
    intro line member
    obtain ⟨path, isPath, same⟩ := areIcons line member
    exact ⟨path, same, texts.icon path isPath⟩
  rw [headerLines]
  refine (MergeHeader.reaches_linesWith newName texts.displayName texts.description
    texts.version (prepared.quotable_modName texts) moment icons).mono fun read named => ?_
  have gathered := AllocationResult.GatheredIn.of_onlyNamed prepared.plan.allocation named
  obtain ⟨displayName, rfl⟩ := named
  exact ⟨rfl, gathered⟩

/-- Reading the text of a merged file cuts it into the lines that were written. -/
theorem map_text_scriptLines_text
    (prepared : PreparedMerge settings surroundings moment sources tree)
    (texts : QuotableTexts settings surroundings sources)
    (unbrokenBody : ∀ line ∈ prepared.body.toList, Text.Unbroken line) :
    (scriptLines prepared.text).map (·.text) =
      prepared.header.lines.map readChars ++ prepared.body.toList.map (·.map correctChar) := by
  obtain ⟨iconLines, headerLines, areIcons⟩ := exists_icon_of_build prepared.headed
  have iconsUnbroken : ∀ line ∈ iconLines, Text.Unbroken line.toList := by
    intro line member
    obtain ⟨path, isPath, rfl⟩ := areIcons line member
    have opened := Text.unbroken_append (by decide +kernel : Text.Unbroken "#icon \"".toList)
      (texts.icon path isPath)
    exact Text.unbroken_append opened (by decide +kernel)
  refine map_text_scriptLines_mergedText ?_ ?_ unbrokenBody
  · rw [headerLines]
    refine ⟨_, _, rfl, ?_⟩
    rw [String.toList_append, String.toList_append]
    exact fun same => by cases same
  · rw [headerLines]
    exact MergeHeader.unbroken_linesWith texts.displayName.unbroken texts.description.unbroken
      texts.version.unbroken (fun modName isName => (prepared.quotable_modName texts modName
        isName).unbroken) moment iconsUnbroken

/-- Who reads a merged file gathers its mods. -/
theorem exists_gathered (prepared : PreparedMerge settings surroundings moment sources tree)
    (texts : QuotableTexts settings surroundings sources)
    (closed : ∀ source ∈ (ModSource.inNameOrder sources).dropLast,
      leavesSpellOpen source.name source.script = false) :
    ∃ definitions, readDefinitions sources = .ok definitions ∧
      allocate defaultRanges (definitions.map (·.freeze)) = .ok prepared.plan.allocation ∧
      ∀ newName, ∃ read, ModDefinition.parse newName prepared.text = .ok read ∧
        prepared.plan.allocation.GatheredIn definitions read := by
  obtain ⟨definitions, isRead, allocated, sameDefinitions, -, ready, distinct⟩ :=
    prepared.exists_definitions
  obtain ⟨all, isWritten, bodyLines⟩ := MergePlan.exists_write_of_body prepared.written
  refine ⟨definitions, isRead, allocated, fun newName => ?_⟩
  obtain ⟨unbroken, reaches⟩ := MergedBody.reaches_write ready
    (fun item member => prepared.quotable_modName texts _ (List.mem_map_of_mem member)) distinct
    (prepared.leavesSpellOpen_eq_false closed) (prepared.reaches_header texts newName) isWritten
  rw [bodyLines] at unbroken reaches
  obtain ⟨read, parsed, same, gathered⟩ :=
    reaches.exists_parse (prepared.map_text_scriptLines_text texts unbroken)
  rw [sameDefinitions] at gathered
  exact ⟨read.finish, parsed, (gathered.of_sameContent same).of_freeze⟩

end PreparedMerge

/-! ### The merged file -/

/-- A merge that succeeds has written the text that it had prepared, as it does without a report.
A report that goes elsewhere leaves the merged file as it is. -/
theorem exists_prepared_of_merge {reportPath : Option FilePath} {summary : MergeSummary}
    {after : FileTree}
    (merged : tree.run (merge settings surroundings moment sources reportPath) =
      (.ok summary, after)) :
    ∃ (prepared : PreparedMerge settings surroundings moment sources tree) (saved : FileTree),
      tree.run (merge settings surroundings moment sources none) = (.ok summary, saved) ∧
      saved.file? (saved.goal summary.path) = some (Text.utf8Bytes prepared.text) ∧
      ((∀ path, reportPath = some path → after.goal path ≠ after.goal summary.path) →
        after.file? (after.goal summary.path) = some (Text.utf8Bytes prepared.text)) := by
  rcases run_merge settings surroundings moment sources tree with
    ⟨refusal, ran⟩ | ⟨⟨prepared⟩⟩
  · rw [ran reportPath] at merged
    cases merged
  · rw [prepared.run_merge_eq, PreparedMerge.save] at merged
    obtain ⟨_, saved, ranSave, reported⟩ := run_bind_eq_ok.1 merged
    obtain ⟨goals, isSaved, -⟩ := saved_of_writeAtomic (run_adapt_eq_ok.1 ranSave)
    rw [← goals] at isSaved
    have withoutReport : tree.run (merge settings surroundings moment sources none) =
        (.ok prepared.summary, saved) := by
      rw [prepared.run_merge_eq, PreparedMerge.save, run_bind, ranSave]
      rfl
    cases reportPath with
    | none =>
        cases reported
        exact ⟨prepared, after, withoutReport, isSaved, fun _ => isSaved⟩
    | some path =>
        obtain ⟨_, _, ranReport, finished⟩ := run_bind_eq_ok.1 reported
        cases finished
        obtain ⟨goals, -, others⟩ := saved_of_writeAtomic (run_adapt_eq_ok.1 ranReport)
        refine ⟨prepared, saved, withoutReport, isSaved, fun elsewhere => ?_⟩
        have different := (elsewhere path rfl).symm
        rw [goals, goals] at different
        rw [goals, others _ different fun temporary isTemporary =>
          FilePath.goal_ne_of_endsIn saved (endsIn_of_outputPath prepared.named)
            (FilePath.endsIn_of_temporaryPath? isTemporary)]
        exact isSaved

/-- A merge that succeeds has written a mod that defines exactly the union of the mods: all ids
that they have in the end, and all that they change of the base game. With a report it has
written the same file as without one, and it is still there if the report went elsewhere. -/
theorem exists_gathered_of_merge {reportPath : Option FilePath} {summary : MergeSummary}
    {after : FileTree}
    (displayName : Quotable settings.displayNameText)
    (description : Quotable settings.descriptionText) (version : Quotable settings.versionText)
    (names : ∀ source ∈ sources, Quotable source.name)
    (icon : ∀ path, settings.iconPath surroundings = .ok (some path) →
      Text.Unbroken path.name.toList)
    (closed : ∀ source ∈ (ModSource.inNameOrder sources).dropLast,
      leavesSpellOpen source.name source.script = false)
    (merged : tree.run (merge settings surroundings moment sources reportPath) =
      (.ok summary, after)) :
    ∃ definitions result text saved, readDefinitions sources = .ok definitions ∧
      allocate defaultRanges (definitions.map (·.freeze)) = .ok result ∧
      tree.run (merge settings surroundings moment sources none) = (.ok summary, saved) ∧
      saved.file? (saved.goal summary.path) = some (Text.utf8Bytes text) ∧
      ((∀ path, reportPath = some path → after.goal path ≠ after.goal summary.path) →
        after.file? (after.goal summary.path) = some (Text.utf8Bytes text)) ∧
      ∀ newName, ∃ read, ModDefinition.parse newName text = .ok read ∧
        result.GatheredIn definitions read := by
  obtain ⟨prepared, saved, withoutReport, isSaved, stillThere⟩ := exists_prepared_of_merge merged
  obtain ⟨definitions, isRead, allocated, gathered⟩ :=
    prepared.exists_gathered ⟨displayName, description, version, names, icon⟩ closed
  exact ⟨definitions, prepared.plan.allocation, prepared.text, saved, isRead, allocated,
    withoutReport, isSaved, stillThere, gathered⟩

/-- A mod that leaves the block of a monster open, and one that leaves a spell block open. -/
def openEndedSources : List ModSource :=
  [{ name := "Abysia", script := "#newmonster 5000".toList },
    { name := "Caelum", script := "#newspell 2000\n#effect 1".toList }]

/-- A mod that leaves a spell block open, and one with the block of a monster. -/
def openSpellSources : List ModSource :=
  [{ name := "Abysia", script := "#newspell 2000\n#effect 1".toList },
    { name := "Caelum", script := "#newmonster 5000\n#end".toList }]

/-- What mods define, if all of them can be read. -/
def parsedDefinitions (sources : List ModSource) : List ModDefinition :=
  (sources.mapM ModSource.definition).toOption.getD []

theorem mapM_definition_of_isOk {sources : List ModSource}
    (readable : (sources.mapM ModSource.definition).isOk = true) :
    sources.mapM ModSource.definition = .ok (parsedDefinitions sources) := by
  obtain ⟨definitions, isRead⟩ := exists_eq_ok_of_isOk readable
  rw [parsedDefinitions, isRead]
  rfl

/-- Mods that are listed in the order of their names stay in this order. -/
theorem ModSource.inNameOrder_of_pairwise {sources : List ModSource}
    (ascending : sources.Pairwise fun first second => first.name ≤ second.name) :
    inNameOrder sources = sources :=
  List.mergeSort_of_pairwise (ascending.imp decide_eq_true)

/-- Mods that are listed in the order of their names are read and merged in this order. -/
theorem inOrder_of_ascending (sources : List ModSource)
    (ascending : sources.Pairwise fun first second => first.name ≤ second.name)
    (distinct : (sources.map (·.name)).Nodup)
    (readable : (sources.mapM ModSource.definition).isOk = true) :
    ModSource.inNameOrder sources = sources ∧
      readDefinitions sources = .ok (parsedDefinitions sources) ∧
      inNameOrder ((parsedDefinitions sources).map (·.freeze)) =
        (parsedDefinitions sources).map (·.freeze) := by
  have sorted := ModSource.inNameOrder_of_pairwise ascending
  have read := mapM_definition_of_isOk readable
  have sameNames := map_modName_of_mapM read
  refine ⟨sorted, ?_, inNameOrder_of_pairwise ?_⟩
  · rw [readDefinitions, sorted, read]
    exact congrArg Except.ok (lastOfEachName_eq_self (sameNames ▸ distinct))
  · rw [List.pairwise_map]
    rw [← List.pairwise_map (f := fun source : ModSource => source.name) (R := (· ≤ ·)),
      ← sameNames, List.pairwise_map] at ascending
    exact ascending

theorem exists_gathered_of_merge_openEndedSources :
    ∃ definitions result text, readDefinitions openEndedSources = .ok definitions ∧
      allocate defaultRanges (definitions.map (·.freeze)) = .ok result ∧
      ∀ newName, ∃ read, ModDefinition.parse newName text = .ok read ∧
        result.GatheredIn definitions read := by
  obtain ⟨sorted, read, inOrder⟩ := inOrder_of_ascending openEndedSources (by decide +kernel)
    (by decide +kernel) (by decide +kernel)
  have succeeds : ((FileTree.empty ["work"]).run (plainMerge openEndedSources none)).1.isOk =
      true := by
    simp only [plainMerge, merge, MergePlan.check, duplicateNames, MergePlan.ofSources, sorted,
      read, Except.mapError, bind, Except.bind, allocate, inOrder]
    decide +kernel
  rcases outcome : (FileTree.empty ["work"]).run (plainMerge openEndedSources none) with
    ⟨stop | summary, after⟩
  · rw [outcome] at succeeds
    cases succeeds
  · obtain ⟨definitions, result, text, -, read, allocated, -, -, -, gathered⟩ :=
      exists_gathered_of_merge (by decide +kernel) (by decide +kernel) (by decide +kernel)
        (by decide +kernel) (fun path isPath => by cases isPath)
        (by rw [sorted]; decide +kernel) outcome
    exact ⟨definitions, result, text, read, allocated, gathered⟩

/-- The text that a merge is going to write, if it gets so far. -/
def mergedText? (settings : MergeSettings) (surroundings : Surroundings) (moment : Timestamp)
    (sources : List ModSource) (tree : FileTree) : Option (List Char) := do
  let plan ← (do MergePlan.check settings sources; MergePlan.ofSources sources :
    Except MergeStop MergePlan).toOption
  let header ←
    (tree.run (MergeHeader.build settings surroundings plan.modNames moment)).1.toOption
  let body ← (plan.body (plan.warnings ++ header.warnings)).toOption
  return mergedText header.lines body

theorem PreparedMerge.mergedText?_eq
    (prepared : PreparedMerge settings surroundings moment sources tree) :
    mergedText? settings surroundings moment sources tree = some prepared.text := by
  simp only [mergedText?, Except.toOption, Option.bind_eq_bind, Option.bind_some,
    prepared.planned, prepared.headed, prepared.written]
  rfl

/-- A merge that succeeds has written a file that cannot be read if a spell block is left open
before another block. -/
theorem exists_merge_not_readable :
    ∃ summary after text,
      (FileTree.empty ["work"]).run (plainMerge openSpellSources none) = (.ok summary, after) ∧
      after.file? (after.goal summary.path) = some (Text.utf8Bytes text) ∧
      ∃ error, ModDefinition.parse "Merged_Mod" text = .error error := by
  obtain ⟨sorted, read, inOrder⟩ := inOrder_of_ascending openSpellSources (by decide +kernel)
    (by decide +kernel) (by decide +kernel)
  have succeeds : ((FileTree.empty ["work"]).run (plainMerge openSpellSources none)).1.isOk =
      true := by
    simp only [plainMerge, merge, MergePlan.check, duplicateNames, MergePlan.ofSources, sorted,
      read, Except.mapError, bind, Except.bind, allocate, inOrder]
    decide +kernel
  have unreadable : (mergedText? plainSettings plainSurroundings plainMoment openSpellSources
      (.empty ["work"])).all fun text => !(ModDefinition.parse "Merged_Mod" text).isOk := by
    simp only [mergedText?, MergePlan.check, duplicateNames, MergePlan.ofSources, sorted,
      read, Except.mapError, bind, Except.bind, allocate, inOrder]
    decide +kernel
  rcases outcome : (FileTree.empty ["work"]).run (plainMerge openSpellSources none) with
    ⟨stop | summary, after⟩
  · rw [outcome] at succeeds
    cases succeeds
  · obtain ⟨prepared, -, -, -, isSaved⟩ := exists_prepared_of_merge outcome
    refine ⟨summary, after, prepared.text, rfl, isSaved fun path isPath => ?_, ?_⟩
    · cases isPath
    rw [prepared.mergedText?_eq, Option.all_some] at unreadable
    cases parsed : ModDefinition.parse "Merged_Mod" prepared.text with
    | error error => exact ⟨error, rfl⟩
    | ok definition =>
        rw [parsed] at unreadable
        cases unreadable

end ModMerge
