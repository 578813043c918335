import ModMerge.Merge.Body
import ModMerge.Merge.Outcome
import ModMerge.Mod.Source

/-!
# Merging mods

A merge reads all mods, allocates ids for all of them, renumbers each, and writes the merged
file. The file is written only after everything else has succeeded.
-/

namespace ModMerge

/-- The names that several mods have, each once and in order. -/
def duplicateNames (sources : List ModSource) : List String :=
  let modNames := (ModSource.inNameOrder sources).map (·.name)
  (modNames.filter fun modName => 1 < modNames.count modName).eraseDups

/-- Mods that have been read and have their ids. -/
structure MergePlan where
  /-- The mods in the order of their names, each with what it defines. -/
  items : List BodyItem
  allocation : AllocationResult
  warnings : List MergeWarning

namespace MergePlan

/-- The names of the mods, in order. -/
def modNames (plan : MergePlan) : List String :=
  plan.items.map (·.definition.modName)

/-- The warnings that reading mods has given. -/
def scriptWarnings (definitions : List ModDefinition) : List MergeWarning :=
  definitions.flatMap fun definition =>
    definition.warnings.map (.irregularScript definition.modName)

/-- Check the input of a merge. -/
def check (settings : MergeSettings) (sources : List ModSource) : Except MergeStop Unit := do
  if sources.isEmpty then throw (.failed .noMods [])
  let duplicates := duplicateNames sources
  if !duplicates.isEmpty then throw (.failed (.duplicateNames duplicates) [])
  let problems ← settings.problems.mapError fun error => .broken (.setting error)
  if !problems.isEmpty then throw (.failed (.badSettings problems) [])

/-- Read mods and allocate their ids. -/
def ofSources (sources : List ModSource) : Except MergeStop MergePlan := do
  let definitions ←
    (readDefinitions sources).mapError fun error => .failed (.unreadable error) []
  let warnings := scriptWarnings definitions
  let definitions := definitions.map (·.freeze)
  let allocation ← (allocate defaultRanges definitions).mapError fun error =>
    match error with
    | .refused (.exhausted error) => .failed (.exhausted error) warnings
    | error => .broken (.allocation error)
  let scripts := (ModSource.inNameOrder sources).map (·.script)
  return {
    items := List.zipWith (fun script definition => { script, definition }) scripts definitions
    allocation
    warnings := warnings ++ allocation.warnings }

/-- The lines of the merged file after its header. -/
def body (plan : MergePlan) (warnings : List MergeWarning) : Except MergeStop (Array Line) :=
  match MergedBody.write plan.allocation.mappings plan.items with
  | .ok body => .ok body.lines
  | .error error =>
      match error with
      | .noImplicitId .. => .error (.failed (.noId error) warnings)
      | _ => .error (.broken (.renumbering error))

/-- The report on a plan. -/
def report (plan : MergePlan) (moment : Timestamp) : String :=
  plan.allocation.markdownReport moment plan.allocation.mappings.toList

end MergePlan

/-- The text of a merged file. -/
def mergedText (header : List String) (body : Array Line) : List Char :=
  Text.joinLines (header.map String.toList ++ body.toList) ++ ['\n']

section

variable {m : Type → Type} [Monad m] [FileStore m]

/-- Write a file of a merge. That the file system refuses is a finding about the input; a path
that no file can have is a fault. -/
def saveFile (outputPath path : FilePath) (text : List Char) (warnings : List MergeWarning) :
    ExceptT MergeStop m Unit :=
  ExceptT.adapt (fun error =>
    match error with
    | .refused fileError =>
        if fileError.fault = .zeroCharacter then .broken (.writing error)
        else .failed (.notWritten outputPath fileError) warnings
    | .noName _ => .broken (.writing error))
    (FileStore.writeAtomic path (Text.utf8Bytes text))

/-- Merge mods and, if a path is given for it, write a report too. -/
def merge (settings : MergeSettings) (surroundings : Surroundings) (moment : Timestamp)
    (sources : List ModSource) (reportPath : Option FilePath) :
    ExceptT MergeStop m MergeSummary := do
  let plan ← ExceptT.mk (pure do
    MergePlan.check settings sources
    MergePlan.ofSources sources)
  let header ← ExceptT.adapt
    (fun error =>
      match error with
      | .setting error => .broken (.setting error)
      | .unreachable error => .broken (.file error))
    (MergeHeader.build settings surroundings plan.modNames moment)
  let warnings := plan.warnings ++ header.warnings
  let (body, path) ← ExceptT.mk (pure do
    let body ← plan.body warnings
    let path ← (settings.outputPath surroundings).mapError fun error => .broken (.setting error)
    return (body, path))
  saveFile path path (mergedText header.lines body) warnings
  if let some reportPath := reportPath then
    saveFile path reportPath (plan.report moment).toList warnings
  return {
    path
    modNames := plan.modNames
    remapped := plan.allocation.remapCount
    collisions := plan.allocation.collisions.length
    warnings }

end

end ModMerge
