import ModMerge.CommandLine.Commands
import ModMerge.Merge.Run
import ModMerge.Mod.File
import ModMerge.Settings.Load

/-!
# Running commands

`run` does what the arguments of the program ask for, with a `SettingsReader` for the file with
settings. What it says, and whether it has succeeded, is in the `Answer` that it gives.
-/

namespace ModMerge.CommandLine

/-- What a command has to say. -/
structure Answer where
  succeeded : Bool := true
  /-- The lines of the output. -/
  output : List String := []
  /-- The lines about what went wrong. -/
  complaints : List String := []

/-- What a command cannot go on from. -/
inductive CommandFault where
  | merge (fault : MergeFault)
  | file (error : FileError)

/-- The wording of a fault. -/
def CommandFault.message : CommandFault → String
  | merge fault => fault.message
  | file error => error.message

/-- The answer of a command that has failed. -/
def Answer.failed (message : String) : Answer :=
  { succeeded := false, complaints := ["Error: " ++ message] }

/-- What the program is called and which one it is. -/
def versionLine : String := "dommerger 0.1.0"

/-- The settings that the options of a merge give. A display name without a name makes the
name too. -/
def MergeOptions.settings (options : MergeOptions) : List (String × SettingValue) :=
  let modName :=
    match options.displayName with
    | some displayName =>
        if displayName != "" && options.modName.getD "" == "" then some (modNameOf displayName)
        else options.modName
    | none => options.modName
  [("mod_name", modName), ("display_name", options.displayName),
    ("description", options.description), ("version", options.modVersion),
    ("icon", options.icon), ("output_dir", options.outputDirectory)].filterMap
      (fun (key, text) => text.map fun text => (key, SettingValue.ofText text)) ++
  (options.workers.map fun count => ("parse_workers", SettingValue.ofInt count)).toList

/-- What the listing of a scan says about one type. -/
def scanLine (definition : ModDefinition) (type : EntityType) : String :=
  let entity := definition.entity type
  let counts :=
    [(entity.definedIds.length, " defined"), (entity.vanillaEditedIds.length, " vanilla edited"),
      (entity.implicitCount, " implicit")]
  let parts := (counts.filter (·.1 != 0)).map fun (count, word) =>
    Text.decimalString count ++ word
  "  " ++ type.label ++ ": " ++ ", ".intercalate parts

/-- What a scan says about a mod. -/
def scanLines (definition : ModDefinition) : List String :=
  let displayName := definition.displayName.getD ""
  let title :=
    if displayName = "" then definition.modName
    else definition.modName ++ " (" ++ displayName ++ ")"
  title :: definition.entityTypes.map (scanLine definition) ++
    definition.warnings.map ("  Warning: " ++ ·)

/-- A file with the default settings. -/
def settingsTemplate (surroundings : Surroundings) : String :=
  "\n".intercalate
    ["# Dominions Mod Merger Configuration",
      "#",
      "# Any setting can also be given on the command line.",
      "# Environment overrides: DOMMERGER_OUTPUT_DIR, DOMMERGER_MOD_NAME, DOMMERGER_LOG_LEVEL",
      "",
      "# Technical name (letters, numbers, _ and -); used for the folder and .dm file",
      "mod_name: \"" ++ defaultModName ++ "\"",
      "",
      "# Name shown in game",
      "display_name: \"Merged Mod\"",
      "",
      "description: \"A merged mod combining multiple mods\"",
      "version: \"1.0\"",
      "",
      "# icon: \"~/mods/banner.tga\"",
      "",
      "# Where <mod_name>/<mod_name>.dm is written",
      "output_dir: '" ++ (surroundings.home / modDirectory).text ++ "'",
      "",
      "log_level: INFO",
      "parse_workers: 4",
      ""]

variable {m : Type → Type} [Monad m] [FileStore m]

/-- Read the mods of a command. -/
def readMods (mods : List String) : ExceptT String m (List ModDefinition) := do
  let sources ← ExceptT.adapt ModFileError.message (ModSource.collect (mods.map .ofText))
  ExceptT.mk (pure ((readDefinitions sources).mapError ModParseError.message))

/-- The answer made of what was read, or the complaint that nothing was. -/
def answerFrom {α : Type} (outcome : Except String α) (answer : α → Answer) : Answer :=
  match outcome with
  | .ok value => answer value
  | .error message => .failed message

/-- Merge mods. -/
def runMerge (reader : SettingsReader) (surroundings : Surroundings) (moment : Timestamp)
    (options : MergeOptions) : ExceptT CommandFault m Answer := do
  let prepared ← ExceptT.lift <| ExceptT.run (m := m) (ε := String) do
    let settings ← ExceptT.adapt LoadError.message
      (MergeSettings.load reader surroundings (options.settingsPath.map .ofText) options.settings)
    -- The level of the log is looked at first of all settings.
    ExceptT.mk (pure
      ((MergeSettings.requireTexts [settings.logLevel]).mapError SettingError.message))
    let sources ← ExceptT.adapt ModFileError.message
      (ModSource.collect (options.mods.map .ofText))
    return (settings, sources)
  match prepared with
  | .error message => return .failed message
  | .ok (settings, sources) =>
      let outcome ← ExceptT.lift
        (merge settings surroundings moment sources (options.report.map .ofText)).run
      let complaints (warnings : List MergeWarning) := warnings.map ("Warning: " ++ ·.line)
      match outcome with
      | .ok summary =>
          return {
            output :=
              [summary.message, "Remapped ids: " ++ Text.decimalString summary.remapped]
            complaints := complaints summary.warnings }
      | .error (.failed failure warnings) =>
          return {
            succeeded := false
            complaints := complaints warnings ++ ["Error: " ++ failure.message] }
      | .error (.broken fault) => throw (.merge fault)

/-- Show what mods define. -/
def runScan (mods : List String) : ExceptT CommandFault m Answer := do
  let outcome ← ExceptT.lift (readMods mods).run
  return answerFrom outcome fun definitions => { output := definitions.flatMap scanLines }

/-- Show in which ids mods get into each other's way. -/
def runConflicts (moment : Timestamp) (mods : List String) (markdown : Bool) :
    ExceptT CommandFault m Answer := do
  match ← ExceptT.lift (readMods mods).run with
  | .error message => return .failed message
  | .ok definitions =>
      match allocate defaultRanges definitions with
      | .ok result =>
          let report :=
            if markdown then result.markdownReport moment result.mappings.toList
            else result.textReport
          return { output := [report] }
      | .error error => return .failed error.message

/-- Write a file with the default settings. -/
def runWriteSettings (surroundings : Surroundings) (path : Option String) :
    ExceptT CommandFault m Answer := do
  let path :=
    match path with
    | some text => if text = "" then surroundings.settingsPath else .ofText text
    | none => surroundings.settingsPath
  ExceptT.adapt .file do
    FileStore.ensureDirectories path.parent
    FileStore.write path (Text.utf8Bytes (settingsTemplate surroundings).toList)
  return { output := ["Wrote " ++ path.text] }

/-- Run a command. -/
def Command.run (reader : SettingsReader) (surroundings : Surroundings) (moment : Timestamp) :
    Command → ExceptT CommandFault m Answer
  | merge options => runMerge reader surroundings moment options
  | scan mods => runScan mods
  | conflicts mods markdown => runConflicts moment mods markdown
  | writeSettings path => runWriteSettings surroundings path

end ModMerge.CommandLine
