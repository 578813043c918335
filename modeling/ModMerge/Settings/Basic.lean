import ModMerge.Files.Path
import ModMerge.Settings.Value
import ModMerge.Text.Blank
import ModMerge.Text.UpperCase

/-!
# The settings of a merge

The settings say how the merged mod is called and described and where it is written. They
are kept as they were given; what they mean is worked out when it is needed, and `problems`
lists what is wrong with them.
-/

namespace ModMerge

/-- What a merge knows about the machine that it runs on. -/
structure Surroundings where
  /-- The home directory of the user. -/
  home : FilePath
  /-- The home directories of users by their names. -/
  homes : List (String × FilePath) := []
  /-- The variables of the environment. -/
  environment : List (String × String) := []
  /-- Where a file with settings is looked for. -/
  settingsPath : FilePath

/-- The name of a merged mod that was given no other one. -/
def defaultModName : String := "Merged_Mod"

/-- Where mods are kept, from the home directory on. -/
def modDirectory : FilePath := .ofText ".dominions6/mods"

/-- Settings as they were given. -/
structure MergeSettings where
  modName : SettingValue := .ofText defaultModName
  displayName : SettingValue := .ofText "Merged Mod"
  description : SettingValue := .ofText "A merged mod combining multiple mods"
  version : SettingValue := .ofText "1.0"
  icon : SettingValue := .null
  outputDirectory : SettingValue
  logLevel : SettingValue := .ofText "INFO"
  parseWorkers : SettingValue := .ofInt 4
  /-- The file that settings were loaded from. -/
  loadedFrom : Option FilePath := none

/-- Why a setting has no meaning. -/
inductive SettingError where
  /-- A path is not a text. -/
  | notText
  /-- The home directory of a user is not known. -/
  | noHome (user : String)
  /-- A number is neither a number nor a text. -/
  | notNumber
  | numeral (error : Text.NumeralError)
  | notANumber
  | infinite
deriving DecidableEq

/-- The wording for a setting without a meaning. -/
def SettingError.message : SettingError → String
  | notText => "a path must be a text"
  | noHome _ => "Could not determine home directory."
  | notNumber => "a number must be a number or a text"
  | numeral error => error.message
  | notANumber => "cannot convert float NaN to integer"
  | infinite => "cannot convert float infinity to integer"

/-- The levels of detail of a log. -/
def logLevels : List String := ["DEBUG", "INFO", "WARNING", "ERROR"]

/-- Whether a character may stand in the name of a merged mod. -/
def isModNameChar (character : Char) : Bool :=
  ('A' ≤ character && character ≤ 'Z') || ('a' ≤ character && character ≤ 'z') ||
    ('0' ≤ character && character ≤ '9') || character == '_' || character == '-'

/-- Whether a text can be the name of a merged mod. A line feed at its end is let pass. -/
def isModName (characters : List Char) : Bool :=
  let name := if characters.getLast? = some '\n' then characters.dropLast else characters
  !name.isEmpty && name.all isModNameChar

/-- A text in which each run of the characters to be replaced has become one underscore.
`inRun` says whether such a character stands just before. -/
def underscoreRuns (isReplaced : Char → Bool) (inRun : Bool) : List Char → List Char
  | [] => []
  | character :: rest =>
      if isReplaced character then
        if inRun then underscoreRuns isReplaced true rest
        else '_' :: underscoreRuns isReplaced true rest
      else character :: underscoreRuns isReplaced false rest

/-- A text without the underscores at its ends. -/
def trimUnderscores (characters : List Char) : List Char :=
  ((characters.dropWhile (· == '_')).reverse.dropWhile (· == '_')).reverse

/-- A text as a name. Blanks at its ends count for nothing, each run of characters that no name
may have becomes an underscore, and so does each run of underscores; those at the ends then go. -/
def cleanedName (characters : List Char) : List Char :=
  let allowed := underscoreRuns (!isModNameChar ·) false (Text.trim characters)
  trimUnderscores (underscoreRuns (· == '_') false allowed)

/-- The name of a mod with the given display name. -/
def modNameOf (displayName : String) : String :=
  match cleanedName displayName.toList with
  | [] => defaultModName
  | name => String.ofList name

namespace MergeSettings

/-- The settings if none are given. -/
def default (home : FilePath) : MergeSettings :=
  { outputDirectory := .ofText (home / modDirectory).text }

/-- Give a setting a value. Keys of no setting are ignored. -/
def set (settings : MergeSettings) (key : String) (value : SettingValue) : MergeSettings :=
  match key with
  | "mod_name" => { settings with modName := value }
  | "display_name" => { settings with displayName := value }
  | "description" => { settings with description := value }
  | "version" => { settings with version := value }
  | "icon" => { settings with icon := value }
  | "output_dir" => { settings with outputDirectory := value }
  | "log_level" => { settings with logLevel := value }
  | "parse_workers" => { settings with parseWorkers := value }
  | _ => settings

/-- Give settings their values, one after another. -/
def setAll (settings : MergeSettings) (values : List (String × SettingValue)) :
    MergeSettings :=
  values.foldl (fun settings (key, value) => settings.set key value) settings

/-- Refuse settings that are to be texts and of which one cannot be written. -/
def requireTexts (values : List SettingValue) : Except SettingError Unit :=
  (Text.requireWritable (values.flatMap SettingValue.numbers)).mapError .numeral

/-- The name of the merged mod: that of its directory and of its file. -/
def modNameText (settings : MergeSettings) : String :=
  settings.modName.toText

/-- The name that the game shows. -/
def displayNameText (settings : MergeSettings) : String :=
  settings.displayName.toText

/-- The description that the game shows. -/
def descriptionText (settings : MergeSettings) : String :=
  if settings.description.isNothing then "" else settings.description.toText

/-- The version that the game shows. -/
def versionText (settings : MergeSettings) : String :=
  settings.version.toText

/-- The level of detail of the log. -/
def logLevelName (settings : MergeSettings) : String :=
  Text.upperCaseString settings.logLevel.toText

/-- The path that a setting names. -/
def pathOf (surroundings : Surroundings) (value : SettingValue) :
    Except SettingError FilePath :=
  match value with
  | .scalar (.text text) =>
      (FilePath.expandHome surroundings.home surroundings.homes (.ofText text)).mapError .noHome
  | _ => .error .notText

/-- The path of the icon, if there is to be one. -/
def iconPath (settings : MergeSettings) (surroundings : Surroundings) :
    Except SettingError (Option FilePath) :=
  if settings.icon.isNothing then .ok none else some <$> pathOf surroundings settings.icon

/-- The directory that the directory of the merged mod is made in. -/
def outputDirectoryPath (settings : MergeSettings) (surroundings : Surroundings) :
    Except SettingError FilePath :=
  pathOf surroundings settings.outputDirectory

/-- The path of the merged mod. -/
def outputPath (settings : MergeSettings) (surroundings : Surroundings) :
    Except SettingError FilePath := do
  let directory ← settings.outputDirectoryPath surroundings
  requireTexts [settings.modName]
  return directory / .ofText settings.modNameText / .ofText (settings.modNameText ++ ".dm")

/-- How many mods may be read at the same time. -/
def workerCount (settings : MergeSettings) : Except SettingError Int :=
  match settings.parseWorkers with
  | .scalar (.truth value) => .ok (if value then 1 else 0)
  | .scalar (.integer value) => .ok value
  | .scalar (.float value) =>
      match Text.BinaryFloat.ofFloat? value with
      | some number => .ok number.truncate
      | none => .error (if value.isNaN then .notANumber else .infinite)
  | .scalar (.text text) => (Text.integerOfText text).mapError .numeral
  | .other value =>
      match value.integer? with
      | some number => number.mapError .numeral
      | none => .error .notNumber
  | .scalar .null | .list _ => .error .notNumber

end MergeSettings

/-- What can be wrong with settings. -/
inductive SettingsProblem where
  | modName (name : String)
  | noDisplayName
  | logLevel (level : String)
  | tooFewWorkers
  | workersNotInteger
deriving DecidableEq, Repr

/-- The wording of a problem. -/
def SettingsProblem.message : SettingsProblem → String
  | modName name =>
      "Mod name '" ++ name ++
        "' may only contain letters, numbers, underscores and hyphens"
  | noDisplayName => "Display name cannot be empty"
  | logLevel level => "Unknown log level '" ++ level ++ "'"
  | tooFewWorkers => "parse_workers must be at least 1"
  | workersNotInteger => "parse_workers must be an integer"

namespace MergeSettings

/-- What is wrong with the number of workers. A number that is infinite is not a problem but
an error. -/
def workerProblems (settings : MergeSettings) : Except SettingError (List SettingsProblem) :=
  match settings.workerCount with
  | .ok count => .ok (if count < 1 then [.tooFewWorkers] else [])
  | .error .infinite => .error .infinite
  | .error _ => .ok [.workersNotInteger]

/-- What is wrong with settings. -/
def problems (settings : MergeSettings) : Except SettingError (List SettingsProblem) := do
  requireTexts [settings.modName, settings.displayName, settings.logLevel]
  let name := settings.modNameText
  let level := settings.logLevelName
  return (if isModName name.toList then [] else [.modName name]) ++
    (if Text.isBlankText settings.displayNameText.toList then [.noDisplayName] else []) ++
    (if logLevels.contains level then [] else [.logLevel level]) ++
    (← settings.workerProblems)

end MergeSettings
end ModMerge
