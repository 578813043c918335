import ModMerge.Files.Store
import ModMerge.Settings.Basic

/-!
# Loading settings

Settings are taken from the defaults, then from a file, then from the environment and at
last from what the user gave directly; each of these goes before the ones named earlier. A
file that the user names has to be good, one that is merely found may be bad. What a file holds
is told by a `SettingsReader`; nothing is known of it but what its results say.
-/

namespace ModMerge

/-- What a document of settings holds: values by their keys, or anything else. -/
inductive SettingsDocument where
  | mapping (entries : List (SettingValue × SettingValue))
  | single (value : SettingValue)

/-- Why a document of settings could not be read. -/
inductive DocumentError where
  /-- The file holds no document. -/
  | malformed
  | undecodable (error : Text.DecodingError)
  /-- Something in the document has no value. -/
  | invalid (message : String)
deriving DecidableEq

/-- A way to read documents of settings, from the bytes of a file. -/
abbrev SettingsReader := List UInt8 → Except DocumentError SettingsDocument

/-- Why settings could not be loaded. -/
inductive LoadError where
  | missing (path : FilePath)
  /-- Whether the file exists could not be found out. -/
  | unreachable (error : FileError)
  | refused (path : FilePath) (error : FileError)
  | unreadable (path : FilePath) (error : DocumentError)
  | notMapping (path : FilePath)
deriving DecidableEq

namespace LoadError

/-- Whether a file that was merely found is passed over because of an error. -/
def isPassedOver : LoadError → Bool
  | refused .. | unreadable _ .malformed | notMapping _ => true
  | missing _ | unreachable _ | unreadable _ (.undecodable _) | unreadable _ (.invalid _) => false

/-- The wording for settings that could not be loaded. -/
def message : LoadError → String
  | missing path => "Config file not found: " ++ path.text
  | unreachable error => error.message
  | refused path error => "Failed to load config from " ++ path.text ++ ": " ++ error.message
  | unreadable path .malformed =>
      "Failed to load config from " ++ path.text ++ ": not a document of settings"
  | unreadable _ (.undecodable error) => error.message
  | unreadable _ (.invalid message) => message
  | notMapping path => "Config " ++ path.text ++ " must be a mapping"

end LoadError

namespace MergeSettings

/-- The settings that a document makes of others. A document that stands for nothing changes
nothing. -/
def withDocument (settings : MergeSettings) (path : FilePath) :
    SettingsDocument → Except LoadError MergeSettings
  | .mapping entries =>
      .ok { settings.setAll (entries.filterMap fun (key, value) =>
              match key with
              | .scalar (.text key) => some (key, value)
              | _ => none) with
            loadedFrom := path }
  | .single value =>
      if value.isNothing then .ok { settings with loadedFrom := path }
      else .error (.notMapping path)

/-- The variables of the environment that are settings, and the keys of these settings. -/
def settingVariables : List (String × String) :=
  [("DOMMERGER_OUTPUT_DIR", "output_dir"), ("DOMMERGER_MOD_NAME", "mod_name"),
    ("DOMMERGER_LOG_LEVEL", "log_level")]

/-- Settings as the environment changes them. -/
def withVariables (settings : MergeSettings) (environment : List (String × String)) :
    MergeSettings :=
  settings.setAll <| settingVariables.filterMap fun (variableName, key) =>
    (environment.lookup variableName).map fun value => (key, SettingValue.ofText value)

variable {m : Type → Type} [Monad m] [FileStore m] (reader : SettingsReader)

/-- Settings as a file changes them. -/
def withFile (settings : MergeSettings) (path : FilePath) :
    ExceptT LoadError m MergeSettings := do
  let bytes ← ExceptT.adapt (.refused path) (FileStore.read path)
  let document ← ExceptT.mk (pure ((reader bytes).mapError (.unreadable path)))
  ExceptT.mk (pure (settings.withDocument path document))

/-- Whether there is a file with settings. -/
def isThere (path : FilePath) : ExceptT LoadError m Bool :=
  ExceptT.adapt .unreachable (FileStore.isPresent path)

/-- Settings as the named file changes them or, if none is named, the file in the usual
place, if that is there and good. -/
def withNamedFile (settings : MergeSettings) (surroundings : Surroundings)
    (path : Option FilePath) : ExceptT LoadError m MergeSettings := do
  match path with
  | some path =>
      if ← isThere path then settings.withFile reader path else throw (.missing path)
  | none =>
      if ← isThere surroundings.settingsPath then
        tryCatch (settings.withFile reader surroundings.settingsPath) fun error =>
          if error.isPassedOver then return settings else throw error
      else return settings

/-- Load settings. Of the settings that are given directly, null ones count as not given. -/
def load (surroundings : Surroundings) (path : Option FilePath)
    (given : List (String × SettingValue)) : ExceptT LoadError m MergeSettings := do
  let settings ← (default surroundings.home).withNamedFile reader surroundings path
  return (settings.withVariables surroundings.environment).setAll
    (given.filter fun (_, value) => !value.isNull)

end MergeSettings
end ModMerge
