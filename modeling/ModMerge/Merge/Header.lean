import ModMerge.Allocation.Report
import ModMerge.Files.Store
import ModMerge.Settings.Basic

/-!
# The header of a merged file

A merged file begins with what the game shows about a mod. The description names the mods
that went into the merge and the time of it.
-/

namespace ModMerge

/-- A text that can stand in double quotes, for which scripts have no escape. -/
def quoteSafe (text : String) : String :=
  String.ofList (text.toList.map fun character => if character = '"' then '\'' else character)

/-- Why a header could not be made. -/
inductive HeaderError where
  | setting (error : SettingError)
  /-- Whether the icon exists could not be found out. -/
  | unreachable (error : FileError)
deriving DecidableEq

/-- The header of a merged file. -/
structure MergeHeader where
  lines : List String
  warnings : List MergeWarning := []

namespace MergeHeader

/-- The line that sets the icon of a mod. -/
def iconLine (icon : FilePath) : String :=
  "#icon \"" ++ icon.name ++ "\""

/-- The lines of a header; `icon` are those that set the icon. -/
def linesWith (settings : MergeSettings) (modNames : List String) (moment : Timestamp)
    (icon : List String) : List String :=
  ["#modname \"" ++ quoteSafe settings.displayNameText ++ "\"",
    "#description \"" ++ quoteSafe settings.descriptionText, "", "Merged from:"] ++
  modNames.map (fun modName => "- " ++ quoteSafe modName) ++
  ["", "Generated: " ++ moment.text ++ "\""] ++ icon ++
  ["#version \"" ++ quoteSafe settings.versionText ++ "\"", "", "-- Begin merged content"]

section

variable {m : Type → Type} [Monad m] [FileStore m]

/-- Refuse settings that are to be texts and of which one cannot be written. -/
def requireTexts (values : List SettingValue) : ExceptT HeaderError m Unit :=
  ExceptT.mk (pure ((MergeSettings.requireTexts values).mapError .setting))

/-- The lines that set the icon, and the warnings about it. An icon that does not exist is left
out. -/
def findIcon (settings : MergeSettings) (surroundings : Surroundings) :
    ExceptT HeaderError m (List String × List MergeWarning) := do
  match settings.iconPath surroundings with
  | .error error => throw (.setting error)
  | .ok none => return ([], [])
  | .ok (some icon) =>
      if ← ExceptT.adapt .unreachable (FileStore.isPresent icon) then
        return ([iconLine icon], [])
      else return ([], [.iconMissing icon.text])

/-- The header for the given mods. -/
def build (settings : MergeSettings) (surroundings : Surroundings) (modNames : List String)
    (moment : Timestamp) : ExceptT HeaderError m MergeHeader := do
  requireTexts [settings.displayName, settings.description]
  let (icon, warnings) ← findIcon settings surroundings
  requireTexts [settings.version]
  return { lines := linesWith settings modNames moment icon, warnings }

end

end MergeHeader
end ModMerge
