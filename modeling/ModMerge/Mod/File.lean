import ModMerge.Files.Store
import ModMerge.Mod.Source
import ModMerge.Text.LowerCase

/-!
# Mod files

A mod is kept in a file whose name ends in `.dm`, in any mix of cases; the rest of the
file name is the name of the mod. Mods are named by their files, or all together by the
directory that they lie in.
-/

namespace ModMerge

/-- The suffix of the names of mod files. -/
def modSuffix : String := ".dm"

/-- Why a mod could not be loaded. -/
inductive ModFileError where
  | notMod (path : FilePath)
  | refused (error : FileError)
deriving DecidableEq

/-- The wording for a mod that could not be loaded. -/
def ModFileError.message : ModFileError → String
  | notMod path => "Not a mod file (expected " ++ modSuffix ++ "): " ++ path.text
  | refused error => error.message

namespace ModSource

variable {m : Type → Type} [Monad m] [FileStore m]

/-- Load a mod from its file. -/
def load (path : FilePath) : ExceptT ModFileError m ModSource := do
  if Text.lowerCaseString path.suffix = modSuffix then
    let bytes ← ExceptT.adapt .refused (FileStore.read path)
    return { name := path.stem, script := Text.fileText bytes }
  else
    throw (.notMod path)

/-- The paths of the mods in a directory, in the order of their names. Only names that end
in a lower-case suffix count. -/
def pathsIn (directory : FilePath) : ExceptT FileError m (List FilePath) := do
  let names ← FileStore.list directory
  let modNames := names.filter (modSuffix.toList.isSuffixOf ·.toList)
  return (modNames.mergeSort (· ≤ ·)).map fun name => directory / .ofText name

/-- Load the mod of a file, or all mods in a directory. -/
def loadAll (path : FilePath) : ExceptT ModFileError m (List ModSource) := do
  if ← ExceptT.adapt .refused (FileStore.isDirectory path) then
    let paths ← ExceptT.adapt .refused (pathsIn path)
    paths.mapM load
  else
    return [← load path]

/-- Load mods by their files and directories. -/
def collect (paths : List FilePath) : ExceptT ModFileError m (List ModSource) := do
  return (← paths.mapM loadAll).flatten

end ModSource
end ModMerge
