import ModMerge.EntityRange
import ModMerge.Ids.Runs

/-!
# Warnings

A merge that succeeds may still have something to report. A `MergeWarning` is the finding
itself; its category, its wording and the mods that it concerns are read off it.
-/

namespace ModMerge

/-- The kinds of findings. -/
inductive WarningCategory where
  /-- Several mods edit the same content of the base game. -/
  | conflict
  /-- Ids had to be placed against the wish of their mod. -/
  | validation
  /-- The lines of a script are out of order. -/
  | content
  /-- A file is missing. -/
  | resource
deriving DecidableEq, Repr

namespace WarningCategory

/-- All categories. -/
def all : List WarningCategory :=
  [conflict, validation, content, resource]

/-- The word for a category. -/
def word : WarningCategory → String
  | conflict => "conflict"
  | validation => "validation"
  | content => "content"
  | resource => "resource"

end WarningCategory

/-- A finding that does not stop a merge. -/
inductive MergeWarning where
  /-- No block of consecutive ids was left for a run that had to move. -/
  | splitRun (modName : String) (type : EntityType) (run newIds : List Int)
  /-- A mod numbered content outside the range of its type. -/
  | outOfRange (modName : String) (type : EntityType) (ids : List Int) (range : EntityRange)
  /-- Several mods edit the same content of the base game. -/
  | sharedEdit (type : EntityType) (ids : List Int) (mods : List String)
  /-- Reading a mod's script gave a warning. -/
  | irregularScript (modName : String) (text : String)
  /-- The icon of the merged mod does not exist. -/
  | iconMissing (path : String)
deriving DecidableEq

namespace MergeWarning

/-- The kind of a finding. -/
def category : MergeWarning → WarningCategory
  | splitRun .. | outOfRange .. => .validation
  | sharedEdit .. => .conflict
  | irregularScript .. => .content
  | iconMissing .. => .resource

/-- The wording of a finding. -/
def message : MergeWarning → String
  | splitRun modName type run newIds =>
      modName ++ ": no contiguous block of " ++ Text.decimalString run.length ++ " free " ++
        type.label ++ " ids; run " ++ rangesText run ++ " was split to " ++
        rangesText newIds
  | outOfRange modName type ids range =>
      modName ++ ": " ++ type.label ++ " ids " ++ rangesText ids ++
        " lie outside the modding range " ++ Text.decimalString range.moddingStart ++ "-" ++
        Text.decimalString range.moddingEnd ++ " and were remapped"
  | sharedEdit type ids mods =>
      "Vanilla " ++ type.label ++ " ids " ++ rangesText ids ++ " modified by: " ++
        ", ".intercalate mods
  | irregularScript modName text => modName ++ ": " ++ text
  | iconMissing path => "Icon file not found: " ++ path

/-- The mods that a finding concerns. -/
def mods : MergeWarning → List String
  | splitRun modName .. | outOfRange modName .. | irregularScript modName _ => [modName]
  | sharedEdit _ _ mods => mods
  | iconMissing _ => []

/-- A finding as one line. -/
def line (warning : MergeWarning) : String :=
  "[" ++ warning.category.word ++ "] " ++ warning.message

end MergeWarning
end ModMerge
