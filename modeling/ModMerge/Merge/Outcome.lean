import ModMerge.Allocation.Basic
import ModMerge.Merge.Header
import ModMerge.Mod.Renumbering
import ModMerge.Mod.Survey

/-!
# Outcomes of a merge

A merge ends in a `MergeSummary`, in a `MergeFailure`, which is a finding about its input, or
in a `MergeFault`, which the one who asked for the merge has to answer for.
-/

namespace ModMerge

/-- What is wrong with the input of a merge. -/
inductive MergeFailure where
  | noMods
  | duplicateNames (modNames : List String)
  | badSettings (problems : List SettingsProblem)
  | unreadable (error : ModParseError)
  | exhausted (error : RangeExhausted)
  /-- A definition without an id was met for which no id was allocated. -/
  | noId (error : RenumberError)
  | notWritten (path : FilePath) (error : FileError)

namespace MergeFailure

/-- The code of a failure. -/
def code : MergeFailure → String
  | noMods => "MERGE-INPUT-E-001"
  | duplicateNames _ => "MERGE-INPUT-E-002"
  | badSettings _ => "MERGE-CONFIG-E-001"
  | unreadable _ => "MERGE-PARSE-E-001"
  | exhausted _ => "MERGE-ALLOC-E-001"
  | noId _ => "MERGE-WRITE-E-002"
  | notWritten .. => "MERGE-WRITE-E-001"

/-- The wording of a failure. -/
def message : MergeFailure → String
  | noMods => "No mods to merge"
  | duplicateNames modNames => "Duplicate mod names: " ++ ", ".intercalate modNames
  | badSettings problems =>
      "Invalid configuration: " ++ "; ".intercalate (problems.map SettingsProblem.message)
  | unreadable error => error.message
  | exhausted error => error.message
  | noId error => error.message
  | notWritten path error => "Could not write " ++ path.text ++ ": " ++ error.message

end MergeFailure

/-- What a merge cannot go on from. -/
inductive MergeFault where
  | setting (error : SettingError)
  | allocation (error : AllocationError)
  | renumbering (error : RenumberError)
  | file (error : FileError)
  | writing (error : FileStore.WriteError)

namespace MergeFault

/-- The wording of a fault. -/
def message : MergeFault → String
  | setting error => error.message
  | allocation error => error.message
  | renumbering error => error.message
  | file error => error.message
  | writing error => error.message

end MergeFault

/-- Why a merge ended early. -/
inductive MergeStop where
  | failed (failure : MergeFailure) (warnings : List MergeWarning)
  | broken (fault : MergeFault)

/-- What a merge has done. -/
structure MergeSummary where
  /-- The file that was written. -/
  path : FilePath
  /-- The mods in the order of their names. -/
  modNames : List String
  /-- How many ids moved. -/
  remapped : Nat
  /-- How many collisions this has settled. -/
  collisions : Nat
  warnings : List MergeWarning

namespace MergeSummary

/-- The code of a success. -/
def code : String := "MERGE-OK-S-001"

/-- The wording of a success. -/
def message (summary : MergeSummary) : String :=
  "Merged " ++ Text.decimalString summary.modNames.length ++ " mod(s) into " ++
    summary.path.text

end MergeSummary
end ModMerge
