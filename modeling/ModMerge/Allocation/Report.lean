import ModMerge.Allocation.Basic

/-!
# Reports on an allocation

A report lists which ids moved and which conflicts there are. `textReport` is meant for a
terminal and shows everything; `markdownReport` is meant to be kept, and shows at most
`remapsShown` moved ids of each mod. Neither asks whether its numbers have too many digits:
allocating the ids has written each of them, or the bounds of its range, before.
-/

namespace ModMerge

/-- How many moved ids of a mod a report shows. -/
def remapsShown : Nat := 50

/-- A moment of local time. -/
structure Timestamp where
  year : Nat
  month : Nat
  day : Nat
  hour : Nat
  minute : Nat
  second : Nat
deriving DecidableEq, Repr

/-- A number in at least the given number of digits. -/
def paddedDecimal (width number : Nat) : String :=
  let digits := Nat.toDigits 10 number
  String.ofList (List.replicate (width - digits.length) '0' ++ digits)

/-- A moment as text, from the year down to the second. -/
def Timestamp.text (moment : Timestamp) : String :=
  Text.decimalString moment.year ++ "-" ++ paddedDecimal 2 moment.month ++ "-" ++
    paddedDecimal 2 moment.day ++ " " ++ paddedDecimal 2 moment.hour ++ ":" ++
    paddedDecimal 2 moment.minute ++ ":" ++ paddedDecimal 2 moment.second

namespace AllocationResult

/-- The line of a text report on one moved id. -/
def textRemapLine (remap : Remap) : String :=
  "  " ++ remap.type.label ++ " " ++ Text.decimalString remap.old ++ " -> " ++
    Text.decimalString remap.new

/-- What is said about a conflict over content of the base game. -/
def sharedEditText (conflict : ModConflict) : String :=
  conflict.type.label ++ " " ++ rangesText conflict.ids ++ ": " ++
    ", ".intercalate conflict.mods

/-- The part of a text report on one mod. -/
def textModSection (modName : String) (mapping : ModMapping) : List String :=
  if mapping.remaps.isEmpty then []
  else "" :: (modName ++ ":") :: mapping.remaps.map textRemapLine

/-- A report for a terminal. -/
def textReport (result : AllocationResult) : String :=
  let shared := result.sharedEdits
  let head :=
    ["Remapped ids: " ++ Text.decimalString result.remapCount,
      "Vanilla conflicts: " ++ Text.decimalString shared.length]
  let mods := result.mappings.toList.flatMap fun (modName, mapping) =>
    textModSection modName mapping
  let edits :=
    if shared.isEmpty then []
    else
      "" :: "Vanilla content modified by several mods:" ::
        shared.map fun conflict => "  " ++ sharedEditText conflict
  "\n".intercalate (head ++ mods ++ edits)

/-- The row of a markdown report on one collision. -/
def collisionRow (conflict : ModConflict) : String :=
  "| " ++ conflict.type.label ++ " | " ++ rangesText conflict.ids ++ " | " ++
    " | ".intercalate conflict.mods ++ " |"

/-- The line of a markdown report on one moved id. -/
def markdownRemapLine (remap : Remap) : String :=
  "- " ++ remap.type.label ++ " `" ++ Text.decimalString remap.old ++ "` -> `" ++
    Text.decimalString remap.new ++ "`"

/-- The section of a markdown report on one mod. -/
def markdownModSection (modName : String) (mapping : ModMapping) : List String :=
  let remaps := mapping.remaps
  if remaps.isEmpty then []
  else
    ("### " ++ modName) :: (remaps.take remapsShown).map markdownRemapLine ++
      (if remaps.length > remapsShown then
        ["- ... and " ++ Text.decimalString ((remaps.length - remapsShown : Nat) : Int) ++
          " more"]
      else []) ++ [""]

/-- The mods that the sections of a markdown report are about: the named ones or, if none is
named, all of them in the order of their names. Without collisions there are no such sections.
The first name that is not part of the merge is the error. -/
def reportedMods (result : AllocationResult) (modNames : List String) :
    Except String (List (String × ModMapping)) :=
  if modNames.isEmpty || result.collisions.isEmpty then .ok result.mappings.toList
  else
    modNames.mapM fun modName =>
      match result.mappings[modName]? with
      | some mapping => .ok (modName, mapping)
      | none => .error modName

/-- The first lines of a markdown report. -/
def markdownSummary (result : AllocationResult) (generated : Timestamp) : List String :=
  ["# Dominions Mod Merge Report", "Generated: " ++ generated.text, "", "## Summary",
    "- Mods: " ++ Text.decimalString result.mappings.size,
    "- Remapped ids: " ++ Text.decimalString result.remapCount,
    "- Id collisions between mods: " ++ Text.decimalString result.collisions.length,
    "- Vanilla conflicts: " ++ Text.decimalString result.sharedEdits.length, ""]

/-- The part of a markdown report on collisions, with a section on each of the mods that had
ids moved. -/
def markdownCollisions (result : AllocationResult) (mods : List (String × ModMapping)) :
    List String :=
  if result.collisions.isEmpty then []
  else
    ["## Id Collisions", "", "| Type | Ids | Kept by | Moved in |",
      "|------|-----|---------|----------|"] ++
    result.collisions.map collisionRow ++ ["", "## Remapped Ids", ""] ++
    mods.flatMap fun (modName, mapping) => markdownModSection modName mapping

/-- The part of a markdown report on content of the base game. -/
def markdownSharedEdits (result : AllocationResult) : List String :=
  if result.sharedEdits.isEmpty then []
  else
    ["## Vanilla Conflicts", "",
      "Only the last mod's version of these entries takes effect in game.", ""] ++
    result.sharedEdits.map (fun conflict => "- " ++ sharedEditText conflict) ++ [""]

/-- A report to be kept. -/
def markdownReport (result : AllocationResult) (generated : Timestamp)
    (mods : List (String × ModMapping)) : String :=
  "\n".intercalate <| result.markdownSummary generated ++
    if result.collisions.isEmpty && result.sharedEdits.isEmpty then
      ["*No conflicts detected.*"]
    else result.markdownCollisions mods ++ result.markdownSharedEdits

end AllocationResult
end ModMerge
