import ModMerge.Allocation.Basic
import ModMerge.Mod.Renumbering

/-!
# The body of a merged file

The body is the renumbered mods one after another, each between two comments that name it.
What was collected for a mod is released as soon as the mod has been written.
-/

namespace ModMerge

/-- A mod whose script is to be written. -/
structure BodyItem where
  script : List Char
  definition : ModDefinition

/-- What has been written of a body, and what is left of the mods' data. -/
structure MergedBody where
  lines : Array Line := #[]
  /-- The definitions of the mods that have been written. -/
  definitions : List ModDefinition := []
  mappings : Std.TreeMap String ModMapping

namespace MergedBody

/-- Write one mod. -/
def addMod (body : MergedBody) (item : BodyItem) : Except RenumberError MergedBody := do
  let modName := item.definition.modName
  let mapping := body.mappings.getD modName { modName }
  let renumbered ← mapping.renumber modName item.script
  return {
    lines := body.lines ++
      ([[], ("-- Begin content from mod: " ++ modName).toList] ++ renumbered.lines ++
        [("-- End content from mod: " ++ modName).toList])
    definitions := body.definitions ++ [item.definition.release]
    mappings := body.mappings.insert modName mapping.release }

/-- The comment that ends a merged file. -/
def endMark : String := commentMark ++ " End merged content"

/-- Write some mods. -/
def write (mappings : Std.TreeMap String ModMapping) (items : List BodyItem) :
    Except RenumberError MergedBody := do
  let body ← items.foldlM addMod { mappings }
  return { body with lines := body.lines ++ [[], endMark.toList] }

end MergedBody
end ModMerge
