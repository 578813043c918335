import ModMerge.Mod.Survey

/-!
# Mods to be read

A `ModSource` is the script of a mod together with the name that orders and identifies the
mod. `readDefinitions` reads several of them in the order of their names.
-/

namespace ModMerge

/-- A mod by its name and its script. -/
structure ModSource where
  name : String
  script : List Char
deriving DecidableEq, Repr

namespace ModSource

/-- The mods in the order of their names; mods of the same name keep their order. -/
def inNameOrder (sources : List ModSource) : List ModSource :=
  sources.mergeSort fun first second => first.name ≤ second.name

/-- What a mod defines. -/
def definition (source : ModSource) : Except ModParseError ModDefinition :=
  ModDefinition.parse source.name source.script

end ModSource

/-- Of neighbouring definitions of the same name, the last. -/
def lastOfEachName : List ModDefinition → List ModDefinition
  | [] => []
  | [definition] => [definition]
  | definition :: next :: rest =>
      if definition.modName = next.modName then lastOfEachName (next :: rest)
      else definition :: lastOfEachName (next :: rest)

/-- What mods define, in the order of their names; of mods with the same name, the last one
counts. The first mod in this order that cannot be read is the error. -/
def readDefinitions (sources : List ModSource) :
    Except ModParseError (List ModDefinition) := do
  let definitions ← (ModSource.inNameOrder sources).mapM ModSource.definition
  return lastOfEachName definitions

end ModMerge
