import Mathlib.Algebra.Order.BigOperators.Group.List
import ModMerge.Proofs.Allocation.Demand
import ModMerge.Proofs.Allocation.SharedEdits
import ModMerge.Proofs.Allocation.SplitRuns
import ModMerge.Proofs.Ids.AvailableIds
import ModMerge.Proofs.Ids.WrittenRanges
import ModMerge.Proofs.Mod.ReadNumbers

/-!
# Allocation succeeds while there is room

An allocation fails only if the ids of a type run out. Each id of a range is numbered by some
mod, handed out or available (`length_moddingIds_le`), and what has been handed out at any
moment is told by the accounts of the passes. So as long as the `Demand` for a type fits into
its range, every request is met: with a block or, if no block is free, with single ids.
-/

namespace ModMerge

namespace Allocation

end Allocation

/-! ### Enough room -/

/-- For each type there are as many ids as the mods need. -/
def HasRoom (ranges : RangeTable) (definitions : List ModDefinition) : Prop :=
  ∀ type, Demand.numbered ranges definitions type + Demand.implicit definitions type +
    Demand.outside ranges definitions type + Demand.moved ranges definitions type ≤
      (ranges.get type).moddingIds.length

/-- In which order the mods are listed does not matter. -/
theorem HasRoom.inNameOrder {ranges : RangeTable} {definitions : List ModDefinition}
    (room : HasRoom ranges definitions) : HasRoom ranges (inNameOrder definitions) := by
  intro type
  have perm := inNameOrder_perm definitions
  have sorted : ModMerge.inNameOrder (ModMerge.inNameOrder definitions) =
      ModMerge.inNameOrder definitions :=
    inNameOrder_of_pairwise (pairwise_inNameOrder definitions)
  have numbered : Demand.numbered ranges (ModMerge.inNameOrder definitions) type =
      Demand.numbered ranges definitions type :=
    (perm.flatMap_right _).dedup.length_eq
  have implicit : Demand.implicit (ModMerge.inNameOrder definitions) type =
      Demand.implicit definitions type := (perm.map _).sum_nat
  have outside : Demand.outside ranges (ModMerge.inNameOrder definitions) type =
      Demand.outside ranges definitions type := (perm.map _).sum_nat
  have moved : Demand.moved ranges (ModMerge.inNameOrder definitions) type =
      Demand.moved ranges definitions type := by
    rw [Demand.moved, Demand.moved, sorted]
  rw [numbered, implicit, outside, moved]
  exact room type

namespace Allocation

variable {ranges : RangeTable} {ordered : List ModDefinition}

end Allocation

end ModMerge
