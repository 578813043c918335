import Mathlib.Data.List.Nodup
import ModMerge.Allocation.Basic

/-!
# Fresh ids are available

Whatever the search of an `IdAllocator` finds was available, and taking it uses exactly
what was found. `HandsOut` says this once for a block, for ids one by one and for the
mixture of both that allocation asks for, so that nothing later has to open the search.
-/

namespace ModMerge

theorem mem_idsFrom {first id : Int} {count : Nat} :
    id ∈ idsFrom first count ↔ first ≤ id ∧ id < first + count := by
  simp only [idsFrom, List.mem_map, List.mem_range]
  constructor
  · rintro ⟨offset, bounded, rfl⟩
    omega
  · rintro ⟨lower, upper⟩
    exact ⟨(id - first).toNat, by omega, by omega⟩

theorem pairwise_idsFrom (first : Int) (count : Nat) :
    (idsFrom first count).Pairwise (· < ·) := by
  refine List.Pairwise.map _ (fun lower upper below => ?_) List.pairwise_lt_range
  omega

theorem nodup_idsFrom (first : Int) (count : Nat) : (idsFrom first count).Nodup :=
  (pairwise_idsFrom first count).imp Int.ne_of_lt

@[simp]
theorem length_idsFrom (first : Int) (count : Nat) : (idsFrom first count).length = count := by
  simp [idsFrom]

theorem idsFrom_succ (first : Int) (count : Nat) :
    idsFrom first (count + 1) = first :: idsFrom (first + 1) count := by
  simp only [idsFrom, List.range_succ_eq_map, List.map_cons, List.map_map]
  congr 1
  · simp
  · apply List.map_congr_left
    intro offset _
    simp only [Function.comp_apply, Nat.succ_eq_add_one]
    omega

theorem idsFrom_one (id : Int) : idsFrom id 1 = [id] := by
  simp [idsFrom]

theorem getLast?_idsFrom (first : Int) (count : Nat) :
    (idsFrom first (count + 1)).getLast? = some (first + count) := by
  rw [idsFrom, List.getLast?_map, List.getLast?_range]
  simp

/-- Consecutive ids can be parted anywhere. -/
theorem idsFrom_eq_append {first middle stop : Int} (above : first ≤ middle)
    (below : middle ≤ stop) :
    idsFrom first (stop - first).toNat =
      idsFrom first (middle - first).toNat ++ idsFrom middle (stop - middle).toNat := by
  have total : (stop - first).toNat = (middle - first).toNat + (stop - middle).toNat := by omega
  rw [total, idsFrom, List.range_add, List.map_append, List.map_map]
  refine congrArg _ (List.map_congr_left fun offset _ => ?_)
  simp only [Function.comp_apply]
  omega

namespace IdAllocator

theorem isAvailable_iff (allocator : IdAllocator) (id : Int) :
    allocator.isAvailable id = true ↔
      allocator.range.isModding id = true ∧ id ∉ allocator.used ∧ id ∉ allocator.reserved := by
  simp [isAvailable, and_assoc, ← Std.TreeSet.contains_iff_mem]

/-- A block is free exactly if each of its ids is available. -/
theorem isBlockFree_iff (allocator : IdAllocator) (start : Int) (size : Nat) :
    allocator.isBlockFree start size = true ↔
      ∀ id ∈ idsFrom start size, allocator.isAvailable id = true := by
  induction size generalizing start with
  | zero => simp [isBlockFree, idsFrom]
  | succ size inductionHypothesis =>
      simp [isBlockFree, idsFrom_succ, inductionHypothesis]

theorem isBlockFree_of_firstFree? (allocator : IdAllocator) {size count : Nat}
    {start found : Int} (search : allocator.firstFree? size start count = some found) :
    allocator.isBlockFree found size = true := by
  induction count generalizing start with
  | zero => simp [firstFree?] at search
  | succ count inductionHypothesis =>
      simp only [firstFree?] at search
      split at search
      · next free =>
          obtain rfl := Option.some.inj search
          exact free
      · exact inductionHypothesis search

theorem isBlockFree_of_findBlock? (allocator : IdAllocator) {size : Nat} {found : Int}
    (search : allocator.findBlock? size = some found) :
    allocator.isBlockFree found size = true := by
  simp only [findBlock?, Option.or_eq_some_iff] at search
  rcases search with preferred | ⟨-, cyclic⟩
  · simp only [preferredFree?] at preferred
    split at preferred
    · exact (Option.filter_eq_some_iff.1 preferred).2
    · cases preferred
  · simp only [cyclicFree?, Option.or_eq_some_iff] at cyclic
    rcases cyclic with onward | ⟨-, again⟩
    · exact allocator.isBlockFree_of_firstFree? onward
    · exact allocator.isBlockFree_of_firstFree? again

/-- Between two states of an allocator exactly the given ids were handed out: each of them
was available, none is given twice, and nothing but these became used. -/
structure HandsOut (before : IdAllocator) (ids : List Int) (after : IdAllocator) : Prop where
  range_eq : after.range = before.range
  reserved_eq : after.reserved = before.reserved
  nodup : ids.Nodup
  available : ∀ id ∈ ids, before.isAvailable id = true
  mem_used : ∀ id, id ∈ after.used ↔ id ∈ ids ∨ id ∈ before.used

namespace HandsOut

variable {before middle after : IdAllocator} {ids first second : List Int}

theorem isModding (handsOut : before.HandsOut ids after) {id : Int} (member : id ∈ ids) :
    before.range.isModding id = true :=
  ((before.isAvailable_iff id).1 (handsOut.available id member)).1

theorem not_mem_used (handsOut : before.HandsOut ids after) {id : Int} (member : id ∈ ids) :
    id ∉ before.used :=
  ((before.isAvailable_iff id).1 (handsOut.available id member)).2.1

theorem not_mem_reserved (handsOut : before.HandsOut ids after) {id : Int}
    (member : id ∈ ids) : id ∉ before.reserved :=
  ((before.isAvailable_iff id).1 (handsOut.available id member)).2.2

/-- Handing out nothing. -/
theorem nil (rangeEq : after.range = before.range)
    (reservedEq : after.reserved = before.reserved) (usedEq : after.used = before.used) :
    before.HandsOut [] after where
  range_eq := rangeEq
  reserved_eq := reservedEq
  nodup := List.nodup_nil
  available := by simp
  mem_used := by simp [usedEq]

/-- Handing out ids twice hands out all of them. -/
theorem append (earlier : before.HandsOut first middle)
    (later : middle.HandsOut second after) : before.HandsOut (first ++ second) after where
  range_eq := later.range_eq.trans earlier.range_eq
  reserved_eq := later.reserved_eq.trans earlier.reserved_eq
  nodup := by
    refine List.nodup_append'.2 ⟨earlier.nodup, later.nodup, ?_⟩
    intro id inFirst inSecond
    exact later.not_mem_used inSecond ((earlier.mem_used id).2 (.inl inFirst))
  available := by
    intro id member
    rcases List.mem_append.1 member with inFirst | inSecond
    · exact earlier.available id inFirst
    · refine (before.isAvailable_iff id).2 ⟨?_, ?_, ?_⟩
      · rw [← earlier.range_eq]
        exact later.isModding inSecond
      · exact fun inUsed =>
          later.not_mem_used inSecond ((earlier.mem_used id).2 (.inr inUsed))
      · rw [← earlier.reserved_eq]
        exact later.not_mem_reserved inSecond
  mem_used := by
    intro id
    rw [later.mem_used, earlier.mem_used, List.mem_append, or_left_comm, or_assoc]

end HandsOut

/-- A block that could be allocated was handed out, in the requested size. -/
theorem handsOut_of_allocateBlock {allocator next : IdAllocator} {type : EntityType}
    {size : Nat} {ids : List Int}
    (allocated : allocator.allocateBlock type size = (.ok ids, next)) :
    allocator.HandsOut ids next ∧ ids.length = size := by
  simp only [allocateBlock] at allocated
  split at allocated
  · next start found =>
      obtain ⟨idsEq, rfl⟩ := Prod.mk.inj allocated
      obtain rfl := Except.ok.inj idsEq
      refine ⟨⟨rfl, rfl, nodup_idsFrom .., ?_, ?_⟩, length_idsFrom ..⟩
      · exact (allocator.isBlockFree_iff start size).1
          (allocator.isBlockFree_of_findBlock? found)
      · intro id
        exact IdSet.mem_insertAll ..
  · cases (Prod.mk.inj allocated).1

/-- A block that could not be allocated leaves all ids as they were. -/
theorem handsOut_of_allocateBlock_error {allocator next : IdAllocator} {type : EntityType}
    {size : Nat} {error : RequestError}
    (refused : allocator.allocateBlock type size = (.error error, next)) :
    allocator.HandsOut [] next := by
  simp only [allocateBlock] at refused
  split at refused
  · cases (Prod.mk.inj refused).1
  · obtain ⟨-, rfl⟩ := Prod.mk.inj refused
    exact .nil rfl rfl rfl

theorem handsOut_of_allocateSingles {allocator last : IdAllocator} {type : EntityType}
    {count : Nat} {ids : List Int}
    (allocated : allocator.allocateSingles type count = .ok (ids, last)) :
    allocator.HandsOut ids last ∧ ids.length = count := by
  induction count generalizing allocator ids with
  | zero =>
      obtain ⟨rfl, rfl⟩ := Prod.mk.inj (Except.ok.inj allocated)
      exact ⟨.nil rfl rfl rfl, rfl⟩
  | succ count inductionHypothesis =>
      simp only [allocateSingles] at allocated
      split at allocated
      · cases allocated
      · next first next single =>
          obtain ⟨handed, handedLength⟩ := handsOut_of_allocateBlock single
          cases rest : next.allocateSingles type count with
          | error error => simp [rest, Except.map] at allocated
          | ok later =>
              obtain ⟨laterIds, laterState⟩ := later
              simp only [rest, Except.map, Except.ok.injEq, Prod.mk.injEq] at allocated
              obtain ⟨rfl, rfl⟩ := allocated
              obtain ⟨handedLater, laterLength⟩ := inductionHypothesis rest
              refine ⟨handed.append handedLater, ?_⟩
              rw [List.length_append, handedLength, laterLength, Nat.add_comm]

/-- Allocating ids as one block or one by one hands out the requested number. -/
theorem handsOut_of_allocateIds {allocator last : IdAllocator} {type : EntityType}
    {count : Nat} {ids : List Int}
    (allocated : allocator.allocateIds type count = .ok (ids, last)) :
    allocator.HandsOut ids last ∧ ids.length = count := by
  simp only [allocateIds] at allocated
  split at allocated
  · next block next found =>
      obtain ⟨rfl, rfl⟩ := Prod.mk.inj (Except.ok.inj allocated)
      exact handsOut_of_allocateBlock found
  · next error next refused =>
      split at allocated
      · cases allocated
      · obtain ⟨handed, handedLength⟩ := handsOut_of_allocateSingles allocated
        exact ⟨(handsOut_of_allocateBlock_error refused).append handed, handedLength⟩
  · cases allocated

end IdAllocator
end ModMerge
