import ModMerge.Proofs.Fold
import ModMerge.Proofs.Ids.FreshIds

/-!
# In which order ids are found

A search leaves no id out: where it finds no block, no block is free. Ids that are handed out
one by one ascend from the cursor and may then begin once more below it (`AscendsAround`). So
where no block is free, the last of them is not as far from the first as it would be in a
block, and comparing these two tells that the ids are scattered.
-/

namespace ModMerge

/-! ### Consecutive ids -/

theorem isScattered_iff {ids : List Int} {first last : Int} (isFirst : ids.head? = some first)
    (isLast : ids.getLast? = some last) :
    isScattered ids = true ↔ last - first ≠ ids.length - 1 := by
  simp only [isScattered, isFirst, isLast, bne_iff_ne]

/-- Consecutive ids are not scattered. -/
theorem isScattered_idsFrom (first : Int) (count : Nat) :
    isScattered (idsFrom first count) = false := by
  cases count with
  | zero => rfl
  | succ count =>
      have isFirst : (idsFrom first (count + 1)).head? = some first := by
        rw [idsFrom_succ, List.head?_cons]
      rw [← Bool.not_eq_true, isScattered_iff isFirst (getLast?_idsFrom first count),
        length_idsFrom]
      push_cast
      omega

/-- Ascending ids reach at least as far as consecutive ones, and only consecutive ones reach
no further. -/
theorem le_getLast_of_pairwise {first last : Int} {rest : List Int}
    (ascending : (first :: rest).Pairwise (· < ·))
    (isLast : (first :: rest).getLast? = some last) :
    first + rest.length ≤ last ∧
      (last = first + rest.length → first :: rest = idsFrom first (rest.length + 1)) := by
  induction rest generalizing first with
  | nil =>
      obtain rfl := Option.some.inj isLast
      simp [idsFrom]
  | cons second rest inductionHypothesis =>
      rw [List.pairwise_cons] at ascending
      have below := ascending.1 second List.mem_cons_self
      obtain ⟨reaches, consecutive⟩ := inductionHypothesis ascending.2
        (by rwa [List.getLast?_cons_cons] at isLast)
      rw [List.length_cons]
      refine ⟨by omega, fun same => ?_⟩
      have next : second = first + 1 := by omega
      rw [consecutive (by omega), idsFrom_succ first, next]

/-- Ids that ascend from a pivot on and then, once more, below it. -/
def AscendsAround (pivot : Int) (ids : List Int) : Prop :=
  ∃ upper lower, ids = upper ++ lower ∧ upper.Pairwise (· < ·) ∧ lower.Pairwise (· < ·) ∧
    (∀ id ∈ upper, pivot ≤ id) ∧ ∀ id ∈ lower, id < pivot

/-- The first and the last id tell whether ids that ascend around a pivot are consecutive. -/
theorem isScattered_of_ascendsAround {pivot : Int} {ids : List Int}
    (around : AscendsAround pivot ids) (notEmpty : ids ≠ [])
    (notConsecutive : ∀ first, ids ≠ idsFrom first ids.length) : isScattered ids = true := by
  have ascending : ids.Pairwise (· < ·) → isScattered ids = true := by
    intro ascending
    obtain ⟨first, rest, rfl⟩ := List.exists_cons_of_ne_nil notEmpty
    have isLast := List.getLast?_eq_some_getLast notEmpty
    obtain ⟨-, consecutive⟩ := le_getLast_of_pairwise ascending isLast
    rw [isScattered_iff List.head?_cons isLast, List.length_cons]
    intro same
    refine notConsecutive first (consecutive ?_)
    push_cast at same
    omega
  obtain ⟨upper, lower, rfl, upperAscends, lowerAscends, above, below⟩ := around
  cases upper with
  | nil => exact ascending (by simpa using lowerAscends)
  | cons first upperRest =>
      rcases List.eq_nil_or_concat lower with rfl | ⟨lowerRest, last, rfl⟩
      · exact ascending (by simpa using upperAscends)
      · have firstAbove := above first List.mem_cons_self
        have lastBelow := below last (by simp)
        have isFirst : (first :: upperRest ++ lowerRest.concat last).head? = some first := by
          rw [List.cons_append, List.head?_cons]
        have isLast : (first :: upperRest ++ lowerRest.concat last).getLast? = some last := by
          rw [List.concat_eq_append, ← List.append_assoc, List.getLast?_concat]
        rw [isScattered_iff isFirst isLast, List.length_append, List.length_cons]
        push_cast
        omega

/-- Going on after an id from the next one, or from the lowest of all if there is no next. -/
theorem AscendsAround.cons {pivot lowest greatest id : Int} {rest : List Int}
    (around : AscendsAround (if id < greatest then id + 1 else lowest) rest)
    (pivotBound : pivot ≤ greatest) (idBound : lowest ≤ id)
    (bounds : ∀ other ∈ rest, lowest ≤ other ∧ other ≤ greatest ∧ other ≠ id)
    (onward : pivot ≤ id → ∀ other ∈ rest, pivot ≤ other → id ≤ other)
    (again : id < pivot → ∀ other ∈ rest, id ≤ other ∧ other < pivot) :
    AscendsAround pivot (id :: rest) := by
  obtain ⟨upper, lower, rfl, upperAscends, lowerAscends, above, below⟩ := around
  have inUpper : ∀ other ∈ upper, other ∈ upper ++ lower :=
    fun other member => List.mem_append_left lower member
  have inLower : ∀ other ∈ lower, other ∈ upper ++ lower :=
    fun other member => List.mem_append_right upper member
  by_cases isNext : id < greatest
  · simp only [if_pos isNext] at above below
    by_cases isOnward : pivot ≤ id
    · refine ⟨id :: upper, lower, rfl, List.pairwise_cons.2 ⟨?_, upperAscends⟩, lowerAscends,
        ?_, ?_⟩
      · intro other member
        have := above other member
        omega
      · intro other member
        rcases List.mem_cons.1 member with rfl | member
        · exact isOnward
        · have := above other member
          omega
      · intro other member
        have isBelow := below other member
        have isOther := (bounds other (inLower other member)).2.2
        by_contra notBelow
        have := onward isOnward other (inLower other member) (by omega)
        omega
    · have noLower : lower = [] := by
        refine List.eq_nil_iff_forall_not_mem.2 fun other member => ?_
        have isBelow := below other member
        have isOther := (bounds other (inLower other member)).2.2
        have := (again (by omega) other (inLower other member)).1
        omega
      refine ⟨[], id :: upper, by rw [noLower, List.append_nil, List.nil_append], .nil,
        List.pairwise_cons.2 ⟨?_, upperAscends⟩, by simp, ?_⟩
      · intro other member
        have := above other member
        omega
      · intro other member
        rcases List.mem_cons.1 member with rfl | member
        · omega
        · exact (again (by omega) other (inUpper other member)).2
  · simp only [if_neg isNext] at above below
    have noLower : lower = [] := by
      refine List.eq_nil_iff_forall_not_mem.2 fun other member => ?_
      have := below other member
      have := (bounds other (inLower other member)).1
      omega
    refine ⟨[id], upper, by rw [noLower, List.append_nil, List.singleton_append],
      List.pairwise_singleton _ _, upperAscends, ?_, ?_⟩
    · simp only [List.mem_singleton, forall_eq]
      omega
    · intro other member
      obtain ⟨-, atMost, isOther⟩ := bounds other (inUpper other member)
      by_contra notBelow
      have := onward (by omega) other (inUpper other member) (by omega)
      omega

namespace IdAllocator

variable {allocator next last : IdAllocator} {type : EntityType} {size count : Nat}
  {start found : Int} {ids : List Int}

/-! ### A search leaves nothing out -/

theorem isBlockFree_eq_false_of_firstFree?_eq_some
    (search : allocator.firstFree? size start count = some found) :
    start ≤ found ∧ found < start + count ∧
      ∀ earlier, start ≤ earlier → earlier < found →
        allocator.isBlockFree earlier size = false := by
  induction count generalizing start with
  | zero => cases search
  | succ count inductionHypothesis =>
      rw [firstFree?] at search
      split at search
      · obtain rfl := Option.some.inj search
        exact ⟨by omega, by omega, fun earlier above below => by omega⟩
      · next taken =>
          obtain ⟨above, below, skipped⟩ := inductionHypothesis search
          refine ⟨by omega, by omega, fun earlier fromStart beforeFound => ?_⟩
          by_cases isStart : earlier = start
          · rw [isStart]
            exact Bool.eq_false_iff.2 taken
          · exact skipped earlier (by omega) beforeFound

theorem isBlockFree_eq_false_of_firstFree?_eq_none
    (search : allocator.firstFree? size start count = none) :
    ∀ candidate, start ≤ candidate → candidate < start + count →
      allocator.isBlockFree candidate size = false := by
  induction count generalizing start with
  | zero =>
      intro candidate above below
      omega
  | succ count inductionHypothesis =>
      rw [firstFree?] at search
      split at search
      · cases search
      · next taken =>
          intro candidate above below
          by_cases isStart : candidate = start
          · rw [isStart]
            exact Bool.eq_false_iff.2 taken
          · exact inductionHypothesis search candidate (by omega) (by omega)

/-- A free block lies within the range. -/
theorem bounds_of_isBlockFree (positive : 0 < size)
    (free : allocator.isBlockFree start size = true) :
    allocator.range.moddingStart ≤ start ∧ start + size ≤ allocator.range.moddingEnd + 1 := by
  have available := (allocator.isBlockFree_iff start size).1 free
  have first := ((allocator.isAvailable_iff _).1
    (available start (mem_idsFrom.2 ⟨by omega, by omega⟩))).1
  have final := ((allocator.isAvailable_iff _).1
    (available (start + size - 1) (mem_idsFrom.2 ⟨by omega, by omega⟩))).1
  simp only [EntityRange.isModding, Bool.and_eq_true, decide_eq_true_eq] at first final
  omega

/-- Where a search finds no block, no block is free. -/
theorem isBlockFree_eq_false_of_findBlock?_eq_none (positive : 0 < size)
    (search : allocator.findBlock? size = none) (first : Int) :
    allocator.isBlockFree first size = false := by
  by_contra free
  rw [Bool.not_eq_false] at free
  obtain ⟨above, below⟩ := bounds_of_isBlockFree positive free
  obtain ⟨-, cyclic⟩ := Option.or_eq_none_iff.1 search
  obtain ⟨onward, again⟩ := Option.or_eq_none_iff.1 cyclic
  have notOnward := isBlockFree_eq_false_of_firstFree?_eq_none onward first
  have notAgain := isBlockFree_eq_false_of_firstFree?_eq_none again first
  rw [free] at notOnward notAgain
  -- Every place at which a block fits is on one of the two ways.
  split at notOnward <;> rename_i inside
  · simp only [Bool.and_eq_true, decide_eq_true_eq] at inside
    simp only [Bool.and_eq_true, decide_eq_true_eq, inside, and_self, if_true] at notAgain
    by_cases onFirstWay : allocator.cursor ≤ first
    · exact absurd (notOnward onFirstWay (by omega)) (by simp)
    · exact absurd (notAgain above (by omega)) (by simp)
  · exact absurd (notOnward above (by omega)) (by simp)

/-! ### Single ids -/

/-- Where the search for a single id begins. -/
def searchStart (allocator : IdAllocator) : Int :=
  if allocator.range.moddingStart ≤ allocator.cursor ∧
      allocator.cursor ≤ allocator.range.moddingEnd then
    allocator.cursor
  else allocator.range.moddingStart

theorem searchStart_bounds (allocator : IdAllocator) :
    allocator.range.moddingStart ≤ allocator.searchStart ∧
      allocator.searchStart ≤ allocator.range.moddingEnd := by
  have ownsSome := allocator.range.vanillaEnd_lt_moddingEnd
  rw [searchStart]
  split
  · assumption
  · rw [EntityRange.moddingStart]
    omega

theorem searchStart_take {id : Int} (above : allocator.range.moddingStart ≤ id) :
    (allocator.take id 1).searchStart =
      if id < allocator.range.moddingEnd then id + 1 else allocator.range.moddingStart := by
  have range : (allocator.take id 1).range = allocator.range := rfl
  have cursor : (allocator.take id 1).cursor = id + 1 := rfl
  rw [searchStart, range, cursor]
  by_cases isNext : id < allocator.range.moddingEnd
  · rw [if_pos isNext, if_pos ⟨by omega, by omega⟩]
  · rw [if_neg isNext, if_neg (by omega)]

/-- A single id that is found is the first that is available from the start of the search on
or, if there is none, the first of all. -/
structure Finds (allocator : IdAllocator) (id : Int) : Prop where
  available : allocator.isAvailable id = true
  first : ∀ other, allocator.isAvailable other = true →
    (allocator.searchStart ≤ id → allocator.searchStart ≤ other → id ≤ other) ∧
    (id < allocator.searchStart → id ≤ other ∧ other < allocator.searchStart)

theorem inRange_of_isAvailable {id : Int} (available : allocator.isAvailable id = true) :
    allocator.range.moddingStart ≤ id ∧ id ≤ allocator.range.moddingEnd := by
  simpa [EntityRange.isModding] using ((allocator.isAvailable_iff id).1 available).1

theorem finds_of_allocateBlock_one (later : allocator.firstRequest = false)
    (allocated : allocator.allocateBlock type 1 = (.ok ids, next)) :
    ∃ id, ids = [id] ∧ next = allocator.take id 1 ∧ allocator.Finds id := by
  have single : ∀ candidate, allocator.isBlockFree candidate 1 = allocator.isAvailable candidate :=
    fun candidate => by rw [isBlockFree, isBlockFree, Bool.and_true]
  rw [allocateBlock] at allocated
  split at allocated
  · next id search =>
      obtain ⟨idsEq, rfl⟩ := Prod.mk.inj allocated
      obtain rfl := Except.ok.inj idsEq
      have available := allocator.isBlockFree_of_findBlock? search
      rw [single] at available
      refine ⟨id, by simp [idsFrom], rfl, available, fun other otherAvailable => ?_⟩
      have idInRange := inRange_of_isAvailable available
      have otherInRange := inRange_of_isAvailable otherAvailable
      have cyclic : allocator.cyclicFree? 1 = some id := by
        simpa [findBlock?, preferredFree?, later] using search
      have begins : (if (allocator.range.moddingStart ≤ allocator.cursor &&
            allocator.cursor ≤ allocator.range.moddingEnd - (1 : Nat) + 1) = true
          then allocator.cursor else allocator.range.moddingStart) = allocator.searchStart := by
        simp [searchStart]
      simp only [cyclicFree?, begins, Option.or_eq_some_iff] at cyclic
      rcases cyclic with onward | ⟨nothing, again⟩
      · obtain ⟨above, -, skipped⟩ := isBlockFree_eq_false_of_firstFree?_eq_some onward
        refine ⟨fun _ otherAbove => ?_, fun below => by omega⟩
        by_contra before
        rw [← single, skipped other otherAbove (by omega)] at otherAvailable
        cases otherAvailable
      · obtain ⟨-, below, skipped⟩ := isBlockFree_eq_false_of_firstFree?_eq_some again
        refine ⟨fun above => by omega, fun _ => ⟨?_, ?_⟩⟩
        · by_contra before
          rw [← single, skipped other otherInRange.1 (by omega)] at otherAvailable
          cases otherAvailable
        · by_contra above
          rw [← single, isBlockFree_eq_false_of_firstFree?_eq_none nothing other (by omega)
            (by omega)] at otherAvailable
          cases otherAvailable
  · cases (Prod.mk.inj allocated).1

/-- Ids that are handed out one by one ascend around the start of the first search. -/
theorem ascendsAround_of_allocateSingles (later : allocator.firstRequest = false)
    (allocated : allocator.allocateSingles type count = .ok (ids, last)) :
    AscendsAround allocator.searchStart ids := by
  induction count generalizing allocator ids with
  | zero =>
      obtain ⟨rfl, -⟩ := Prod.mk.inj (Except.ok.inj allocated)
      exact ⟨[], [], rfl, .nil, .nil, by simp, by simp⟩
  | succ count inductionHypothesis =>
      rw [allocateSingles] at allocated
      split at allocated
      · cases allocated
      · next single next found =>
          obtain ⟨⟨rest, final⟩, remaining, finished⟩ := map_eq_ok.1 allocated
          obtain ⟨rfl, rfl⟩ := Prod.mk.inj finished
          obtain ⟨id, rfl, rfl, finds⟩ := finds_of_allocateBlock_one later found
          have around := inductionHypothesis rfl remaining
          have idBounds := inRange_of_isAvailable finds.available
          rw [searchStart_take idBounds.1] at around
          -- What is handed out later was available before, and is another id.
          have others : ∀ other ∈ rest, allocator.isAvailable other = true ∧ other ≠ id := by
            intro other member
            have available := (handsOut_of_allocateSingles remaining).1.available other member
            rw [isAvailable_iff] at available ⊢
            simp only [take, IdSet.mem_insertAll, not_or, mem_idsFrom] at available
            obtain ⟨inRange, ⟨different, unused⟩, unreserved⟩ := available
            exact ⟨⟨inRange, unused, unreserved⟩, by omega⟩
          refine around.cons allocator.searchStart_bounds.2 idBounds.1 (fun other member => ?_)
            (fun onward other member => (finds.first other (others other member).1).1 onward)
            fun again other member => (finds.first other (others other member).1).2 again
          have bounds := inRange_of_isAvailable (others other member).1
          exact ⟨bounds.1, bounds.2, (others other member).2⟩

/-! ### Blocks and scattered ids -/

/-- Ids that are handed out are consecutive, or there is no free block for them and they are
scattered. -/
theorem consecutive_or_isScattered_of_allocateIds (positive : 0 < count)
    (allocated : allocator.allocateIds type count = .ok (ids, last)) :
    (∃ first, ids = idsFrom first count) ∨
      (isScattered ids = true ∧ ∀ first, allocator.isBlockFree first count = false) := by
  rw [allocateIds] at allocated
  split at allocated
  · next block next found =>
      obtain ⟨rfl, -⟩ := Prod.mk.inj (Except.ok.inj allocated)
      rw [allocateBlock] at found
      split at found
      · next start _ =>
          obtain ⟨idsEq, -⟩ := Prod.mk.inj found
          exact .inl ⟨start, (Except.ok.inj idsEq).symm⟩
      · cases (Prod.mk.inj found).1
  · next error next refused =>
      split at allocated
      · cases allocated
      · rw [allocateBlock] at refused
        split at refused
        · cases (Prod.mk.inj refused).1
        · next search =>
            obtain ⟨-, rfl⟩ := Prod.mk.inj refused
            have noBlock := isBlockFree_eq_false_of_findBlock?_eq_none positive search
            obtain ⟨handsOut, length⟩ := handsOut_of_allocateSingles allocated
            have notEmpty : ids ≠ [] := by
              rintro rfl
              rw [List.length_nil] at length
              omega
            have ascends := ascendsAround_of_allocateSingles rfl allocated
            refine .inr ⟨isScattered_of_ascendsAround ascends notEmpty fun first same => ?_,
              noBlock⟩
            have free : allocator.isBlockFree first count = true := by
              rw [isBlockFree_iff, ← length, ← same]
              exact handsOut.available
            rw [noBlock first] at free
            cases free
  · cases allocated

end IdAllocator
end ModMerge
