import ModMerge.Proofs.Mod.MappingEntries

/-!
# A mapping as a finite map

Entries are added to a mapping one after another. What the mapping makes of an id is told by the
last entry for it that gives it another number, and all views of the mapping agree about that. An
entry that would leave the id at its number is not such an entry: it takes nothing back.
-/

namespace ModMerge

/-- Whether an entry gives its id another number. -/
def Remap.moves (entry : Remap) : Bool :=
  entry.old != entry.new

/-- The order in which a mapping lists its entries: by type and then by id. -/
def Remap.Before (first second : Remap) : Prop :=
  first.type.index < second.type.index ∨ first.type = second.type ∧ first.old < second.old

/-- What the last of the entries for an id says that it becomes. -/
def lastTarget? (entries : List Remap) (type : EntityType) (id : Int) : Option Int :=
  ((entries.filter fun entry => entry.type = type ∧ entry.old = id).getLast?).map (·.new)

/-- The last entry for an id gives it back its own number after another one has moved it. -/
def TakenBack (entries : List Remap) (type : EntityType) (id : Int) : Prop :=
  lastTarget? entries type id = some id ∧
    ∃ entry ∈ entries, entry.type = type ∧ entry.old = id ∧ entry.moves = true

/-! ### Last entries -/

section

variable {entries : List Remap} {type : EntityType} {id new : Int}

theorem lastTarget?_eq_none_iff :
    lastTarget? entries type id = none ↔
      ∀ entry ∈ entries, entry.type = type → entry.old ≠ id := by
  simp [lastTarget?]

/-- The entries after the first one go before it. -/
theorem lastTarget?_cons (entry : Remap) (entries : List Remap) (type : EntityType) (id : Int) :
    lastTarget? (entry :: entries) type id =
      (lastTarget? entries type id).or
        (if entry.type = type ∧ entry.old = id then some entry.new else none) := by
  unfold lastTarget?
  by_cases isFor : entry.type = type ∧ entry.old = id
  · rw [List.filter_cons_of_pos (by simpa using isFor), List.getLast?_cons, if_pos isFor]
    cases (entries.filter _).getLast? <;> rfl
  · rw [List.filter_cons_of_neg (by simpa using isFor), if_neg isFor, Option.or_none]

/-- An entry that moves an id does not move it to itself. -/
theorem ne_of_lastTarget?_moves
    (last : lastTarget? (entries.filter Remap.moves) type id = some new) : new ≠ id := by
  obtain ⟨entry, isLast, rfl⟩ := Option.map_eq_some_iff.1 last
  have member := List.mem_of_getLast? isLast
  simp only [List.mem_filter, Remap.moves, bne_iff_ne, decide_eq_true_eq] at member
  obtain ⟨⟨-, moves⟩, -, rfl⟩ := member
  exact moves.symm

/-- A last entry that moves its id is also the last of those that do. -/
theorem lastTarget?_moves_of_ne (last : lastTarget? entries type id = some new)
    (moved : new ≠ id) : lastTarget? (entries.filter Remap.moves) type id = some new := by
  obtain ⟨entry, isLast, rfl⟩ := Option.map_eq_some_iff.1 last
  obtain ⟨earlier, split⟩ := List.getLast?_eq_some_iff.1 isLast
  have member := List.mem_of_getLast? isLast
  simp only [List.mem_filter, decide_eq_true_eq] at member
  have moves : entry.moves = true := by
    rw [Remap.moves, bne_iff_ne, member.2.2]
    exact moved.symm
  have swapped : (entries.filter Remap.moves).filter
        (fun entry => entry.type = type ∧ entry.old = id) =
      earlier.filter Remap.moves ++ [entry] := by
    rw [List.filter_comm, split, List.filter_append, List.filter_singleton, moves]
    rfl
  rw [lastTarget?, swapped, List.getLast?_concat]
  rfl

/-- The last entry that moves an id is the last one for it, unless the id has been taken back. -/
theorem getD_lastTarget?_moves_iff (entries : List Remap) (type : EntityType) (id : Int) :
    (lastTarget? (entries.filter Remap.moves) type id).getD id =
        (lastTarget? entries type id).getD id ↔
      ¬ TakenBack entries type id := by
  cases movedTo : lastTarget? (entries.filter Remap.moves) type id with
  | none =>
      have neverMoved : ∀ entry ∈ entries, entry.type = type → entry.old = id →
          entry.moves ≠ true := by
        intro entry member sameType sameId moves
        exact lastTarget?_eq_none_iff.1 movedTo entry (List.mem_filter.2 ⟨member, moves⟩)
          sameType sameId
      have stays : (lastTarget? entries type id).getD id = id := by
        cases last : lastTarget? entries type id with
        | none => rfl
        | some new =>
            by_contra moved
            rw [lastTarget?_moves_of_ne last moved] at movedTo
            cases movedTo
      refine iff_of_true stays.symm ?_
      rintro ⟨-, entry, member, sameType, sameId, moves⟩
      exact neverMoved entry member sameType sameId moves
  | some new =>
      have moved := ne_of_lastTarget?_moves movedTo
      obtain ⟨entry, isLast, -⟩ := Option.map_eq_some_iff.1 movedTo
      have member := List.mem_of_getLast? isLast
      simp only [List.mem_filter, decide_eq_true_eq] at member
      obtain ⟨⟨isEntry, moves⟩, sameType, sameId⟩ := member
      cases last : lastTarget? entries type id with
      | none => exact absurd sameId (lastTarget?_eq_none_iff.1 last entry isEntry sameType)
      | some other =>
          by_cases stays : other = id
          · subst stays
            exact iff_of_false moved fun notTakenBack =>
              notTakenBack ⟨last, entry, isEntry, sameType, sameId, moves⟩
          · obtain rfl := Option.some.inj ((lastTarget?_moves_of_ne last stays).symm.trans movedTo)
            refine iff_of_true rfl fun takenBack => stays ?_
            exact Option.some.inj (last.symm.trans takenBack.1)

end

namespace ModMapping

/-! ### The views of a mapping -/

section

variable (mapping : ModMapping) (type : EntityType)

/-- The entry of an id, if it has one. -/
def target? (id : Int) : Option Int :=
  (mapping.remapped.get type)[id]?

theorem newId_eq_getD_target? (id : Int) :
    mapping.newId type id = (mapping.target? type id).getD id :=
  Std.TreeMap.getD_eq_getD_getElem?

theorem isRemapped_eq_isSome_target? (id : Int) :
    mapping.isRemapped type id = (mapping.target? type id).isSome :=
  Std.TreeMap.contains_eq_isSome_getElem?

/-- The entries of a type are listed with ascending ids. -/
theorem pairwise_remapsOf : (mapping.remapsOf type).Pairwise Remap.Before := by
  rw [remapsOf, List.pairwise_map]
  have ordered := Std.TreeMap.ordered_keys_toList (t := mapping.remapped.get type)
  exact ordered.imp fun {first second} before => .inr ⟨rfl, Std.compare_eq_lt.1 before⟩

theorem type_of_mem_remapsOf {entry : Remap} (member : entry ∈ mapping.remapsOf type) :
    entry.type = type := by
  obtain ⟨pair, -, rfl⟩ := List.mem_map.1 member
  rfl

/-- All entries are listed by type and then by id. -/
theorem pairwise_remaps : mapping.remaps.Pairwise Remap.Before := by
  have typesOrdered : EntityType.all.Pairwise fun first second => first.index < second.index := by
    decide
  refine List.pairwise_flatMap.2 ⟨fun type _ => mapping.pairwise_remapsOf type, ?_⟩
  refine typesOrdered.imp fun {first second} before entry inFirst other inSecond => .inl ?_
  rwa [mapping.type_of_mem_remapsOf first inFirst, mapping.type_of_mem_remapsOf second inSecond]

/-- The listed entries are the ones that the ids have. -/
theorem mem_remaps_iff {entry : Remap} :
    entry ∈ mapping.remaps ↔ mapping.target? entry.type entry.old = some entry.new := by
  obtain ⟨type, old, new⟩ := entry
  have inType : ⟨type, old, new⟩ ∈ mapping.remaps ↔ ⟨type, old, new⟩ ∈ mapping.remapsOf type := by
    constructor
    · intro member
      obtain ⟨other, -, listed⟩ := List.mem_flatMap.1 member
      obtain rfl : type = other := mapping.type_of_mem_remapsOf other listed
      exact listed
    · exact fun listed => List.mem_flatMap.2 ⟨type, EntityType.mem_all type, listed⟩
  rw [inType, remapsOf, List.mem_map, target?, ← Std.TreeMap.mem_toList_iff_getElem?_eq_some]
  simp

/-- As many entries are counted as are listed. -/
theorem remapCount_eq_length_remaps : mapping.remapCount = mapping.remaps.length := by
  rw [remapCount, remaps, List.length_flatMap, ← List.foldl_map, ← List.sum_eq_foldl]
  refine congrArg List.sum (List.map_congr_left fun type _ => ?_)
  rw [remapsOf, List.length_map, Std.TreeMap.length_toList]

end

/-! ### Adding entries -/

variable {mapping : ModMapping} {entries : List Remap}

/-- The mapping with entries added one after another. -/
def addRemaps (mapping : ModMapping) (entries : List Remap) : Except FrozenError ModMapping :=
  entries.foldlM (fun mapping entry => mapping.addRemap entry.type entry.old entry.new) mapping

/-- An entry that moves its id takes the place of an earlier one, and no other does anything. -/
theorem target?_recordRemap (type other : EntityType) (old new id : Int) :
    (mapping.recordRemap type old new).target? other id =
      if old ≠ new ∧ type = other ∧ old = id then some new else mapping.target? other id := by
  by_cases same : old = new
  · simp [recordRemap, same]
  · rw [recordRemap, if_neg same]
    simp only [target?, EntityTable.modify, EntityTable.get_set]
    by_cases sameType : type = other
    · subst sameType
      simp [Std.TreeMap.getElem?_insert, same]
    · simp [sameType]

/-- Entries can be added to a mapping that is not frozen. For each id, the last one that moves it
counts, and without one what had been there before. -/
theorem exists_addRemaps (entries : List Remap) (unfrozen : mapping.frozen = false) :
    ∃ after, mapping.addRemaps entries = .ok after ∧
      ∀ type id, after.target? type id =
        (lastTarget? (entries.filter Remap.moves) type id).or (mapping.target? type id) := by
  induction entries generalizing mapping with
  | nil => exact ⟨mapping, rfl, fun _ _ => rfl⟩
  | cons entry entries inductionHypothesis =>
      have stillUnfrozen :
          (mapping.recordRemap entry.type entry.old entry.new).frozen = false := by
        simpa using unfrozen
      obtain ⟨after, added, targets⟩ := inductionHypothesis stillUnfrozen
      refine ⟨after, ?_, fun type id => ?_⟩
      · rw [addRemaps, List.foldlM_cons, addRemap, change, unfrozen]
        exact added
      · rw [targets, target?_recordRemap]
        by_cases moves : entry.moves = true
        · rw [List.filter_cons_of_pos moves, lastTarget?_cons, Option.or_assoc]
          rw [Remap.moves, bne_iff_ne] at moves
          simp only [moves, ne_eq, not_false_eq_true, true_and]
          split <;> rfl
        · rw [List.filter_cons_of_neg moves]
          rw [Remap.moves, bne_iff_ne, ne_eq, not_not] at moves
          simp [moves]

/-- A mapping to which nothing but entries was added is a finite map. An id goes where the last
entry that moves it says, which is what the last entry for it says unless this takes the id back.
The ids with entries are the ones that change, each of them is listed once and in order with what
it becomes, and they are counted as they are listed. -/
theorem finite_map_of_addRemaps (mapping : ModMapping) (entries : List Remap)
    (unfrozen : mapping.frozen = false) (empty : mapping.remapped = .uniform ∅) :
    ∃ after, mapping.addRemaps entries = .ok after ∧
      (∀ type id, after.newId type id =
        (lastTarget? (entries.filter Remap.moves) type id).getD id) ∧
      (∀ type id, after.newId type id = (lastTarget? entries type id).getD id ↔
        ¬ TakenBack entries type id) ∧
      (∀ type id, after.isRemapped type id = true ↔ after.newId type id ≠ id) ∧
      (∀ entry, entry ∈ after.remaps ↔ after.isRemapped entry.type entry.old = true ∧
        entry.new = after.newId entry.type entry.old) ∧
      after.remaps.Pairwise Remap.Before ∧
      after.remapCount = after.remaps.length := by
  obtain ⟨after, added, targets⟩ := exists_addRemaps entries unfrozen
  have onlyMoves : ∀ type id, after.target? type id =
      lastTarget? (entries.filter Remap.moves) type id := by
    intro type id
    rw [targets, target?, empty, EntityTable.get_uniform, Std.TreeMap.getElem?_emptyc,
      Option.or_none]
  have newIds : ∀ type id, after.newId type id =
      (lastTarget? (entries.filter Remap.moves) type id).getD id := fun type id => by
    rw [newId_eq_getD_target?, onlyMoves]
  refine ⟨after, added, newIds, fun type id => ?_, fun type id => ?_, fun entry => ?_,
    after.pairwise_remaps, after.remapCount_eq_length_remaps⟩
  · rw [newIds]
    exact getD_lastTarget?_moves_iff entries type id
  · rw [newIds, isRemapped_eq_isSome_target?, onlyMoves]
    cases movedTo : lastTarget? (entries.filter Remap.moves) type id with
    | none => simp
    | some new => simpa using ne_of_lastTarget?_moves movedTo
  · rw [mem_remaps_iff, isRemapped_eq_isSome_target?, newId_eq_getD_target?]
    cases after.target? entry.type entry.old with
    | none => simp
    | some new => simp [eq_comm]

/-- Entries for ids of two types, of which the last takes a monster back. -/
def returningEntries : List Remap :=
  [⟨.monster, 5000, 13500⟩, ⟨.spell, 2000, 5750⟩, ⟨.monster, 5001, 13501⟩,
    ⟨.monster, 5001, 13502⟩, ⟨.monster, 5000, 5000⟩]

theorem finite_map_of_addRemaps_returningEntries :
    ({ modName := "Abysia" } : ModMapping).frozen = false ∧
    ({ modName := "Abysia" } : ModMapping).remapped = .uniform ∅ ∧
    ∃ after, ({ modName := "Abysia" } : ModMapping).addRemaps returningEntries = .ok after ∧
      after.newId .monster 5001 = 13502 ∧
      after.remaps.Pairwise Remap.Before ∧ after.remapCount = after.remaps.length := by
  refine ⟨rfl, rfl, ?_⟩
  obtain ⟨after, added, newIds, -, -, -, ordered, counted⟩ :=
    finite_map_of_addRemaps { modName := "Abysia" } returningEntries rfl rfl
  exact ⟨after, added, (newIds .monster 5001).trans (by decide), ordered, counted⟩

/-- An id that has been moved does not come back, although the last entry for it says so. -/
theorem exists_addRemaps_not_last :
    ∃ after, ({ modName := "Abysia" } : ModMapping).addRemaps returningEntries = .ok after ∧
      (lastTarget? returningEntries .monster 5000).getD 5000 = 5000 ∧
      after.newId .monster 5000 = 13500 := by
  obtain ⟨after, added, targets⟩ :=
    exists_addRemaps returningEntries
      (show ({ modName := "Abysia" } : ModMapping).frozen = false from rfl)
  refine ⟨after, added, by decide, ?_⟩
  rw [newId_eq_getD_target?, targets]
  decide

end ModMapping
end ModMerge
