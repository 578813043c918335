import Mathlib.Data.List.Flatten
import ModMerge.Proofs.Allocation.UnclaimedIds

/-!
# Reservations

While numbered ids are placed, a ledger counts for each id the mods that numbered it and have not
moved away from it. At every point of the pass this count is the number of mods that hold the id
(`holds`), and the id is reserved exactly as long as some mod does. So an id is given back when
the last mod that numbered it moves away, and not before; when everything is placed, the reserved
ids are those that mods keep and the used ids are the final ones.
-/

namespace ModMerge

/-- Of lists without repetitions, as many contain a value as it is contained in all of them
together. -/
theorem count_flatMap_of_nodup {Source : Type} {sources : List Source} {part : Source → List Int}
    (nodup : ∀ source ∈ sources, (part source).Nodup) (id : Int) :
    (sources.flatMap part).count id = sources.countP fun source => (part source).contains id := by
  induction sources with
  | nil => rfl
  | cons source rest inductionHypothesis =>
      rw [List.flatMap_cons, List.count_append, List.countP_cons, Nat.add_comm,
        inductionHypothesis fun other member => nodup other (List.mem_cons_of_mem source member),
        (nodup source List.mem_cons_self).count]
      simp only [List.contains_iff_mem]

namespace Allocation

/-- Whether a mod has moved a run of its ids. -/
def hasMoved (allocation : Allocation) (modName : String) (type : EntityType)
    (run : List Int) : Bool :=
  run.all ((allocation.mappingOf modName).isRemapped type)

/-- The ids of a type within its range that a mod numbered and whose runs it has not moved. -/
def heldIds (allocation : Allocation) (ranges : RangeTable) (type : EntityType)
    (definition : ModDefinition) : List Int :=
  (splitRuns (definition.insideIds ranges type)).flatMap fun run =>
    if allocation.hasMoved definition.modName type run then [] else run

/-- Whether a mod numbered an id within the range and has not moved the run with that id. -/
def holds (allocation : Allocation) (ranges : RangeTable) (type : EntityType) (id : Int)
    (definition : ModDefinition) : Bool :=
  (splitRuns (definition.insideIds ranges type)).any fun run =>
    run.contains id && !allocation.hasMoved definition.modName type run

/-- Where the pass over numbered ids stands between two steps. -/
structure Between (ranges : RangeTable) (ordered : List ModDefinition)
    (done rest : List ExplicitStep) (allocation : Allocation) : Prop where
  steps : ordered.flatMap (·.explicitSteps ranges) = done ++ rest
  decided : ∃ start, allocateImplicit ranges ordered = .ok start ∧
    done.foldlM placeExplicit start = .ok allocation

/-- The ids of a type that a step is about, unless its mod has moved them. -/
def heldByStep (allocation : Allocation) (type : EntityType) : ExplicitStep → List Int
  | .run modName other ids =>
      if other = type then if allocation.hasMoved modName type ids then [] else ids else []
  | .outOfRange .. => []

variable {ranges : RangeTable} {ordered : List ModDefinition} {modNames : List String}
  {done rest : List ExplicitStep} {allocation : Allocation} {type : EntityType}
  {modName : String} {ids fresh : List Int}

/-! ### Steps that have been taken and steps to come -/

theorem heldByStep_of_type_ne (allocation : Allocation) {step : ExplicitStep}
    (different : step.type ≠ type) : allocation.heldByStep type step = [] := by
  cases step with
  | run modName other ids => exact if_neg different
  | outOfRange modName other ids => rfl

/-- The ids of a run are held if none of them has moved. -/
theorem heldByStep_run
    (notMoved : ∀ id ∈ ids, ¬ (allocation.mappingOf modName).isRemapped type id = true) :
    allocation.heldByStep type (.run modName type ids) = ids := by
  cases ids with
  | nil => simp [heldByStep]
  | cons id others =>
      have stays : allocation.hasMoved modName type (id :: others) = false := by
        rw [hasMoved, List.all_cons, Bool.eq_false_iff.2 (notMoved id List.mem_cons_self),
          Bool.false_and]
      simp [heldByStep, stays]

theorem heldByStep_run_of_moved
    (moved : ∀ id ∈ ids, (allocation.mappingOf modName).isRemapped type id = true) :
    allocation.heldByStep type (.run modName type ids) = [] := by
  have moves : allocation.hasMoved modName type ids = true := List.all_eq_true.2 moved
  simp [heldByStep, moves]

/-- Of steps that have been taken, those ids are held that have been kept. -/
theorem keptIds_eq_flatMap_heldByStep {steps : List ExplicitStep}
    (isRemapped_iff : ∀ earlier step later, steps = earlier ++ step :: later → step.type = type →
      ∀ id ∈ step.ids,
        (allocation.mappingOf step.modName).isRemapped type id = true ↔ step.Moves earlier) :
    keptIds type steps = steps.flatMap (allocation.heldByStep type) := by
  induction steps using List.reverseRecOn with
  | nil => rfl
  | append_singleton steps step inductionHypothesis =>
      have before := inductionHypothesis fun earlier other later split =>
        isRemapped_iff earlier other (later ++ [step]) (by simp [split])
      rw [List.flatMap_append, List.flatMap_singleton, ← before]
      cases step with
      | outOfRange modName other ids =>
          rw [keptIds_snoc, keepIds, heldByStep, List.append_nil]
      | run modName other ids =>
          have now : other = type → ∀ id ∈ ids,
              ((allocation.mappingOf modName).isRemapped type id = true ↔
                (ExplicitStep.run modName other ids).Moves steps) :=
            isRemapped_iff steps (.run modName other ids) [] rfl
          by_cases same : other = type
          · subst same
            by_cases moves : (ExplicitStep.run modName other ids).Moves steps
            · rw [keptIds_snoc_of_moves moves,
                heldByStep_run_of_moved fun id member => (now rfl id member).2 moves,
                List.append_nil]
            · rw [keptIds_snoc_run moves,
                heldByStep_run fun id member isRemapped => moves ((now rfl id member).1 isRemapped)]
          · have different : (ExplicitStep.run modName other ids).type ≠ type := same
            rw [keptIds_snoc, keepIds_of_type_ne _ different, heldByStep_of_type_ne _ different,
              List.append_nil]

/-- Of a step to come, all ids are held. -/
theorem Progress.heldByStep_eq_waitingIds
    (progress : allocation.Progress ranges modNames type done rest fresh)
    (sound : SoundSteps ranges modNames (done ++ rest)) {step : ExplicitStep}
    (member : step ∈ rest) : allocation.heldByStep type step = step.waitingIds type := by
  cases step with
  | outOfRange modName other ids => rfl
  | run modName other ids =>
      by_cases same : other = type
      · subst same
        rw [ExplicitStep.waitingIds, if_pos rfl]
        refine heldByStep_run fun id inIds isRemapped => ?_
        obtain ⟨earlier, isDone, sameName, sameType, inEarlier⟩ :=
          progress.exists_step modName id isRemapped
        obtain ⟨-, -, across⟩ := List.pairwise_append.1 sound.apart
        exact across earlier isDone _ member sameName sameType inEarlier inIds
      · rw [ExplicitStep.waitingIds, if_neg same]
        exact heldByStep_of_type_ne allocation same

/-- What is kept and what waits to be placed is held by the steps of the pass. -/
theorem Progress.flatMap_heldByStep
    (progress : allocation.Progress ranges modNames type done rest fresh)
    (sound : SoundSteps ranges modNames (done ++ rest)) :
    (done ++ rest).flatMap (allocation.heldByStep type) =
      keptIds type done ++ rest.flatMap (·.waitingIds type) := by
  rw [List.flatMap_append, keptIds_eq_flatMap_heldByStep progress.isRemapped_iff,
    List.flatMap_congr fun step => progress.heldByStep_eq_waitingIds sound]

/-! ### What mods hold -/

theorem flatMap_heldByStep_explicitSteps (allocation : Allocation) (ranges : RangeTable)
    (type : EntityType) (definition : ModDefinition) :
    (definition.explicitSteps ranges).flatMap (allocation.heldByStep type) =
      allocation.heldIds ranges type definition := by
  have noneOutside : (if (definition.outsideIds ranges type).isEmpty then []
      else [ExplicitStep.outOfRange definition.modName type
        (definition.outsideIds ranges type)]).flatMap (allocation.heldByStep type) = [] := by
    split <;> rfl
  rw [definition.flatMap_explicitSteps ranges fun step => heldByStep_of_type_ne allocation,
    ModDefinition.stepsOfType, List.flatMap_append, noneOutside, List.append_nil,
    List.flatMap_map]
  simp only [heldByStep, if_true, heldIds]

theorem contains_heldIds (allocation : Allocation) (ranges : RangeTable) (type : EntityType)
    (id : Int) (definition : ModDefinition) :
    (allocation.heldIds ranges type definition).contains id =
      allocation.holds ranges type id definition := by
  rw [Bool.eq_iff_iff, List.contains_iff_mem, heldIds, List.mem_flatMap, holds, List.any_eq_true]
  refine exists_congr fun run => and_congr_right fun _ => ?_
  rw [Bool.and_eq_true, List.contains_iff_mem]
  cases allocation.hasMoved definition.modName type run <;> simp

theorem nodup_heldIds (allocation : Allocation) (ranges : RangeTable) (type : EntityType)
    (definition : ModDefinition) : (allocation.heldIds ranges type definition).Nodup := by
  have sublist : (allocation.heldIds ranges type definition).Sublist
      ((splitRuns (definition.insideIds ranges type)).flatMap id) := by
    refine List.Sublist.flatMap_right _ fun run _ => ?_
    split
    · exact List.nil_sublist run
    · exact List.Sublist.refl run
  rw [List.flatMap_id, flatten_splitRuns] at sublist
  exact ((definition.nodup_definedIds type).filter _).sublist sublist

namespace Between

theorem sound (between : Between ranges ordered done rest allocation)
    (distinct : (ordered.map (·.modName)).Nodup) :
    SoundSteps ranges (ordered.map (·.modName)) (done ++ rest) :=
  between.steps ▸ soundSteps_explicitSteps ranges distinct

theorem exists_progress (between : Between ranges ordered done rest allocation)
    (distinct : (ordered.map (·.modName)).Nodup) (type : EntityType) :
    ∃ fresh, allocation.Progress ranges (ordered.map (·.modName)) type done rest fresh := by
  obtain ⟨start, started, run⟩ := between.decided
  have initially : ∀ type, ∃ fresh, start.Progress ranges (ordered.map (·.modName)) type []
      (done ++ rest) fresh := by
    intro type
    obtain ⟨fresh, progress⟩ := implicitProgress_allocateImplicit distinct started type
    exact ⟨fresh, between.steps ▸ progress_initial progress⟩
  exact (invariant_of_placeExplicit (between.sound distinct) (fun _ _ => True)
    (fun _ _ _ _ _ _ _ _ _ => trivial) initially trivial run).1 type

/-- The ids that mods hold are those that have been kept and those that wait to be placed. -/
theorem flatMap_heldIds (between : Between ranges ordered done rest allocation)
    (distinct : (ordered.map (·.modName)).Nodup) (type : EntityType) :
    ordered.flatMap (allocation.heldIds ranges type) =
      keptIds type done ++ rest.flatMap (·.waitingIds type) := by
  obtain ⟨fresh, progress⟩ := between.exists_progress distinct type
  rw [← progress.flatMap_heldByStep (between.sound distinct), ← between.steps,
    List.flatMap_assoc]
  simp only [flatMap_heldByStep_explicitSteps]

/-- The reservations of an id are the mods that hold it. -/
theorem getD_reservations (between : Between ranges ordered done rest allocation)
    (distinct : (ordered.map (·.modName)).Nodup) (type : EntityType) (id : Int) :
    (allocation.ledgers.get type).reservations.getD id 0 =
      (ordered.countP (allocation.holds ranges type id) : Nat) := by
  obtain ⟨fresh, progress⟩ := between.exists_progress distinct type
  rw [progress.accounts.getD_reservations, Nat.add_comm, ← List.count_append,
    ← between.flatMap_heldIds distinct,
    count_flatMap_of_nodup fun definition _ => nodup_heldIds allocation ranges type definition]
  simp only [contains_heldIds]

/-- An id is reserved as long as it has reservations. -/
theorem mem_reserved_iff (between : Between ranges ordered done rest allocation)
    (distinct : (ordered.map (·.modName)).Nodup) (type : EntityType) (id : Int) :
    id ∈ (allocation.ledgers.get type).allocator.reserved ↔
      0 < (allocation.ledgers.get type).reservations.getD id 0 := by
  obtain ⟨fresh, progress⟩ := between.exists_progress distinct type
  rw [progress.accounts.mem_reserved, progress.accounts.getD_reservations, Int.natCast_pos,
    Nat.add_pos_iff_pos_or_pos, List.count_pos_iff, List.count_pos_iff, or_comm]

/-- The ids of the next run have reservations, which it can give back. -/
theorem mem_reservations_of_next {later : List ExplicitStep}
    (between : Between ranges ordered done (.run modName type ids :: later) allocation)
    (distinct : (ordered.map (·.modName)).Nodup) {id : Int} (member : id ∈ ids) :
    id ∈ (allocation.ledgers.get type).reservations := by
  obtain ⟨fresh, progress⟩ := between.exists_progress distinct type
  have reserved := (progress.accounts.mem_reserved id).2
    (.inr (by simp [ExplicitStep.waitingIds, member]))
  rw [between.mem_reserved_iff distinct] at reserved
  by_contra missing
  rw [Std.TreeMap.getD_eq_fallback missing] at reserved
  exact absurd reserved (lt_irrefl 0)

end Between

/-! ### When everything is placed -/

/-- Mods own only ids within the range, so an id whose number stays the same lies there. -/
theorem mem_insideIds_of_newId_eq (distinct : (ordered.map (·.modName)).Nodup)
    (allocated : allocateAll ranges ordered = .ok allocation) {definition : ModDefinition}
    (known : definition ∈ ordered) {id : Int} (isDefined : id ∈ definition.definedIds type)
    (same : (allocation.mappingOf definition.modName).newId type id = id) :
    id ∈ definition.insideIds ranges type := by
  obtain ⟨fresh, progress⟩ := (progress_allocateAll distinct allocated).1 type
  have isFinal : id ∈ keptIds type (ordered.flatMap (·.explicitSteps ranges)) ++ fresh := by
    refine progress.final_perm.mem_iff.1 (List.mem_flatMap.2 ⟨definition, known, ?_⟩)
    exact List.mem_append_left _ (List.mem_map.2 ⟨id, isDefined, same⟩)
  refine List.mem_filter.2 ⟨isDefined, progress.accounts.isModding id ?_⟩
  rcases List.mem_append.1 isFinal with isKept | isFresh
  · exact .inl isKept
  · exact .inr (.inl isFresh)

/-- An id that has moved has another number now: when its replacement was handed out, the id was
still reserved by the mod that numbered it. -/
theorem newId_ne_of_isRemapped (distinct : (ordered.map (·.modName)).Nodup)
    (sorted : ordered.Pairwise fun first second => first.modName ≤ second.modName)
    (allocated : allocateAll ranges ordered = .ok allocation) {definition : ModDefinition}
    (known : definition ∈ ordered) {id : Int}
    (isRemapped : (allocation.mappingOf definition.modName).isRemapped type id = true) :
    (allocation.mappingOf definition.modName).newId type id ≠ id := by
  intro same
  obtain ⟨before, next, left⟩ := exists_handsOutNext distinct sorted allocated isRemapped
  rw [same] at next left
  have isDefined := mem_definedIds_of_isRemapped distinct known allocated isRemapped
  have inside := mem_insideIds_of_newId_eq distinct allocated known isDefined same
  have hadMoved := (left definition known inside).1
  rw [next.notMoved] at hadMoved
  cases hadMoved

/-- The kept ids are those that mods define and whose numbers stay the same. -/
theorem mem_keptIds_iff_exists_newId_eq (distinct : (ordered.map (·.modName)).Nodup)
    (sorted : ordered.Pairwise fun first second => first.modName ≤ second.modName)
    (allocated : allocateAll ranges ordered = .ok allocation) (type : EntityType) (id : Int) :
    id ∈ keptIds type (ordered.flatMap (·.explicitSteps ranges)) ↔
      ∃ definition ∈ ordered, id ∈ definition.definedIds type ∧
        (allocation.mappingOf definition.modName).newId type id = id := by
  constructor
  · intro isKept
    obtain ⟨modName, front, _, back, split, ids, rfl, stays, inIds⟩ := mem_keptIds_iff.1 isKept
    have isStep : .run modName type ids ∈ ordered.flatMap (·.explicitSteps ranges) :=
      split ▸ List.mem_append_right front List.mem_cons_self
    obtain ⟨definition, known, rfl, inside⟩ := exists_definition_of_run_mem isStep inIds
    refine ⟨definition, known, List.mem_of_mem_filter inside, ModMapping.newId_of_not_isRemapped ?_⟩
    rw [← Bool.not_eq_true, isRemapped_iff_moves distinct allocated split inIds]
    exact stays
  · rintro ⟨definition, known, isDefined, same⟩
    have inside := mem_insideIds_of_newId_eq distinct allocated known isDefined same
    obtain ⟨ids, inIds, isRun⟩ := exists_run_of_mem_insideIds known inside
    obtain ⟨front, back, split⟩ := List.append_of_mem isRun
    have stays : ¬ (ExplicitStep.run definition.modName type ids).Moves front := by
      intro moves
      have isRemapped := (isRemapped_iff_moves distinct allocated split inIds).2 moves
      exact newId_ne_of_isRemapped distinct sorted allocated known isRemapped same
    exact mem_keptIds_iff.2 ⟨definition.modName, front, _, back, split, ids, rfl, stays, inIds⟩

/-- When everything is placed, those ids are reserved that mods keep. -/
theorem mem_reserved_iff_of_allocateAll (distinct : (ordered.map (·.modName)).Nodup)
    (sorted : ordered.Pairwise fun first second => first.modName ≤ second.modName)
    (allocated : allocateAll ranges ordered = .ok allocation) (type : EntityType) (id : Int) :
    id ∈ (allocation.ledgers.get type).allocator.reserved ↔
      ∃ definition ∈ ordered, id ∈ definition.definedIds type ∧
        (allocation.mappingOf definition.modName).newId type id = id := by
  obtain ⟨fresh, progress⟩ := (progress_allocateAll distinct allocated).1 type
  rw [progress.accounts.mem_reserved, List.flatMap_nil, or_iff_left List.not_mem_nil,
    mem_keptIds_iff_exists_newId_eq distinct sorted allocated]

/-- When everything is placed, those ids are used that mods own. -/
theorem mem_used_iff_of_allocateAll (distinct : (ordered.map (·.modName)).Nodup)
    (allocated : allocateAll ranges ordered = .ok allocation) (type : EntityType) (id : Int) :
    id ∈ (allocation.ledgers.get type).allocator.used ↔
      ∃ definition ∈ ordered, id ∈ (definition.definedIds type).map
          ((allocation.mappingOf definition.modName).newId type) ++
        (allocation.mappingOf definition.modName).implicitIds type := by
  obtain ⟨fresh, progress⟩ := (progress_allocateAll distinct allocated).1 type
  rw [progress.accounts.mem_used, ← List.mem_append, ← progress.final_perm.mem_iff,
    List.mem_flatMap]

end Allocation

/-! ### Mods that were allocated -/

/-- The accounts of reservations are exact. Between any two steps of the pass over numbered ids,
an id has as many reservations as mods hold it, it is reserved as long as it has reservations, and
the ids of the next run all have some. When an allocation returns, the reserved ids are those that
mods define and keep, and the used ids are the final ones. -/
theorem reservations_exact (ranges : RangeTable) {definitions : List ModDefinition}
    (distinct : (definitions.map (·.modName)).Nodup) :
    (∀ done rest allocation,
      Allocation.Between ranges (inNameOrder definitions) done rest allocation →
      ∀ type,
        (∀ id, (allocation.ledgers.get type).reservations.getD id 0 =
            (definitions.countP (allocation.holds ranges type id) : Nat) ∧
          (id ∈ (allocation.ledgers.get type).allocator.reserved ↔
            0 < (allocation.ledgers.get type).reservations.getD id 0)) ∧
        ∀ modName ids later, rest = .run modName type ids :: later →
          ∀ id ∈ ids, id ∈ (allocation.ledgers.get type).reservations) ∧
    ∀ result, allocate ranges definitions = .ok result →
      ∃ placed, allocateAll ranges (inNameOrder definitions) = .ok placed ∧
        ∀ type id,
          (id ∈ (placed.ledgers.get type).allocator.reserved ↔
            ∃ definition ∈ definitions, id ∈ definition.definedIds type ∧
              (result.mappingOf definition.modName).newId type id = id) ∧
          (id ∈ (placed.ledgers.get type).allocator.used ↔
            ∃ definition ∈ definitions, id ∈ result.finalIds definition type) := by
  have distinctOrdered := nodup_modNames_inNameOrder distinct
  constructor
  case left =>
    intro done rest allocation between type
    refine ⟨fun id => ⟨?_, between.mem_reserved_iff distinctOrdered type id⟩, ?_⟩
    · rw [between.getD_reservations distinctOrdered,
        (inNameOrder_perm definitions).countP_eq]
    · rintro modName ids later rfl id member
      exact between.mem_reservations_of_next distinctOrdered member
  case right =>
    intro result allocated
    obtain ⟨placed, placing, resolved⟩ := exists_placed_of_allocate distinct allocated
    refine ⟨placed, placing, fun type id => ?_⟩
    rw [Allocation.mem_reserved_iff_of_allocateAll distinctOrdered
      (pairwise_inNameOrder definitions) placing,
      Allocation.mem_used_iff_of_allocateAll distinctOrdered placing]
    simp only [mem_inNameOrder]
    -- Resolving the names of a mod leaves the numbers of its content alone.
    have agrees : ∀ definition ∈ definitions,
        (placed.mappingOf definition.modName).AgreesOn type
          (result.mappingOf definition.modName) :=
      fun definition member => agreesOn_of_resolveNames (resolved definition member).2 type
    constructor
    · refine exists_congr fun definition => and_congr_right fun member => ?_
      rw [(agrees definition member).newId]
    · refine exists_congr fun definition => and_congr_right fun member => ?_
      rw [AllocationResult.finalIds, (agrees definition member).implicitIds,
        funext (agrees definition member).newId]

/-- The steps of the first two tight mods. -/
def tightSteps : List ExplicitStep :=
  [.run "Abysia" .monster [1, 2], .run "Caelum" .monster [2, 3]]

theorem reservations_exact_tightMods :
    (∃ before,
      Allocation.Between tightRanges (inNameOrder tightMods) tightSteps
        [.run "Ermor" .monster [2]] before ∧
      (before.ledgers.get .monster).reservations.getD 2 0 = 2 ∧
      2 ∈ (before.ledgers.get .monster).reservations ∧
      3 ∉ (before.ledgers.get .monster).allocator.reserved) ∧
    ∃ result placed, allocate tightRanges tightMods = .ok result ∧
      allocateAll tightRanges (inNameOrder tightMods) = .ok placed ∧
      2 ∈ (placed.ledgers.get .monster).allocator.reserved ∧
      3 ∉ (placed.ledgers.get .monster).allocator.reserved ∧
      3 ∈ (placed.ledgers.get .monster).allocator.used := by
  have distinct : (tightMods.map (·.modName)).Nodup := by decide
  obtain ⟨betweenSteps, atTheEnd⟩ := reservations_exact tightRanges distinct
  have ordered : inNameOrder tightMods = tightMods := inNameOrder_of_pairwise (by decide +kernel)
  constructor
  case left =>
    obtain ⟨before, decided, held⟩ : ∃ before,
        (allocateImplicit tightRanges tightMods >>=
          tightSteps.foldlM Allocation.placeExplicit) = .ok before ∧
        (tightMods.countP (before.holds tightRanges .monster 2) == 2 &&
          tightMods.countP (before.holds tightRanges .monster 3) == 0) = true :=
      exists_eq_ok_of_any (by decide +kernel)
    have between : Allocation.Between tightRanges (inNameOrder tightMods) tightSteps
        [.run "Ermor" .monster [2]] before := by
      rw [ordered]
      exact ⟨by decide +kernel, bind_eq_ok.1 decided⟩
    obtain ⟨accounts, waiting⟩ := betweenSteps _ _ before between .monster
    simp only [Bool.and_eq_true, beq_iff_eq] at held
    refine ⟨before, between, ?_, waiting _ _ [] rfl 2 List.mem_cons_self, ?_⟩
    · rw [(accounts 2).1, held.1]
      rfl
    · rw [(accounts 3).2, (accounts 3).1, held.2]
      exact lt_irrefl 0
  case right =>
    obtain ⟨result, allocated, numbers⟩ : ∃ result, allocate tightRanges tightMods = .ok result ∧
        decide ((∃ definition ∈ tightMods, 2 ∈ definition.definedIds .monster ∧
            (result.mappingOf definition.modName).newId .monster 2 = 2) ∧
          (¬ ∃ definition ∈ tightMods, 3 ∈ definition.definedIds .monster ∧
            (result.mappingOf definition.modName).newId .monster 3 = 3) ∧
          ∃ definition ∈ tightMods, 3 ∈ result.finalIds definition .monster) = true := by
      refine exists_eq_ok_of_any ?_
      rw [allocate, ordered]
      decide +kernel
    obtain ⟨placed, placing, accounts⟩ := atTheEnd result allocated
    obtain ⟨isKept, isLeft, isFinal⟩ := of_decide_eq_true numbers
    exact ⟨result, placed, allocated, placing, (accounts .monster 2).1.2 isKept,
      fun isReserved => isLeft ((accounts .monster 3).1.1 isReserved),
      (accounts .monster 3).2.2 isFinal⟩

end ModMerge
