import ModMerge.Proofs.Allocation.FinalIds
import ModMerge.Proofs.Ids.MaximalRuns
import ModMerge.Proofs.Ids.SearchOrder

/-!
# Runs that move stay together or are reported

A run that has to move goes to a block of fresh ids, so that all its ids move by the same
distance. If at the time no block is free it is split, and exactly then a warning tells where
its ids went. `Taken` singles out the moment of one step: what was decided before it, and that
later steps neither move its ids again nor report it a second time.
-/

namespace ModMerge

/-- Whether a warning reports that a run of a mod was split. -/
def MergeWarning.reportsSplit (modName : String) (type : EntityType) (run : List Int) :
    MergeWarning → Bool
  | .splitRun name other ids _ => name == modName && other == type && ids == run
  | _ => false

/-- All ids of a run have moved by the same distance. -/
def ModMapping.KeepsOffsets (mapping : ModMapping) (type : EntityType) (run : List Int) : Prop :=
  ∃ distance, ∀ id ∈ run, mapping.newId type id - id = distance

/-- What has been decided about mods that are treated in order when a step is to be taken. -/
def Allocation.DecidedBefore (ranges : RangeTable) (ordered : List ModDefinition)
    (step : ExplicitStep) (before : Allocation) : Prop :=
  ∃ start earlier later, allocateImplicit ranges ordered = .ok start ∧
    ordered.flatMap (·.explicitSteps ranges) = earlier ++ step :: later ∧
    earlier.foldlM placeExplicit start = .ok before

/-- There is a block of available ids of a type. -/
def Allocation.HasBlock (allocation : Allocation) (type : EntityType) (size : Nat) : Prop :=
  ∃ first, ∀ id ∈ idsFrom first size,
    (allocation.ledgers.get type).allocator.isAvailable id = true

/-! ### Offsets -/

/-- A run keeps its offsets exactly if its new ids are consecutive, too. -/
theorem ModMapping.keepsOffsets_iff (mapping : ModMapping) (type : EntityType) (first : Int)
    (count : Nat) : mapping.KeepsOffsets type (idsFrom first count) ↔
      ∃ newFirst, (idsFrom first count).map (mapping.newId type) = idsFrom newFirst count := by
  have shifted : ∀ distance, (idsFrom first count).map (· + distance) =
      idsFrom (first + distance) count := by
    intro distance
    rw [idsFrom, List.map_map, idsFrom]
    refine List.map_congr_left fun offset _ => ?_
    simp only [Function.comp_apply]
    omega
  constructor
  · rintro ⟨distance, moved⟩
    refine ⟨first + distance, ?_⟩
    rw [← shifted]
    refine List.map_congr_left fun id member => ?_
    have := moved id member
    omega
  · rintro ⟨newFirst, consecutive⟩
    refine ⟨newFirst - first, fun id member => ?_⟩
    have sameFirst : newFirst = first + (newFirst - first) := by omega
    rw [sameFirst, ← shifted] at consecutive
    have := List.map_inj_left.1 consecutive id member
    omega

namespace Allocation

variable {ranges : RangeTable} {ordered : List ModDefinition} {modNames : List String}
  {step : ExplicitStep} {steps : List ExplicitStep} {before after : Allocation}
  {modName : String} {type : EntityType} {id : Int}

/-! ### What later steps leave alone -/

/-- A step warns of nothing but its own run. -/
theorem exists_warnings_of_placeExplicit (stepped : before.placeExplicit step = .ok after) :
    ∃ more, after.warnings = before.warnings ++ more ∧ ∀ modName type ids,
      step ≠ .run modName type ids → more.filter (·.reportsSplit modName type ids) = [] := by
  cases placed_of_placeExplicit stepped with
  | kept => exact ⟨[], (List.append_nil _).symm, fun _ _ _ _ => rfl⟩
  | replaced _ _ _ _ warnings => exact ⟨_, warnings, fun _ _ _ _ => rfl⟩
  | @moved modName type ids newIds _ _ _ _ _ _ _ warnings =>
      refine ⟨_, warnings, fun otherName otherType otherIds different => ?_⟩
      split
      · refine List.filter_eq_nil_iff.2 fun warning member => ?_
        obtain rfl := List.mem_singleton.1 member
        simp only [MergeWarning.reportsSplit, Bool.and_eq_true, beq_iff_eq]
        rintro ⟨⟨rfl, rfl⟩, rfl⟩
        exact different rfl
      · rfl

/-- Steps warn of nothing but their own runs. -/
theorem exists_warnings_of_foldlM (run : steps.foldlM placeExplicit before = .ok after) :
    ∃ more, after.warnings = before.warnings ++ more ∧ ∀ modName type ids,
      .run modName type ids ∉ steps → more.filter (·.reportsSplit modName type ids) = [] := by
  induction steps generalizing before with
  | nil =>
      obtain rfl := Except.ok.inj run
      exact ⟨[], (List.append_nil _).symm, fun _ _ _ _ => rfl⟩
  | cons step rest inductionHypothesis =>
      rw [List.foldlM_cons] at run
      obtain ⟨middle, stepped, remaining⟩ := bind_eq_ok.1 run
      obtain ⟨now, nowEq, aboutNow⟩ := exists_warnings_of_placeExplicit stepped
      obtain ⟨later, laterEq, aboutLater⟩ := inductionHypothesis remaining
      refine ⟨now ++ later, by rw [laterEq, nowEq, List.append_assoc], ?_⟩
      intro modName type ids notListed
      rw [List.mem_cons, not_or] at notListed
      rw [List.filter_append, aboutNow _ _ _ (Ne.symm notListed.1),
        aboutLater _ _ _ notListed.2, List.append_nil]

theorem mem_mappings_of_placeExplicit (stepped : before.placeExplicit step = .ok after) :
    modName ∈ after.mappings ↔ modName ∈ before.mappings := by
  cases placed_of_placeExplicit stepped with
  | kept => rfl
  | moved _ _ _ mappings _ _ => rw [mappings, Std.TreeMap.mem_modify]
  | replaced _ _ mappings _ _ => rw [mappings, Std.TreeMap.mem_modify]

/-- A step moves only its own ids. -/
theorem newId_of_placeExplicit (known : step.modName ∈ before.mappings)
    (stepped : before.placeExplicit step = .ok after)
    (untouched : step.modName = modName → step.type = type → id ∉ step.ids) :
    (after.mappingOf modName).newId type id = (before.mappingOf modName).newId type id := by
  have recorded : ∀ newIds, after.mappings =
      before.mappings.modify step.modName (·.recordRemaps step.type step.ids newIds) →
      (after.mappingOf modName).newId type id = (before.mappingOf modName).newId type id := by
    intro newIds mappings
    rw [mappingOf_modify known mappings]
    split
    · next same => exact ModMapping.newId_recordRemaps_of_not_mem (untouched same)
    · rfl
  cases placed_of_placeExplicit stepped with
  | kept => rfl
  | moved _ _ _ mappings _ _ => exact recorded _ mappings
  | replaced _ _ mappings _ _ => exact recorded _ mappings

/-- Steps move only their own ids. -/
theorem newId_of_foldlM (known : ∀ step ∈ steps, step.modName ∈ before.mappings)
    (run : steps.foldlM placeExplicit before = .ok after)
    (untouched : ∀ step ∈ steps, step.modName = modName → step.type = type → id ∉ step.ids) :
    (after.mappingOf modName).newId type id = (before.mappingOf modName).newId type id := by
  induction steps generalizing before with
  | nil =>
      obtain rfl := Except.ok.inj run
      rfl
  | cons step rest inductionHypothesis =>
      rw [List.foldlM_cons] at run
      obtain ⟨middle, stepped, remaining⟩ := bind_eq_ok.1 run
      have later : ∀ step ∈ rest, step.modName ∈ middle.mappings := fun step member =>
        (mem_mappings_of_placeExplicit stepped).2 (known step (List.mem_cons_of_mem _ member))
      rw [inductionHypothesis later remaining fun step member =>
          untouched step (List.mem_cons_of_mem _ member),
        newId_of_placeExplicit (known step List.mem_cons_self) stepped
          (untouched step List.mem_cons_self)]

/-! ### The moment of a step -/

/-- One step of an allocation, from what was decided before it to where all ids are placed. -/
structure Taken (ranges : RangeTable) (ordered : List ModDefinition) (earlier : List ExplicitStep)
    (step : ExplicitStep) (later : List ExplicitStep) (before after placed : Allocation) :
    Prop where
  steps : ordered.flatMap (·.explicitSteps ranges) = earlier ++ step :: later
  decided : ∃ start, allocateImplicit ranges ordered = .ok start ∧
    earlier.foldlM placeExplicit start = .ok before
  progress : ∀ type, ∃ fresh, before.Progress ranges (ordered.map (·.modName)) type earlier
    (step :: later) fresh
  stepped : before.placeExplicit step = .ok after
  remaining : later.foldlM placeExplicit after = .ok placed

/-- Each step of an allocation was taken at some moment. -/
theorem exists_taken {placed : Allocation} (distinct : (ordered.map (·.modName)).Nodup)
    (allocated : allocateAll ranges ordered = .ok placed)
    (member : step ∈ ordered.flatMap (·.explicitSteps ranges)) :
    ∃ earlier later before after, Taken ranges ordered earlier step later before after placed := by
  obtain ⟨start, started, run⟩ := bind_eq_ok.1 allocated
  obtain ⟨earlier, later, steps⟩ := List.append_of_mem member
  rw [steps, List.foldlM_append] at run
  obtain ⟨before, front, run⟩ := bind_eq_ok.1 run
  rw [List.foldlM_cons] at run
  obtain ⟨after, stepped, remaining⟩ := bind_eq_ok.1 run
  have sound := soundSteps_explicitSteps ranges distinct
  rw [steps] at sound
  have initially : ∀ type, ∃ fresh, start.Progress ranges (ordered.map (·.modName)) type []
      (earlier ++ step :: later) fresh := by
    intro type
    obtain ⟨fresh, progress⟩ := implicitProgress_allocateImplicit distinct started type
    exact ⟨fresh, steps ▸ progress_initial progress⟩
  obtain ⟨progress, -⟩ := invariant_of_placeExplicit sound (fun _ _ => True)
    (fun _ _ _ _ _ _ _ _ _ => trivial) initially trivial front
  exact ⟨earlier, later, before, after, steps, ⟨start, started, front⟩, progress, stepped,
    remaining⟩

namespace Taken

variable {earlier later : List ExplicitStep} {placed : Allocation} {ids : List Int}

theorem decidedBefore (taken : Taken ranges ordered earlier step later before after placed) :
    DecidedBefore ranges ordered step before := by
  obtain ⟨start, started, front⟩ := taken.decided
  exact ⟨start, earlier, later, started, taken.steps, front⟩

theorem sound (taken : Taken ranges ordered earlier step later before after placed)
    (distinct : (ordered.map (·.modName)).Nodup) :
    SoundSteps ranges (ordered.map (·.modName)) (earlier ++ step :: later) := by
  rw [← taken.steps]
  exact soundSteps_explicitSteps ranges distinct

/-- An id that a step has moved goes where the step has moved it. -/
theorem newId_placed (taken : Taken ranges ordered earlier step later before after placed)
    (distinct : (ordered.map (·.modName)).Nodup) (member : id ∈ step.ids) :
    (placed.mappingOf step.modName).newId step.type id =
      (after.mappingOf step.modName).newId step.type id := by
  have sound := taken.sound distinct
  have apart := (List.pairwise_cons.1 (List.pairwise_append.1 sound.apart).2.1).1
  obtain ⟨_, progress⟩ := taken.progress step.type
  refine newId_of_foldlM (fun other isLater => ?_) taken.remaining ?_
  · rw [mem_mappings_of_placeExplicit taken.stepped]
    exact progress.known _ (sound.known other (by simp [isLater]))
  · intro other isLater sameName sameType inOther
    exact apart other isLater sameName.symm sameType.symm member inOther

/-- Where a run that moves goes: to ids that stay its own, and it is reported if and only if
these are scattered. -/
theorem split_reported
    (taken : Taken ranges ordered earlier (.run modName type ids) later before after placed)
    (distinct : (ordered.map (·.modName)).Nodup) (notEmpty : ids ≠ [])
    (moves : (ExplicitStep.run modName type ids).Moves earlier) :
    let newIds := ids.map ((placed.mappingOf modName).newId type)
    (placed.warnings.filter (·.reportsSplit modName type ids) =
      if isScattered newIds then [.splitRun modName type ids newIds] else []) ∧
    ((∃ first, newIds = idsFrom first ids.length) ∨
      isScattered newIds = true ∧ ¬ before.HasBlock type ids.length) := by
  have sound := taken.sound distinct
  obtain ⟨apartEarlier, apartStep, across⟩ := List.pairwise_append.1 sound.apart
  rw [List.pairwise_cons] at apartStep
  obtain ⟨someId, someMember⟩ := List.exists_mem_of_ne_nil ids notEmpty
  have notEarlier : .run modName type ids ∉ earlier := fun member =>
    across _ member _ List.mem_cons_self rfl rfl someMember someMember
  have notLater : .run modName type ids ∉ later := fun member =>
    apartStep.1 _ member rfl rfl someMember someMember
  obtain ⟨start, started, front⟩ := taken.decided
  obtain ⟨fresh, progress⟩ := taken.progress type
  obtain ⟨frontWarnings, frontEq, aboutFront⟩ := exists_warnings_of_foldlM front
  obtain ⟨backWarnings, backEq, aboutBack⟩ := exists_warnings_of_foldlM taken.remaining
  rw [(noted_allocateImplicit started).2, List.nil_append] at frontEq
  have used := progress.moves_iff.1 moves
  cases placed_of_placeExplicit taken.stepped with
  | kept free =>
      obtain ⟨id, member, isUsed⟩ := used
      exact absurd isUsed (free id member)
  | @moved _ _ _ newIds assigned _ _ assign ledgers mappings _ warnings =>
      have recorded := progress.recorded_of_assign sound assign mappings
      have settled : ids.map ((placed.mappingOf modName).newId type) = newIds := by
        rw [← recorded.map_newId]
        exact List.map_congr_left fun id member => taken.newId_placed distinct member
      obtain ⟨⟨handed, allocator⟩, allocated, finished⟩ := map_eq_ok.1 assign
      obtain ⟨rfl, -⟩ := Prod.mk.inj finished
      simp only [settled]
      refine ⟨?_, ?_⟩
      · rw [backEq, warnings, frontEq, List.filter_append, List.filter_append,
          aboutFront _ _ _ notEarlier, aboutBack _ _ _ notLater, List.append_nil, List.nil_append]
        split
        · simp [MergeWarning.reportsSplit]
        · rfl
      · refine (IdAllocator.consecutive_or_isScattered_of_allocateIds
          (List.length_pos_iff.2 notEmpty) allocated).imp_right fun scattered => ?_
        refine ⟨scattered.1, ?_⟩
        rintro ⟨first, available⟩
        have free := (IdAllocator.isBlockFree_iff _ first ids.length).2 available
        rw [scattered.2 first] at free
        cases free

end Taken
end Allocation

/-! ### Runs of mods that were allocated -/

/-- A run of a mod that moves keeps its relative offsets and is not reported, or it does not and
is reported once, with where its ids went. The second happens only if, when the run was placed,
no block of its size was free. -/
theorem moved_run_keepsOffsets_or_reported {ranges : RangeTable}
    {definitions : List ModDefinition} {result : AllocationResult}
    (distinct : (definitions.map (·.modName)).Nodup)
    (allocated : allocate ranges definitions = .ok result) {definition : ModDefinition}
    (member : definition ∈ definitions) {type : EntityType} {run : List Int}
    (maximal : IsMaximalRun (definition.insideIds ranges type) run)
    (moved : ∃ id ∈ run, (result.mappingOf definition.modName).isRemapped type id = true) :
    let mapping := result.mappingOf definition.modName
    let newIds := run.map (mapping.newId type)
    let reports := result.warnings.filter (·.reportsSplit definition.modName type run)
    (mapping.KeepsOffsets type run ∧ reports = []) ∨
      (¬ mapping.KeepsOffsets type run ∧
        (∃ report, reports = [report] ∧ report = .splitRun definition.modName type run newIds ∧
          report.category = .validation ∧ report.message = definition.modName ++
            ": no contiguous block of " ++ Text.decimalString run.length ++ " free " ++
            type.label ++ " ids; run " ++ rangesText run ++ " was split to " ++
            rangesText newIds) ∧
        ∃ before, Allocation.DecidedBefore ranges (inNameOrder definitions)
            (.run definition.modName type run) before ∧
          ¬ before.HasBlock type run.length) := by
  intro mapping newIds reports
  obtain ⟨placed, placing, resolved⟩ := exists_placed_of_allocate distinct allocated
  have distinctOrdered := nodup_modNames_inNameOrder distinct
  have agrees := agreesOn_of_resolveNames (resolved definition member).2 type
  have ascending : (definition.insideIds ranges type).Pairwise (· < ·) :=
    (definition.pairwise_definedIds type).filter _
  have isStep : .run definition.modName type run ∈
      (inNameOrder definitions).flatMap (·.explicitSteps ranges) :=
    List.mem_flatMap.2 ⟨definition, mem_inNameOrder.2 member,
      ModDefinition.run_mem_explicitSteps_iff.2
        ⟨rfl, mem_splitRuns_of_isMaximalRun ascending maximal⟩⟩
  obtain ⟨earlier, later, before, after, taken⟩ :=
    Allocation.exists_taken distinctOrdered placing isStep
  have moves : (ExplicitStep.run definition.modName type run).Moves earlier := by
    obtain ⟨progress, -⟩ := Allocation.progress_allocateAll distinctOrdered placing
    obtain ⟨_, progress⟩ := progress type
    obtain ⟨id, inRun, isRemapped⟩ := moved
    rw [agrees.isRemapped] at isRemapped
    exact (progress.isRemapped_iff _ _ _ taken.steps rfl id inRun).1 isRemapped
  obtain ⟨reported, together⟩ := taken.split_reported distinctOrdered maximal.notEmpty moves
  obtain ⟨first, runEq, -, -⟩ := maximal.bounded
  have sameNewIds : run.map ((placed.mappingOf definition.modName).newId type) = newIds := by
    rw [← funext agrees.newId]
  have reportsEq : reports =
      if isScattered newIds then [.splitRun definition.modName type run newIds] else [] := by
    have shared : ((sharedEditConflicts (inNameOrder definitions)).map fun conflict =>
        MergeWarning.sharedEdit conflict.type conflict.ids conflict.mods).filter
        (·.reportsSplit definition.modName type run) = [] := by
      simp [List.filter_eq_nil_iff, MergeWarning.reportsSplit]
    rw [← sameNewIds, ← reported]
    simp only [reports, (reported_of_allocate allocated placing).2, List.filter_append, shared,
      List.append_nil]
  have keepsIff : mapping.KeepsOffsets type run ↔
      ∃ newFirst, newIds = idsFrom newFirst run.length := by
    have iff := mapping.keepsOffsets_iff type first run.length
    rwa [← runEq] at iff
  simp only [sameNewIds] at together
  rcases together with consecutive | ⟨scattered, noBlock⟩
  · refine .inl ⟨keepsIff.2 consecutive, ?_⟩
    obtain ⟨newFirst, isBlock⟩ := consecutive
    rw [reportsEq, isBlock, isScattered_idsFrom, if_neg Bool.false_ne_true]
  · refine .inr ⟨fun keeps => ?_, ⟨_, by rw [reportsEq, if_pos scattered], rfl, rfl, rfl⟩, before,
      taken.decidedBefore, noBlock⟩
    obtain ⟨newFirst, isBlock⟩ := keepsIff.1 keeps
    rw [isBlock, isScattered_idsFrom] at scattered
    cases scattered

/-- A table with hardly any monsters to hand out. -/
def crampedRanges : RangeTable :=
  .ofFunction fun type =>
    if type = .monster then ⟨0, 6, none, by decide, by simp⟩ else defaultRange type

/-- Two mods with the same run of monsters, which leave single ids only. -/
def crampedMods : List ModDefinition :=
  [((({ modName := "Abysia" } : ModDefinition).recordDefined .monster 2).recordDefined
      .monster 3).recordDefined .monster 5,
    (({ modName := "Caelum" } : ModDefinition).recordDefined .monster 2).recordDefined
      .monster 3]

theorem moved_run_keepsOffsets_or_reported_crampedMods :
    ∃ result, allocate crampedRanges crampedMods = .ok result ∧
      ¬ (result.mappingOf "Caelum").KeepsOffsets .monster [2, 3] ∧
      ∃ report, result.warnings.filter (·.reportsSplit "Caelum" .monster [2, 3]) = [report] := by
  have inOrder : inNameOrder crampedMods = crampedMods :=
    inNameOrder_of_pairwise (by decide +kernel)
  have outcome : ((allocate crampedRanges crampedMods).toOption.any fun result =>
      (result.mappingOf "Caelum").isRemapped .monster 2 &&
        (result.mappingOf "Caelum").newId .monster 2 == 1 &&
        (result.mappingOf "Caelum").newId .monster 3 == 4) = true := by
    rw [allocate, inOrder]
    decide +kernel
  cases allocated : allocate crampedRanges crampedMods with
  | error error => simp [allocated, Except.toOption] at outcome
  | ok result =>
      simp only [allocated, Except.toOption, Option.any_some, Bool.and_eq_true, beq_iff_eq]
        at outcome
      have insideIds : crampedMods[1].insideIds crampedRanges .monster = [2, 3] := by
        decide +kernel
      have maximal : IsMaximalRun (crampedMods[1].insideIds crampedRanges .monster) [2, 3] := by
        rw [insideIds]
        exact ⟨by simp, by simp, 2, by decide, by decide, by decide⟩
      have either := moved_run_keepsOffsets_or_reported (by decide) allocated
        (List.getElem_mem (by decide)) maximal ⟨2, by simp, outcome.1.1⟩
      have keepsNot : ¬ (result.mappingOf "Caelum").KeepsOffsets .monster [2, 3] := by
        rintro ⟨distance, moved⟩
        have first := moved 2 (by simp)
        have second := moved 3 (by simp)
        rw [outcome.1.2] at first
        rw [outcome.2] at second
        omega
      rcases either with ⟨keeps, -⟩ | ⟨-, ⟨report, reports, -⟩, -⟩
      · exact absurd keeps keepsNot
      · exact ⟨result, rfl, keepsNot, report, reports⟩

end ModMerge
