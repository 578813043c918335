import ModMerge.Proofs.Allocation.CollisionPass

/-!
# The part of an allocation that is about one type

An allocation treats the types of a mod one after the other and keeps all of them in one state.
`Allocation.view` is the part of the state that is about one type. A step about another type
leaves it as it is, and what a step about the type itself makes of it depends on nothing else.
-/

namespace ModMerge

/-- What is recorded about one type: the new ids of the ids that moved, and the ids of the
definitions without one. -/
def ModMapping.onType (mapping : ModMapping) (type : EntityType) :
    Std.TreeMap Int Int × Array Int :=
  (mapping.remapped.get type, mapping.implicit.get type)

/-- The part of an allocation that is about one type. -/
@[ext]
structure TypeView where
  ledger : TypeLedger
  /-- What is recorded for a mod. -/
  recorded : String → Option (Std.TreeMap Int Int × Array Int)
  collisions : List Collision

def Allocation.view (allocation : Allocation) (type : EntityType) : TypeView where
  ledger := allocation.ledgers.get type
  recorded modName := allocation.mappings[modName]?.map (·.onType type)
  collisions := allocation.collisions.filter (·.type = type)

namespace ModMapping

variable {mapping first second : ModMapping} {type other : EntityType} {ids newIds : List Int}

theorem onType_recordRemap (mapping : ModMapping) (type other : EntityType) (old new : Int) :
    (mapping.recordRemap type old new).onType other =
      if type = other ∧ old ≠ new then
        ((mapping.onType other).1.insert old new, (mapping.onType other).2)
      else mapping.onType other := by
  rw [recordRemap]
  by_cases unmoved : old = new
  · simp [unmoved]
  · simp only [unmoved, if_false, ne_eq, not_false_eq_true, and_true, onType, EntityTable.modify,
      EntityTable.get_set]
    split
    · next same => rw [same]
    · rfl

theorem onType_recordRemaps_of_ne (different : type ≠ other) :
    (mapping.recordRemaps type ids newIds).onType other = mapping.onType other := by
  rw [recordRemaps]
  induction ids.zip newIds generalizing mapping with
  | nil => rfl
  | cons move rest inductionHypothesis =>
      rw [List.foldl_cons, inductionHypothesis, onType_recordRemap,
        if_neg fun both => different both.1]

theorem onType_recordRemaps_congr (same : first.onType other = second.onType other) :
    (first.recordRemaps type ids newIds).onType other =
      (second.recordRemaps type ids newIds).onType other := by
  rw [recordRemaps, recordRemaps]
  induction ids.zip newIds generalizing first second with
  | nil => exact same
  | cons move rest inductionHypothesis =>
      refine inductionHypothesis ?_
      rw [onType_recordRemap, onType_recordRemap, same]

theorem onType_recordImplicits (mapping : ModMapping) (type other : EntityType) (ids : List Int) :
    (mapping.recordImplicits type ids).onType other =
      if type = other then ((mapping.onType other).1, (mapping.onType other).2 ++ ids.toArray)
      else mapping.onType other := by
  rw [recordImplicits_eq]
  simp only [onType, EntityTable.modify, EntityTable.get_set]
  split
  · next same => rw [same]
  · rfl

theorem onType_mappingOf (allocation : Allocation) (type : EntityType) (modName : String) :
    (allocation.mappingOf modName).onType type =
      ((allocation.view type).recorded modName).getD (∅, #[]) := by
  simp only [Allocation.mappingOf, Std.TreeMap.getD_eq_getD_getElem?, Allocation.view]
  cases allocation.mappings[modName]? with
  | none => simp [onType]
  | some mapping => rfl

end ModMapping

/-! ### Noting -/

theorem filter_noteCollision (type other : EntityType) (owner claimant : String) (id : Int)
    (collisions : List Collision) :
    (noteCollision type owner claimant id collisions).filter (·.type = other) =
      if type = other then noteCollision type owner claimant id (collisions.filter (·.type = other))
      else collisions.filter (·.type = other) := by
  induction collisions with
  | nil => by_cases same : type = other <;> simp [noteCollision, same]
  | cons collision rest inductionHypothesis =>
      rw [noteCollision]
      by_cases isOther : collision.type = other <;> by_cases same : type = other
      all_goals grind [noteCollision]

theorem filter_noteAll (type other : EntityType) (ownerOf : Int → String) (claimant : String)
    (ids : List Int) (collisions : List Collision) :
    (noteAll type ownerOf claimant ids collisions).filter (·.type = other) =
      if type = other then noteAll type ownerOf claimant ids (collisions.filter (·.type = other))
      else collisions.filter (·.type = other) := by
  induction ids generalizing collisions with
  | nil => exact (ite_self _).symm
  | cons id rest inductionHypothesis =>
      rw [noteAll, List.foldl_cons, ← noteAll, inductionHypothesis, filter_noteCollision]
      split <;> rfl

/-! ### Steps -/

namespace Allocation

variable {type other : EntityType} {before after first second first' second' : Allocation}
  {ledger : TypeLedger} {modName : String} {change : ModMapping → ModMapping}

/-- A change to the ledger of another type that records nothing about this one. -/
theorem view_of_ne (different : type ≠ other)
    (ledgers : after.ledgers = before.ledgers.set type ledger)
    (mappings : after.mappings = before.mappings.modify modName change)
    (unrecorded : ∀ mapping, (change mapping).onType other = mapping.onType other)
    (collisions : after.collisions.filter (·.type = other) =
      before.collisions.filter (·.type = other)) :
    after.view other = before.view other := by
  refine TypeView.ext ?_ (funext fun known => ?_) collisions
  · simp only [view, ledgers, EntityTable.get_set_of_ne _ _ different]
  · simp only [view, mappings, Std.TreeMap.getElem?_modify, Std.LawfulEqCmp.compare_eq_iff_eq]
    split
    · next same =>
        subst same
        simp only [Option.map_map, Function.comp_def, unrecorded]
    · rfl

/-- The same change to what is known about a type. -/
theorem view_congr (same : first.view type = second.view type)
    (ledgers : first'.ledgers = first.ledgers.set type ledger)
    (ledgers' : second'.ledgers = second.ledgers.set type ledger)
    (mappings : first'.mappings = first.mappings.modify modName change)
    (mappings' : second'.mappings = second.mappings.modify modName change)
    (recorded : ∀ mapping mapping', mapping.onType type = mapping'.onType type →
      (change mapping).onType type = (change mapping').onType type)
    (collisions : first'.collisions.filter (·.type = type) =
      second'.collisions.filter (·.type = type)) :
    first'.view type = second'.view type := by
  refine TypeView.ext ?_ (funext fun known => ?_) collisions
  · simp only [view, ledgers, ledgers', EntityTable.get_set_self]
  · have recordedSame := congrFun (congrArg TypeView.recorded same) known
    simp only [view, mappings, mappings', Std.TreeMap.getElem?_modify] at recordedSame ⊢
    split
    · cases isFirst : first.mappings[known]? <;> cases isSecond : second.mappings[known]? <;>
        simp_all
      exact recorded _ _ recordedSame
    · exact recordedSame

theorem view_placeImplicit_of_ne {step : ImplicitStep} (different : step.type ≠ type)
    (stepped : before.placeImplicit step = .ok after) : after.view type = before.view type := by
  obtain ⟨ids, ledger, -, ledgers, mappings, collisions, -⟩ := exists_of_placeImplicit stepped
  refine view_of_ne different ledgers mappings (fun mapping => ?_) (by rw [collisions])
  rw [ModMapping.onType_recordImplicits, if_neg different]

theorem view_placeImplicit_congr {step : ImplicitStep}
    (same : first.view step.type = second.view step.type)
    (stepped : first.placeImplicit step = .ok first')
    (stepped' : second.placeImplicit step = .ok second') :
    first'.view step.type = second'.view step.type := by
  obtain ⟨ids, ledger, assigned, ledgers, mappings, collisions, -⟩ :=
    exists_of_placeImplicit stepped
  obtain ⟨ids', ledger', assigned', ledgers', mappings', collisions', -⟩ :=
    exists_of_placeImplicit stepped'
  have sameLedger : first.ledgers.get step.type = second.ledgers.get step.type :=
    congrArg TypeView.ledger same
  rw [sameLedger, assigned'] at assigned
  obtain ⟨rfl, rfl⟩ := Prod.mk.inj (Except.ok.inj assigned)
  refine view_congr same ledgers ledgers' mappings mappings'
    (fun mapping mapping' sameMapping => ?_) ?_
  · rw [ModMapping.onType_recordImplicits, ModMapping.onType_recordImplicits, sameMapping]
  · rw [collisions, collisions']
    exact congrArg TypeView.collisions same

theorem view_placeExplicit_of_ne {step : ExplicitStep} (different : step.type ≠ type)
    (stepped : before.placeExplicit step = .ok after) : after.view type = before.view type := by
  cases placed_of_placeExplicit stepped with
  | @kept modName other ids free =>
      exact TypeView.ext (EntityTable.get_set_of_ne _ _ different) rfl rfl
  | moved _ _ ledgers mappings collisions =>
      refine view_of_ne different ledgers mappings
        (fun _ => ModMapping.onType_recordRemaps_of_ne different) ?_
      rw [collisions]
      exact (filter_noteAll ..).trans (if_neg different)
  | replaced _ ledgers mappings collisions =>
      refine view_of_ne different ledgers mappings
        (fun _ => ModMapping.onType_recordRemaps_of_ne different) ?_
      rw [collisions]

theorem view_run_congr {ids : List Int} (same : first.view type = second.view type)
    (placed : first.Placed (.run modName type ids) first')
    (placed' : second.Placed (.run modName type ids) second') :
    first'.view type = second'.view type := by
  have sameLedger : first.ledgers.get type = second.ledgers.get type :=
    congrArg TypeView.ledger same
  have sameCollisions : first.collisions.filter (·.type = type) =
      second.collisions.filter (·.type = type) := congrArg TypeView.collisions same
  have sameRecorded : (first.view type).recorded = (second.view type).recorded :=
    congrArg TypeView.recorded same
  -- The used ids are the same, so the run stays in both allocations or moves in both.
  cases placed with
  | kept free =>
      cases placed' with
      | kept free' =>
          refine TypeView.ext ?_ sameRecorded sameCollisions
          simp only [view, EntityTable.get_set_self, sameLedger]
      | moved taken' =>
          obtain ⟨id, member, inUsed⟩ := taken'
          rw [← sameLedger] at inUsed
          exact absurd inUsed (free id member)
  | moved taken assign ledgers mappings collisions =>
      cases placed' with
      | kept free' =>
          obtain ⟨id, member, inUsed⟩ := taken
          rw [sameLedger] at inUsed
          exact absurd inUsed (free' id member)
      | moved _ assign' ledgers' mappings' collisions' =>
          rw [← sameLedger, assign] at assign'
          obtain ⟨rfl, rfl⟩ := Prod.mk.inj (Except.ok.inj assign')
          refine view_congr same ledgers ledgers' mappings mappings'
            (fun _ _ => ModMapping.onType_recordRemaps_congr) ?_
          have noted := fun allocation : Allocation => filter_noteAll type type
            ((allocation.ledgers.get type).owners.getD · "?") modName
            (ids.filter (allocation.ledgers.get type).allocator.used.contains)
            allocation.collisions
          rw [collisions, collisions']
          refine (noted first).trans (Eq.trans ?_ (noted second).symm)
          rw [if_pos rfl, if_pos rfl, sameLedger, sameCollisions]

theorem view_outOfRange_congr {ids : List Int} (same : first.view type = second.view type)
    (placed : first.Placed (.outOfRange modName type ids) first')
    (placed' : second.Placed (.outOfRange modName type ids) second') :
    first'.view type = second'.view type := by
  have sameLedger : first.ledgers.get type = second.ledgers.get type :=
    congrArg TypeView.ledger same
  cases placed with
  | replaced handed ledgers mappings collisions =>
      cases placed' with
      | replaced handed' ledgers' mappings' collisions' =>
          rw [← sameLedger, handed] at handed'
          obtain ⟨rfl, rfl⟩ := Prod.mk.inj (Except.ok.inj handed')
          rw [← sameLedger] at ledgers'
          refine view_congr same ledgers ledgers' mappings mappings'
            (fun _ _ => ModMapping.onType_recordRemaps_congr) ?_
          rw [collisions, collisions']
          exact congrArg TypeView.collisions same

theorem view_placeExplicit_congr {step : ExplicitStep}
    (same : first.view step.type = second.view step.type)
    (stepped : first.placeExplicit step = .ok first')
    (stepped' : second.placeExplicit step = .ok second') :
    first'.view step.type = second'.view step.type := by
  have placed := placed_of_placeExplicit stepped
  have placed' := placed_of_placeExplicit stepped'
  cases step with
  | run modName type ids => exact view_run_congr same placed placed'
  | outOfRange modName type ids => exact view_outOfRange_congr same placed placed'

end Allocation

end ModMerge
