import ModMerge.Allocation.Conflict
import ModMerge.Directive
import ModMerge.Ids.Allocator
import ModMerge.Merge.Warning
import ModMerge.Mod.Mapping

/-!
# Allocating the ids of several mods

Mods are treated in the order of their names, and of the mods that define an id the first
keeps it. `allocate` first reserves every id that some mod numbered itself, so that fresh
content stays clear of it; then it gives each mod's definitions without an id a block of
fresh ids; then it goes through the ids that mods numbered, run by run. A run of which an
id is taken moves as a whole to a fresh block, and ids outside the range of their type are
replaced one by one. The passes are folds of `placeImplicit` and `placeExplicit` over lists
of steps, and what has been decided so far is a value of `Allocation`.
-/

namespace ModMerge

/-- What is known about the ids of one type. -/
structure TypeLedger where
  allocator : IdAllocator
  /-- The mod that has an id. -/
  owners : Std.TreeMap Int String := ∅
  /-- How many mods numbered an id themselves and have not moved away from it. -/
  reservations : Std.TreeMap Int Int := ∅

/-- What has been decided about the ids of all mods. -/
structure Allocation where
  ledgers : EntityTable TypeLedger
  mappings : Std.TreeMap String ModMapping
  /-- The collisions met, in the order of their first ids. -/
  collisions : List Collision := []
  warnings : List MergeWarning := []

/-- A piece of content without an id, or several of one type in one mod. -/
structure ImplicitStep where
  modName : String
  type : EntityType
  count : Nat
deriving DecidableEq, Repr

/-- Ids that a mod numbered itself and that are placed together. -/
inductive ExplicitStep where
  /-- Consecutive ids within the range of their type. -/
  | run (modName : String) (type : EntityType) (ids : List Int)
  /-- All ids outside the range of their type. -/
  | outOfRange (modName : String) (type : EntityType) (ids : List Int)
deriving DecidableEq, Repr

/-- Why ids cannot be allocated. -/
inductive AllocationError where
  | refused (error : RequestError)
  | frozen (error : FrozenError)
deriving DecidableEq, Repr

/-- The wording of a failed allocation. -/
def AllocationError.message : AllocationError → String
  | .refused error => error.message
  | .frozen error => error.message

/-- The outcome of an allocation. -/
structure AllocationResult where
  /-- What became of the ids of each mod, by the name of the mod. -/
  mappings : Std.TreeMap String ModMapping
  /-- Collisions, and then conflicts over content of the base game. -/
  conflicts : List ModConflict
  warnings : List MergeWarning

namespace AllocationResult

/-- How many ids moved. -/
def remapCount (result : AllocationResult) : Nat :=
  result.mappings.toList.foldl (fun count (_, mapping) => count + mapping.remapCount) 0

/-- The conflicts over content of the base game. -/
def sharedEdits (result : AllocationResult) : List ModConflict :=
  result.conflicts.filter (·.isWarning)

/-- The conflicts that moving ids has settled. -/
def collisions (result : AllocationResult) : List ModConflict :=
  result.conflicts.filter (!·.isWarning)

end AllocationResult

namespace IdAllocator

/-- Hand out ids one by one. -/
def allocateSingles (allocator : IdAllocator) (type : EntityType) :
    Nat → Except RequestError (List Int × IdAllocator)
  | 0 => .ok ([], allocator)
  | count + 1 =>
      match allocator.allocateBlock type 1 with
      | (.error error, _) => .error error
      | (.ok ids, next) =>
          (next.allocateSingles type count).map fun (rest, last) => (ids ++ rest, last)

/-- Hand out ids: as one block if there is one, and otherwise one by one. -/
def allocateIds (allocator : IdAllocator) (type : EntityType) (count : Nat) :
    Except RequestError (List Int × IdAllocator) :=
  match allocator.allocateBlock type count with
  | (.ok ids, next) => .ok (ids, next)
  | (.error (.exhausted error), next) =>
      if count = 1 then .error (.exhausted error) else next.allocateSingles type count
  | (.error error, _) => .error error

end IdAllocator

namespace TypeLedger

/-- Note that a mod has ids. -/
def own (ledger : TypeLedger) (modName : String) (ids : List Int) : TypeLedger :=
  { ledger with owners := ids.foldl (fun owners id => owners.insert id modName) ledger.owners }

/-- Mark ids as used by a mod. -/
def claimAll (ledger : TypeLedger) (modName : String) (ids : List Int) : TypeLedger :=
  { ledger with allocator := ids.foldl (·.claim ·) ledger.allocator }.own modName ids

/-- Reserve ids that a mod numbered itself. -/
def reserve (ledger : TypeLedger) (ids : List Int) : TypeLedger :=
  { ledger with
    allocator := ledger.allocator.reserve ids
    reservations := ids.foldl (fun counts id => counts.insert id (counts.getD id 0 + 1))
      ledger.reservations }

/-- Give back ids that a mod has moved away from, unless another mod numbered them as
well. -/
def release (ledger : TypeLedger) (ids : List Int) : TypeLedger :=
  let reservations := ids.foldl (fun counts id => counts.insert id (counts.getD id 0 - 1))
    ledger.reservations
  let freed := ids.filter fun id =>
    reservations.getD id 0 == 0 && !ledger.allocator.used.contains id
  { ledger with allocator := ledger.allocator.release freed, reservations }

/-- Give a mod fresh ids. -/
def assign (ledger : TypeLedger) (modName : String) (type : EntityType) (count : Nat) :
    Except RequestError (List Int × TypeLedger) :=
  (ledger.allocator.allocateIds type count).map fun (ids, allocator) =>
    (ids, { ledger with allocator }.own modName ids)

end TypeLedger

namespace ModMapping

/-- The mapping with ids moved to new ids, in the same order. -/
def recordRemaps (mapping : ModMapping) (type : EntityType) (ids newIds : List Int) :
    ModMapping :=
  (ids.zip newIds).foldl (fun mapping (id, newId) => mapping.recordRemap type id newId) mapping

/-- The mapping with the ids of further definitions without an id. -/
def recordImplicits (mapping : ModMapping) (type : EntityType) (ids : List Int) :
    ModMapping :=
  ids.foldl (fun mapping id => mapping.recordImplicit type id) mapping

end ModMapping

/-- Whether ids in the order in which they were handed out leave a gap. -/
def isScattered (ids : List Int) : Bool :=
  match ids.head?, ids.getLast? with
  | some first, some last => last - first != ids.length - 1
  | _, _ => false

namespace Allocation

/-- Nothing has been decided. -/
def initial (ranges : RangeTable) (definitions : List ModDefinition) : Allocation :=
  { ledgers := .ofFunction fun type => { allocator := .fresh (ranges.get type) }
    mappings := definitions.foldl (fun mappings definition =>
      mappings.insert definition.modName { modName := definition.modName }) ∅ }

/-- Change what is recorded for a mod. -/
def modifyMapping (allocation : Allocation) (modName : String)
    (change : ModMapping → ModMapping) : Allocation :=
  { allocation with mappings := allocation.mappings.modify modName change }

/-- Reserve every id within range that a mod numbered itself. -/
def reserveExplicit (allocation : Allocation) (definition : ModDefinition) : Allocation :=
  { allocation with
    ledgers := definition.entityTypes.foldl (fun ledgers type =>
      ledgers.modify type fun ledger =>
        ledger.reserve
          ((definition.entity type).definedIds.filter ledger.allocator.range.isModding))
      allocation.ledgers }

/-- Give definitions without an id fresh ids. -/
def placeImplicit (allocation : Allocation) (step : ImplicitStep) :
    Except RequestError Allocation := do
  let (ids, ledger) ←
    (allocation.ledgers.get step.type).assign step.modName step.type step.count
  return { allocation with ledgers := allocation.ledgers.set step.type ledger }.modifyMapping
    step.modName (·.recordImplicits step.type ids)

/-- Note the collisions over the taken ids of a run. -/
def noteCollisions (allocation : Allocation) (modName : String) (type : EntityType)
    (taken : List Int) : Allocation :=
  let owners := (allocation.ledgers.get type).owners
  { allocation with
    collisions := taken.foldl (fun collisions id =>
      noteCollision type (owners.getD id "?") modName id collisions) allocation.collisions }

/-- Place a run of ids: it stays if none of its ids is taken, and otherwise moves as a
whole. -/
def placeRun (allocation : Allocation) (modName : String) (type : EntityType)
    (ids : List Int) : Except RequestError Allocation := do
  let ledger := allocation.ledgers.get type
  let taken := ids.filter ledger.allocator.used.contains
  if taken.isEmpty then
    return { allocation with
      ledgers := allocation.ledgers.set type (ledger.claimAll modName ids) }
  else
    let (newIds, assigned) ← ledger.assign modName type ids.length
    (requireRanges [ids, newIds]).mapError .numeral
    let noted := allocation.noteCollisions modName type taken
    let moved : Allocation :=
      { noted with
        ledgers := noted.ledgers.set type (assigned.release ids)
        warnings :=
          if isScattered newIds then noted.warnings ++ [.splitRun modName type ids newIds]
          else noted.warnings }
    return moved.modifyMapping modName (·.recordRemaps type ids newIds)

/-- Replace ids outside the range of their type one by one. -/
def placeOutOfRange (allocation : Allocation) (modName : String) (type : EntityType)
    (ids : List Int) : Except RequestError Allocation := do
  let ledger := allocation.ledgers.get type
  let (newIds, allocator) ← ledger.allocator.allocateSingles type ids.length
  (requireRanges [ids]).mapError .numeral
  (Text.requireWritable ledger.allocator.range.bounds).mapError .numeral
  let placed : Allocation :=
    { allocation with
      ledgers := allocation.ledgers.set type ({ ledger with allocator }.own modName newIds)
      warnings := allocation.warnings ++ [.outOfRange modName type ids ledger.allocator.range] }
  return placed.modifyMapping modName (·.recordRemaps type ids newIds)

/-- Place ids that a mod numbered itself. -/
def placeExplicit (allocation : Allocation) (step : ExplicitStep) :
    Except RequestError Allocation :=
  match step with
  | .run modName type ids => allocation.placeRun modName type ids
  | .outOfRange modName type ids => allocation.placeOutOfRange modName type ids

end Allocation

/-- The definitions without an id of a mod, by type. -/
def ModDefinition.implicitSteps (definition : ModDefinition) : List ImplicitStep :=
  definition.entityTypes.filterMap fun type =>
    let count := (definition.entity type).implicitCount
    if count = 0 then none else some ⟨definition.modName, type, count⟩

/-- The ids that a mod numbered itself, by type: the runs within the range in ascending
order, and then the ids outside. -/
def ModDefinition.explicitSteps (definition : ModDefinition) (ranges : RangeTable) :
    List ExplicitStep :=
  definition.entityTypes.flatMap fun type =>
    let (inside, outside) :=
      (definition.entity type).definedIds.partition (ranges.get type).isModding
    (splitRuns inside).map (.run definition.modName type) ++
      if outside.isEmpty then [] else [.outOfRange definition.modName type outside]

/-- The mods in the order of their names. -/
def inNameOrder (definitions : List ModDefinition) : List ModDefinition :=
  definitions.mergeSort fun first second => first.modName ≤ second.modName

/-- What a mod's name stands for after allocation. -/
def ModMapping.resolveBinding? (mapping : ModMapping) (binding : NameBinding) : Option Int :=
  match binding.target with
  | .implicit index => mapping.implicitId? binding.type index
  | .explicit id => some (mapping.newId binding.type id)

/-- Record what the names of a mod stand for, and freeze its mapping. -/
def ModMapping.resolveNames (mapping : ModMapping) (definition : ModDefinition) :
    Except FrozenError ModMapping := do
  let named ← definition.names.entries.foldlM (fun (mapping : ModMapping) (type, name, binding) =>
    match mapping.resolveBinding? binding with
    | some id => mapping.bindName type name id
    | none => .ok mapping) mapping
  return named.freeze

/-- Resolve the names of mods and freeze their mappings. -/
def resolveAllNames (mappings : Std.TreeMap String ModMapping)
    (definitions : List ModDefinition) : Except FrozenError (Std.TreeMap String ModMapping) :=
  definitions.foldlM (fun mappings definition =>
    match mappings[definition.modName]? with
    | some mapping =>
        (mapping.resolveNames definition).map (mappings.insert definition.modName ·)
    | none => .ok mappings) mappings

/-- The state of allocation before any id that a mod numbered itself is placed. -/
def allocateImplicit (ranges : RangeTable) (ordered : List ModDefinition) :
    Except RequestError Allocation :=
  (ordered.flatMap (·.implicitSteps)).foldlM Allocation.placeImplicit
    (ordered.foldl Allocation.reserveExplicit (.initial ranges ordered))

/-- The state of allocation when all ids have been placed. -/
def allocateAll (ranges : RangeTable) (ordered : List ModDefinition) :
    Except RequestError Allocation := do
  (ordered.flatMap (·.explicitSteps ranges)).foldlM Allocation.placeExplicit
    (← allocateImplicit ranges ordered)

/-- Allocate the ids of mods. -/
def allocate (ranges : RangeTable) (definitions : List ModDefinition) :
    Except AllocationError AllocationResult := do
  let ordered := inNameOrder definitions
  let placed ← (allocateAll ranges ordered).mapError .refused
  let shared := sharedEditConflicts ordered
  (requireRanges (shared.map (·.ids))).mapError fun error => .refused (.numeral error)
  let mappings ← (resolveAllNames placed.mappings ordered).mapError .frozen
  return {
    mappings
    conflicts := placed.collisions.map Collision.toConflict ++ shared
    warnings := placed.warnings ++
      shared.map fun conflict => .sharedEdit conflict.type conflict.ids conflict.mods }

end ModMerge
