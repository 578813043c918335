import ModMerge.EntityRange
import ModMerge.Ids.IdSet
import ModMerge.Ids.Runs

/-!
# Handing out fresh ids

An `IdAllocator` hands out ids of one entity type. An id is available if mods own it and
it is neither used nor reserved for content that some mod numbered itself. The search for
a block of consecutive available ids runs from the cursor to the end of the range and then
over from its start; the first search tries the preferred start before that. An
`AllocationSession` holds the allocators of several types.
-/

namespace ModMerge

/-- The state of handing out ids of one type. -/
structure IdAllocator where
  range : EntityRange
  /-- Ids that content has. -/
  used : IdSet := ∅
  /-- Ids that fresh content must not get. -/
  reserved : IdSet := ∅
  /-- Where the next search begins. -/
  cursor : Int
  /-- Whether no id has been asked for yet. -/
  firstRequest : Bool := true

/-- No block of the requested size is available. -/
structure RangeExhausted where
  type : EntityType
  /-- The first and the last id of the range that was searched. -/
  start : Int
  stop : Int
  /-- How many ids are used or reserved. -/
  used : Nat
  /-- How many consecutive ids were asked for. -/
  requested : Nat
deriving DecidableEq, Repr

/-- The wording for an exhausted range. -/
def RangeExhausted.message (error : RangeExhausted) : String :=
  let wanted :=
    if error.requested = 1 then "id"
    else "block of " ++ Text.decimalString error.requested ++ " ids"
  "No available " ++ error.type.label ++ " " ++ wanted ++ " in range " ++
    Text.decimalString error.start ++ "-" ++ Text.decimalString error.stop ++ " (" ++
    Text.decimalString error.used ++ " in use)"

/-- The numbers of any size that stand in the wording for an exhausted range. -/
def RangeExhausted.numbers (error : RangeExhausted) : List Int :=
  (if error.requested = 1 then [] else [(error.requested : Int)]) ++ [error.start, error.stop]

/-- Why ids are not handed out. -/
inductive RequestError where
  | exhausted (error : RangeExhausted)
  /-- What is to be said of the ids cannot be written. -/
  | numeral (error : Text.NumeralError)
deriving DecidableEq, Repr

/-- The wording of a refused request. -/
def RequestError.message : RequestError → String
  | .exhausted error => error.message
  | .numeral error => error.message

/-- What is raised for an exhausted range: its wording is written at once. -/
def RangeExhausted.raised (error : RangeExhausted) : RequestError :=
  match Text.requireWritable error.numbers with
  | .ok _ => .exhausted error
  | .error unwritten => .numeral unwritten

namespace IdAllocator

/-- An allocator that has handed out nothing. A preferred start of zero does not move the
cursor. -/
def fresh (range : EntityRange) : IdAllocator :=
  { range
    cursor :=
      match range.preferredStart with
      | some start => if start = 0 then range.moddingStart else start
      | none => range.moddingStart }

/-- Whether an id can be handed out. -/
def isAvailable (allocator : IdAllocator) (id : Int) : Bool :=
  allocator.range.isModding id && !allocator.used.contains id &&
    !allocator.reserved.contains id

/-- Whether the given number of ids from `start` on can be handed out. -/
def isBlockFree (allocator : IdAllocator) (start : Int) : Nat → Bool
  | 0 => true
  | size + 1 => allocator.isAvailable start && allocator.isBlockFree (start + 1) size

/-- Among the given number of ids from `start` on, the first at which a free block
begins. -/
def firstFree? (allocator : IdAllocator) (size : Nat) (start : Int) : Nat → Option Int
  | 0 => none
  | count + 1 =>
      if allocator.isBlockFree start size then some start
      else allocator.firstFree? size (start + 1) count

/-- The first free block in cyclic order: from the cursor to the last id at which a block
fits, and then from the start of the range to the cursor. -/
def cyclicFree? (allocator : IdAllocator) (size : Nat) : Option Int :=
  let start := allocator.range.moddingStart
  let last := allocator.range.moddingEnd - size + 1
  let first :=
    if start ≤ allocator.cursor && allocator.cursor ≤ last then allocator.cursor else start
  (allocator.firstFree? size first (last + 1 - first).toNat).or
    (allocator.firstFree? size start (first - start).toNat)

/-- The preferred start, if nothing has been asked for yet and the block is free there. -/
def preferredFree? (allocator : IdAllocator) (size : Nat) : Option Int :=
  if allocator.firstRequest then
    allocator.range.preferredStart.filter fun start => allocator.isBlockFree start size
  else
    none

/-- Where the next block of the given size is taken. -/
def findBlock? (allocator : IdAllocator) (size : Nat) : Option Int :=
  (allocator.preferredFree? size).or (allocator.cyclicFree? size)

/-- Mark an id as used. -/
def claim (allocator : IdAllocator) (id : Int) : IdAllocator :=
  { allocator with used := allocator.used.insert id }

/-- Keep fresh content away from ids. -/
def reserve (allocator : IdAllocator) (ids : List Int) : IdAllocator :=
  { allocator with reserved := allocator.reserved.insertAll ids }

/-- No longer keep fresh content away from ids. -/
def release (allocator : IdAllocator) (ids : List Int) : IdAllocator :=
  { allocator with reserved := allocator.reserved.eraseAll ids }

/-- Take the block at `start`: its ids are used, and the cursor stands behind it. -/
def take (allocator : IdAllocator) (start : Int) (size : Nat) : IdAllocator :=
  { allocator with
    used := allocator.used.insertAll (idsFrom start size)
    cursor := start + size
    firstRequest := false }

/-- The error for a block that could not be found. -/
def exhausted (allocator : IdAllocator) (type : EntityType) (size : Nat) :
    RangeExhausted :=
  { type
    start := allocator.range.moddingStart
    stop := allocator.range.moddingEnd
    used := allocator.used.unionSize allocator.reserved
    requested := size }

/-- Hand out a block of consecutive ids of `type`. A request that fails is still a first
request. -/
def allocateBlock (allocator : IdAllocator) (type : EntityType) (size : Nat) :
    Except RequestError (List Int) × IdAllocator :=
  match allocator.findBlock? size with
  | some start => (.ok (idsFrom start size), allocator.take start size)
  | none =>
      (.error (allocator.exhausted type size).raised, { allocator with firstRequest := false })

end IdAllocator

/-- Why a session cannot do what it is asked for. -/
inductive SessionError where
  /-- The session has no range for the type. -/
  | noRange (type : EntityType)
  | sizeNotPositive
  | refused (error : RequestError)
deriving DecidableEq, Repr

/-- The wording of a refused request. -/
def SessionError.message : SessionError → String
  | .noRange type => type.word
  | .sizeNotPositive => "block size must be positive"
  | .refused error => error.message

/-- The allocators of the types that have a range. -/
structure AllocationSession where
  allocators : EntityTable (Option IdAllocator)

namespace AllocationSession

/-- A session over some ranges. -/
def ofRanges (ranges : EntityTable (Option EntityRange)) : AllocationSession :=
  ⟨.ofFunction fun type => (ranges.get type).map .fresh⟩

/-- A session over ranges for all types. -/
def ofTable (ranges : RangeTable) : AllocationSession :=
  ⟨.ofFunction fun type => some (.fresh (ranges.get type))⟩

/-- The allocator of a type. -/
def allocator (session : AllocationSession) (type : EntityType) :
    Except SessionError IdAllocator :=
  match session.allocators.get type with
  | some allocator => .ok allocator
  | none => .error (.noRange type)

/-- The session with the allocator of a type replaced. -/
def withAllocator (session : AllocationSession) (type : EntityType)
    (allocator : IdAllocator) : AllocationSession :=
  ⟨session.allocators.set type (some allocator)⟩

/-- Change the allocator of a type. -/
def change (session : AllocationSession) (type : EntityType)
    (change : IdAllocator → IdAllocator) : Except SessionError AllocationSession := do
  return session.withAllocator type (change (← session.allocator type))

/-- Keep fresh content of a type away from ids. -/
def reserve (session : AllocationSession) (type : EntityType) (ids : List Int) :
    Except SessionError AllocationSession :=
  session.change type (·.reserve ids)

/-- No longer keep fresh content of a type away from ids. -/
def release (session : AllocationSession) (type : EntityType) (ids : List Int) :
    Except SessionError AllocationSession :=
  session.change type (·.release ids)

/-- Mark an id of a type as used. -/
def claim (session : AllocationSession) (type : EntityType) (id : Int) :
    Except SessionError AllocationSession :=
  session.change type (·.claim id)

/-- Hand out a block of consecutive ids of a type. A request that fails leaves every id as
it was. -/
def allocateBlock (session : AllocationSession) (type : EntityType) (size : Int) :
    Except SessionError (List Int) × AllocationSession :=
  match session.allocator type with
  | .error error => (.error error, session)
  | .ok allocator =>
      if size < 1 then
        (.error .sizeNotPositive, session)
      else
        let (outcome, next) := allocator.allocateBlock type size.toNat
        (outcome.mapError .refused, session.withAllocator type next)

/-- Hand out one id of a type. -/
def allocate (session : AllocationSession) (type : EntityType) :
    Except SessionError (List Int) × AllocationSession :=
  session.allocateBlock type 1

end AllocationSession
end ModMerge
