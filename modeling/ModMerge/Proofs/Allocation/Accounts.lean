import ModMerge.Proofs.Ids.FreshIds

/-!
# The accounts of a ledger

At every moment of an allocation the ids of a type fall into three lists: those that mods
kept, those that were handed out fresh, and those that wait to be placed. A ledger whose
used ids, reserved ids and reservation counts agree with these lists keeps its `Accounts`.
Each operation on a ledger moves ids between the lists and nothing else, so a fresh id
never is one that some mod still waits for.
-/

namespace ModMerge

theorem getD_foldl_insert_add (counts : Std.TreeMap Int Int) (ids : List Int) (amount id : Int) :
    (ids.foldl (fun counts id => counts.insert id (counts.getD id 0 + amount)) counts).getD id 0 =
      counts.getD id 0 + amount * (ids.count id : Int) := by
  induction ids generalizing counts with
  | nil => simp
  | cons first rest inductionHypothesis =>
      rw [List.foldl_cons, inductionHypothesis, Std.TreeMap.getD_insert, List.count_cons]
      by_cases same : first = id
      · subst same
        simp only [Std.LawfulEqCmp.compare_eq_iff_eq, beq_self_eq_true, ↓reduceIte]
        push_cast
        rw [Int.mul_add]
        omega
      · simp [same]

namespace TypeLedger

/-- The ledger agrees with lists of the ids that mods kept, of the ids that were handed out,
and of the ids that wait to be placed. A waiting id is listed once for each mod that waits
for it. -/
structure Accounts (ledger : TypeLedger) (range : EntityRange) (kept fresh waiting : List Int) :
    Prop where
  range_eq : ledger.allocator.range = range
  mem_used : ∀ id, id ∈ ledger.allocator.used ↔ id ∈ kept ∨ id ∈ fresh
  mem_reserved : ∀ id, id ∈ ledger.allocator.reserved ↔ id ∈ kept ∨ id ∈ waiting
  getD_reservations : ∀ id,
    ledger.reservations.getD id 0 = ((waiting.count id + kept.count id : Nat) : Int)
  nodup : (kept ++ fresh).Nodup
  isModding : ∀ id, id ∈ kept ∨ id ∈ fresh ∨ id ∈ waiting → range.isModding id = true
  not_waiting : ∀ id ∈ fresh, id ∉ waiting

namespace Accounts

variable {ledger : TypeLedger} {range : EntityRange} {kept fresh waiting ids : List Int}

/-- Nothing is kept, handed out or waited for at the beginning. -/
theorem initial (range : EntityRange) :
    TypeLedger.Accounts { allocator := .fresh range } range [] [] [] where
  range_eq := rfl
  mem_used := by simp [IdAllocator.fresh]
  mem_reserved := by simp [IdAllocator.fresh]
  getD_reservations := by simp
  nodup := by simp
  isModding := by simp
  not_waiting := by simp

/-- Who owns which id is not part of the accounts. -/
theorem own (accounts : ledger.Accounts range kept fresh waiting) (modName : String)
    (ids : List Int) : (ledger.own modName ids).Accounts range kept fresh waiting :=
  ⟨accounts.range_eq, accounts.mem_used, accounts.mem_reserved, accounts.getD_reservations,
    accounts.nodup, accounts.isModding, accounts.not_waiting⟩

/-- Reserved ids are waited for. -/
theorem reserve (accounts : ledger.Accounts range kept [] waiting)
    (inRange : ∀ id ∈ ids, range.isModding id = true) :
    (ledger.reserve ids).Accounts range kept [] (waiting ++ ids) where
  range_eq := accounts.range_eq
  mem_used := accounts.mem_used
  mem_reserved := by
    intro id
    simp only [TypeLedger.reserve, IdAllocator.reserve, IdSet.mem_insertAll,
      accounts.mem_reserved, List.mem_append]
    tauto
  getD_reservations := by
    intro id
    simp only [TypeLedger.reserve, getD_foldl_insert_add, accounts.getD_reservations,
      List.count_append]
    push_cast
    omega
  nodup := accounts.nodup
  isModding := by
    intro id member
    simp only [List.mem_append, List.not_mem_nil, false_or] at member
    rcases member with inKept | inWaiting | isNew
    · exact accounts.isModding id (.inl inKept)
    · exact accounts.isModding id (.inr (.inr inWaiting))
    · exact inRange id isNew
  not_waiting := by simp

/-- Ids that an allocator of the ledger hands out are fresh. -/
theorem handOut (accounts : ledger.Accounts range kept fresh waiting) {next : IdAllocator}
    (handsOut : ledger.allocator.HandsOut ids next) :
    { ledger with allocator := next : TypeLedger }.Accounts range kept (fresh ++ ids) waiting where
  range_eq := handsOut.range_eq.trans accounts.range_eq
  mem_used := by
    intro id
    simp only [handsOut.mem_used, accounts.mem_used, List.mem_append]
    tauto
  mem_reserved := by
    intro id
    simp only [handsOut.reserved_eq, accounts.mem_reserved]
  getD_reservations := accounts.getD_reservations
  nodup := by
    rw [← List.append_assoc]
    refine List.nodup_append'.2 ⟨accounts.nodup, handsOut.nodup, ?_⟩
    intro id before isNew
    exact handsOut.not_mem_used isNew ((accounts.mem_used id).2 (List.mem_append.1 before))
  isModding := by
    intro id member
    rw [List.mem_append] at member
    rcases member with inKept | (inFresh | isNew) | inWaiting
    · exact accounts.isModding id (.inl inKept)
    · exact accounts.isModding id (.inr (.inl inFresh))
    · rw [← accounts.range_eq]
      exact handsOut.isModding isNew
    · exact accounts.isModding id (.inr (.inr inWaiting))
  not_waiting := by
    intro id member inWaiting
    rcases List.mem_append.1 member with inFresh | isNew
    · exact accounts.not_waiting id inFresh inWaiting
    · exact handsOut.not_mem_reserved isNew ((accounts.mem_reserved id).2 (.inr inWaiting))

/-- A mod that is assigned ids is handed out as many as it asked for. -/
theorem assign (accounts : ledger.Accounts range kept fresh waiting) {next : TypeLedger}
    {modName : String} {type : EntityType} {count : Nat}
    (assigned : ledger.assign modName type count = .ok (ids, next)) :
    next.Accounts range kept (fresh ++ ids) waiting ∧ ids.length = count := by
  cases allocated : ledger.allocator.allocateIds type count with
  | error error => simp [TypeLedger.assign, allocated, Except.map] at assigned
  | ok outcome =>
      obtain ⟨newIds, allocator⟩ := outcome
      simp only [TypeLedger.assign, allocated, Except.map, Except.ok.injEq,
        Prod.mk.injEq] at assigned
      obtain ⟨rfl, rfl⟩ := assigned
      obtain ⟨handsOut, sameLength⟩ := IdAllocator.handsOut_of_allocateIds allocated
      exact ⟨(accounts.handOut handsOut).own modName newIds, sameLength⟩

theorem used_foldl_claim (allocator : IdAllocator) (ids : List Int) (id : Int) :
    id ∈ (ids.foldl (·.claim ·) allocator).used ↔ id ∈ ids ∨ id ∈ allocator.used := by
  induction ids generalizing allocator with
  | nil => simp
  | cons first rest inductionHypothesis =>
      rw [List.foldl_cons, inductionHypothesis]
      simp only [IdAllocator.claim, Std.TreeSet.mem_insert,
        Std.LawfulEqCmp.compare_eq_iff_eq, List.mem_cons]
      tauto

theorem foldl_claim_eq (allocator : IdAllocator) (ids : List Int) :
    (ids.foldl (·.claim ·) allocator).range = allocator.range ∧
      (ids.foldl (·.claim ·) allocator).reserved = allocator.reserved := by
  induction ids generalizing allocator with
  | nil => simp
  | cons first rest inductionHypothesis => exact inductionHypothesis (allocator.claim first)

/-- A mod that keeps ids nobody uses no longer waits for them. -/
theorem claimAll (accounts : ledger.Accounts range kept fresh (ids ++ waiting))
    (modName : String) (nodup : ids.Nodup) (free : ∀ id ∈ ids, id ∉ ledger.allocator.used) :
    (ledger.claimAll modName ids).Accounts range (kept ++ ids) fresh waiting where
  range_eq := (foldl_claim_eq ..).1.trans accounts.range_eq
  mem_used := by
    intro id
    simp only [TypeLedger.claimAll, TypeLedger.own, used_foldl_claim, accounts.mem_used,
      List.mem_append]
    tauto
  mem_reserved := by
    intro id
    simp only [TypeLedger.claimAll, TypeLedger.own, foldl_claim_eq, accounts.mem_reserved,
      List.mem_append]
    tauto
  getD_reservations := by
    intro id
    have counted := accounts.getD_reservations id
    simp only [List.count_append] at counted ⊢
    simp only [TypeLedger.claimAll, TypeLedger.own, counted]
    omega
  nodup := by
    have notFree : ∀ id ∈ ids, id ∉ kept ∧ id ∉ fresh := by
      intro id member
      have unused := free id member
      rw [accounts.mem_used, not_or] at unused
      exact unused
    have before := List.nodup_append'.1 accounts.nodup
    refine List.nodup_append'.2 ⟨List.nodup_append'.2 ⟨before.1, nodup, ?_⟩, before.2.1, ?_⟩
    · exact fun id inKept inIds => (notFree id inIds).1 inKept
    · intro id member inFresh
      rcases List.mem_append.1 member with inKept | inIds
      · exact before.2.2 inKept inFresh
      · exact (notFree id inIds).2 inFresh
  isModding := by
    intro id member
    apply accounts.isModding id
    simp only [List.mem_append] at member ⊢
    tauto
  not_waiting := fun id inFresh inWaiting =>
    accounts.not_waiting id inFresh (List.mem_append_right ids inWaiting)

/-- A mod that has moved away from ids no longer waits for them. Ids that others wait for or
have kept stay reserved. -/
theorem release (accounts : ledger.Accounts range kept fresh (ids ++ waiting)) :
    (ledger.release ids).Accounts range kept fresh waiting := by
  have remaining : ∀ id, (ids.foldl (fun counts id => counts.insert id (counts.getD id 0 - 1))
      ledger.reservations).getD id 0 = ((waiting.count id + kept.count id : Nat) : Int) := by
    intro id
    have folded := getD_foldl_insert_add ledger.reservations ids (-1) id
    simp only [← Int.sub_eq_add_neg] at folded
    have counted := accounts.getD_reservations id
    rw [List.count_append] at counted
    rw [folded, counted]
    push_cast
    omega
  constructor
  case range_eq => exact accounts.range_eq
  case mem_used => exact accounts.mem_used
  case getD_reservations => exact remaining
  case nodup => exact accounts.nodup
  case isModding =>
    intro id member
    apply accounts.isModding id
    simp only [List.mem_append]
    tauto
  case not_waiting =>
    exact fun id inFresh inWaiting =>
      accounts.not_waiting id inFresh (List.mem_append_right ids inWaiting)
  case mem_reserved =>
    intro id
    have freedIff : id ∈ ids.filter (fun id =>
        (ids.foldl (fun counts id => counts.insert id (counts.getD id 0 - 1))
          ledger.reservations).getD id 0 == 0 && !ledger.allocator.used.contains id) ↔
        id ∈ ids ∧ id ∉ waiting ∧ id ∉ kept := by
      simp only [List.mem_filter, remaining, Bool.and_eq_true, beq_iff_eq, Bool.not_eq_true',
        ← Bool.not_eq_true, Std.TreeSet.contains_iff_mem, accounts.mem_used]
      rw [Int.natCast_eq_zero, Nat.add_eq_zero_iff, List.count_eq_zero, List.count_eq_zero]
      have fresh_not := accounts.not_waiting id
      simp only [List.mem_append] at fresh_not
      tauto
    simp only [TypeLedger.release, IdAllocator.release, IdSet.mem_eraseAll, freedIff,
      accounts.mem_reserved, List.mem_append]
    tauto

/-- Of ids that wait to be placed, exactly those that a mod kept are used. -/
theorem mem_used_of_waiting (accounts : ledger.Accounts range kept fresh waiting) {id : Int}
    (isWaiting : id ∈ waiting) : id ∈ ledger.allocator.used ↔ id ∈ kept := by
  rw [accounts.mem_used, or_iff_left]
  exact fun inFresh => accounts.not_waiting id inFresh isWaiting

end Accounts
end TypeLedger
end ModMerge
