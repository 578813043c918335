import ModMerge.Proofs.Ids.FreshIds

/-!
# The entries of a mapping

Recording moved ids changes the entries of exactly these ids, and recording the ids of
definitions without an id changes no entry. The lemmas say so for each view of a mapping.
-/

namespace ModMerge.ModMapping

variable {mapping : ModMapping} {type other : EntityType} {old new id : Int}
  {ids newIds : List Int}

/-- An id without an entry keeps its number. -/
theorem newId_of_not_isRemapped (kept : mapping.isRemapped type id = false) :
    mapping.newId type id = id :=
  Std.TreeMap.getD_eq_fallback_of_contains_eq_false kept

theorem newId_recordRemap (different : old ≠ new) :
    (mapping.recordRemap type old new).newId other id =
      if type = other ∧ old = id then new else mapping.newId other id := by
  rw [recordRemap, if_neg different]
  simp only [newId, EntityTable.modify, EntityTable.get_set]
  by_cases sameType : type = other
  · subst sameType
    simp [Std.TreeMap.getD_insert]
  · simp [sameType]

theorem newId_recordRemap_of_ne (untouched : type = other → old ≠ id) :
    (mapping.recordRemap type old new).newId other id = mapping.newId other id := by
  by_cases same : old = new
  · rw [recordRemap, if_pos same]
  · rw [newId_recordRemap same, if_neg fun both => untouched both.1 both.2]

theorem isRemapped_recordRemap (different : old ≠ new) :
    (mapping.recordRemap type old new).isRemapped other id = true ↔
      (type = other ∧ old = id) ∨ mapping.isRemapped other id = true := by
  rw [recordRemap, if_neg different]
  simp only [isRemapped, EntityTable.modify, EntityTable.get_set]
  by_cases sameType : type = other
  · subst sameType
    simp
  · simp [sameType]

@[simp]
theorem implicit_recordRemap : (mapping.recordRemap type old new).implicit = mapping.implicit := by
  rw [recordRemap]
  split <;> rfl

@[simp]
theorem modName_recordRemap : (mapping.recordRemap type old new).modName = mapping.modName := by
  rw [recordRemap]
  split <;> rfl

@[simp]
theorem names_recordRemap : (mapping.recordRemap type old new).names = mapping.names := by
  rw [recordRemap]
  split <;> rfl

@[simp]
theorem frozen_recordRemap : (mapping.recordRemap type old new).frozen = mapping.frozen := by
  rw [recordRemap]
  split <;> rfl

/-- The parts of a mapping that moving ids does not touch. -/
structure SameBesidesRemaps (first second : ModMapping) : Prop where
  modName : second.modName = first.modName
  implicit : second.implicit = first.implicit
  names : second.names = first.names
  frozen : second.frozen = first.frozen

theorem SameBesidesRemaps.trans {first second third : ModMapping}
    (earlier : first.SameBesidesRemaps second) (later : second.SameBesidesRemaps third) :
    first.SameBesidesRemaps third :=
  ⟨later.modName.trans earlier.modName, later.implicit.trans earlier.implicit,
    later.names.trans earlier.names, later.frozen.trans earlier.frozen⟩

/-- Two mappings say the same about the ids of a type. -/
structure AgreesOn (type : EntityType) (first second : ModMapping) : Prop where
  implicitIds : second.implicitIds type = first.implicitIds type
  newId : ∀ id, second.newId type id = first.newId type id
  isRemapped : ∀ id, second.isRemapped type id = first.isRemapped type id

theorem sameBesidesRemaps_recordRemaps (mapping : ModMapping) (type : EntityType)
    (ids newIds : List Int) :
    mapping.SameBesidesRemaps (mapping.recordRemaps type ids newIds) := by
  rw [recordRemaps]
  induction ids.zip newIds generalizing mapping with
  | nil => exact ⟨rfl, rfl, rfl, rfl⟩
  | cons pair rest inductionHypothesis =>
      have later := inductionHypothesis (mapping.recordRemap type pair.1 pair.2)
      exact ⟨by simpa using later.modName, by simpa using later.implicit,
        by simpa using later.names, by simpa using later.frozen⟩

theorem recordRemaps_cons (mapping : ModMapping) (type : EntityType) :
    mapping.recordRemaps type (old :: ids) (new :: newIds) =
      (mapping.recordRemap type old new).recordRemaps type ids newIds :=
  rfl

/-- Ids other than the moved ones go where they went before. -/
theorem newId_recordRemaps_of_not_mem (untouched : type = other → id ∉ ids) :
    (mapping.recordRemaps type ids newIds).newId other id = mapping.newId other id := by
  induction ids generalizing mapping newIds with
  | nil => rfl
  | cons old ids inductionHypothesis =>
      cases newIds with
      | nil => rfl
      | cons new newIds =>
          simp only [List.mem_cons, not_or] at untouched
          rw [recordRemaps_cons, inductionHypothesis fun same => (untouched same).2,
            newId_recordRemap_of_ne fun same => (untouched same).1 ∘ Eq.symm]

/-- Moved ids go to the new ids in order. -/
theorem map_newId_recordRemaps (distinct : ∀ id ∈ ids, id ∉ newIds) (nodup : ids.Nodup)
    (sameLength : ids.length = newIds.length) :
    ids.map ((mapping.recordRemaps type ids newIds).newId type) = newIds := by
  induction ids generalizing mapping newIds with
  | nil => exact (List.length_eq_zero_iff.1 sameLength.symm).symm
  | cons old ids inductionHypothesis =>
      cases newIds with
      | nil => cases sameLength
      | cons new newIds =>
          simp only [List.mem_cons, not_or] at distinct
          rw [List.nodup_cons] at nodup
          have apart : ∀ id ∈ ids, id ∉ newIds := fun id member => (distinct id (.inr member)).2
          rw [recordRemaps_cons, List.map_cons,
            inductionHypothesis apart nodup.2 (Nat.succ.inj sameLength),
            newId_recordRemaps_of_not_mem (fun _ => nodup.1),
            newId_recordRemap (distinct old (.inl rfl)).1, if_pos ⟨rfl, rfl⟩]

/-- Exactly the moved ids get entries. -/
theorem isRemapped_recordRemaps (distinct : ∀ id ∈ ids, id ∉ newIds)
    (sameLength : ids.length = newIds.length) :
    (mapping.recordRemaps type ids newIds).isRemapped other id = true ↔
      (type = other ∧ id ∈ ids) ∨ mapping.isRemapped other id = true := by
  induction ids generalizing mapping newIds with
  | nil => simp [recordRemaps]
  | cons old ids inductionHypothesis =>
      cases newIds with
      | nil => cases sameLength
      | cons new newIds =>
          simp only [List.mem_cons, not_or] at distinct
          rw [recordRemaps_cons, inductionHypothesis
            (fun id member => (distinct id (.inr member)).2) (Nat.succ.inj sameLength),
            isRemapped_recordRemap (distinct old (.inl rfl)).1, List.mem_cons]
          grind

/-- Recording the ids of definitions without an id touches nothing else. -/
theorem recordImplicits_eq (mapping : ModMapping) (type : EntityType) (ids : List Int) :
    mapping.recordImplicits type ids =
      { mapping with implicit := mapping.implicit.modify type (· ++ ids.toArray) } := by
  induction ids generalizing mapping with
  | nil =>
      have unchanged : mapping.implicit.modify type (· ++ [].toArray) = mapping.implicit := by
        apply EntityTable.ext
        intro other
        by_cases same : type = other
        · subst same
          simp
        · rw [EntityTable.get_modify_of_ne _ _ same]
      rw [unchanged]
      rfl
  | cons id ids inductionHypothesis =>
      have joined : (mapping.recordImplicit type id).implicit.modify type (· ++ ids.toArray) =
          mapping.implicit.modify type (· ++ (id :: ids).toArray) := by
        apply EntityTable.ext
        intro other
        by_cases same : type = other
        · subst same
          simp [recordImplicit]
        · simp [recordImplicit, EntityTable.get_modify_of_ne _ _ same]
      change (mapping.recordImplicit type id).recordImplicits type ids = _
      rw [inductionHypothesis, joined]
      rfl

theorem implicitIds_recordImplicits (mapping : ModMapping) (type other : EntityType)
    (ids : List Int) :
    (mapping.recordImplicits type ids).implicitIds other =
      if type = other then mapping.implicitIds other ++ ids else mapping.implicitIds other := by
  rw [recordImplicits_eq]
  simp only [implicitIds, EntityTable.modify, EntityTable.get_set]
  split
  · next same => subst same; simp
  · rfl

end ModMerge.ModMapping
