import ModMerge.Proofs.Allocation.ImplicitPass

/-!
# The pass over numbered ids

The last pass of an allocation places the ids that mods numbered themselves, step by step.
Which runs stay is a matter of the steps alone (`keptIds`): the decision looks at the used
ids, but `Progress`, which holds between any two steps, tells that of the ids a step is
about only kept ones can be used. It also tells that each id that has been settled on is
settled on once.
-/

namespace ModMerge

/-- The kept ids of a type after a further step: a run stays unless one of its ids is
kept. -/
def keepIds (type : EntityType) (kept : List Int) : ExplicitStep → List Int
  | .run _ other ids => if other = type ∧ ∀ id ∈ ids, id ∉ kept then kept ++ ids else kept
  | .outOfRange .. => kept

/-- The ids of a type that stay where their mods numbered them. -/
def keptIds (type : EntityType) (steps : List ExplicitStep) : List Int :=
  steps.foldl (keepIds type) []

/-- Whether a step moves its ids, given the steps before it. -/
def ExplicitStep.Moves (earlier : List ExplicitStep) : ExplicitStep → Prop
  | run _ type ids => ∃ id ∈ ids, id ∈ keptIds type earlier
  | outOfRange .. => True

theorem keptIds_snoc (type : EntityType) (steps : List ExplicitStep) (step : ExplicitStep) :
    keptIds type (steps ++ [step]) = keepIds type (keptIds type steps) step := by
  simp [keptIds]

theorem keepIds_of_type_ne {type : EntityType} {step : ExplicitStep} (kept : List Int)
    (different : step.type ≠ type) : keepIds type kept step = kept := by
  cases step with
  | run modName other ids => exact if_neg fun stays => different stays.1
  | outOfRange modName other ids => rfl

theorem keptIds_snoc_run {modName : String} {type : EntityType} {ids : List Int}
    {steps : List ExplicitStep} (stays : ¬ (ExplicitStep.run modName type ids).Moves steps) :
    keptIds type (steps ++ [.run modName type ids]) = keptIds type steps ++ ids := by
  rw [keptIds_snoc]
  exact if_pos ⟨rfl, fun id member inKept => stays ⟨id, member, inKept⟩⟩

theorem keptIds_snoc_of_moves {step : ExplicitStep} {steps : List ExplicitStep}
    (moves : step.Moves steps) (type : EntityType) :
    keptIds type (steps ++ [step]) = keptIds type steps := by
  rw [keptIds_snoc]
  cases step with
  | outOfRange modName other ids => rfl
  | run modName other ids =>
      obtain ⟨id, member, inKept⟩ := moves
      refine if_neg ?_
      rintro ⟨rfl, stays⟩
      exact stays id member inKept

namespace Allocation

/-- All that a step can do: a run stays if none of its ids is used and otherwise moves as a
whole, and ids out of range are replaced one by one. -/
inductive Placed (before : Allocation) : ExplicitStep → Allocation → Prop where
  | kept {modName type ids}
      (free : ∀ id ∈ ids, id ∉ (before.ledgers.get type).allocator.used) :
      Placed before (.run modName type ids)
        { before with
          ledgers := before.ledgers.set type ((before.ledgers.get type).claimAll modName ids) }
  | moved {modName type ids newIds assigned} {after : Allocation}
      (taken : ∃ id ∈ ids, id ∈ (before.ledgers.get type).allocator.used)
      (assign : (before.ledgers.get type).assign modName type ids.length =
        .ok (newIds, assigned))
      (ledgers : after.ledgers = before.ledgers.set type (assigned.release ids))
      (mappings : after.mappings =
        before.mappings.modify modName (·.recordRemaps type ids newIds))
      (collisions : after.collisions = (before.noteCollisions modName type
        (ids.filter (before.ledgers.get type).allocator.used.contains)).collisions)
      (warnings : after.warnings = before.warnings ++
        if isScattered newIds then [.splitRun modName type ids newIds] else []) :
      Placed before (.run modName type ids) after
  | replaced {modName type ids newIds allocator} {after : Allocation}
      (handed : (before.ledgers.get type).allocator.allocateSingles type ids.length =
        .ok (newIds, allocator))
      (ledgers : after.ledgers = before.ledgers.set type
        ({ before.ledgers.get type with allocator }.own modName newIds))
      (mappings : after.mappings =
        before.mappings.modify modName (·.recordRemaps type ids newIds))
      (collisions : after.collisions = before.collisions)
      (warnings : after.warnings = before.warnings ++ [.outOfRange modName type ids
        (before.ledgers.get type).allocator.range]) :
      Placed before (.outOfRange modName type ids) after

theorem placed_of_placeExplicit {before after : Allocation} {step : ExplicitStep}
    (stepped : before.placeExplicit step = .ok after) : before.Placed step after := by
  cases step with
  | run modName type ids =>
      simp only [placeExplicit, placeRun] at stepped
      split at stepped
      · next free =>
          obtain rfl := Except.ok.inj stepped
          refine .kept fun id member inUsed => ?_
          have nothing := List.filter_eq_nil_iff.1 (List.isEmpty_iff.1 free) id member
          exact nothing inUsed
      · next taken =>
          obtain ⟨⟨newIds, assigned⟩, assign, written⟩ := bind_eq_ok.1 stepped
          obtain ⟨-, -, finished⟩ := bind_eq_ok.1 written
          obtain rfl := Except.ok.inj finished
          refine .moved ?_ assign rfl rfl rfl ?_
          have something : ids.filter (before.ledgers.get type).allocator.used.contains ≠ [] :=
            fun nothing => taken (List.isEmpty_iff.2 nothing)
          · obtain ⟨id, member⟩ := List.exists_mem_of_ne_nil _ something
            exact ⟨id, (List.mem_filter.1 member).1, (List.mem_filter.1 member).2⟩
          · simp only [modifyMapping, noteCollisions]
            split
            · rfl
            · rw [List.append_nil]
  | outOfRange modName type ids =>
      obtain ⟨⟨newIds, allocator⟩, handed, written⟩ := bind_eq_ok.1 stepped
      obtain ⟨-, -, bounded⟩ := bind_eq_ok.1 written
      obtain ⟨-, -, finished⟩ := bind_eq_ok.1 bounded
      obtain rfl := Except.ok.inj finished
      exact .replaced handed rfl rfl rfl rfl

/-- What the mappings of an allocation show after the ids of a step have moved. -/
structure Recorded (before : Allocation) (step : ExplicitStep) (newIds : List Int)
    (after : Allocation) : Prop where
  mem_mappings : ∀ modName, modName ∈ after.mappings ↔ modName ∈ before.mappings
  same : ∀ modName,
    (before.mappingOf modName).SameBesidesRemaps (after.mappingOf modName)
  newId_of_not_mem : ∀ modName type id,
    (step.modName = modName → step.type = type → id ∉ step.ids) →
    (after.mappingOf modName).newId type id = (before.mappingOf modName).newId type id
  map_newId : step.ids.map ((after.mappingOf step.modName).newId step.type) = newIds
  isRemapped : ∀ modName type id, (after.mappingOf modName).isRemapped type id = true ↔
    (step.modName = modName ∧ step.type = type ∧ id ∈ step.ids) ∨
      (before.mappingOf modName).isRemapped type id = true

theorem Recorded.agreesOn {before after : Allocation} {step : ExplicitStep} {newIds : List Int}
    {type : EntityType} (recorded : before.Recorded step newIds after)
    (different : step.type ≠ type) (modName : String) :
    (before.mappingOf modName).AgreesOn type (after.mappingOf modName) where
  implicitIds := by rw [ModMapping.implicitIds, ModMapping.implicitIds,
    (recorded.same modName).implicit]
  newId id := recorded.newId_of_not_mem modName type id fun _ same => absurd same different
  isRemapped id := by
    rw [Bool.eq_iff_iff, recorded.isRemapped, or_iff_right]
    exact fun same => different same.2.1

theorem recorded_of_recordRemaps {before after : Allocation} {step : ExplicitStep}
    {newIds : List Int} (known : step.modName ∈ before.mappings)
    (mappings : after.mappings =
      before.mappings.modify step.modName (·.recordRemaps step.type step.ids newIds))
    (distinct : ∀ id ∈ step.ids, id ∉ newIds) (nodup : step.ids.Nodup)
    (sameLength : step.ids.length = newIds.length) : before.Recorded step newIds after where
  mem_mappings := by
    intro modName
    rw [mappings, Std.TreeMap.mem_modify]
  same := by
    intro modName
    rw [mappingOf_modify known mappings]
    split
    · exact ModMapping.sameBesidesRemaps_recordRemaps ..
    · exact ⟨rfl, rfl, rfl, rfl⟩
  newId_of_not_mem := by
    intro modName type id untouched
    rw [mappingOf_modify known mappings]
    split
    · next same => exact ModMapping.newId_recordRemaps_of_not_mem (untouched same)
    · rfl
  map_newId := by
    rw [mappingOf_modify known mappings, if_pos rfl]
    exact ModMapping.map_newId_recordRemaps distinct nodup sameLength
  isRemapped := by
    intro modName type id
    rw [mappingOf_modify known mappings]
    split
    · next same => rw [ModMapping.isRemapped_recordRemaps distinct sameLength]; tauto
    · next different => tauto

/-- The ids of a type that a step has settled on. -/
def settledIds (allocation : Allocation) (type : EntityType) (step : ExplicitStep) : List Int :=
  if step.type = type then
    step.ids.map ((allocation.mappingOf step.modName).newId type)
  else []

/-- Where the pass stands with the ids of one type, between the steps that have been taken
and the rest. -/
structure Progress (ranges : RangeTable) (modNames : List String) (type : EntityType)
    (done rest : List ExplicitStep) (allocation : Allocation) (fresh : List Int) : Prop where
  known : ∀ modName ∈ modNames, modName ∈ allocation.mappings
  accounts : (allocation.ledgers.get type).Accounts (ranges.get type) (keptIds type done) fresh
    (rest.flatMap (·.waitingIds type))
  /-- The ids settled on are those that mods kept and those that were handed out. -/
  settled : (modNames.flatMap (fun modName => (allocation.mappingOf modName).implicitIds type) ++
    done.flatMap (allocation.settledIds type)).Perm (keptIds type done ++ fresh)
  isRemapped_iff : ∀ earlier step later, done = earlier ++ step :: later → step.type = type →
    ∀ id ∈ step.ids,
      (allocation.mappingOf step.modName).isRemapped type id = true ↔ step.Moves earlier
  exists_step : ∀ modName id, (allocation.mappingOf modName).isRemapped type id = true →
    ∃ step ∈ done, step.modName = modName ∧ step.type = type ∧ id ∈ step.ids

namespace Progress

variable {ranges : RangeTable} {modNames : List String} {type : EntityType}
  {done rest : List ExplicitStep} {step : ExplicitStep} {before after : Allocation}
  {fresh newIds : List Int}

/-- Taking one more step. What it does to the ids of other steps, to the accounts and to its
own ids is left to the caller. -/
theorem extend (progress : before.Progress ranges modNames type done (step :: rest) fresh)
    {fresh' : List Int}
    (mem_mappings : ∀ modName, modName ∈ after.mappings ↔ modName ∈ before.mappings)
    (implicitIds : ∀ modName, (after.mappingOf modName).implicitIds type =
      (before.mappingOf modName).implicitIds type)
    (settledBefore : ∀ earlier ∈ done,
      after.settledIds type earlier = before.settledIds type earlier)
    (remappedBefore : ∀ earlier ∈ done, earlier.type = type → ∀ id ∈ earlier.ids,
      ((after.mappingOf earlier.modName).isRemapped type id = true ↔
        (before.mappingOf earlier.modName).isRemapped type id = true))
    (accounts : (after.ledgers.get type).Accounts (ranges.get type)
      (keptIds type (done ++ [step])) fresh' (rest.flatMap (·.waitingIds type)))
    (settledNow : (keptIds type done ++ fresh ++ after.settledIds type step).Perm
      (keptIds type (done ++ [step]) ++ fresh'))
    (remappedNow : step.type = type → ∀ id ∈ step.ids,
      ((after.mappingOf step.modName).isRemapped type id = true ↔ step.Moves done))
    (exists_step : ∀ modName id, (after.mappingOf modName).isRemapped type id = true →
      (step.modName = modName ∧ step.type = type ∧ id ∈ step.ids) ∨
        (before.mappingOf modName).isRemapped type id = true) :
    after.Progress ranges modNames type (done ++ [step]) rest fresh' where
  known modName member := (mem_mappings modName).2 (progress.known modName member)
  accounts := accounts
  settled := by
    have unchanged : done.flatMap (after.settledIds type) =
        done.flatMap (before.settledIds type) :=
      List.flatMap_congr settledBefore
    simp only [implicitIds, List.flatMap_append, unchanged, List.flatMap_singleton,
      ← List.append_assoc]
    exact (progress.settled.append_right _).trans settledNow
  isRemapped_iff := by
    intro earlier other later split sameType id member
    rcases List.eq_nil_or_concat later with rfl | ⟨front, last, rfl⟩
    · obtain ⟨rfl, same⟩ := List.append_inj' split rfl
      obtain rfl := List.singleton_inj.1 same
      exact remappedNow sameType id member
    · have parts : done ++ [step] = (earlier ++ other :: front) ++ [last] := by
        simpa using split
      obtain ⟨donePart, -⟩ := List.append_inj' parts rfl
      rw [remappedBefore other (by simp [donePart]) sameType id member]
      exact progress.isRemapped_iff earlier other front donePart sameType id member
  exists_step := by
    intro modName id isRemapped
    rcases exists_step modName id isRemapped with now | earlier
    · exact ⟨step, by simp, now⟩
    · obtain ⟨other, member, facts⟩ := progress.exists_step modName id earlier
      exact ⟨other, List.mem_append_left _ member, facts⟩

/-- A step about another type. -/
theorem ofOtherType (progress : before.Progress ranges modNames type done (step :: rest) fresh)
    (different : step.type ≠ type)
    (ledger : after.ledgers.get type = before.ledgers.get type)
    (mem_mappings : ∀ modName, modName ∈ after.mappings ↔ modName ∈ before.mappings)
    (agrees : ∀ modName, (before.mappingOf modName).AgreesOn type (after.mappingOf modName)) :
    after.Progress ranges modNames type (done ++ [step]) rest fresh := by
  apply progress.extend mem_mappings
  case implicitIds => exact fun modName => (agrees modName).implicitIds
  case settledBefore =>
    intro earlier _
    simp only [settledIds, funext (agrees earlier.modName).newId]
  case remappedBefore =>
    intro earlier _ _ id _
    rw [(agrees earlier.modName).isRemapped]
  case accounts =>
    have accounts := progress.accounts
    rw [List.flatMap_cons, waitingIds_of_type_ne different, List.nil_append] at accounts
    rw [ledger, keptIds_snoc, keepIds_of_type_ne _ different]
    exact accounts
  case settledNow =>
    rw [keptIds_snoc, keepIds_of_type_ne _ different, settledIds, if_neg different,
      List.append_nil]
  case remappedNow => exact fun same => absurd same different
  case exists_step =>
    intro modName id isRemapped
    rw [(agrees modName).isRemapped] at isRemapped
    exact .inr isRemapped

/-- A step that moves its ids. -/
theorem ofMoves (progress : before.Progress ranges modNames step.type done (step :: rest) fresh)
    (apart : ∀ earlier ∈ done, earlier.modName = step.modName → earlier.type = step.type →
      earlier.ids.Disjoint step.ids)
    (moves : step.Moves done) (recorded : before.Recorded step newIds after)
    (accounts : (after.ledgers.get step.type).Accounts (ranges.get step.type)
      (keptIds step.type done) (fresh ++ newIds) (rest.flatMap (·.waitingIds step.type))) :
    after.Progress ranges modNames step.type (done ++ [step]) rest (fresh ++ newIds) := by
  have untouched : ∀ earlier ∈ done, earlier.type = step.type → ∀ id ∈ earlier.ids,
      step.modName = earlier.modName → id ∉ step.ids :=
    fun earlier member sameType id inEarlier sameName inStep =>
      apart earlier member sameName.symm sameType inEarlier inStep
  apply progress.extend recorded.mem_mappings
  case implicitIds =>
    intro modName
    simp only [ModMapping.implicitIds, (recorded.same modName).implicit]
  case settledBefore =>
    intro earlier member
    simp only [settledIds]
    split
    · next sameType =>
        apply List.map_congr_left
        intro id inEarlier
        exact recorded.newId_of_not_mem _ _ id fun sameName _ =>
          untouched earlier member sameType id inEarlier sameName
    · rfl
  case remappedBefore =>
    intro earlier member sameType id inEarlier
    rw [recorded.isRemapped, or_iff_right]
    exact fun same => untouched earlier member sameType id inEarlier same.1 same.2.2
  case accounts =>
    rw [keptIds_snoc_of_moves moves]
    exact accounts
  case settledNow =>
    rw [keptIds_snoc_of_moves moves, settledIds, if_pos rfl, recorded.map_newId,
      List.append_assoc]
  case remappedNow =>
    intro _ id member
    rw [recorded.isRemapped]
    exact ⟨fun _ => moves, fun _ => .inl ⟨rfl, rfl, member⟩⟩
  case exists_step => exact fun modName id => (recorded.isRemapped modName _ id).1

/-- A run that stays. -/
theorem ofStays {modName : String} {ids : List Int}
    (progress : before.Progress ranges modNames type done (.run modName type ids :: rest) fresh)
    (apart : ∀ earlier ∈ done, earlier.modName = modName → earlier.type = type →
      earlier.ids.Disjoint ids)
    (nodup : ids.Nodup) (stays : ¬ (ExplicitStep.run modName type ids).Moves done)
    (free : ∀ id ∈ ids, id ∉ (before.ledgers.get type).allocator.used) :
    { before with
      ledgers := before.ledgers.set type ((before.ledgers.get type).claimAll modName ids)
      : Allocation }.Progress ranges modNames type
      (done ++ [.run modName type ids]) rest fresh := by
  have notRemapped : ∀ id ∈ ids, (before.mappingOf modName).isRemapped type id = false := by
    intro id member
    rw [← Bool.not_eq_true]
    intro isRemapped
    obtain ⟨earlier, inDone, sameName, sameType, inEarlier⟩ :=
      progress.exists_step modName id isRemapped
    exact apart earlier inDone sameName sameType inEarlier member
  apply progress.extend
  case mem_mappings => exact fun _ => Iff.rfl
  case implicitIds => exact fun _ => rfl
  case settledBefore => exact fun _ _ => rfl
  case remappedBefore => exact fun _ _ _ _ _ => Iff.rfl
  case accounts =>
    have accounts := progress.accounts
    rw [List.flatMap_cons, ExplicitStep.waitingIds, if_pos rfl] at accounts
    rw [keptIds_snoc_run stays]
    simp only [EntityTable.get_set_self]
    exact accounts.claimAll modName nodup free
  case settledNow =>
    have same : ids.map ((before.mappingOf modName).newId type) = ids := by
      conv_rhs => rw [← List.map_id ids]
      apply List.map_congr_left
      intro id member
      exact ModMapping.newId_of_not_isRemapped (notRemapped id member)
    change (keptIds type done ++ fresh ++
      if type = type then ids.map ((before.mappingOf modName).newId type) else []).Perm _
    rw [keptIds_snoc_run stays, if_pos rfl, same, List.append_assoc, List.append_assoc]
    exact List.perm_append_comm.append_left _
  case remappedNow =>
    intro _ id member
    exact ⟨fun isRemapped => Bool.noConfusion ((notRemapped id member).symm.trans isRemapped),
      fun moves => absurd moves stays⟩
  case exists_step => exact fun _ _ => Or.inr

/-- The ids of a run are used exactly if the run meets a kept one. -/
theorem moves_iff {modName : String} {ids : List Int}
    (progress : before.Progress ranges modNames type done (.run modName type ids :: rest) fresh) :
    (ExplicitStep.run modName type ids).Moves done ↔
      ∃ id ∈ ids, id ∈ (before.ledgers.get type).allocator.used := by
  have waiting : ∀ id ∈ ids,
      id ∈ (ExplicitStep.run modName type ids :: rest).flatMap (·.waitingIds type) := by
    intro id member
    simp [ExplicitStep.waitingIds, member]
  constructor
  · rintro ⟨id, member, inKept⟩
    exact ⟨id, member, (progress.accounts.mem_used_of_waiting (waiting id member)).2 inKept⟩
  · rintro ⟨id, member, inUsed⟩
    exact ⟨id, member, (progress.accounts.mem_used_of_waiting (waiting id member)).1 inUsed⟩

theorem stays_of_free {modName : String} {ids : List Int}
    (progress : before.Progress ranges modNames type done (.run modName type ids :: rest) fresh)
    (free : ∀ id ∈ ids, id ∉ (before.ledgers.get type).allocator.used) :
    ¬ (ExplicitStep.run modName type ids).Moves done := by
  rw [progress.moves_iff]
  rintro ⟨id, member, inUsed⟩
  exact free id member inUsed

/-- A run that moves gets ids for which nothing waits, so each of its own ids gets an entry. -/
theorem recorded_of_assign {modName : String} {ids : List Int} {assigned : TypeLedger}
    (progress : before.Progress ranges modNames type done (.run modName type ids :: rest) fresh)
    (sound : SoundSteps ranges modNames (done ++ .run modName type ids :: rest))
    (assign : (before.ledgers.get type).assign modName type ids.length = .ok (newIds, assigned))
    (mappings : after.mappings =
      before.mappings.modify modName (·.recordRemaps type ids newIds)) :
    before.Recorded (.run modName type ids) newIds after := by
  have present : .run modName type ids ∈ done ++ .run modName type ids :: rest := by simp
  obtain ⟨accounts, sameLength⟩ := progress.accounts.assign assign
  rw [List.flatMap_cons, ExplicitStep.waitingIds, if_pos rfl] at accounts
  have distinct : ∀ id ∈ ids, id ∉ newIds := fun id member isNew =>
    accounts.not_waiting id (List.mem_append_right _ isNew) (List.mem_append_left _ member)
  exact recorded_of_recordRemaps (progress.known modName (sound.known _ present)) mappings distinct
    (sound.nodup _ present) sameLength.symm

/-- Ids out of range get ids within it, so each of them gets an entry. -/
theorem recorded_of_allocateSingles {modName : String} {ids : List Int} {allocator : IdAllocator}
    (progress :
      before.Progress ranges modNames type done (.outOfRange modName type ids :: rest) fresh)
    (sound : SoundSteps ranges modNames (done ++ .outOfRange modName type ids :: rest))
    (handed : (before.ledgers.get type).allocator.allocateSingles type ids.length =
      .ok (newIds, allocator))
    (mappings : after.mappings =
      before.mappings.modify modName (·.recordRemaps type ids newIds)) :
    before.Recorded (.outOfRange modName type ids) newIds after := by
  have present : .outOfRange modName type ids ∈ done ++ .outOfRange modName type ids :: rest := by
    simp
  obtain ⟨handsOut, sameLength⟩ := IdAllocator.handsOut_of_allocateSingles handed
  have accounts := progress.accounts.handOut handsOut
  have distinct : ∀ id ∈ ids, id ∉ newIds := by
    intro id member isNew
    have inside := accounts.isModding id (.inr (.inl (List.mem_append_right _ isNew)))
    rw [sound.outside modName type ids present id member] at inside
    cases inside
  exact recorded_of_recordRemaps (progress.known modName (sound.known _ present)) mappings distinct
    (sound.nodup _ present) sameLength.symm

end Progress

/-- Each step keeps the progress of every type. -/
theorem progress_step {ranges : RangeTable} {modNames : List String}
    {done rest : List ExplicitStep} {step : ExplicitStep} {before after : Allocation}
    (sound : SoundSteps ranges modNames (done ++ step :: rest))
    (progress : ∀ type, ∃ fresh, before.Progress ranges modNames type done (step :: rest) fresh)
    (stepped : before.placeExplicit step = .ok after) (type : EntityType) :
    ∃ fresh, after.Progress ranges modNames type (done ++ [step]) rest fresh := by
  have present : step ∈ done ++ step :: rest := by simp
  have apart := sound.disjoint_earlier
  obtain ⟨fresh, progressHere⟩ := progress step.type
  obtain ⟨freshThere, progressThere⟩ := progress type
  cases placed_of_placeExplicit stepped with
  | @kept modName other ids free =>
      have progressHere : before.Progress ranges modNames other done
        (.run modName other ids :: rest) fresh := progressHere
      by_cases same : other = type
      · subst same
        have stays := progressHere.stays_of_free free
        exact ⟨fresh, progressHere.ofStays apart (sound.nodup _ present) stays free⟩
      · refine ⟨freshThere, progressThere.ofOtherType same ?_ (fun _ => Iff.rfl)
          fun _ => ⟨rfl, fun _ => rfl, fun _ => rfl⟩⟩
        exact EntityTable.get_set_of_ne _ _ same
  | @moved modName other ids newIds assigned _ taken assign ledgers mappings _ _ =>
      have progressHere : before.Progress ranges modNames other done
        (.run modName other ids :: rest) fresh := progressHere
      have recorded := progressHere.recorded_of_assign sound assign mappings
      have accounts := (progressHere.accounts.assign assign).1
      rw [List.flatMap_cons, ExplicitStep.waitingIds, if_pos rfl] at accounts
      by_cases same : other = type
      · subst same
        have moves := progressHere.moves_iff.2 taken
        refine ⟨fresh ++ newIds, progressHere.ofMoves apart moves recorded ?_⟩
        change (after.ledgers.get other).Accounts _ _ _ _
        rw [ledgers, EntityTable.get_set_self]
        exact accounts.release
      · refine ⟨freshThere, progressThere.ofOtherType same ?_ recorded.mem_mappings
          (recorded.agreesOn same)⟩
        rw [ledgers, EntityTable.get_set_of_ne _ _ same]
  | @replaced modName other ids newIds allocator _ handed ledgers mappings _ _ =>
      have progressHere : before.Progress ranges modNames other done
        (.outOfRange modName other ids :: rest) fresh := progressHere
      have recorded := progressHere.recorded_of_allocateSingles sound handed mappings
      have accounts :=
        progressHere.accounts.handOut (IdAllocator.handsOut_of_allocateSingles handed).1
      by_cases same : other = type
      · subst same
        refine ⟨fresh ++ newIds, progressHere.ofMoves apart trivial recorded ?_⟩
        change (after.ledgers.get other).Accounts _ _ _ _
        rw [ledgers, EntityTable.get_set_self]
        exact accounts.own modName newIds
      · refine ⟨freshThere, progressThere.ofOtherType same ?_ recorded.mem_mappings
          (recorded.agreesOn same)⟩
        rw [ledgers, EntityTable.get_set_of_ne _ _ same]

/-- Placing numbered ids changes no mapping but for the moved ids. -/
theorem sameBesidesRemaps_of_placeExplicit {before after : Allocation} {step : ExplicitStep}
    (known : step.modName ∈ before.mappings) (stepped : before.placeExplicit step = .ok after)
    (modName : String) :
    (before.mappingOf modName).SameBesidesRemaps (after.mappingOf modName) := by
  have modified : ∀ newIds, after.mappings =
      before.mappings.modify step.modName (·.recordRemaps step.type step.ids newIds) →
      (before.mappingOf modName).SameBesidesRemaps (after.mappingOf modName) := by
    intro newIds mappings
    rw [mappingOf_modify known mappings]
    split
    · exact ModMapping.sameBesidesRemaps_recordRemaps ..
    · exact ⟨rfl, rfl, rfl, rfl⟩
  cases placed_of_placeExplicit stepped with
  | kept => exact ⟨rfl, rfl, rfl, rfl⟩
  | moved _ _ _ mappings _ _ => exact modified _ mappings
  | replaced _ _ mappings _ _ => exact modified _ mappings

theorem progress_initial {ranges : RangeTable} {ordered : List ModDefinition}
    {allocation : Allocation} {type : EntityType} {fresh : List Int}
    {steps : List ImplicitStep}
    (progress : allocation.ImplicitProgress ranges (ordered.map (·.modName)) type
      (ordered.flatMap (·.insideIds ranges type)) steps fresh) :
    allocation.Progress ranges (ordered.map (·.modName)) type []
      (ordered.flatMap (·.explicitSteps ranges)) fresh where
  known := progress.known
  accounts := by
    have waiting : (ordered.flatMap (·.explicitSteps ranges)).flatMap (·.waitingIds type) =
        ordered.flatMap (·.insideIds ranges type) := by
      simp only [List.flatMap_assoc, ModDefinition.flatMap_waitingIds]
    rw [waiting]
    exact progress.accounts
  settled := by simpa [keptIds] using progress.implicitIds_perm
  isRemapped_iff := by simp
  exists_step := by
    intro modName id isRemapped
    rw [ModMapping.isRemapped, (progress.untouched modName).1] at isRemapped
    simp at isRemapped

/-- What each step preserves holds after all of them; between two steps the pass has made its
progress with the ids of every type. -/
theorem invariant_of_placeExplicit {ranges : RangeTable} {modNames : List String}
    {steps later : List ExplicitStep} (sound : SoundSteps ranges modNames (steps ++ later))
    (holds : List ExplicitStep → Allocation → Prop)
    (preserved : ∀ done next rest before after, done ++ next :: rest = steps ++ later →
      (∀ type, ∃ fresh, before.Progress ranges modNames type done (next :: rest) fresh) →
      holds done before → before.placeExplicit next = .ok after → holds (done ++ [next]) after)
    {start finish : Allocation}
    (progress : ∀ type, ∃ fresh, start.Progress ranges modNames type [] (steps ++ later) fresh)
    (initially : holds [] start) (run : steps.foldlM placeExplicit start = .ok finish) :
    (∀ type, ∃ fresh, finish.Progress ranges modNames type steps later fresh) ∧
      holds steps finish := by
  have atEnd := invariant_of_foldlM (fun done rest allocation =>
      done ++ rest = steps ∧
      (∀ type, ∃ fresh, allocation.Progress ranges modNames type done (rest ++ later) fresh) ∧
      holds done allocation)
    ?_ ⟨rfl, progress, initially⟩ run
  · exact atEnd.2
  · rintro done next rest before after ⟨split, progress, holdsNow⟩ stepped
    have whole : done ++ next :: (rest ++ later) = steps ++ later := by
      rw [← split, List.append_assoc, List.cons_append]
    refine ⟨by rw [← split, List.append_assoc, List.singleton_append], ?_,
      preserved done next (rest ++ later) before after whole progress holdsNow stepped⟩
    exact progress_step (whole ▸ sound) progress stepped

/-- After all passes each numbered id and each fresh id has been settled on once, and
exactly the steps that had to have moved. -/
theorem progress_allocateAll {ranges : RangeTable} {ordered : List ModDefinition}
    (distinct : (ordered.map (·.modName)).Nodup) {allocation : Allocation}
    (allocated : allocateAll ranges ordered = .ok allocation) :
    (∀ type, ∃ fresh, allocation.Progress ranges (ordered.map (·.modName)) type
      (ordered.flatMap (·.explicitSteps ranges)) [] fresh) ∧
    ∃ start, allocateImplicit ranges ordered = .ok start ∧ ∀ modName,
      (start.mappingOf modName).SameBesidesRemaps (allocation.mappingOf modName) := by
  obtain ⟨start, started, run⟩ := bind_eq_ok.1 allocated
  have initially : ∀ type, ∃ fresh, start.Progress ranges (ordered.map (·.modName)) type []
      (ordered.flatMap (·.explicitSteps ranges)) fresh := by
    intro type
    obtain ⟨fresh, progress⟩ := implicitProgress_allocateImplicit distinct started type
    exact ⟨fresh, progress_initial progress⟩
  have sound := soundSteps_explicitSteps ranges distinct
  rw [← List.append_nil (ordered.flatMap _)] at sound initially
  have atEnd := invariant_of_placeExplicit sound
    (fun _ allocation => ∀ modName,
      (start.mappingOf modName).SameBesidesRemaps (allocation.mappingOf modName))
    ?_ initially (fun _ => ⟨rfl, rfl, rfl, rfl⟩) run
  · exact ⟨atEnd.1, start, started, atEnd.2⟩
  · intro done next rest before after whole progress same stepped modName
    obtain ⟨_, progress⟩ := progress next.type
    have known := progress.known next.modName
      (sound.known next (whole ▸ List.mem_append_right done List.mem_cons_self))
    exact (same modName).trans (sameBesidesRemaps_of_placeExplicit known stepped modName)

end Allocation
end ModMerge
