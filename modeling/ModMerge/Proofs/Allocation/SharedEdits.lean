import Mathlib.Data.Finset.Card
import ModMerge.Proofs.Allocation.Collisions
import ModMerge.Proofs.Mod.SameMeaning

/-!
# Shared edits are reported exactly

Content of the base game stays where it is, whatever mods do to it. If several mods edit an id,
the id is reported once, together with all other ids that exactly these mods edit (`Grouped`).
-/

namespace ModMerge

/-- A mod edits an id of the base game. -/
def ModDefinition.Edits (definition : ModDefinition) (type : EntityType) (id : Int) : Prop :=
  id ∈ (definition.entity type).vanillaEditedIds

/-- Several mods edit an id of the base game. -/
def EditedBySeveral (definitions : List ModDefinition) (type : EntityType) (id : Int) : Prop :=
  ∃ first ∈ definitions, ∃ second ∈ definitions, first.modName ≠ second.modName ∧
    first.Edits type id ∧ second.Edits type id

/-- Whether a conflict is over edits, of this id among others. -/
def ModConflict.listsEdit (type : EntityType) (id : Int) : ModConflict → Bool
  | collision .. => false
  | sharedEdit other ids _ => other == type && ids.contains id

/-! ### Grouping -/

section

variable {editors : Int → List String} {ids members : List Int} {id : Int}
  {mods : List String} {groups : List (List String × List Int)}

/-- Each group lists, in order, those of some ids that have exactly its editors; ids with fewer
than two editors are in no group. -/
structure Grouped (editors : Int → List String) (ids : List Int)
    (groups : List (List String × List Int)) : Prop where
  nodup : (groups.map Prod.fst).Nodup
  notEmpty : ∀ mods members, (mods, members) ∈ groups → members ≠ []
  members : ∀ mods, (groups.lookup mods).getD [] =
    if 1 < mods.length then ids.filter (editors · = mods) else []

theorem lookup_eq_some_iff_mem (nodup : (groups.map Prod.fst).Nodup) :
    groups.lookup mods = some members ↔ (mods, members) ∈ groups := by
  rw [List.lookup_eq_some_iff]
  constructor
  · rintro ⟨front, back, rfl, -⟩
    simp
  · intro member
    obtain ⟨front, back, rfl⟩ := List.append_of_mem member
    refine ⟨front, back, rfl, fun group inFront => bne_iff_ne.2 ?_⟩
    rintro rfl
    rw [List.map_append, List.map_cons] at nodup
    exact (List.nodup_append'.1 nodup).2.2 (List.mem_map_of_mem inFront) List.mem_cons_self

/-- The groups that there are, by their editors. -/
theorem Grouped.mem_iff (grouped : Grouped editors ids groups) :
    (mods, members) ∈ groups ↔
      1 < mods.length ∧ members ≠ [] ∧ members = ids.filter (editors · = mods) := by
  have listed := grouped.members mods
  constructor
  · intro member
    have notEmpty := grouped.notEmpty mods members member
    rw [(lookup_eq_some_iff_mem grouped.nodup).2 member, Option.getD_some] at listed
    split at listed
    · next several => exact ⟨several, notEmpty, listed⟩
    · exact absurd listed notEmpty
  · rintro ⟨several, notEmpty, rfl⟩
    rw [if_pos several] at listed
    rw [← lookup_eq_some_iff_mem grouped.nodup]
    cases found : groups.lookup mods with
    | none => rw [found, Option.getD_none] at listed; exact absurd listed.symm notEmpty
    | some known => rw [← listed, found, Option.getD_some]

theorem map_fst_groupEdit (mods : List String) (id : Int) (groups : List (List String × List Int)) :
    (groupEdit mods id groups).map Prod.fst =
      if mods ∈ groups.map Prod.fst then groups.map Prod.fst
      else groups.map Prod.fst ++ [mods] := by
  induction groups with
  | nil => rfl
  | cons group rest inductionHypothesis =>
      obtain ⟨others, members⟩ := group
      rw [groupEdit]
      by_cases same : others = mods
      · simp [same]
      · rw [if_neg same, List.map_cons, inductionHypothesis]
        simp only [List.map_cons, List.mem_cons, Ne.symm same, false_or]
        split <;> rfl

/-- A further id joins the group of its editors or, if there is none, begins one. -/
theorem lookup_groupEdit (mods others : List String) (id : Int)
    (groups : List (List String × List Int)) :
    (groupEdit mods id groups).lookup others =
      if others = mods then some ((groups.lookup mods).getD [] ++ [id])
      else groups.lookup others := by
  induction groups with
  | nil =>
      by_cases same : others = mods
      · simp [groupEdit, same]
      · simp [groupEdit, List.lookup_cons, beq_eq_false_iff_ne.2 same, same]
  | cons group rest inductionHypothesis =>
      obtain ⟨first, members⟩ := group
      rw [groupEdit]
      by_cases isFirst : first = mods
      · subst isFirst
        by_cases same : others = first
        · simp [same]
        · simp [List.lookup_cons, beq_eq_false_iff_ne.2 same, same]
      · rw [if_neg isFirst, List.lookup_cons, inductionHypothesis]
        by_cases same : others = mods
        · subst same
          simp [List.lookup_cons, beq_eq_false_iff_ne.2 (Ne.symm isFirst)]
        · simp [List.lookup_cons, same]

theorem grouped_concat (grouped : Grouped editors ids groups) (id : Int) :
    Grouped editors (ids ++ [id])
      (if (editors id).length > 1 then groupEdit (editors id) id groups else groups) := by
  have filtered : ∀ mods, (ids ++ [id]).filter (editors · = mods) =
      ids.filter (editors · = mods) ++ if editors id = mods then [id] else [] := by
    intro mods
    rw [List.filter_append, List.filter_singleton]
    simp
  split
  · next several =>
      have nodup : ((groupEdit (editors id) id groups).map Prod.fst).Nodup := by
        rw [map_fst_groupEdit]
        split
        · exact grouped.nodup
        · next new =>
            exact List.nodup_append'.2 ⟨grouped.nodup, List.nodup_singleton _,
              List.disjoint_singleton.2 new⟩
      refine ⟨nodup, fun mods members member => ?_, fun mods => ?_⟩
      · rw [← lookup_eq_some_iff_mem nodup, lookup_groupEdit] at member
        split at member
        · rw [← Option.some.inj member]
          simp
        · exact grouped.notEmpty mods members ((lookup_eq_some_iff_mem grouped.nodup).1 member)
      · rw [lookup_groupEdit, filtered]
        by_cases same : mods = editors id
        · subst same
          rw [if_pos rfl, Option.getD_some, grouped.members, if_pos several, if_pos several,
            if_pos rfl]
        · rw [if_neg same, grouped.members, if_neg (Ne.symm same), List.append_nil]
  · next few =>
      refine ⟨grouped.nodup, grouped.notEmpty, fun mods => ?_⟩
      rw [grouped.members, filtered]
      split
      · next several =>
          have different : editors id ≠ mods := fun same => few (same ▸ several)
          rw [if_neg different, List.append_nil]
      · rfl

end

/-- The shared edits of a type are grouped by their editors. -/
theorem grouped_sharedEdits (definitions : List ModDefinition) (type : EntityType) :
    Grouped (editorsOf definitions type) (editedIds definitions type)
      (sharedEdits definitions type) := by
  rw [sharedEdits]
  induction editedIds definitions type using List.reverseRecOn with
  | nil => exact ⟨List.nodup_nil, by simp, by simp⟩
  | append_singleton ids id inductionHypothesis =>
      rw [List.foldl_append, List.foldl_cons, List.foldl_nil]
      exact grouped_concat inductionHypothesis id

/-! ### Who edits what -/

theorem mem_editorsOf_iff {definitions : List ModDefinition} {type : EntityType} {id : Int}
    {modName : String} : modName ∈ editorsOf definitions type id ↔
      ∃ definition ∈ definitions, definition.modName = modName ∧ definition.Edits type id := by
  simp only [editorsOf, List.mem_map, List.mem_filter, Std.TreeSet.contains_iff_mem,
    ModDefinition.Edits, EntityDefinition.vanillaEditedIds, IdSet.mem_ids]
  exact exists_congr fun definition => by tauto

theorem pairwise_editorsOf {ordered : List ModDefinition} (type : EntityType) (id : Int)
    (ascending : (ordered.map (·.modName)).Pairwise (· < ·)) :
    (editorsOf ordered type id).Pairwise (· < ·) :=
  ascending.sublist (List.filter_sublist.map _)

theorem mem_editedIds_iff {definitions : List ModDefinition} {type : EntityType} {id : Int} :
    id ∈ editedIds definitions type ↔ ∃ definition ∈ definitions, definition.Edits type id := by
  suffices general : ∀ set : IdSet, id ∈ definitions.foldl (fun ids definition =>
      IdSet.insertAll ids (definition.entity type).vanillaEditedIds) set ↔
      id ∈ set ∨ ∃ definition ∈ definitions, definition.Edits type id by
    rw [editedIds, IdSet.mem_ids, general, or_iff_right Std.TreeSet.not_mem_emptyc]
  induction definitions with
  | nil => simp
  | cons definition rest inductionHypothesis =>
      intro set
      rw [List.foldl_cons, inductionHypothesis, IdSet.mem_insertAll]
      simp only [List.exists_mem_cons_iff, ModDefinition.Edits]
      tauto

/-- An id is edited by several mods exactly if it has more than one editor. -/
theorem one_lt_length_editorsOf_iff {definitions : List ModDefinition} {type : EntityType}
    {id : Int} (distinct : (definitions.map (·.modName)).Nodup) :
    1 < (editorsOf definitions type id).length ↔ EditedBySeveral definitions type id := by
  have nodup : (editorsOf definitions type id).Nodup :=
    distinct.sublist (List.filter_sublist.map _)
  rw [← List.toFinset_card_of_nodup nodup, Finset.one_lt_card_iff]
  simp only [List.mem_toFinset, mem_editorsOf_iff]
  constructor
  · rintro ⟨_, _, ⟨first, firstKnown, rfl, firstEdits⟩, ⟨second, secondKnown, rfl, secondEdits⟩,
      different⟩
    exact ⟨first, firstKnown, second, secondKnown, different, firstEdits, secondEdits⟩
  · rintro ⟨first, firstKnown, second, secondKnown, different, firstEdits, secondEdits⟩
    exact ⟨_, _, ⟨first, firstKnown, rfl, firstEdits⟩, ⟨second, secondKnown, rfl, secondEdits⟩,
      different⟩

/-! ### The report -/

/-- A conflict is over ids of the base game that exactly its mods edit. -/
structure ModConflict.SharedAmong (definitions : List ModDefinition) (conflict : ModConflict) :
    Prop where
  notEmpty : conflict.ids ≠ []
  ids : conflict.ids.Pairwise (· < ·)
  mods : conflict.mods.Pairwise (· < ·)
  mem_mods : ∀ id ∈ conflict.ids, ∀ modName, modName ∈ conflict.mods ↔
    ∃ definition ∈ definitions, definition.modName = modName ∧ definition.Edits conflict.type id

theorem mem_sharedEditConflicts_iff {definitions : List ModDefinition} {conflict : ModConflict} :
    conflict ∈ sharedEditConflicts definitions ↔ ∃ type mods ids,
      (mods, ids) ∈ sharedEdits definitions type ∧ conflict = .sharedEdit type ids mods := by
  simp only [sharedEditConflicts, List.mem_flatMap, EntityType.mem_all, true_and, List.mem_map,
    Prod.exists]
  exact exists_congr fun type => exists_congr fun mods => exists_congr fun ids =>
    and_congr_right fun _ => eq_comm

section

variable {ordered : List ModDefinition}

/-- No two shared edits of a type have the same editors. -/
theorem nodup_sharedEditConflicts (definitions : List ModDefinition) :
    ((sharedEditConflicts definitions).map fun conflict =>
      (conflict.type, conflict.mods)).Nodup := by
  rw [sharedEditConflicts, List.map_flatMap, List.nodup_flatMap]
  constructor
  · intro type _
    have grouped := (grouped_sharedEdits definitions type).nodup
    rw [List.map_map]
    refine List.Nodup.of_map Prod.snd ?_
    rwa [List.map_map]
  · refine EntityType.nodup_all.imp fun {type other} different => ?_
    intro key inType inOther
    simp only [List.map_map, List.mem_map] at inType inOther
    obtain ⟨_, -, rfl⟩ := inType
    obtain ⟨_, -, same⟩ := inOther
    exact different (Prod.mk.inj same).1.symm

/-- Shared edits of mods that are treated in the order of their names. -/
theorem sharedAmong_of_mem_sharedEditConflicts
    (ascending : (ordered.map (·.modName)).Pairwise (· < ·)) {conflict : ModConflict}
    (member : conflict ∈ sharedEditConflicts ordered) : conflict.SharedAmong ordered := by
  obtain ⟨type, mods, ids, isGroup, rfl⟩ := mem_sharedEditConflicts_iff.1 member
  obtain ⟨-, notEmpty, isFiltered⟩ := (grouped_sharedEdits ordered type).mem_iff.1 isGroup
  have editors : ∀ id ∈ ids, editorsOf ordered type id = mods := by
    intro id inIds
    rw [isFiltered, List.mem_filter] at inIds
    exact of_decide_eq_true inIds.2
  refine ⟨notEmpty, ?_, ?_, fun id inIds modName => ?_⟩
  · rw [ModConflict.ids, isFiltered]
    exact (IdSet.ids_pairwise_lt _).filter _
  · obtain ⟨id, inIds⟩ := List.exists_mem_of_ne_nil _ notEmpty
    rw [ModConflict.mods, ← editors id inIds]
    exact pairwise_editorsOf type id ascending
  · rw [ModConflict.mods, ← editors id inIds]
    exact mem_editorsOf_iff

/-- The shared edit of an id is the group of its editors. -/
theorem mem_sharedEditConflicts_and_listsEdit_iff (distinct : (ordered.map (·.modName)).Nodup)
    {type : EntityType} {id : Int} {conflict : ModConflict} :
    conflict ∈ sharedEditConflicts ordered ∧ conflict.listsEdit type id = true ↔
      EditedBySeveral ordered type id ∧
      conflict = .sharedEdit type
        ((editedIds ordered type).filter (editorsOf ordered type · = editorsOf ordered type id))
        (editorsOf ordered type id) := by
  rw [mem_sharedEditConflicts_iff]
  constructor
  · rintro ⟨⟨other, mods, ids, isGroup, rfl⟩, lists⟩
    simp only [ModConflict.listsEdit, Bool.and_eq_true, beq_iff_eq, List.contains_iff_mem] at lists
    obtain ⟨rfl, inIds⟩ := lists
    obtain ⟨several, -, rfl⟩ := (grouped_sharedEdits ordered other).mem_iff.1 isGroup
    obtain rfl : editorsOf ordered other id = mods :=
      of_decide_eq_true (List.mem_filter.1 inIds).2
    exact ⟨(one_lt_length_editorsOf_iff distinct).1 several, rfl⟩
  · rintro ⟨several, rfl⟩
    have listed : id ∈ (editedIds ordered type).filter
        (editorsOf ordered type · = editorsOf ordered type id) := by
      obtain ⟨first, known, -, -, -, edits, -⟩ := several
      exact List.mem_filter.2 ⟨mem_editedIds_iff.2 ⟨first, known, edits⟩, decide_eq_true rfl⟩
    refine ⟨⟨type, _, _, (grouped_sharedEdits ordered type).mem_iff.2
      ⟨(one_lt_length_editorsOf_iff distinct).2 several, List.ne_nil_of_mem listed, rfl⟩, rfl⟩, ?_⟩
    simpa [ModConflict.listsEdit] using listed

end

/-- Placing ids gives no warnings about shared edits. -/
theorem Allocation.category_of_mem_warnings {ranges : RangeTable} {ordered : List ModDefinition}
    {placed : Allocation} (allocated : allocateAll ranges ordered = .ok placed) :
    ∀ warning ∈ placed.warnings, warning.category = .validation := by
  obtain ⟨start, started, run⟩ := bind_eq_ok.1 allocated
  refine invariant_of_foldlM (fun _ _ (allocation : Allocation) =>
    ∀ warning ∈ allocation.warnings, warning.category = .validation) ?_ ?_ run
  · intro done next rest before after holds stepped warning member
    cases placed_of_placeExplicit stepped with
    | kept => exact holds warning member
    | moved _ _ _ _ _ warnings =>
        rw [warnings, List.mem_append] at member
        rcases member with known | isNew
        · exact holds warning known
        · split at isNew
          · rw [List.mem_singleton.1 isNew, MergeWarning.category]
          · cases isNew
    | replaced _ _ _ _ warnings =>
        rw [warnings, List.mem_append] at member
        rcases member with known | isNew
        · exact holds warning known
        · rw [List.mem_singleton.1 isNew, MergeWarning.category]
  · rw [(noted_allocateImplicit started).2]
    simp

section

variable {ranges : RangeTable} {definitions : List ModDefinition} {result : AllocationResult}

/-- The shared edits that an allocation reports, and the warnings about them. -/
theorem sharedEdits_of_allocate (distinct : (definitions.map (·.modName)).Nodup)
    (allocated : allocate ranges definitions = .ok result) :
    result.sharedEdits = sharedEditConflicts (inNameOrder definitions) ∧
    result.warnings.filter (·.category = .conflict) = result.sharedEdits.map fun conflict =>
      .sharedEdit conflict.type conflict.ids conflict.mods := by
  obtain ⟨placed, placing, -⟩ := exists_placed_of_allocate distinct allocated
  obtain ⟨conflicts, warnings⟩ := reported_of_allocate allocated placing
  have shared : result.sharedEdits = sharedEditConflicts (inNameOrder definitions) := by
    have noEdit : (placed.collisions.map Collision.toConflict).filter (·.isWarning) = [] := by
      simp [List.filter_eq_nil_iff, Collision.toConflict, ModConflict.isWarning]
    rw [AllocationResult.sharedEdits, conflicts, List.filter_append, noEdit, List.nil_append,
      List.filter_eq_self]
    intro conflict member
    obtain ⟨_, _, _, -, rfl⟩ := mem_sharedEditConflicts_iff.1 member
    rfl
  refine ⟨shared, ?_⟩
  have noneBefore : placed.warnings.filter (·.category = .conflict) = [] := by
    refine List.filter_eq_nil_iff.2 fun warning member => ?_
    rw [Allocation.category_of_mem_warnings placing warning member]
    decide
  rw [warnings, shared, List.filter_append, noneBefore, List.nil_append, List.filter_eq_self]
  intro warning member
  obtain ⟨conflict, -, rfl⟩ := List.mem_map.1 member
  rfl

/-- Content that a mod edits but did not number itself stays. -/
theorem not_isRemapped_of_edits (distinct : (definitions.map (·.modName)).Nodup)
    (allocated : allocate ranges definitions = .ok result) {definition : ModDefinition}
    (known : definition ∈ definitions) (noVanilla : definition.NoVanillaDefined)
    (onlyVanilla : definition.OnlyVanillaEdited) {type : EntityType} {id : Int}
    (edits : definition.Edits type id) :
    (result.mappingOf definition.modName).isRemapped type id = false := by
  obtain ⟨placed, placing, resolved⟩ := exists_placed_of_allocate distinct allocated
  rw [(agreesOn_of_resolveNames (resolved definition known).2 type).isRemapped, ← Bool.not_eq_true]
  intro isRemapped
  have defined := Allocation.mem_definedIds_of_isRemapped (nodup_modNames_inNameOrder distinct)
    (mem_inNameOrder.2 known) placing isRemapped
  have notVanilla := noVanilla type id ((IdSet.mem_ids _ _).1 defined)
  rw [onlyVanilla type id ((IdSet.mem_ids _ _).1 edits)] at notVanilla
  cases notVanilla

/-- Content of the base game stays, and what several mods edit is reported: each id that several
mods edit in one record, which names exactly its editors in the order of their names, and no other
ids. For each record there is one warning. -/
theorem vanilla_stays_and_sharedEdits_exact {sources : List ModSource}
    (distinct : (sources.map (·.name)).Nodup)
    (read : sources.mapM ModSource.definition = .ok definitions)
    (allocated : allocate ranges definitions = .ok result) :
    (∀ definition ∈ definitions, ∀ type id, definition.Edits type id →
      (result.mappingOf definition.modName).isRemapped type id = false) ∧
    (∀ type id,
      (EditedBySeveral definitions type id ↔
        ∃ conflict ∈ result.conflicts, conflict.listsEdit type id = true) ∧
      (EditedBySeveral definitions type id →
        ∃! conflict, conflict ∈ result.conflicts ∧ conflict.listsEdit type id = true)) ∧
    (∀ conflict ∈ result.sharedEdits, conflict.SharedAmong definitions) ∧
    (result.sharedEdits.map fun conflict => (conflict.type, conflict.mods)).Nodup ∧
    List.Forall₂ (fun conflict warning => warning.mods = conflict.mods ∧
        warning.message = "Vanilla " ++ conflict.type.label ++ " ids " ++
          rangesText conflict.ids ++ " modified by: " ++ ", ".intercalate conflict.mods)
      result.sharedEdits (result.warnings.filter (·.category = .conflict)) := by
  have each := forall₂_of_mapM read
  rw [← map_modName_of_mapM read] at distinct
  have distinctOrdered := nodup_modNames_inNameOrder distinct
  have ascending : ((inNameOrder definitions).map (·.modName)).Pairwise (· < ·) := by
    have sorted := List.pairwise_map.2 (pairwise_inNameOrder definitions)
    exact (sorted.and distinctOrdered).imp fun both => lt_of_le_of_ne both.1 both.2
  obtain ⟨shared, warnings⟩ := sharedEdits_of_allocate distinct allocated
  have several : ∀ type id, EditedBySeveral (inNameOrder definitions) type id ↔
      EditedBySeveral definitions type id := by
    simp only [EditedBySeveral, mem_inNameOrder, implies_true]
  have lists : ∀ type id conflict,
      conflict ∈ result.conflicts ∧ conflict.listsEdit type id = true ↔
        conflict ∈ sharedEditConflicts (inNameOrder definitions) ∧
          conflict.listsEdit type id = true := by
    intro type id conflict
    rw [← shared, AllocationResult.sharedEdits, List.mem_filter, and_assoc]
    refine and_congr_right fun _ => ?_
    cases conflict <;> simp [ModConflict.listsEdit, ModConflict.isWarning]
  refine ⟨fun definition known type id edits => ?_, fun type id => ⟨?_, fun isShared => ?_⟩,
    fun conflict member => ?_, ?_, ?_⟩
  · obtain ⟨source, -, parsed⟩ := exists_mem_of_forall₂ each.flip known
    refine not_isRemapped_of_edits distinct allocated known ?_ ?_ edits
    · exact ModDefinition.keptByRecording_noVanillaDefined.parse
        (fun type id member => by simp [EntityTable.get_uniform] at member) parsed
    · exact ModDefinition.keptByRecording_onlyVanillaEdited.parse
        (fun type id member => by simp [EntityTable.get_uniform] at member) parsed
  · simp only [lists, mem_sharedEditConflicts_and_listsEdit_iff distinctOrdered, several,
      exists_and_left, exists_eq, and_true]
  · simp only [lists, mem_sharedEditConflicts_and_listsEdit_iff distinctOrdered, several,
      isShared, true_and]
    exact ⟨_, rfl, fun _ same => same⟩
  · rw [shared] at member
    obtain ⟨notEmpty, ids, mods, memMods⟩ :=
      sharedAmong_of_mem_sharedEditConflicts ascending member
    simp only [mem_inNameOrder] at memMods
    exact ⟨notEmpty, ids, mods, memMods⟩
  · rw [shared]
    exact nodup_sharedEditConflicts _
  · rw [warnings, List.forall₂_map_right_iff, List.forall₂_same]
    exact fun conflict _ => ⟨rfl, rfl⟩

/-- Two mods that edit a monster of the base game; the second has one of its own. -/
def editingSources : List ModSource :=
  [{ name := "Abysia", script := "#selectmonster 10\n#end".toList },
    { name := "Caelum", script := "#selectmonster 10\n#end\n#newmonster 5000\n#end".toList }]

theorem vanilla_stays_and_sharedEdits_exact_editingSources :
    ∃ definitions result, editingSources.mapM ModSource.definition = .ok definitions ∧
      allocate defaultRanges definitions = .ok result ∧
      (∃! conflict, conflict ∈ result.conflicts ∧ conflict.listsEdit .monster 10 = true) ∧
      ∀ definition ∈ definitions, definition.Edits .monster 10 →
        (result.mappingOf definition.modName).isRemapped .monster 10 = false := by
  let parsed := (editingSources.mapM ModSource.definition).toOption.getD []
  have read : editingSources.mapM ModSource.definition = .ok parsed := by
    have succeeds : (editingSources.mapM ModSource.definition).isOk = true := by decide +kernel
    obtain ⟨definitions, isRead⟩ := exists_eq_ok_of_isOk succeeds
    simp only [parsed, isRead]
    rfl
  have succeeds : (allocate defaultRanges parsed).isOk = true := by
    rw [allocate, inNameOrder_of_mapM (by decide +kernel) read]
    decide +kernel
  obtain ⟨result, allocated⟩ := exists_eq_ok_of_isOk succeeds
  have several : EditedBySeveral parsed .monster 10 := by
    unfold EditedBySeveral ModDefinition.Edits
    decide +kernel
  obtain ⟨stays, exact, -⟩ := vanilla_stays_and_sharedEdits_exact (by decide) read allocated
  exact ⟨parsed, result, read, allocated, (exact .monster 10).2 several,
    fun definition known => stays definition known .monster 10⟩

end

end ModMerge
