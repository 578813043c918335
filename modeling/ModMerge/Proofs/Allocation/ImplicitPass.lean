import ModMerge.Proofs.Allocation.Accounts
import ModMerge.Proofs.Allocation.Steps
import ModMerge.Proofs.Fold
import ModMerge.Proofs.Mod.MappingEntries

/-!
# The passes before numbered ids are placed

First the ids within range that mods numbered themselves are reserved, and then
definitions without an id are given fresh ones. `ImplicitProgress` holds between any two
steps of the second pass: nothing has moved, and the ids that have been handed out are
those recorded for the mods.
-/

namespace ModMerge

/-- Changing each of some types once changes exactly these. -/
theorem get_foldl_modify {Value : Type} {types : List EntityType} (nodup : types.Nodup)
    (change : EntityType → Value → Value) (table : EntityTable Value) (type : EntityType) :
    (types.foldl (fun table type => table.modify type (change type)) table).get type =
      if type ∈ types then change type (table.get type) else table.get type := by
  induction types generalizing table with
  | nil => rfl
  | cons first rest inductionHypothesis =>
      rw [List.nodup_cons] at nodup
      rw [List.foldl_cons, inductionHypothesis nodup.2]
      by_cases same : first = type
      · subst same
        simp [nodup.1]
      · simp [EntityTable.get_modify_of_ne _ _ same, Ne.symm same]

/-- A name that is listed once contributes further values once. -/
theorem flatMap_extended_perm {Value : Type} {names : List String} (nodup : names.Nodup)
    {name : String} (listed : name ∈ names) {values extended : String → List Value}
    {more : List Value} (here : extended name = values name ++ more)
    (elsewhere : ∀ other, name ≠ other → extended other = values other) :
    (names.flatMap extended).Perm (names.flatMap values ++ more) := by
  obtain ⟨before, after, rfl⟩ := List.append_of_mem listed
  have notBefore : ∀ other ∈ before, extended other = values other := by
    intro other member
    apply elsewhere
    rintro rfl
    exact (List.nodup_append'.1 nodup).2.2 member List.mem_cons_self
  have notAfter : ∀ other ∈ after, extended other = values other := by
    intro other member
    apply elsewhere
    rintro rfl
    exact (List.nodup_cons.1 (List.nodup_append'.1 nodup).2.1).1 member
  simp only [List.flatMap_append, List.flatMap_cons, List.flatMap_congr notBefore,
    List.flatMap_congr notAfter, here, List.append_assoc]
  exact (List.perm_append_comm.append_left _).append_left _

namespace Allocation

/-- What has been recorded for a mod. -/
def mappingOf (allocation : Allocation) (modName : String) : ModMapping :=
  allocation.mappings.getD modName { modName }

theorem mappingOf_modify {before after : Allocation} {modName : String}
    {change : ModMapping → ModMapping} (known : modName ∈ before.mappings)
    (mappings : after.mappings = before.mappings.modify modName change) (other : String) :
    after.mappingOf other =
      if modName = other then change (before.mappingOf other) else before.mappingOf other := by
  rw [mappingOf, mappings, Std.TreeMap.getD_modify]
  simp only [Std.LawfulEqCmp.compare_eq_iff_eq]
  split
  · next same =>
      subst same
      rw [mappingOf, Std.TreeMap.getD_eq_getD_getElem?, Std.TreeMap.getElem?_eq_some_getElem known]
      rfl
  · rfl

/-! ### Reserving -/

/-- The ids of a type that a mod numbered are reserved; of a type that is not listed there are
none. -/
theorem get_reserveExplicit (allocation : Allocation) (definition : ModDefinition)
    (type : EntityType) : (allocation.reserveExplicit definition).ledgers.get type =
      (allocation.ledgers.get type).reserve ((definition.definedIds type).filter
        (allocation.ledgers.get type).allocator.range.isModding) := by
  refine (get_foldl_modify definition.nodup_entityTypes (fun type (ledger : TypeLedger) =>
    ledger.reserve ((definition.definedIds type).filter ledger.allocator.range.isModding))
      _ type).trans ?_
  split
  · rfl
  · next notListed =>
      rw [ModDefinition.definedIds_of_isEmpty
        (ModDefinition.isEmpty_of_not_mem_entityTypes notListed)]
      rfl

/-- Reserving the ids of a mod makes those within range wait to be placed. -/
theorem accounts_reserveExplicit {allocation : Allocation} {ranges : RangeTable}
    {type : EntityType} {waiting : List Int}
    (accounts : (allocation.ledgers.get type).Accounts (ranges.get type) [] [] waiting)
    (definition : ModDefinition) :
    ((allocation.reserveExplicit definition).ledgers.get type).Accounts (ranges.get type) [] []
      (waiting ++ definition.insideIds ranges type) := by
  rw [get_reserveExplicit, accounts.range_eq]
  exact accounts.reserve fun id => ModDefinition.isModding_of_mem_insideIds

/-- When all mods have been reserved for, their ids within range wait to be placed. -/
theorem accounts_foldl_reserveExplicit {allocation : Allocation} {ranges : RangeTable}
    {type : EntityType} {waiting : List Int} (definitions : List ModDefinition)
    (accounts : (allocation.ledgers.get type).Accounts (ranges.get type) [] [] waiting) :
    ((definitions.foldl reserveExplicit allocation).ledgers.get type).Accounts
      (ranges.get type) [] []
      (waiting ++ definitions.flatMap (·.insideIds ranges type)) := by
  induction definitions generalizing allocation waiting with
  | nil => simpa using accounts
  | cons definition rest inductionHypothesis =>
      have later := inductionHypothesis (accounts_reserveExplicit accounts definition)
      rwa [List.append_assoc] at later

theorem mappings_foldl_reserveExplicit (allocation : Allocation)
    (definitions : List ModDefinition) :
    (definitions.foldl reserveExplicit allocation).mappings = allocation.mappings := by
  induction definitions generalizing allocation with
  | nil => rfl
  | cons definition rest inductionHypothesis => exact inductionHypothesis _

/-- The mods of an allocation are those it began with, and nothing is recorded for them. -/
theorem initial_mappings (ranges : RangeTable) (definitions : List ModDefinition)
    (modName : String) :
    (modName ∈ (initial ranges definitions).mappings ↔
      modName ∈ definitions.map (·.modName)) ∧
    (initial ranges definitions).mappingOf modName = { modName } := by
  suffices general : ∀ mappings : Std.TreeMap String ModMapping,
      mappings.getD modName { modName } = { modName } →
      let inserted := definitions.foldl (fun mappings definition =>
        mappings.insert definition.modName { modName := definition.modName }) mappings
      (modName ∈ inserted ↔ modName ∈ definitions.map (·.modName) ∨ modName ∈ mappings) ∧
      inserted.getD modName { modName } = { modName } by
    obtain ⟨known, recorded⟩ := general ∅ (by simp)
    exact ⟨known.trans (or_iff_left Std.TreeMap.not_mem_emptyc), recorded⟩
  induction definitions with
  | nil => simp
  | cons definition rest inductionHypothesis =>
      intro mappings initially
      have inserted : (mappings.insert definition.modName
          { modName := definition.modName }).getD modName { modName } = { modName } := by
        rw [Std.TreeMap.getD_insert]
        split
        · next same => rw [Std.LawfulEqCmp.compare_eq_iff_eq.1 same]
        · exact initially
      obtain ⟨known, recorded⟩ := inductionHypothesis _ inserted
      refine ⟨?_, recorded⟩
      simp only [List.foldl_cons, List.map_cons, List.mem_cons] at known ⊢
      rw [known, Std.TreeMap.mem_insert, Std.LawfulEqCmp.compare_eq_iff_eq]
      tauto

/-! ### Fresh ids for definitions without one -/

/-- How many definitions of a mod and a type steps are about. -/
def implicitTotal (modName : String) (type : EntityType) (steps : List ImplicitStep) : Nat :=
  steps.foldl (fun total step =>
    if step.modName = modName ∧ step.type = type then total + step.count else total) 0

/-- Where the pass over definitions without an id stands with the ids of one type. -/
structure ImplicitProgress (ranges : RangeTable) (modNames : List String) (type : EntityType)
    (waiting : List Int) (done : List ImplicitStep) (allocation : Allocation)
    (fresh : List Int) : Prop where
  known : ∀ modName ∈ modNames, modName ∈ allocation.mappings
  accounts : (allocation.ledgers.get type).Accounts (ranges.get type) [] fresh waiting
  implicitIds_perm :
    (modNames.flatMap fun modName => (allocation.mappingOf modName).implicitIds type).Perm fresh
  length_implicitIds : ∀ modName, ((allocation.mappingOf modName).implicitIds type).length =
    implicitTotal modName type done
  untouched : ∀ modName, (allocation.mappingOf modName).remapped = .uniform ∅ ∧
    (allocation.mappingOf modName).names = .uniform ∅ ∧
    (allocation.mappingOf modName).frozen = false

theorem implicitProgress_initial (ranges : RangeTable) (definitions : List ModDefinition)
    (type : EntityType) :
    (definitions.foldl reserveExplicit (.initial ranges definitions)).ImplicitProgress ranges
      (definitions.map (·.modName)) type (definitions.flatMap (·.insideIds ranges type)) []
      [] := by
  have mappings := mappings_foldl_reserveExplicit (.initial ranges definitions) definitions
  have recorded : ∀ modName,
      (definitions.foldl reserveExplicit (.initial ranges definitions)).mappingOf modName =
        { modName } := by
    intro modName
    rw [mappingOf, mappings]
    exact (initial_mappings ranges definitions modName).2
  constructor
  case known =>
    intro modName member
    rw [mappings]
    exact (initial_mappings ranges definitions modName).1.2 member
  case accounts =>
    have initially : ((initial ranges definitions).ledgers.get type).Accounts
        (ranges.get type) [] [] [] := by
      rw [initial, EntityTable.get_ofFunction]
      exact .initial _
    simpa using accounts_foldl_reserveExplicit definitions initially
  case implicitIds_perm => simp [recorded, ModMapping.implicitIds]
  case length_implicitIds => simp [recorded, ModMapping.implicitIds, implicitTotal]
  case untouched => simp [recorded]

/-- All that a step can do: it hands out ids of its type and records them for its mod. -/
theorem exists_of_placeImplicit {before after : Allocation} {step : ImplicitStep}
    (stepped : before.placeImplicit step = .ok after) :
    ∃ ids ledger,
      (before.ledgers.get step.type).assign step.modName step.type step.count =
        .ok (ids, ledger) ∧
      after.ledgers = before.ledgers.set step.type ledger ∧
      after.mappings =
        before.mappings.modify step.modName (·.recordImplicits step.type ids) ∧
      after.collisions = before.collisions ∧ after.warnings = before.warnings := by
  obtain ⟨⟨ids, ledger⟩, assigned, finished⟩ := bind_eq_ok.1 stepped
  obtain rfl := Except.ok.inj finished
  exact ⟨ids, ledger, assigned, rfl, rfl, rfl, rfl⟩

/-- Each step hands out ids of its type to its mod and changes nothing else. -/
theorem implicitProgress_step {ranges : RangeTable} {modNames : List String}
    (distinct : modNames.Nodup) {type : EntityType} {waiting : List Int}
    {done : List ImplicitStep} {step : ImplicitStep} (known : step.modName ∈ modNames)
    {before after : Allocation} {fresh : List Int}
    (progress : before.ImplicitProgress ranges modNames type waiting done fresh)
    (stepped : before.placeImplicit step = .ok after) :
    ∃ fresh', after.ImplicitProgress ranges modNames type waiting (done ++ [step]) fresh' := by
  obtain ⟨ids, ledger, assigned, ledgers, mappings, -⟩ := exists_of_placeImplicit stepped
  have recorded := mappingOf_modify (progress.known _ known) mappings
  have implicitIds : ∀ modName, (after.mappingOf modName).implicitIds type =
      if step.modName = modName ∧ step.type = type then
        (before.mappingOf modName).implicitIds type ++ ids
      else (before.mappingOf modName).implicitIds type := by
    intro modName
    rw [recorded, ite_and]
    split
    · exact ModMapping.implicitIds_recordImplicits ..
    · rfl
  have untouched : ∀ modName, (after.mappingOf modName).remapped = .uniform ∅ ∧
      (after.mappingOf modName).names = .uniform ∅ ∧
      (after.mappingOf modName).frozen = false := by
    intro modName
    rw [recorded]
    split
    · rw [ModMapping.recordImplicits_eq]
      exact progress.untouched modName
    · exact progress.untouched modName
  have sameMods : ∀ modName, modName ∈ after.mappings ↔ modName ∈ before.mappings := by
    intro modName
    rw [mappings, Std.TreeMap.mem_modify]
  by_cases same : step.type = type
  · subst same
    obtain ⟨accounts, sameLength⟩ := progress.accounts.assign assigned
    refine ⟨fresh ++ ids, ?_⟩
    constructor
    case known => exact fun modName member => (sameMods modName).2 (progress.known modName member)
    case accounts =>
      rw [ledgers, EntityTable.get_set_self]
      exact accounts
    case implicitIds_perm =>
      refine (flatMap_extended_perm distinct known ?_ ?_).trans
        (progress.implicitIds_perm.append_right ids)
      · rw [implicitIds, if_pos ⟨rfl, rfl⟩]
      · intro other different
        rw [implicitIds, if_neg fun same => different same.1]
    case length_implicitIds =>
      intro modName
      rw [implicitIds, implicitTotal, List.foldl_append, ← implicitTotal,
        ← progress.length_implicitIds, List.foldl_cons, List.foldl_nil]
      split
      · rw [List.length_append, sameLength]
      · rfl
    case untouched => exact untouched
  · refine ⟨fresh, ?_⟩
    have unchanged : ∀ modName, (after.mappingOf modName).implicitIds type =
        (before.mappingOf modName).implicitIds type := by
      intro modName
      rw [implicitIds, if_neg fun both => same both.2]
    constructor
    case known => exact fun modName member => (sameMods modName).2 (progress.known modName member)
    case accounts =>
      rw [ledgers, EntityTable.get_set_of_ne _ _ same]
      exact progress.accounts
    case implicitIds_perm =>
      simp only [unchanged]
      exact progress.implicitIds_perm
    case length_implicitIds =>
      intro modName
      rw [unchanged, progress.length_implicitIds, implicitTotal, implicitTotal,
        List.foldl_append, List.foldl_cons, List.foldl_nil, if_neg fun both => same both.2]
    case untouched => exact untouched

/-- After the pass nothing has moved, and what was handed out is what the mods were given. -/
theorem implicitProgress_allocateImplicit {ranges : RangeTable}
    {ordered : List ModDefinition} (distinct : (ordered.map (·.modName)).Nodup)
    {allocation : Allocation} (allocated : allocateImplicit ranges ordered = .ok allocation)
    (type : EntityType) :
    ∃ fresh, allocation.ImplicitProgress ranges (ordered.map (·.modName)) type
      (ordered.flatMap (·.insideIds ranges type)) (ordered.flatMap (·.implicitSteps)) fresh := by
  have known : ∀ step ∈ ordered.flatMap (·.implicitSteps),
      step.modName ∈ ordered.map (·.modName) := by
    intro step member
    obtain ⟨definition, inOrder, member⟩ := List.mem_flatMap.1 member
    obtain ⟨type, -, stepEq⟩ := List.mem_filterMap.1 member
    simp only [Option.ite_none_left_eq_some, Option.some.injEq] at stepEq
    rw [← stepEq.2]
    exact List.mem_map_of_mem inOrder
  refine (invariant_of_foldlM (fun done rest allocation => (∀ step ∈ rest,
      step.modName ∈ ordered.map (·.modName)) ∧ ∃ fresh, allocation.ImplicitProgress ranges
        (ordered.map (·.modName)) type (ordered.flatMap (·.insideIds ranges type)) done fresh)
    ?_ ⟨known, [], implicitProgress_initial ranges ordered type⟩ allocated).2
  rintro done next rest before after ⟨known, fresh, progress⟩ stepped
  exact ⟨fun step member => known step (List.mem_cons_of_mem next member),
    implicitProgress_step distinct (known next List.mem_cons_self) progress stepped⟩

/-- Nothing is noted before ids that mods numbered themselves are placed. -/
theorem noted_allocateImplicit {ranges : RangeTable} {ordered : List ModDefinition}
    {allocation : Allocation} (allocated : allocateImplicit ranges ordered = .ok allocation) :
    allocation.collisions = [] ∧ allocation.warnings = [] := by
  let Unnoted := fun allocation : Allocation =>
    allocation.collisions = [] ∧ allocation.warnings = []
  have reserved : Unnoted (ordered.foldl reserveExplicit (.initial ranges ordered)) :=
    List.foldlRecOn (motive := Unnoted) ordered reserveExplicit ⟨rfl, rfl⟩
      fun _ unnoted _ _ => unnoted
  refine invariant_of_foldlM (fun _ _ => Unnoted) ?_ reserved allocated
  intro done next rest before after unnoted stepped
  obtain ⟨_, _, -, -, -, collisions, warnings⟩ := exists_of_placeImplicit stepped
  exact ⟨collisions.trans unnoted.1, warnings.trans unnoted.2⟩

end Allocation
end ModMerge
