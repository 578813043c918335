import ModMerge.Mod.KeptDefinition
import ModMerge.Proofs.Mod.FrozenDefinitions

/-!
# What a kept definition shows

A kept definition is a `ModDefinition` in other clothes (`KeptDefinition.Shows`): whatever is done
with both, the same is refused and the same is shown. Ids that were listed when content was frozen
are still the ids of that content, since it can only be dropped, and then the lists are as well
(`KeptEntity.Coherent`). Content that belongs to nothing is empty and stays empty.
-/

namespace ModMerge

/-! ### Content with listings -/

namespace KeptEntity

variable {kept : KeptEntity} {entity : EntityDefinition} {type : EntityType}

/-- Listings are of frozen content, and they are right. -/
structure Coherent (kept : KeptEntity) : Prop where
  defined : ∀ ids ∈ kept.definedListing, kept.frozen = true ∧ ids = kept.defined.ids
  vanillaEdited : ∀ ids ∈ kept.vanillaEditedListing,
    kept.frozen = true ∧ ids = kept.vanillaEdited.ids

theorem Coherent.definedIds_eq (coherent : kept.Coherent) :
    kept.definedIds = kept.bare.definedIds := by
  cases listed : kept.definedListing with
  | none => rw [definedIds, listed]; rfl
  | some ids => rw [definedIds, listed]; exact (coherent.defined ids listed).2

theorem Coherent.vanillaEditedIds_eq (coherent : kept.Coherent) :
    kept.vanillaEditedIds = kept.bare.vanillaEditedIds := by
  cases listed : kept.vanillaEditedListing with
  | none => rw [vanillaEditedIds, listed]; rfl
  | some ids => rw [vanillaEditedIds, listed]; exact (coherent.vanillaEdited ids listed).2

theorem coherent_of_unlisted (defined : kept.definedListing = none)
    (vanillaEdited : kept.vanillaEditedListing = none) : kept.Coherent := by
  constructor
  · rw [defined]; exact nofun
  · rw [vanillaEdited]; exact nofun

theorem coherent_empty : ({} : KeptEntity).Coherent :=
  coherent_of_unlisted rfl rfl

/-- Content that is not frozen has no listings. -/
theorem Coherent.unlisted (coherent : kept.Coherent) (isOpen : kept.frozen = false) :
    kept.definedListing = none ∧ kept.vanillaEditedListing = none := by
  constructor <;> rw [Option.eq_none_iff_forall_not_mem] <;> intro ids listed
  · exact absurd (coherent.defined ids listed).1 (by simp [isOpen])
  · exact absurd (coherent.vanillaEdited ids listed).1 (by simp [isOpen])

theorem Coherent.freeze (coherent : kept.Coherent) : kept.freeze.Coherent := by
  rw [KeptEntity.freeze]
  split
  · exact coherent
  · constructor <;> rintro ids ⟨⟩ <;> exact ⟨rfl, rfl⟩

theorem bare_freeze : kept.freeze.bare = { kept.bare with frozen := true } := by
  rw [KeptEntity.freeze]
  split
  · next frozen => rw [bare, frozen]
  · rfl

theorem coherent_cleared : kept.cleared.Coherent :=
  coherent_of_unlisted rfl rfl

/-- The kept content is that of a definition, and its listings are right. -/
structure Shows (kept : KeptEntity) (entity : EntityDefinition) : Prop where
  coherent : kept.Coherent
  bare : kept.bare = entity

end KeptEntity

/-- What a definition has beside the content of the types. -/
def ModDefinition.rest (definition : ModDefinition) :
    String × Option String × List String × NameTable NameBinding × List NameReference × Bool :=
  (definition.modName, definition.displayName, definition.warnings, definition.names,
    definition.references, definition.frozen)

theorem ModDefinition.rest_effect_of_type? {definition : ModDefinition} {action : DefinitionAction}
    {type : EntityType} (about : action.type? = some type) :
    (definition.effect action).rest = definition.rest := by
  cases action with
  | bindName | addReference | freeze | release => cases about
  | addDefined | addVanilla | addImplicit | read | freezeEntity | clearEntity => rfl

/-! ### Asking for content -/

namespace KeptDefinition

variable {kept : KeptDefinition} {definition : ModDefinition} {type other : EntityType}
  {change : KeptEntity → Except FrozenError KeptEntity} {changed : KeptEntity}
  {error : FrozenError} {action : DefinitionAction} {actions : List DefinitionAction}

/-- Content of a type that was not asked for before. -/
def newEntity (kept : KeptDefinition) : KeptEntity :=
  if kept.frozen then ({} : KeptEntity).freeze else {}

theorem entity_eq (kept : KeptDefinition) (type : EntityType) :
    kept.entity type = (kept.entities.get type).getD kept.newEntity := by
  rw [entity, ask, newEntity]
  cases kept.entities.get type with
  | some entity => rfl
  | none => cases kept.frozen <;> rfl

/-- What is refused because content is frozen changes nothing, not even what was asked for. -/
theorem use_of_error (refused : change (kept.entity type) = .error error)
    (frozen : (kept.entity type).frozen = true) : kept.use type change = (.error error, kept) := by
  have asked : kept.ask type = (kept.entity type, kept) := by
    rw [entity_eq, newEntity] at frozen
    rw [entity, ask]
    cases found : kept.entities.get type with
    | some entity => rfl
    | none =>
        rw [found] at frozen
        cases whole : kept.frozen with
        | true => rfl
        | false =>
            rw [whole] at frozen
            cases frozen
  rw [use, asked]
  dsimp only
  rw [refused]

/-- What is kept beside the content of the types. -/
def rest (kept : KeptDefinition) :
    String × Option String × List String × NameTable NameBinding × List NameReference × Bool :=
  (kept.modName, kept.displayName, kept.warnings, kept.names, kept.references, kept.frozen)

theorem newEntity_eq_of_rest {later : KeptDefinition} (same : later.rest = kept.rest) :
    later.newEntity = kept.newEntity := by
  simp only [rest, Prod.mk.injEq] at same
  rw [newEntity, same.2.2.2.2.2, newEntity]

/-- What is done with the content of a type changes no other type. It changes that type, unless its
content belongs to nothing. -/
theorem exists_use_of_ok (allowed : change (kept.entity type) = .ok changed) :
    ∃ later, kept.use type change = (.ok (), later) ∧ later.rest = kept.rest ∧
      (∀ other, type ≠ other → later.entity other = kept.entity other) ∧
      (later.entity type = changed ∨
        kept.entity type = ({} : KeptEntity).freeze ∧ later.entity type = kept.entity type) := by
  rw [entity] at allowed
  have same : ((kept.ask type).2.replace type changed).rest = kept.rest := by
    rw [ask]
    split
    · rfl
    · split <;> rfl
  refine ⟨(kept.ask type).2.replace type changed, ?_, same, fun other different => ?_, ?_⟩
  · rw [use]
    dsimp only
    rw [allowed]
  · rw [entity_eq, entity_eq, newEntity_eq_of_rest same, replace,
      EntityTable.get_modify_of_ne _ _ different, ask]
    split
    · rfl
    · split
      · rfl
      · rw [EntityTable.get_set_of_ne _ _ different]
  · rw [entity_eq, entity_eq, replace, EntityTable.get_modify_self, ask]
    cases found : kept.entities.get type with
    | some entity => exact .inl (by rw [found]; rfl)
    | none =>
        cases whole : kept.frozen with
        | true =>
            rw [if_pos rfl]
            refine .inr ⟨?_, ?_⟩
            · rw [newEntity, whole]
              rfl
            · rw [found]
              rfl
        | false => exact .inl (by simp)

theorem entity_freeze (kept : KeptDefinition) (type : EntityType) :
    kept.freeze.entity type = (kept.entity type).freeze := by
  rw [entity_eq, entity_eq, newEntity, newEntity, freeze, EntityTable.get_ofFunction]
  cases kept.entities.get type with
  | some entity => rfl
  | none => cases kept.frozen <;> rfl

/-! ### One action -/

/-- Do something with a kept definition. -/
def act (kept : KeptDefinition) :
    DefinitionAction → Except FrozenError Unit × KeptDefinition
  | .addDefined type id => kept.addDefined type id
  | .addVanilla type id => kept.addVanilla type id
  | .addImplicit type => kept.addImplicit type
  | .bindName name binding => kept.bindName name binding
  | .addReference type name => kept.addReference type name
  | .read type => kept.read type
  | .freezeEntity type => kept.freezeEntity type
  | .clearEntity type => kept.clearEntity type
  | .freeze => (.ok (), kept.freeze)
  | .release => (.ok (), kept.release)

/-- A kept definition shows what a `ModDefinition` shows. -/
structure Shows (kept : KeptDefinition) (definition : ModDefinition) : Prop where
  entity : ∀ type, (kept.entity type).Shows (definition.entity type)
  rest : kept.rest = definition.rest

theorem Shows.fields (shows : kept.Shows definition) :
    kept.modName = definition.modName ∧ kept.displayName = definition.displayName ∧
      kept.warnings = definition.warnings ∧ kept.names = definition.names ∧
      kept.references = definition.references ∧ kept.frozen = definition.frozen := by
  simpa only [KeptDefinition.rest, ModDefinition.rest, Prod.mk.injEq] using shows.rest

theorem Shows.frozen (shows : kept.Shows definition) : kept.frozen = definition.frozen :=
  shows.fields.2.2.2.2.2

theorem Shows.modName (shows : kept.Shows definition) : kept.modName = definition.modName :=
  shows.fields.1

theorem Shows.entityFrozen (shows : kept.Shows definition) (type : EntityType) :
    (kept.entity type).frozen = (definition.entity type).frozen :=
  congrArg EntityDefinition.frozen (shows.entity type).bare

theorem Shows.entity_of_same {next : KeptDefinition} {later : ModDefinition}
    (shows : kept.Shows definition) (keptEntities : next.entities = kept.entities)
    (keptFrozen : next.frozen = kept.frozen) (entities : later.entities = definition.entities)
    (frozen : later.frozen = definition.frozen) (type : EntityType) :
    (next.entity type).Shows (later.entity type) := by
  rw [entity_eq, newEntity, keptEntities, keptFrozen, ← newEntity, ← entity_eq,
    ModDefinition.entity, entities, frozen]
  exact shows.entity type

/-- The same is refused, and then nothing has changed. -/
theorem Shows.act_of_refused (shows : kept.Shows definition)
    (refused : definition.refusal? action = some error) :
    kept.act action = (.error error, kept) := by
  cases action with
  | addDefined type | addVanilla type | addImplicit type =>
      obtain ⟨frozen, isError⟩ := Option.ite_none_right_eq_some.1 refused
      obtain rfl := Option.some.inj isError
      rw [← shows.entityFrozen] at frozen
      simp only [KeptDefinition.act, addDefined, addVanilla, addImplicit]
      refine use_of_error ?_ frozen
      exact if_pos frozen
  | bindName | addReference =>
      obtain ⟨frozen, isError⟩ := Option.ite_none_right_eq_some.1 refused
      obtain rfl := Option.some.inj isError
      rw [← shows.frozen] at frozen
      rw [← shows.modName]
      exact if_pos frozen
  | read | freezeEntity | clearEntity | freeze | release => cases refused

/-- Something is done with the content of a type that an action does as well, unless the content
belongs to nothing: then it makes no difference. -/
theorem Shows.use (shows : kept.Shows definition) (about : action.type? = some type)
    (allowed : change (kept.entity type) = .ok changed)
    (coherent : (kept.entity type).Coherent → changed.Coherent)
    (bare : changed.bare = ModDefinition.entityEffect type (kept.entity type).bare action)
    (lost : kept.entity type = ({} : KeptEntity).freeze → changed.bare = (kept.entity type).bare) :
    ∃ next, kept.use type change = (.ok (), next) ∧ next.Shows (definition.effect action) := by
  obtain ⟨next, used, sameRest, sameOthers, same⟩ := exists_use_of_ok allowed
  refine ⟨next, used, fun other => ?_,
    sameRest.trans (shows.rest.trans (ModDefinition.rest_effect_of_type? about).symm)⟩
  rw [ModDefinition.entity_effect_of_type? about]
  by_cases isType : type = other
  · subst isType
    rw [if_pos rfl, ← (shows.entity type).bare, ← bare]
    rcases same with same | ⟨isLost, same⟩ <;> rw [same]
    · exact ⟨coherent (shows.entity type).coherent, rfl⟩
    · exact ⟨(shows.entity type).coherent, (lost isLost).symm⟩
  · rw [if_neg isType, sameOthers other isType]
    exact shows.entity other

/-- Frozen as a whole, both show the same: content that was listed before is not listed again. -/
theorem Shows.freeze (shows : kept.Shows definition) : kept.freeze.Shows definition.freeze := by
  obtain ⟨modName, displayName, warnings, names, references, -⟩ := shows.fields
  refine ⟨fun type => ?_, ?_⟩
  · rw [entity_freeze]
    refine ⟨(shows.entity type).coherent.freeze, ?_⟩
    rw [KeptEntity.bare_freeze, (shows.entity type).bare]
    simp [ModDefinition.freeze, ModDefinition.entity]
  · simp only [KeptDefinition.rest, ModDefinition.rest, ModDefinition.freeze,
      KeptDefinition.freeze, modName, displayName, warnings, names, references]

theorem Shows.release (shows : kept.Shows definition) : kept.release.Shows definition.release := by
  obtain ⟨modName, displayName, warnings, -, -, frozen⟩ := shows.fields
  refine ⟨fun type => ?_, ?_⟩
  · rw [entity_eq, newEntity, KeptDefinition.release, EntityTable.get_uniform, frozen,
      ModDefinition.entity, ModDefinition.release, EntityTable.get_uniform]
    cases definition.frozen with
    | true => exact ⟨KeptEntity.coherent_empty.freeze, rfl⟩
    | false => exact ⟨KeptEntity.coherent_empty, rfl⟩
  · simp only [KeptDefinition.rest, ModDefinition.rest, ModDefinition.release,
      KeptDefinition.release, modName, displayName, warnings, frozen]

/-- What is not refused has the same effect. -/
theorem Shows.exists_act_of_granted (shows : kept.Shows definition)
    (granted : definition.refusal? action = none) :
    ∃ next, kept.act action = (.ok (), next) ∧ next.Shows (definition.effect action) := by
  cases action with
  | addDefined type | addVanilla type | addImplicit type =>
      have isOpen : (kept.entity type).frozen = false := by
        rw [shows.entityFrozen]
        simpa [ModDefinition.refusal?] using granted
      simp only [KeptDefinition.act, addDefined, addVanilla, addImplicit]
      refine shows.use rfl (if_neg (Bool.eq_false_iff.1 isOpen)) (fun coherent => ?_)
        (if_pos rfl).symm (fun lost => ?_)
      · obtain ⟨defined, vanillaEdited⟩ := coherent.unlisted isOpen
        exact KeptEntity.coherent_of_unlisted defined vanillaEdited
      · rw [lost] at isOpen
        cases isOpen
  | freezeEntity type =>
      rw [KeptDefinition.act, freezeEntity]
      refine shows.use rfl rfl KeptEntity.Coherent.freeze ?_ (fun lost => ?_)
      · exact KeptEntity.bare_freeze.trans (if_pos rfl).symm
      · rw [lost]
        rfl
  | clearEntity type =>
      rw [KeptDefinition.act, clearEntity]
      refine shows.use rfl rfl (fun _ => KeptEntity.coherent_cleared) (if_pos rfl).symm
        (fun lost => ?_)
      rw [lost]
      rfl
  | read type =>
      rw [KeptDefinition.act, read]
      exact shows.use rfl rfl id rfl fun _ => rfl
  | bindName | addReference =>
      have isOpen : kept.frozen = false := by
        rw [shows.frozen]
        simpa [ModDefinition.refusal?] using granted
      simp only [KeptDefinition.act, bindName, addReference, changeWhole,
        if_neg (Bool.eq_false_iff.1 isOpen)]
      obtain ⟨modName, displayName, warnings, names, references, frozen⟩ := shows.fields
      refine ⟨_, rfl, shows.entity_of_same rfl rfl rfl rfl, ?_⟩
      simp only [KeptDefinition.rest, ModDefinition.rest, ModDefinition.effect,
        ModDefinition.recordName, ModDefinition.recordReference, modName, displayName, warnings,
        names, references, frozen]
  | freeze => exact ⟨kept.freeze, rfl, shows.freeze⟩
  | release => exact ⟨kept.release, rfl, shows.release⟩

theorem Shows.act_eq_error_iff (shows : kept.Shows definition) :
    (kept.act action).1 = .error error ↔ definition.act action = .error error := by
  rw [ModDefinition.act_eq_error_iff]
  cases refused : definition.refusal? action with
  | some other => simp [shows.act_of_refused refused]
  | none =>
      obtain ⟨next, acted, -⟩ := shows.exists_act_of_granted refused
      simp [acted]

/-! ### What is shown -/

theorem Shows.entityTypes_eq (shows : kept.Shows definition) :
    kept.entityTypes = definition.entityTypes := by
  refine List.filter_congr fun type _ => ?_
  rw [← (shows.entity type).bare, entity_eq]
  cases kept.entities.get type with
  | some entity => rfl
  | none =>
      rw [Option.getD_none, newEntity]
      cases kept.frozen <;> rfl

theorem Shows.lists_eq (shows : kept.Shows definition) (type : EntityType) :
    (kept.entity type).definedIds = (definition.entity type).definedIds ∧
      (kept.entity type).vanillaEditedIds = (definition.entity type).vanillaEditedIds ∧
      (kept.entity type).implicitCount = (definition.entity type).implicitCount := by
  obtain ⟨coherent, bare⟩ := shows.entity type
  rw [coherent.definedIds_eq, coherent.vanillaEditedIds_eq, ← bare]
  exact ⟨rfl, rfl, rfl⟩

theorem Shows.content_eq (shows : kept.Shows definition) : kept.content = definition.content := by
  obtain ⟨modName, displayName, warnings, names, references, -⟩ := shows.fields
  simp only [content, ModDefinition.content, shows.entityTypes_eq, shows.lists_eq, modName,
    displayName, warnings, names, references]

/-! ### All actions -/

/-- A kept definition after actions, some of which may have been refused. -/
def afterAll (kept : KeptDefinition) (actions : List DefinitionAction) : KeptDefinition :=
  actions.foldl (fun kept action => (kept.act action).2) kept

/-- The actions that are not refused, in order. -/
def granted (kept : KeptDefinition) : List DefinitionAction → List DefinitionAction
  | [] => []
  | action :: rest =>
      match kept.act action with
      | (.ok (), next) => action :: next.granted rest
      | (.error _, next) => next.granted rest

/-- One action after the other, the same is refused and the same is shown. -/
theorem Shows.afterAll (shows : kept.Shows definition) (actions : List DefinitionAction) :
    (kept.afterAll actions).Shows (definition.afterAll actions) ∧
      kept.granted actions = definition.granted actions := by
  induction actions generalizing kept definition with
  | nil => exact ⟨shows, rfl⟩
  | cons action rest inductionHypothesis =>
      rw [KeptDefinition.afterAll, List.foldl_cons, ← KeptDefinition.afterAll,
        KeptDefinition.granted, ModDefinition.afterAll, List.foldl_cons, ← ModDefinition.afterAll,
        ModDefinition.granted]
      cases refused : definition.refusal? action with
      | some error =>
          rw [shows.act_of_refused refused, ModDefinition.after_of_refused refused,
            ModDefinition.act_of_refused refused]
          exact inductionHypothesis shows
      | none =>
          obtain ⟨next, acted, showsNext⟩ := shows.exists_act_of_granted refused
          rw [acted, ModDefinition.after_of_granted refused, ModDefinition.act_of_granted refused]
          obtain ⟨shown, same⟩ := inductionHypothesis showsNext
          exact ⟨shown, congrArg (action :: ·) same⟩

theorem Shows.act (shows : kept.Shows definition) (action : DefinitionAction) :
    (kept.act action).2.Shows (definition.after action) :=
  (shows.afterAll [action]).1

end KeptDefinition

/-- What is kept of an empty definition after actions. -/
def keptBy (modName : String) (actions : List DefinitionAction) : KeptDefinition :=
  ({ modName } : KeptDefinition).afterAll actions

/-- The actions on an empty definition that are not refused. -/
def keptActions (modName : String) (actions : List DefinitionAction) : List DefinitionAction :=
  ({ modName } : KeptDefinition).granted actions

namespace KeptDefinition

theorem shows_empty (modName : String) :
    ({ modName } : KeptDefinition).Shows ({ modName } : ModDefinition) where
  entity type := by
    rw [entity_eq, EntityTable.get_uniform, ModDefinition.entity, EntityTable.get_uniform]
    exact ⟨KeptEntity.coherent_empty, rfl⟩
  rest := rfl

theorem shows_keptBy (modName : String) (actions : List DefinitionAction) :
    (keptBy modName actions).Shows (builtBy modName actions) :=
  ((shows_empty modName).afterAll actions).1

theorem keptActions_eq (modName : String) (actions : List DefinitionAction) :
    keptActions modName actions = grantedActions modName actions :=
  ((shows_empty modName).afterAll actions).2

/-- Freezing is sound, and what is listed never goes out of date. The ids that a kept definition
lists ascend, and they are those that were added, and not refused, since the content of their type
was last dropped. Nothing is refused but adding to what has been frozen, and what is refused changes
nothing. Once a type can no longer grow, the same is listed of it until its content is dropped, and
a definition that has been frozen as a whole refuses all that would make it grow and shows the same
until content is dropped. -/
theorem listed_ids_follow_actions (modName : String) (actions : List DefinitionAction) :
    (∀ type, ((keptBy modName actions).entity type).definedIds.Pairwise (· < ·) ∧
      ((keptBy modName actions).entity type).vanillaEditedIds.Pairwise (· < ·) ∧
      ∀ id, (id ∈ ((keptBy modName actions).entity type).definedIds ↔
          .addDefined type id ∈ sinceDropped type (keptActions modName actions)) ∧
        (id ∈ ((keptBy modName actions).entity type).vanillaEditedIds ↔
          .addVanilla type id ∈ sinceDropped type (keptActions modName actions))) ∧
    (∀ action error, (((keptBy modName actions).act action).1 = .error error ↔
        RefusedAfter modName actions action error) ∧
      (((keptBy modName actions).act action).1 = .error error →
        ((keptBy modName actions).act action).2 = keptBy modName actions)) ∧
    (∀ type later, ClosedAfter actions type → (∀ action ∈ later, action.drops type = false) →
      ((keptBy modName (actions ++ later)).entity type).definedIds =
          ((keptBy modName actions).entity type).definedIds ∧
        ((keptBy modName (actions ++ later)).entity type).vanillaEditedIds =
          ((keptBy modName actions).entity type).vanillaEditedIds ∧
        ((keptBy modName (actions ++ later)).entity type).implicitCount =
          ((keptBy modName actions).entity type).implicitCount) ∧
    (.freeze ∈ actions → ∀ action,
      (action.adds = true →
        ∃ error, ((keptBy modName actions).act action).1 = .error error) ∧
      ((∀ type, action.drops type = false) →
        ((keptBy modName actions).act action).2.content = (keptBy modName actions).content)) := by
  have shows := shows_keptBy modName actions
  have follows := ModDefinition.follows_builtBy modName actions
  rw [keptActions_eq]
  refine ⟨fun type => ?_, fun action error => ⟨?_, fun refused => ?_⟩,
    fun type later closed keeps => ?_, fun frozen action => ⟨fun adds => ?_, fun keeps => ?_⟩⟩
  · rw [(shows.lists_eq type).1, (shows.lists_eq type).2.1]
    refine ⟨IdSet.ids_pairwise_lt _, IdSet.ids_pairwise_lt _, fun id => ⟨?_, ?_⟩⟩
    · exact (IdSet.mem_ids _ id).trans (follows.listed .defined type id)
    · exact (IdSet.mem_ids _ id).trans (follows.listed .vanillaEdited type id)
  · exact shows.act_eq_error_iff.trans ModDefinition.act_builtBy_eq_error_iff
  · rw [shows.act_eq_error_iff, ModDefinition.act_eq_error_iff] at refused
    rw [shows.act_of_refused refused]
  · have closedEntity := (ModDefinition.entityFrozen_builtBy_iff modName actions type).2 closed
    have same : (builtBy modName (actions ++ later)).entity type =
        (builtBy modName actions).entity type := by
      rw [builtBy, ModDefinition.afterAll, List.foldl_append]
      exact ModDefinition.entity_afterAll_of_frozen closedEntity keeps
    obtain ⟨defined, vanillaEdited, implicitCount⟩ := shows.lists_eq type
    rw [defined, vanillaEdited, implicitCount, ← same]
    exact (shows_keptBy modName (actions ++ later)).lists_eq type
  · simp only [shows.act_eq_error_iff, ModDefinition.act_builtBy_eq_error_iff]
    cases action with
    | addDefined type => exact ⟨_, .defined (.inl frozen)⟩
    | addVanilla type => exact ⟨_, .vanilla (.inl frozen)⟩
    | addImplicit type => exact ⟨_, .implicit (.inl frozen)⟩
    | bindName => exact ⟨_, .name frozen⟩
    | addReference => exact ⟨_, .reference frozen⟩
    | read | freezeEntity | clearEntity | freeze | release => cases adds
  · rw [(shows.act action).content_eq, shows.content_eq]
    exact ModDefinition.content_after_of_frozen (follows.frozen.2 frozen) keeps

/-- A definition whose monsters are frozen early and dropped, before all of it is frozen, and which
is asked for a type only after that. -/
def freezingActions : List DefinitionAction :=
  [.addDefined .monster 5001, .addVanilla .monster 10, .freezeEntity .monster,
    .addDefined .monster 5000, .clearEntity .monster, .addDefined .spell 2001,
    .addDefined .spell 2000, .bindName "Scout" ⟨.spell, .explicit 2000⟩, .freeze, .read .site]

theorem listed_ids_follow_actions_freezingActions :
    .freeze ∈ freezingActions ∧ ClosedAfter freezingActions .monster ∧
    (∀ id, id ∈ ((keptBy "Abysia" freezingActions).entity .spell).definedIds ↔
      id = 2001 ∨ id = 2000) ∧
    ((keptBy "Abysia" (freezingActions ++ [.addDefined .monster 5000, .read .site])).entity
      .monster).definedIds = ((keptBy "Abysia" freezingActions).entity .monster).definedIds ∧
    (∃ error, ((keptBy "Abysia" freezingActions).act (.addDefined .site 1700)).1 =
      .error error) ∧
    ((keptBy "Abysia" freezingActions).act (.addDefined .site 1700)).2.content =
      (keptBy "Abysia" freezingActions).content := by
  have frozen : .freeze ∈ freezingActions := by decide
  obtain ⟨listed, -, stays, whole⟩ := listed_ids_follow_actions "Abysia" freezingActions
  have spells : sinceDropped .spell (keptActions "Abysia" freezingActions) =
      [.addDefined .monster 5001, .addVanilla .monster 10, .freezeEntity .monster,
        .clearEntity .monster, .addDefined .spell 2001, .addDefined .spell 2000,
        .bindName "Scout" ⟨.spell, .explicit 2000⟩, .freeze, .read .site] := by
    decide +kernel
  refine ⟨frozen, .inl frozen, fun id => ?_, (stays .monster _ (.inl frozen) (by decide)).1,
    (whole frozen _).1 rfl, (whole frozen _).2 fun _ => rfl⟩
  rw [((listed .spell).2.2 id).1, spells]
  simp

end KeptDefinition
end ModMerge
