import Mathlib.Data.List.DropRight
import ModMerge.Mod.Definition

/-!
# Definitions that are frozen

A definition is built by actions, of which some are refused once it is frozen, as a whole or in one
type. What it holds can be told from the actions alone: these are the ids that were added since its
content was last dropped. What is frozen stays as it is until then.
-/

namespace ModMerge

/-- What can be done with a definition. -/
inductive DefinitionAction where
  | addDefined (type : EntityType) (id : Int)
  | addVanilla (type : EntityType) (id : Int)
  | addImplicit (type : EntityType)
  | bindName (name : String) (binding : NameBinding)
  | addReference (type : EntityType) (name : String)
  | read (type : EntityType)
  | freezeEntity (type : EntityType)
  | clearEntity (type : EntityType)
  | freeze
  | release
deriving DecidableEq

namespace DefinitionAction

/-- Whether an action drops the content of a type. -/
def drops (type : EntityType) : DefinitionAction → Bool
  | clearEntity other => other = type
  | release => true
  | _ => false

/-- The type whose content an action is about. -/
def type? : DefinitionAction → Option EntityType
  | addDefined type _ | addVanilla type _ | addImplicit type | read type | freezeEntity type
  | clearEntity type => some type
  | bindName .. | addReference .. | freeze | release => none

/-- Whether an action would make a definition grow. -/
def adds : DefinitionAction → Bool
  | addDefined .. | addVanilla .. | addImplicit _ | bindName .. | addReference .. => true
  | read _ | freezeEntity _ | clearEntity _ | freeze | release => false

end DefinitionAction

/-- The two listings of the ids of a type. -/
inductive IdListing where
  | defined
  | vanillaEdited

namespace IdListing

/-- The ids of a listing. -/
def idSet : IdListing → EntityDefinition → IdSet
  | defined => EntityDefinition.defined
  | vanillaEdited => EntityDefinition.vanillaEdited

/-- The action that adds an id to a listing. -/
def adding (type : EntityType) (id : Int) : IdListing → DefinitionAction
  | defined => .addDefined type id
  | vanillaEdited => .addVanilla type id

theorem drops_adding (listing : IdListing) (type other : EntityType) (id : Int) :
    (listing.adding type id).drops other = false := by
  cases listing <;> rfl

end IdListing

/-- The actions since the content of a type was last dropped. -/
def sinceDropped (type : EntityType) (actions : List DefinitionAction) : List DefinitionAction :=
  actions.rtakeWhile fun action => !action.drops type

/-- The actions since everything was last released. -/
def sinceReleased (actions : List DefinitionAction) : List DefinitionAction :=
  actions.rtakeWhile (· != .release)

namespace ModDefinition

/-- Do something with a definition. -/
def act (definition : ModDefinition) : DefinitionAction → Except FrozenError ModDefinition
  | .addDefined type id => definition.addDefined type id
  | .addVanilla type id => definition.addVanilla type id
  | .addImplicit type => definition.addImplicit type
  | .bindName name binding => definition.bindName name binding
  | .addReference type name => definition.addReference type name
  | .read _ => .ok definition
  | .freezeEntity type => .ok (definition.freezeEntity type)
  | .clearEntity type => .ok (definition.clearEntity type)
  | .freeze => .ok definition.freeze
  | .release => .ok definition.release

/-- A definition after an action, which may have been refused. -/
def after (definition : ModDefinition) (action : DefinitionAction) : ModDefinition :=
  match definition.act action with
  | .ok changed => changed
  | .error _ => definition

/-- A definition after actions. -/
def afterAll (definition : ModDefinition) (actions : List DefinitionAction) : ModDefinition :=
  actions.foldl after definition

/-- The actions that are not refused, in order. -/
def granted (definition : ModDefinition) : List DefinitionAction → List DefinitionAction
  | [] => []
  | action :: rest =>
      match definition.act action with
      | .ok changed => action :: changed.granted rest
      | .error _ => definition.granted rest

end ModDefinition

/-- The definition that actions make of an empty one. -/
def builtBy (modName : String) (actions : List DefinitionAction) : ModDefinition :=
  ({ modName } : ModDefinition).afterAll actions

/-- The actions on an empty definition that are not refused. -/
def grantedActions (modName : String) (actions : List DefinitionAction) : List DefinitionAction :=
  ({ modName } : ModDefinition).granted actions

/-- After these actions the content of a type can no longer grow: the definition has been frozen,
or the type has, since everything was last released. -/
def ClosedAfter (actions : List DefinitionAction) (type : EntityType) : Prop :=
  .freeze ∈ actions ∨ .freezeEntity type ∈ sinceReleased actions

/-- The errors of actions that come after others. -/
inductive RefusedAfter (modName : String) (actions : List DefinitionAction) :
    DefinitionAction → FrozenError → Prop where
  | defined {type id} (closed : ClosedAfter actions type) :
      RefusedAfter modName actions (.addDefined type id) (.entity type)
  | vanilla {type id} (closed : ClosedAfter actions type) :
      RefusedAfter modName actions (.addVanilla type id) (.entity type)
  | implicit {type} (closed : ClosedAfter actions type) :
      RefusedAfter modName actions (.addImplicit type) (.entity type)
  | name {name binding} (frozen : .freeze ∈ actions) :
      RefusedAfter modName actions (.bindName name binding) (.definition modName)
  | reference {type name} (frozen : .freeze ∈ actions) :
      RefusedAfter modName actions (.addReference type name) (.definition modName)

namespace ModDefinition

variable {definition : ModDefinition} {action : DefinitionAction}
  {actions : List DefinitionAction} {type : EntityType} {id : Int} {error : FrozenError}

/-! ### One action -/

/-- What an action that is not refused does. -/
def effect (definition : ModDefinition) : DefinitionAction → ModDefinition
  | .addDefined type id => definition.recordDefined type id
  | .addVanilla type id => definition.recordVanilla type id
  | .addImplicit type => definition.recordImplicit type
  | .bindName name binding => definition.recordName name binding
  | .addReference type name => definition.recordReference type name
  | .read _ => definition
  | .freezeEntity type => definition.freezeEntity type
  | .clearEntity type => definition.clearEntity type
  | .freeze => definition.freeze
  | .release => definition.release

/-- Why an action is refused, if it is. -/
def refusal? (definition : ModDefinition) : DefinitionAction → Option FrozenError
  | .addDefined type _ | .addVanilla type _ | .addImplicit type =>
      if (definition.entity type).frozen then some (.entity type) else none
  | .bindName .. | .addReference .. =>
      if definition.frozen then some (.definition definition.modName) else none
  | .read _ | .freezeEntity _ | .clearEntity _ | .freeze | .release => none

theorem act_eq (definition : ModDefinition) (action : DefinitionAction) :
    definition.act action =
      match definition.refusal? action with
      | some error => .error error
      | none => .ok (definition.effect action) := by
  cases action <;>
    simp only [act, refusal?, effect, addDefined, addVanilla, addImplicit, bindName, addReference,
      changeEntity, changeWhole] <;>
    split <;> rfl

/-- What an action that is not refused does to the content of a type. -/
def entityEffect (type : EntityType) (entity : EntityDefinition) :
    DefinitionAction → EntityDefinition
  | .addDefined other id =>
      if other = type then { entity with defined := entity.defined.insert id } else entity
  | .addVanilla other id =>
      if other = type then { entity with vanillaEdited := entity.vanillaEdited.insert id }
      else entity
  | .addImplicit other =>
      if other = type then { entity with implicitCount := entity.implicitCount + 1 } else entity
  | .freezeEntity other => if other = type then { entity with frozen := true } else entity
  | .clearEntity other => if other = type then entity.cleared else entity
  | .release => {}
  | .bindName .. | .addReference .. | .read _ | .freeze => entity

theorem get_entities_effect :
    (definition.effect action).entities.get type =
      entityEffect type (definition.entities.get type) action := by
  cases action with
  | release => exact EntityTable.get_uniform _ _
  | bindName | addReference | read | freeze => rfl
  | addDefined other | addVanilla other | addImplicit other | freezeEntity other
  | clearEntity other =>
      refine (EntityTable.get_set _ _ _ _).trans ?_
      by_cases same : other = type
      · subst same
        simp [entityEffect]
      · simp [entityEffect, same]

/-- An action on the content of a type has the same effect on what is seen of it, and no other type
sees any of it. -/
theorem entity_effect_of_type? {other : EntityType} (about : action.type? = some type) :
    (definition.effect action).entity other =
      if type = other then entityEffect type (definition.entity type) action
      else definition.entity other := by
  rw [entity, get_entities_effect]
  cases action with
  | bindName | addReference | freeze | release => cases about
  | read => split <;> simp_all [entityEffect, entity, effect]
  | addDefined | addVanilla | addImplicit | freezeEntity | clearEntity =>
      obtain rfl := Option.some.inj about
      split
      · next isType =>
          subst isType
          simp only [entityEffect, if_pos]
          rfl
      · next different =>
          simp only [entityEffect, if_neg different]
          rfl

theorem frozen_effect :
    (definition.effect action).frozen = true ↔ action = .freeze ∨ definition.frozen = true := by
  cases action <;>
    simp [effect, recordDefined, recordVanilla, recordImplicit, recordName, recordReference,
      freezeEntity, clearEntity, freeze, release]

theorem modName_effect : (definition.effect action).modName = definition.modName := by
  cases action <;> rfl

theorem entityFrozen_effect :
    ((definition.effect action).entities.get type).frozen = true ↔
      action = .freezeEntity type ∨
        action ≠ .release ∧ (definition.entities.get type).frozen = true := by
  rw [get_entities_effect]
  cases action with
  | release | bindName | addReference | read | freeze => simp [entityEffect]
  | addDefined other | addVanilla other | addImplicit other | freezeEntity other
  | clearEntity other =>
      by_cases same : other = type <;> simp [entityEffect, EntityDefinition.cleared, same]

theorem mem_idSet_effect (listing : IdListing) :
    id ∈ listing.idSet ((definition.effect action).entities.get type) ↔
      action = listing.adding type id ∨
        action.drops type = false ∧ id ∈ listing.idSet (definition.entities.get type) := by
  rw [get_entities_effect]
  cases action with
  | release | bindName | addReference | read | freeze =>
      cases listing <;>
        simp [entityEffect, DefinitionAction.drops, IdListing.idSet, IdListing.adding]
  | addDefined other | addVanilla other | addImplicit other | freezeEntity other
  | clearEntity other =>
      by_cases same : other = type <;> cases listing <;>
        simp [entityEffect, EntityDefinition.cleared, DefinitionAction.drops, IdListing.idSet,
          IdListing.adding, same]

/-- Only actions that would make a definition grow are refused. -/
theorem adds_of_refusal? (refused : definition.refusal? action = some error) :
    action.adds = true := by
  cases action with
  | addDefined | addVanilla | addImplicit | bindName | addReference => rfl
  | read | freezeEntity | clearEntity | freeze | release => cases refused

theorem act_of_refused (refused : definition.refusal? action = some error) :
    definition.act action = .error error := by
  rw [act_eq, refused]

theorem act_of_granted (granted : definition.refusal? action = none) :
    definition.act action = .ok (definition.effect action) := by
  rw [act_eq, granted]

theorem act_eq_error_iff :
    definition.act action = .error error ↔ definition.refusal? action = some error := by
  rw [act_eq]
  cases definition.refusal? action <;> simp

theorem after_of_refused (refused : definition.refusal? action = some error) :
    definition.after action = definition := by
  rw [after, act_of_refused refused]

theorem after_of_granted (granted : definition.refusal? action = none) :
    definition.after action = definition.effect action := by
  rw [after, act_of_granted granted]

/-! ### All actions -/

theorem afterAll_concat (definition : ModDefinition) (actions : List DefinitionAction)
    (action : DefinitionAction) :
    definition.afterAll (actions ++ [action]) = (definition.afterAll actions).after action :=
  List.foldl_concat ..

theorem granted_concat (definition : ModDefinition) (actions : List DefinitionAction)
    (action : DefinitionAction) :
    definition.granted (actions ++ [action]) =
      definition.granted actions ++
        if ((definition.afterAll actions).refusal? action).isSome then [] else [action] := by
  induction actions generalizing definition with
  | nil =>
      rw [List.nil_append, granted, afterAll, List.foldl_nil]
      cases refused : definition.refusal? action with
      | none => simp [act_of_granted refused, granted]
      | some error => simp [act_of_refused refused, granted]
  | cons first rest inductionHypothesis =>
      rw [List.cons_append, granted, granted, afterAll, List.foldl_cons, ← afterAll, after]
      cases definition.act first with
      | error error => exact inductionHypothesis definition
      | ok changed => exact congrArg (first :: ·) (inductionHypothesis changed)

/-- What a definition holds after actions, told from these. -/
structure Follows (modName : String) (actions allowed : List DefinitionAction)
    (definition : ModDefinition) : Prop where
  modName : definition.modName = modName
  frozen : definition.frozen = true ↔ .freeze ∈ actions
  entityFrozen : ∀ type, (definition.entities.get type).frozen = true ↔
    .freezeEntity type ∈ sinceReleased actions
  listed : ∀ (listing : IdListing) type id, id ∈ listing.idSet (definition.entities.get type) ↔
    listing.adding type id ∈ sinceDropped type allowed

theorem sinceDropped_concat (type : EntityType) (actions : List DefinitionAction)
    (action : DefinitionAction) :
    sinceDropped type (actions ++ [action]) =
      if action.drops type then [] else sinceDropped type actions ++ [action] := by
  rw [sinceDropped, List.rtakeWhile_concat]
  cases action.drops type <;> rfl

theorem sinceReleased_concat (actions : List DefinitionAction) (action : DefinitionAction) :
    sinceReleased (actions ++ [action]) =
      if action = .release then [] else sinceReleased actions ++ [action] := by
  rw [sinceReleased, List.rtakeWhile_concat]
  by_cases isRelease : action = .release <;> simp [isRelease, sinceReleased]

variable {modName : String} {allowed : List DefinitionAction}

/-- A refused action leaves everything as it was. -/
theorem Follows.refused (follows : Follows modName actions allowed definition)
    (refused : definition.refusal? action = some error) :
    Follows modName (actions ++ [action]) allowed definition := by
  have adds := adds_of_refusal? refused
  have others : action ≠ .freeze ∧ action ≠ .release ∧ ∀ type, action ≠ .freezeEntity type := by
    refine ⟨?_, ?_, fun type => ?_⟩ <;> rintro rfl <;> cases adds
  obtain ⟨notFreeze, notRelease, notFreezeEntity⟩ := others
  refine ⟨follows.modName, ?_, fun type => ?_, follows.listed⟩
  · rw [follows.frozen]
    simp [notFreeze.symm]
  · rw [follows.entityFrozen, sinceReleased_concat, if_neg notRelease]
    simp [(notFreezeEntity type).symm]

theorem Follows.granted (follows : Follows modName actions allowed definition)
    (action : DefinitionAction) :
    Follows modName (actions ++ [action]) (allowed ++ [action]) (definition.effect action) where
  modName := modName_effect.trans follows.modName
  frozen := by
    rw [frozen_effect, follows.frozen]
    simp [or_comm, eq_comm]
  entityFrozen type := by
    rw [entityFrozen_effect, follows.entityFrozen, sinceReleased_concat]
    by_cases isRelease : action = .release
    · simp [isRelease]
    · simp [isRelease, or_comm, eq_comm]
  listed listing type id := by
    rw [mem_idSet_effect, follows.listed, sinceDropped_concat]
    cases dropped : action.drops type with
    | true =>
        have isOther : action ≠ listing.adding type id := by
          rintro rfl
          rw [listing.drops_adding] at dropped
          cases dropped
        simp [isOther]
    | false => simp [or_comm, eq_comm]

/-- Whatever is done with an empty definition, what it holds follows from that. -/
theorem follows_builtBy (modName : String) (actions : List DefinitionAction) :
    Follows modName actions (grantedActions modName actions) (builtBy modName actions) := by
  induction actions using List.reverseRecOn with
  | nil =>
      refine ⟨rfl, ?_, fun type => ?_, fun listing type id => ?_⟩
      · simp [builtBy, afterAll]
      · simp [builtBy, afterAll, sinceReleased]
      · cases listing <;>
          simp [builtBy, afterAll, grantedActions, ModDefinition.granted, sinceDropped,
            IdListing.idSet]
  | append_singleton actions action inductionHypothesis =>
      rw [builtBy, afterAll_concat, ← builtBy, grantedActions, granted_concat, ← grantedActions,
        ← builtBy]
      cases refused : (builtBy modName actions).refusal? action with
      | none =>
          rw [after_of_granted refused]
          exact inductionHypothesis.granted action
      | some error =>
          rw [after_of_refused refused]
          simpa using inductionHypothesis.refused refused

theorem entityFrozen_builtBy_iff (modName : String) (actions : List DefinitionAction)
    (type : EntityType) :
    ((builtBy modName actions).entity type).frozen = true ↔ ClosedAfter actions type := by
  have follows := follows_builtBy modName actions
  rw [ClosedAfter, ← follows.frozen, ← follows.entityFrozen, entity, Bool.or_eq_true, or_comm]

/-- Which actions are refused, and with which error, follows from those before. -/
theorem act_builtBy_eq_error_iff :
    (builtBy modName actions).act action = .error error ↔
      RefusedAfter modName actions action error := by
  have follows := follows_builtBy modName actions
  have closedIff := entityFrozen_builtBy_iff modName actions
  rw [act_eq_error_iff]
  constructor
  · intro refused
    cases action with
    | addDefined type | addVanilla type | addImplicit type =>
        obtain ⟨closed, isError⟩ := Option.ite_none_right_eq_some.1 refused
        obtain rfl := Option.some.inj isError
        constructor
        exact (closedIff type).1 closed
    | bindName | addReference =>
        obtain ⟨frozen, isError⟩ := Option.ite_none_right_eq_some.1 refused
        rw [follows.modName] at isError
        obtain rfl := Option.some.inj isError
        constructor
        exact follows.frozen.1 frozen
    | read | freezeEntity | clearEntity | freeze | release => cases refused
  · intro refused
    cases refused with
    | defined closed | vanilla closed | implicit closed =>
        exact if_pos ((closedIff _).2 closed)
    | name frozen | reference frozen =>
        rw [refusal?, if_pos (follows.frozen.2 frozen), follows.modName]

/-! ### Frozen content -/

/-- Content that can no longer grow stays as it is until it is dropped. -/
theorem entity_after_of_frozen (closed : (definition.entity type).frozen = true)
    (keeps : action.drops type = false) :
    (definition.after action).entity type = definition.entity type := by
  cases refused : definition.refusal? action with
  | some error => rw [after_of_refused refused]
  | none =>
      rw [after_of_granted refused]
      simp only [entity] at closed
      simp only [entity, get_entities_effect]
      cases action with
      | addDefined other | addVanilla other | addImplicit other =>
          have different : other ≠ type := by
            rintro rfl
            simp [refusal?, entity, closed] at refused
          simp only [entityEffect, if_neg different]
          rfl
      | freezeEntity other =>
          simp only [entityEffect]
          split
          · rw [closed]
            rfl
          · rfl
      | clearEntity other =>
          have different : other ≠ type := by simpa [DefinitionAction.drops] using keeps
          simp only [entityEffect, if_neg different]
          rfl
      | freeze =>
          rw [closed]
          simp [entityEffect, effect, freeze]
      | bindName | addReference | read => rfl
      | release => cases keeps

theorem entity_afterAll_of_frozen (closed : (definition.entity type).frozen = true)
    (keeps : ∀ action ∈ actions, action.drops type = false) :
    (definition.afterAll actions).entity type = definition.entity type := by
  induction actions generalizing definition with
  | nil => rfl
  | cons action rest inductionHypothesis =>
      have same := entity_after_of_frozen closed (keeps action List.mem_cons_self)
      have stillClosed : ((definition.after action).entity type).frozen = true := by
        rw [same, closed]
      have later := inductionHypothesis stillClosed fun other member =>
        keeps other (List.mem_cons_of_mem action member)
      exact later.trans same

theorem content_congr {other : ModDefinition}
    (entity : ∀ type, other.entity type = definition.entity type)
    (modName : other.modName = definition.modName)
    (displayName : other.displayName = definition.displayName)
    (warnings : other.warnings = definition.warnings) (names : other.names = definition.names)
    (references : other.references = definition.references) :
    other.content = definition.content := by
  have types : other.entityTypes = definition.entityTypes := by
    simp only [entityTypes, entity]
  simp only [content, entity, modName, displayName, warnings, types, names, references]

/-- A frozen definition shows the same until content is dropped. -/
theorem content_after_of_frozen (frozen : definition.frozen = true)
    (keeps : ∀ type, action.drops type = false) :
    (definition.after action).content = definition.content := by
  have closed : ∀ type, (definition.entity type).frozen = true := fun type => by
    simp [entity, frozen]
  have sameEntity : ∀ type, (definition.after action).entity type = definition.entity type :=
    fun type => entity_after_of_frozen (closed type) (keeps type)
  have sameRest : (definition.after action).modName = definition.modName ∧
      (definition.after action).displayName = definition.displayName ∧
      (definition.after action).warnings = definition.warnings ∧
      (definition.after action).names = definition.names ∧
      (definition.after action).references = definition.references := by
    cases refused : definition.refusal? action with
    | some error => simp [after_of_refused refused]
    | none =>
        rw [after_of_granted refused]
        cases action with
        | bindName | addReference => simp [refusal?, frozen] at refused
        | release => cases keeps .monster
        | addDefined | addVanilla | addImplicit | read | freezeEntity | clearEntity | freeze =>
            exact ⟨rfl, rfl, rfl, rfl, rfl⟩
  obtain ⟨modName, displayName, warnings, names, references⟩ := sameRest
  exact content_congr sameEntity modName displayName warnings names references

end ModDefinition
end ModMerge
