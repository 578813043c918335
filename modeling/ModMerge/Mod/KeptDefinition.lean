import ModMerge.Mod.Definition

/-!
# How a definition is kept

A `KeptDefinition` keeps what a `ModDefinition` says in one `KeptEntity` for each type that was
asked for. A type is asked for whenever something is done with it, if only to look. When its
content is frozen, its ids are listed once and for all, and the lists are handed out until the
content is dropped. Of a definition that is frozen as a whole, a type that was not asked for before
has content that belongs to nothing: it is empty, it is frozen, and it is lost after use.
-/

namespace ModMerge

/-- The content of one entity type as it is kept. -/
structure KeptEntity where
  defined : IdSet := ∅
  vanillaEdited : IdSet := ∅
  implicitCount : Nat := 0
  frozen : Bool := false
  /-- The defined ids as they were listed when the content was frozen. -/
  definedListing : Option (List Int) := none
  /-- The edited base-game ids as they were listed when the content was frozen. -/
  vanillaEditedListing : Option (List Int) := none

namespace KeptEntity

/-- The defined ids in ascending order, as listed before if they have been. -/
def definedIds (kept : KeptEntity) : List Int :=
  kept.definedListing.getD kept.defined.ids

/-- The edited base-game ids in ascending order, as listed before if they have been. -/
def vanillaEditedIds (kept : KeptEntity) : List Int :=
  kept.vanillaEditedListing.getD kept.vanillaEdited.ids

/-- The content without the listings. -/
def bare (kept : KeptEntity) : EntityDefinition where
  defined := kept.defined
  vanillaEdited := kept.vanillaEdited
  implicitCount := kept.implicitCount
  frozen := kept.frozen

/-- Change content that is not frozen. -/
def change (kept : KeptEntity) (type : EntityType) (update : KeptEntity → KeptEntity) :
    Except FrozenError KeptEntity :=
  if kept.frozen then .error (.entity type) else .ok (update kept)

/-- The content with its ids listed; it may no longer grow. What is frozen is not listed again. -/
def freeze (kept : KeptEntity) : KeptEntity :=
  if kept.frozen then kept
  else
    { kept with
      frozen := true
      definedListing := some kept.defined.ids
      vanillaEditedListing := some kept.vanillaEdited.ids }

/-- The same without any content or listings. -/
def cleared (kept : KeptEntity) : KeptEntity :=
  { frozen := kept.frozen }

end KeptEntity

/-- A definition as it is kept. -/
structure KeptDefinition where
  modName : String
  displayName : Option String := none
  warnings : List String := []
  /-- The content of the types that were asked for. -/
  entities : EntityTable (Option KeptEntity) := .uniform none
  names : NameTable NameBinding := .uniform ∅
  references : List NameReference := []
  frozen : Bool := false

namespace KeptDefinition

/-- Ask for the content of a type. There is some from then on, unless the definition is frozen. -/
def ask (kept : KeptDefinition) (type : EntityType) : KeptEntity × KeptDefinition :=
  match kept.entities.get type with
  | some entity => (entity, kept)
  | none =>
      if kept.frozen then (({} : KeptEntity).freeze, kept)
      else ({}, { kept with entities := kept.entities.set type (some {}) })

/-- The content that one gets when asking for a type. -/
def entity (kept : KeptDefinition) (type : EntityType) : KeptEntity :=
  (kept.ask type).1

/-- The definition with other content of a type, if it has any. -/
def replace (kept : KeptDefinition) (type : EntityType) (entity : KeptEntity) : KeptDefinition :=
  { kept with entities := kept.entities.modify type (·.map fun _ => entity) }

/-- Ask for the content of a type and do something with it. -/
def use (kept : KeptDefinition) (type : EntityType)
    (change : KeptEntity → Except FrozenError KeptEntity) :
    Except FrozenError Unit × KeptDefinition :=
  let (entity, asked) := kept.ask type
  match change entity with
  | .ok changed => (.ok (), asked.replace type changed)
  | .error error => (.error error, asked)

/-- Change a definition that is not frozen as a whole. -/
def changeWhole (kept : KeptDefinition) (update : KeptDefinition → KeptDefinition) :
    Except FrozenError Unit × KeptDefinition :=
  if kept.frozen then (.error (.definition kept.modName), kept) else (.ok (), update kept)

/-! ### What can be done -/

/-- Look at the content of a type. -/
def read (kept : KeptDefinition) (type : EntityType) :
    Except FrozenError Unit × KeptDefinition :=
  kept.use type .ok

/-- Add a defined id. -/
def addDefined (kept : KeptDefinition) (type : EntityType) (id : Int) :
    Except FrozenError Unit × KeptDefinition :=
  kept.use type (·.change type fun entity => { entity with defined := entity.defined.insert id })

/-- Add an edited base-game id. -/
def addVanilla (kept : KeptDefinition) (type : EntityType) (id : Int) :
    Except FrozenError Unit × KeptDefinition :=
  kept.use type (·.change type fun entity =>
    { entity with vanillaEdited := entity.vanillaEdited.insert id })

/-- Add a definition without an id; its index is the number of those that there were before. -/
def addImplicit (kept : KeptDefinition) (type : EntityType) :
    Except FrozenError Unit × KeptDefinition :=
  kept.use type (·.change type fun entity =>
    { entity with implicitCount := entity.implicitCount + 1 })

/-- Bind a name. -/
def bindName (kept : KeptDefinition) (name : String) (binding : NameBinding) :
    Except FrozenError Unit × KeptDefinition :=
  kept.changeWhole fun kept =>
    { kept with names := kept.names.modify binding.type (·.insert (nameKey name) binding) }

/-- Add a reference by name. -/
def addReference (kept : KeptDefinition) (type : EntityType) (name : String) :
    Except FrozenError Unit × KeptDefinition :=
  kept.changeWhole fun kept =>
    { kept with references := kept.references ++ [⟨type, nameKey name⟩] }

/-- Freeze the content of one type. -/
def freezeEntity (kept : KeptDefinition) (type : EntityType) :
    Except FrozenError Unit × KeptDefinition :=
  kept.use type fun entity => .ok entity.freeze

/-- Drop the content of one type. -/
def clearEntity (kept : KeptDefinition) (type : EntityType) :
    Except FrozenError Unit × KeptDefinition :=
  kept.use type fun entity => .ok entity.cleared

/-- Freeze the content of every type that was asked for, and the whole definition. -/
def freeze (kept : KeptDefinition) : KeptDefinition :=
  { kept with
    entities := .ofFunction fun type => (kept.entities.get type).map KeptEntity.freeze
    frozen := true }

/-- Drop all content, names and references. -/
def release (kept : KeptDefinition) : KeptDefinition :=
  { kept with entities := .uniform none, names := .uniform ∅, references := [] }

/-! ### What it shows -/

/-- The types of which the mod touches anything, in canonical order. -/
def entityTypes (kept : KeptDefinition) : List EntityType :=
  EntityType.all.filter fun type => (kept.entities.get type).any fun entity => !entity.bare.isEmpty

/-- What a name of a type is bound to. -/
def nameBinding? (kept : KeptDefinition) (type : EntityType) (name : String) :
    Option NameBinding :=
  (kept.names.get type)[nameKey name]?

/-- The content of a definition. -/
def content (kept : KeptDefinition) : DefinitionContent where
  modName := kept.modName
  displayName := kept.displayName
  warnings := kept.warnings
  types := kept.entityTypes.map fun type =>
    let entity := kept.entity type
    (type, entity.definedIds, entity.vanillaEditedIds, entity.implicitCount)
  names := kept.names.entries
  references := kept.references
  unresolved := kept.names.unresolved kept.references

end KeptDefinition
end ModMerge
