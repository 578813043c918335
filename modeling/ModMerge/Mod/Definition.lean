import ModMerge.Ids.IdSet
import ModMerge.Mod.NameBinding
import ModMerge.SpellEffect
import ModMerge.Text.Quoted
import Std.Data.TreeMap

/-!
# What a mod defines

A `ModDefinition` is what reading a mod leaves behind: for each entity type the ids that
the mod defines, the base-game ids that it edits and the number of its definitions without
an id, and besides these its names and its references by name. Recording is unconditional
(`recordDefined` and the like); the operations for other callers (`addDefined` and the
like) refuse to change what has been frozen.
-/

namespace ModMerge

/-- The content of one entity type that one mod touches. -/
structure EntityDefinition where
  /-- Ids that the mod creates or owns. -/
  defined : IdSet := ∅
  /-- Ids of the base game that the mod edits. -/
  vanillaEdited : IdSet := ∅
  /-- How many definitions have no id yet. -/
  implicitCount : Nat := 0
  /-- Whether the content may no longer grow. -/
  frozen : Bool := false

namespace EntityDefinition

/-- The defined ids in ascending order. -/
def definedIds (entity : EntityDefinition) : List Int :=
  entity.defined.ids

/-- The edited base-game ids in ascending order. -/
def vanillaEditedIds (entity : EntityDefinition) : List Int :=
  entity.vanillaEdited.ids

/-- Whether the mod touches nothing of the type. -/
def isEmpty (entity : EntityDefinition) : Bool :=
  entity.defined.isEmpty && entity.vanillaEdited.isEmpty && entity.implicitCount == 0

/-- The same without any content. -/
def cleared (entity : EntityDefinition) : EntityDefinition :=
  { frozen := entity.frozen }

/-- A one-line description. -/
def describe (entity : EntityDefinition) (type : EntityType) : String :=
  "EntityDefinition(" ++ type.word ++ ", defined=" ++
    Text.decimalString entity.defined.size ++ ", vanilla=" ++
    Text.decimalString entity.vanillaEdited.size ++ ", implicit=" ++
    Text.decimalString entity.implicitCount ++ ")"

end EntityDefinition

/-- A change to something frozen. -/
inductive FrozenError where
  /-- The content of one type of a mod. -/
  | entity (type : EntityType)
  /-- The definition of a whole mod. -/
  | definition (modName : String)
  /-- The ids assigned to a mod. -/
  | mapping (modName : String)
deriving DecidableEq, Repr

/-- The wording of a refused change. -/
def FrozenError.message : FrozenError → String
  | .entity type => type.label ++ " definition is frozen"
  | .definition modName => "definition of " ++ modName ++ " is frozen"
  | .mapping modName => "mapping for " ++ modName ++ " is frozen"

/-- A reference to content by its name; `key` is the name as it is looked up. -/
structure NameReference where
  type : EntityType
  key : String
deriving DecidableEq, Repr

/-- Values held under names, for each type of content. -/
abbrev NameTable (Value : Type) := EntityTable (Std.TreeMap String Value)

/-- The values of a name table with their types and names, by type and then by name. -/
def NameTable.entries {Value : Type} (names : NameTable Value) :
    List (EntityType × String × Value) :=
  EntityType.all.flatMap fun type =>
    (names.get type).toList.map fun (key, value) => (type, key, value)

/-- The references to content under a name that the table does not have. -/
def NameTable.unresolved {Value : Type} (names : NameTable Value)
    (references : List NameReference) : List NameReference :=
  references.filter fun reference => !(names.get reference.type).contains reference.key

/-- All that a listing shows of a definition. -/
structure DefinitionContent where
  modName : String
  displayName : Option String
  warnings : List String
  /-- The types with content: their defined ids, their edited ids, and how many definitions have
  no id. -/
  types : List (EntityType × List Int × List Int × Nat)
  names : List (EntityType × String × NameBinding)
  references : List NameReference
  /-- References by name to content that the mod gives no such name. -/
  unresolved : List NameReference

/-- A one-line description. -/
def DefinitionContent.describe (content : DefinitionContent) : String :=
  let words := content.types.map fun (type, _) => Text.quotedString type.word
  "ModDefinition(" ++ Text.quotedString content.modName ++ ", types=[" ++
    ", ".intercalate words ++ "])"

/-- Everything that one mod defines. -/
structure ModDefinition where
  modName : String
  /-- The name that the mod gives itself. -/
  displayName : Option String := none
  /-- Irregularities of the script that do not prevent its use, in order. -/
  warnings : List String := []
  /-- The content of each type; a type that was frozen by itself is marked there. -/
  entities : EntityTable EntityDefinition := .uniform {}
  names : NameTable NameBinding := .uniform ∅
  /-- References by name, in order. -/
  references : List NameReference := []
  /-- Whether the definition as a whole may no longer change. -/
  frozen : Bool := false

namespace ModDefinition

/-- The content of a type; it is frozen if the type is or the whole definition is. -/
def entity (definition : ModDefinition) (type : EntityType) : EntityDefinition :=
  let entity := definition.entities.get type
  { entity with frozen := entity.frozen || definition.frozen }

/-- The types of which the mod touches anything, in canonical order. -/
def entityTypes (definition : ModDefinition) : List EntityType :=
  EntityType.all.filter fun type => !(definition.entity type).isEmpty

/-- What a name of a type is bound to. -/
def nameBinding? (definition : ModDefinition) (type : EntityType) (name : String) :
    Option NameBinding :=
  (definition.names.get type)[nameKey name]?

/-- The content of a definition. -/
def content (definition : ModDefinition) : DefinitionContent where
  modName := definition.modName
  displayName := definition.displayName
  warnings := definition.warnings
  types := definition.entityTypes.map fun type =>
    let entity := definition.entity type
    (type, entity.definedIds, entity.vanillaEditedIds, entity.implicitCount)
  names := definition.names.entries
  references := definition.references
  unresolved := definition.names.unresolved definition.references

/-! ### Recording -/

/-- The definition with a defined id. -/
def recordDefined (definition : ModDefinition) (type : EntityType) (id : Int) :
    ModDefinition :=
  { definition with
    entities := definition.entities.modify type fun entity =>
      { entity with defined := entity.defined.insert id } }

/-- The definition with an edited base-game id. -/
def recordVanilla (definition : ModDefinition) (type : EntityType) (id : Int) :
    ModDefinition :=
  { definition with
    entities := definition.entities.modify type fun entity =>
      { entity with vanillaEdited := entity.vanillaEdited.insert id } }

/-- The index that the next definition without an id gets. -/
def nextImplicitIndex (definition : ModDefinition) (type : EntityType) : Nat :=
  (definition.entities.get type).implicitCount

/-- The definition with one more definition without an id. -/
def recordImplicit (definition : ModDefinition) (type : EntityType) : ModDefinition :=
  { definition with
    entities := definition.entities.modify type fun entity =>
      { entity with implicitCount := entity.implicitCount + 1 } }

/-- The definition with a name bound; an earlier binding of the name is replaced. -/
def recordName (definition : ModDefinition) (name : String) (binding : NameBinding) :
    ModDefinition :=
  { definition with
    names := definition.names.modify binding.type (·.insert (nameKey name) binding) }

/-- The definition with a further reference by name. -/
def recordReference (definition : ModDefinition) (type : EntityType) (name : String) :
    ModDefinition :=
  { definition with references := definition.references ++ [⟨type, nameKey name⟩] }

/-- The definition with a further warning. -/
def recordWarning (definition : ModDefinition) (warning : String) : ModDefinition :=
  { definition with warnings := definition.warnings ++ [warning] }

/-! ### Changes that freezing forbids -/

/-- Change the content of a type that is not frozen. -/
def changeEntity (definition : ModDefinition) (type : EntityType)
    (change : ModDefinition → ModDefinition) : Except FrozenError ModDefinition :=
  if (definition.entity type).frozen then .error (.entity type)
  else .ok (change definition)

/-- Change a definition that is not frozen as a whole. -/
def changeWhole (definition : ModDefinition) (change : ModDefinition → ModDefinition) :
    Except FrozenError ModDefinition :=
  if definition.frozen then .error (.definition definition.modName)
  else .ok (change definition)

/-- Add a defined id. -/
def addDefined (definition : ModDefinition) (type : EntityType) (id : Int) :
    Except FrozenError ModDefinition :=
  definition.changeEntity type (·.recordDefined type id)

/-- Add an edited base-game id. -/
def addVanilla (definition : ModDefinition) (type : EntityType) (id : Int) :
    Except FrozenError ModDefinition :=
  definition.changeEntity type (·.recordVanilla type id)

/-- Add a definition without an id; its index is `definition.nextImplicitIndex type`. -/
def addImplicit (definition : ModDefinition) (type : EntityType) :
    Except FrozenError ModDefinition :=
  definition.changeEntity type (·.recordImplicit type)

/-- Bind a name. -/
def bindName (definition : ModDefinition) (name : String) (binding : NameBinding) :
    Except FrozenError ModDefinition :=
  definition.changeWhole (·.recordName name binding)

/-- Add a reference by name. -/
def addReference (definition : ModDefinition) (type : EntityType) (name : String) :
    Except FrozenError ModDefinition :=
  definition.changeWhole (·.recordReference type name)

/-! ### Freezing and clearing -/

/-- Freeze the content of one type. -/
def freezeEntity (definition : ModDefinition) (type : EntityType) : ModDefinition :=
  { definition with
    entities := definition.entities.modify type fun entity => { entity with frozen := true } }

/-- Drop the content of one type; whether it is frozen does not matter and stays. -/
def clearEntity (definition : ModDefinition) (type : EntityType) : ModDefinition :=
  { definition with entities := definition.entities.modify type EntityDefinition.cleared }

/-- Freeze the whole definition. -/
def freeze (definition : ModDefinition) : ModDefinition :=
  { definition with frozen := true }

/-- Drop all content, names and references. Types that were frozen by themselves are so no
longer; a definition that was frozen as a whole still is. -/
def release (definition : ModDefinition) : ModDefinition :=
  { definition with entities := .uniform {}, names := .uniform ∅, references := [] }

end ModDefinition
end ModMerge
