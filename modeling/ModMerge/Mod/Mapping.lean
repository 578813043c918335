import ModMerge.Mod.Definition

/-!
# The ids assigned to a mod

A `ModMapping` says what became of one mod's ids: which of them moved and where to
(`remapped`), which ids its definitions without an id were given, and which ids its names
stand for. An id without an entry has kept its number.
-/

namespace ModMerge

/-- The outcome of allocation for one mod. -/
structure ModMapping where
  modName : String
  /-- New ids of the ids that moved. -/
  remapped : EntityTable (Std.TreeMap Int Int) := .uniform ∅
  /-- Ids of the definitions without an id, by index. -/
  implicit : EntityTable (Array Int) := .uniform #[]
  names : NameTable Int := .uniform ∅
  /-- Whether the mapping may no longer change. -/
  frozen : Bool := false

/-- One id that moved. -/
structure Remap where
  type : EntityType
  old : Int
  new : Int
deriving DecidableEq, Repr

namespace ModMapping

/-- The new id of an id; an id without an entry keeps its number. -/
def newId (mapping : ModMapping) (type : EntityType) (id : Int) : Int :=
  (mapping.remapped.get type).getD id id

/-- Whether an id has an entry. -/
def isRemapped (mapping : ModMapping) (type : EntityType) (id : Int) : Bool :=
  (mapping.remapped.get type).contains id

/-- The id of the definition without an id that has the given index. -/
def implicitId? (mapping : ModMapping) (type : EntityType) (index : Nat) : Option Int :=
  (mapping.implicit.get type)[index]?

/-- The ids of all definitions without an id, by index. -/
def implicitIds (mapping : ModMapping) (type : EntityType) : List Int :=
  (mapping.implicit.get type).toList

/-- The id that a name stands for. -/
def resolveName? (mapping : ModMapping) (type : EntityType) (name : String) : Option Int :=
  (mapping.names.get type)[nameKey name]?

/-- The ids of a type that moved, in ascending order. -/
def remapsOf (mapping : ModMapping) (type : EntityType) : List Remap :=
  (mapping.remapped.get type).toList.map fun (old, new) => ⟨type, old, new⟩

/-- All ids that moved, by type and then in ascending order. -/
def remaps (mapping : ModMapping) : List Remap :=
  EntityType.all.flatMap mapping.remapsOf

/-- How many ids moved. -/
def remapCount (mapping : ModMapping) : Nat :=
  EntityType.all.foldl (fun count type => count + (mapping.remapped.get type).size) 0

/-- A one-line description. -/
def describe (mapping : ModMapping) : String :=
  "MappedModDefinition(" ++ Text.quotedString mapping.modName ++ ", mappings=" ++
    Text.decimalString mapping.remapCount ++ ")"

/-! ### Recording -/

/-- The mapping with an id moved. An id that would keep its number leaves the mapping as it
is, even if it has an entry. -/
def recordRemap (mapping : ModMapping) (type : EntityType) (old new : Int) :
    ModMapping :=
  if old = new then mapping
  else { mapping with remapped := mapping.remapped.modify type (·.insert old new) }

/-- The mapping with the id of the next definition without an id. -/
def recordImplicit (mapping : ModMapping) (type : EntityType) (id : Int) : ModMapping :=
  { mapping with implicit := mapping.implicit.modify type (·.push id) }

/-- The mapping with a name that stands for an id. -/
def recordName (mapping : ModMapping) (type : EntityType) (name : String) (id : Int) :
    ModMapping :=
  { mapping with names := mapping.names.modify type (·.insert (nameKey name) id) }

/-! ### Changes that freezing forbids -/

/-- Change a mapping that is not frozen. -/
def change (mapping : ModMapping) (change : ModMapping → ModMapping) :
    Except FrozenError ModMapping :=
  if mapping.frozen then .error (.mapping mapping.modName) else .ok (change mapping)

/-- Add an entry for an id that moved. -/
def addRemap (mapping : ModMapping) (type : EntityType) (old new : Int) :
    Except FrozenError ModMapping :=
  mapping.change (·.recordRemap type old new)

/-- Add the id of the next definition without an id; its index is
`mapping.nextImplicitIndex type`. -/
def addImplicit (mapping : ModMapping) (type : EntityType) (id : Int) :
    Except FrozenError ModMapping :=
  mapping.change (·.recordImplicit type id)

/-- The index that the next definition without an id gets. -/
def nextImplicitIndex (mapping : ModMapping) (type : EntityType) : Nat :=
  (mapping.implicit.get type).size

/-- Let a name stand for an id. -/
def bindName (mapping : ModMapping) (type : EntityType) (name : String) (id : Int) :
    Except FrozenError ModMapping :=
  mapping.change (·.recordName type name id)

/-- Freeze the mapping. -/
def freeze (mapping : ModMapping) : ModMapping :=
  { mapping with frozen := true }

/-- Drop all entries, ids and names. -/
def release (mapping : ModMapping) : ModMapping :=
  { mapping with remapped := .uniform ∅, implicit := .uniform #[], names := .uniform ∅ }

end ModMapping
end ModMerge
