/-!
# Entity types

Every piece of content of the game belongs to one of thirteen entity types and is
numbered within its type. `EntityType.all` is the canonical order of the types: tables,
reports and mappings list them in this order. An `EntityTable` holds one value for each
type.
-/

namespace ModMerge

/-- The kinds of content that carry an id. -/
inductive EntityType where
  | weapon
  | armor
  | monster
  | spell
  | item
  | site
  | nation
  | nameType
  | enchantment
  | eventCode
  | popType
  | montag
  | restrictedItem
deriving DecidableEq, Repr, Inhabited

namespace EntityType

/-- All entity types in canonical order. -/
def all : List EntityType :=
  [weapon, armor, monster, spell, item, site, nation, nameType, enchantment, eventCode,
    popType, montag, restrictedItem]

/-- The position of a type in the canonical order. -/
def index : EntityType → Fin 13
  | weapon => 0
  | armor => 1
  | monster => 2
  | spell => 3
  | item => 4
  | site => 5
  | nation => 6
  | nameType => 7
  | enchantment => 8
  | eventCode => 9
  | popType => 10
  | montag => 11
  | restrictedItem => 12

/-- The type at a position of the canonical order. -/
def ofIndex (position : Fin 13) : EntityType :=
  all[position]

/-- The word that stands for a type in data and in short descriptions. -/
def word : EntityType → String
  | weapon => "weapon"
  | armor => "armor"
  | monster => "monster"
  | spell => "spell"
  | item => "item"
  | site => "site"
  | nation => "nation"
  | nameType => "nametype"
  | enchantment => "enchantment"
  | eventCode => "eventcode"
  | popType => "poptype"
  | montag => "montag"
  | restrictedItem => "restricteditem"

/-- The name of a type in comments and reports. -/
def label : EntityType → String
  | weapon => "Weapon"
  | armor => "Armor"
  | monster => "Monster"
  | spell => "Spell"
  | item => "Item"
  | site => "Site"
  | nation => "Nation"
  | nameType => "Name type"
  | enchantment => "Enchantment"
  | eventCode => "Event code"
  | popType => "Pop type"
  | montag => "Montag"
  | restrictedItem => "Restricted item"

/-- The type that a word stands for. -/
def ofWord? (text : String) : Option EntityType :=
  all.find? fun type => type.word == text

/-- Every type is listed in the canonical order. -/
theorem mem_all (type : EntityType) : type ∈ all := by
  cases type <;> decide

/-- No type is listed twice. -/
theorem nodup_all : all.Nodup := by
  decide

/-- A type is found at its own position. -/
@[simp]
theorem ofIndex_index (type : EntityType) : ofIndex type.index = type := by
  cases type <;> rfl

/-- Every position is that of the type found there. -/
@[simp]
theorem index_ofIndex (position : Fin 13) : (ofIndex position).index = position := by
  revert position
  decide

/-- Types at the same position are equal. -/
theorem index_injective {first second : EntityType} (same : first.index = second.index) :
    first = second := by
  rw [← ofIndex_index first, same, ofIndex_index]

/-- The word of a type determines the type. -/
theorem ofWord?_word (type : EntityType) : ofWord? type.word = some type := by
  cases type <;> rfl

end EntityType

/-- One value for each entity type. -/
structure EntityTable (Value : Type u) where
  /-- The values in canonical order. -/
  slots : Vector Value 13

namespace EntityTable

variable {Value : Type u}

/-- The table that holds the same value for every type. -/
def uniform (value : Value) : EntityTable Value :=
  ⟨.replicate 13 value⟩

/-- The table whose values are computed from the types. -/
def ofFunction (value : EntityType → Value) : EntityTable Value :=
  ⟨.ofFn fun position => value (.ofIndex position)⟩

/-- The value held for a type. -/
def get (table : EntityTable Value) (type : EntityType) : Value :=
  table.slots[type.index]

/-- The table with another value for one type. -/
def set (table : EntityTable Value) (type : EntityType) (value : Value) :
    EntityTable Value :=
  ⟨table.slots.set type.index value⟩

/-- The table with the value for one type changed. -/
def modify (table : EntityTable Value) (type : EntityType) (change : Value → Value) :
    EntityTable Value :=
  table.set type (change (table.get type))

@[simp]
theorem get_uniform (value : Value) (type : EntityType) :
    (uniform value).get type = value := by
  simp [get, uniform]

@[simp]
theorem get_ofFunction (value : EntityType → Value) (type : EntityType) :
    (ofFunction value).get type = value type := by
  simp [get, ofFunction]

@[simp]
theorem get_set_self (table : EntityTable Value) (type : EntityType) (value : Value) :
    (table.set type value).get type = value := by
  simp [get, set]

theorem get_set_of_ne (table : EntityTable Value) {type other : EntityType} (value : Value)
    (different : type ≠ other) : (table.set type value).get other = table.get other := by
  have positions : type.index.val ≠ other.index.val :=
    fun same => different (EntityType.index_injective (Fin.ext same))
  simp [get, set, positions]

/-- Setting one type changes that type and no other. -/
theorem get_set (table : EntityTable Value) (type other : EntityType) (value : Value) :
    (table.set type value).get other = if type = other then value else table.get other := by
  split
  · next same => subst same; exact get_set_self table type value
  · next different => exact get_set_of_ne table value different

@[simp]
theorem get_modify_self (table : EntityTable Value) (type : EntityType)
    (change : Value → Value) : (table.modify type change).get type = change (table.get type) :=
  get_set_self ..

theorem get_modify_of_ne (table : EntityTable Value) {type other : EntityType}
    (change : Value → Value) (different : type ≠ other) :
    (table.modify type change).get other = table.get other :=
  get_set_of_ne table _ different

/-- Tables that agree on every type are equal. -/
@[ext]
theorem ext {first second : EntityTable Value}
    (agree : ∀ type, first.get type = second.get type) : first = second := by
  obtain ⟨firstSlots⟩ := first
  obtain ⟨secondSlots⟩ := second
  congr 1
  ext position bound
  simpa [get] using agree (.ofIndex ⟨position, bound⟩)

end EntityTable
end ModMerge
