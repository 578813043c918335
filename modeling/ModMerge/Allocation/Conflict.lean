import ModMerge.Mod.Definition

/-!
# Conflicts between mods

Mods conflict in two ways. Two of them may define the same id; the mod that comes later in
the order of names then gives way, and a `ModConflict.collision` says which of its ids had
been taken by whom. Or several of them may edit the same content of the base game, which
cannot be moved; `sharedEdits` finds these.
-/

namespace ModMerge

/-- A conflict between mods over ids of one type. -/
inductive ModConflict where
  /-- `claimant` moved content because `owner` has these ids. -/
  | collision (type : EntityType) (ids : List Int) (owner claimant : String)
  /-- Exactly these mods edit these ids of the base game. -/
  | sharedEdit (type : EntityType) (ids : List Int) (mods : List String)
deriving DecidableEq, Repr

namespace ModConflict

/-- The word for a kind of conflict. -/
def kindName : ModConflict → String
  | collision .. => "REMAPPED"
  | sharedEdit .. => "VANILLA_EDIT"

def type : ModConflict → EntityType
  | collision type .. | sharedEdit type .. => type

def ids : ModConflict → List Int
  | collision _ ids .. | sharedEdit _ ids _ => ids

/-- The mods of a conflict; of a collision, the owner before the claimant. -/
def mods : ModConflict → List String
  | collision _ _ owner claimant => [owner, claimant]
  | sharedEdit _ _ mods => mods

/-- Whether a conflict could not be settled, so that the user has to be warned. -/
def isWarning : ModConflict → Bool
  | collision .. => false
  | sharedEdit .. => true

end ModConflict

/-- Ids of one type that `owner` has and `claimant` defines as well. -/
structure Collision where
  type : EntityType
  owner : String
  claimant : String
  ids : List Int
deriving DecidableEq, Repr

/-- A collision as a conflict. -/
def Collision.toConflict (collision : Collision) : ModConflict :=
  .collision collision.type collision.ids.mergeSort collision.owner collision.claimant

/-- Note that `owner` has an id that `claimant` defines as well. Ids of the same type and
the same two mods are kept together, at the place of the first of them. -/
def noteCollision (type : EntityType) (owner claimant : String) (id : Int) :
    List Collision → List Collision
  | [] => [⟨type, owner, claimant, [id]⟩]
  | collision :: others =>
      if collision.type = type ∧ collision.owner = owner ∧ collision.claimant = claimant then
        { collision with ids := collision.ids ++ [id] } :: others
      else
        collision :: noteCollision type owner claimant id others

/-- The names of the mods that edit an id of the base game, in the order of the mods. -/
def editorsOf (definitions : List ModDefinition) (type : EntityType) (id : Int) :
    List String :=
  (definitions.filter fun definition =>
    (definition.entity type).vanillaEdited.contains id).map (·.modName)

/-- The ids of a type that some mod edits, in ascending order. -/
def editedIds (definitions : List ModDefinition) (type : EntityType) : List Int :=
  (definitions.foldl (fun ids definition =>
    IdSet.insertAll ids (definition.entity type).vanillaEditedIds) (∅ : IdSet)).ids

/-- Put an id to the ids that exactly these mods edit, at the place of the first of
them. -/
def groupEdit (mods : List String) (id : Int) :
    List (List String × List Int) → List (List String × List Int)
  | [] => [(mods, [id])]
  | (others, ids) :: rest =>
      if others = mods then (others, ids ++ [id]) :: rest
      else (others, ids) :: groupEdit mods id rest

/-- The ids of a type that several mods edit, grouped by these mods; groups stand in the
order of their first ids. -/
def sharedEdits (definitions : List ModDefinition) (type : EntityType) :
    List (List String × List Int) :=
  (editedIds definitions type).foldl (fun groups id =>
    let mods := editorsOf definitions type id
    if mods.length > 1 then groupEdit mods id groups else groups) []

/-- The conflicts over content of the base game, by type. -/
def sharedEditConflicts (definitions : List ModDefinition) : List ModConflict :=
  EntityType.all.flatMap fun type =>
    (sharedEdits definitions type).map fun (mods, ids) => .sharedEdit type ids mods

end ModMerge
