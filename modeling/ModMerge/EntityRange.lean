import ModMerge.EntityType
import ModMerge.Text.Numeral

/-!
# Id ranges

The ids of a type are split in two: `0` up to `vanillaEnd` belong to the base game, and
the ids after that up to `moddingEnd` are free for mods. `EntityRange.of?` refuses bounds
that leave nothing for mods, and `defaultRanges` is the split that the game uses.
-/

namespace ModMerge

/-- The ids that the base game and the mods own within one type. -/
structure EntityRange where
  /-- The last id of the base game. -/
  vanillaEnd : Int
  /-- The last id that a mod may use. -/
  moddingEnd : Int
  /-- Where fresh ids are conventionally handed out first. -/
  preferredStart : Option Int
  /-- Mods own at least one id. -/
  vanillaEnd_lt_moddingEnd : vanillaEnd < moddingEnd
  /-- The conventional start is an id that mods own. -/
  preferredStart_mem : ∀ start ∈ preferredStart, vanillaEnd < start ∧ start ≤ moddingEnd
deriving DecidableEq

/-- Why bounds do not form an id range. -/
inductive EntityRangeError where
  | nothingForMods (vanillaEnd moddingEnd : Int)
  | preferredOutside (preferredStart : Int)
deriving DecidableEq, Repr

namespace EntityRangeError

/-- The numbers that stand in the wording of a refused id range. -/
def numbers : EntityRangeError → List Int
  | nothingForMods vanillaEnd moddingEnd => [moddingEnd, vanillaEnd]
  | preferredOutside preferredStart => [preferredStart]

/-- The wording of a refused id range. -/
def wording : EntityRangeError → String
  | nothingForMods vanillaEnd moddingEnd =>
      "modding_end " ++ Text.decimalString moddingEnd ++ " must exceed vanilla_end " ++
        Text.decimalString vanillaEnd
  | preferredOutside preferredStart =>
      "preferred_start " ++ Text.decimalString preferredStart ++ " outside modding range"

/-- What is said about a refused id range, or about its wording if that cannot be written. -/
def message (error : EntityRangeError) : String :=
  match Text.requireWritable error.numbers with
  | .ok _ => error.wording
  | .error unwritten => unwritten.message

end EntityRangeError

namespace EntityRange

/-- The first id that a mod may use. -/
def moddingStart (range : EntityRange) : Int :=
  range.vanillaEnd + 1

/-- The first and the last id that a mod may use. -/
def bounds (range : EntityRange) : List Int :=
  [range.moddingStart, range.moddingEnd]

/-- Whether the base game owns an id. -/
def isVanilla (range : EntityRange) (id : Int) : Bool :=
  0 ≤ id && id ≤ range.vanillaEnd

/-- Whether mods own an id. -/
def isModding (range : EntityRange) (id : Int) : Bool :=
  range.moddingStart ≤ id && id ≤ range.moddingEnd

/-- The range with the given bounds, if they leave ids for mods and the preferred start is
one of those. -/
def of? (vanillaEnd moddingEnd : Int) (preferredStart : Option Int) :
    Except EntityRangeError EntityRange :=
  if ordered : vanillaEnd < moddingEnd then
    if inside : ∀ start ∈ preferredStart, vanillaEnd < start ∧ start ≤ moddingEnd then
      .ok ⟨vanillaEnd, moddingEnd, preferredStart, ordered, inside⟩
    else
      .error (.preferredOutside (preferredStart.getD 0))
  else
    .error (.nothingForMods vanillaEnd moddingEnd)

theorem isVanilla_iff (range : EntityRange) (id : Int) :
    range.isVanilla id = true ↔ 0 ≤ id ∧ id ≤ range.vanillaEnd := by
  simp [isVanilla]

theorem isModding_iff (range : EntityRange) (id : Int) :
    range.isModding id = true ↔ range.vanillaEnd < id ∧ id ≤ range.moddingEnd := by
  simp only [isModding, moddingStart, Bool.and_eq_true, decide_eq_true_eq, Int.add_one_le_iff]

/-- The base game and the mods share no id. -/
theorem not_isModding_of_isVanilla (range : EntityRange) (id : Int)
    (vanilla : range.isVanilla id = true) : range.isModding id = false := by
  rw [isVanilla_iff] at vanilla
  rw [Bool.eq_false_iff, ne_eq, isModding_iff]
  omega

end EntityRange

/-- A range for every entity type. -/
abbrev RangeTable := EntityTable EntityRange

/-- The ranges of the game. -/
def defaultRange : EntityType → EntityRange
  | .weapon => ⟨999, 3999, some 2250, by decide, by decide⟩
  | .armor => ⟨399, 1999, some 1250, by decide, by decide⟩
  | .monster => ⟨4999, 19999, some 13500, by decide, by decide⟩
  | .spell => ⟨1999, 7999, some 5750, by decide, by decide⟩
  | .item => ⟨699, 1999, some 1450, by decide, by decide⟩
  | .site => ⟨1699, 3999, some 2150, by decide, by decide⟩
  | .nation => ⟨149, 499, some 330, by decide, by decide⟩
  | .nameType => ⟨169, 399, some 250, by decide, by decide⟩
  | .enchantment => ⟨199, 9999, some 7750, by decide, by decide⟩
  | .eventCode => ⟨0, 5000, none, by decide, by decide⟩
  | .popType => ⟨124, 249, some 205, by decide, by decide⟩
  | .montag => ⟨999, 100000, none, by decide, by decide⟩
  | .restrictedItem => ⟨0, 10000, none, by decide, by decide⟩

/-- The ranges of the game as a table. -/
def defaultRanges : RangeTable :=
  .ofFunction defaultRange

/-- A piece of content: a type and an id of that type. -/
structure EntityId where
  type : EntityType
  id : Int
deriving DecidableEq, Repr

end ModMerge
