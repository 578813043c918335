import ModMerge.EntityRange
import ModMerge.Text.Blank
import ModMerge.Text.LowerCase

/-!
# What a spell's damage means

The damage value of a spell is a plain number unless the spell's effect makes it an id:
summoning effects take a monster, or a montag written as a negative number, and
enchantment effects take an enchantment. `interpretDamage` is the rule; a spell without
an effect of its own that copies or selects a well-known summoning spell of the base game
counts as summoning.
-/

namespace ModMerge

/-- The summoning effects that a ritual or a combat spell may have. -/
def summoningEffectBase : List Int :=
  [1, 10, 21, 31, 37, 38, 43, 50, 54, 62, 89, 93, 119, 126, 130, 137]

/-- The summoning effects, and the same effects raised by ten thousand for rituals. -/
def summoningEffects : List Int :=
  summoningEffectBase ++ summoningEffectBase.map (· + 10000)

/-- The effects whose damage is an enchantment. -/
def enchantmentEffects : List Int :=
  [81, 10081, 10082, 10084, 10085, 10086]

/-- Base-game spells, by id, that summon. -/
def knownSummonIds : List Int :=
  [721, 724, 733, 795, 805, 813, 818, 847, 875, 893, 900, 920, 1091]

/-- Base-game spells, by lower-case name, that summon. -/
def knownSummonNames : List String :=
  ["animate skeleton", "horde of skeletons", "raise skeletons", "reanimation",
    "pale riders", "revive lictor", "living mercury", "king of elemental earth",
    "summon fire elemental", "pack of wolves", "contact forest giant", "infernal disease",
    "hannya pact", "swarm", "creeping doom"]

/-- Whether damage under an effect is a monster or a montag. -/
def isSummoningEffect (effect : Int) : Bool :=
  summoningEffects.contains effect

/-- Whether damage under an effect is an enchantment. -/
def isEnchantmentEffect (effect : Int) : Bool :=
  enchantmentEffects.contains effect

/-- The form of a name under which entities are looked up: without surrounding blanks and
in lower case. -/
def nameKey (name : String) : String :=
  String.ofList (Text.lowerCase (Text.trim name.toList))

/-- Whether a spell given by id or by name is a base-game spell that summons. -/
def isKnownSummonSpell (id : Option Int) (name : Option String) : Bool :=
  id.any (knownSummonIds.contains ·) || name.any (knownSummonNames.contains <| nameKey ·)

/-- The content that a damage value refers to under an effect; `none` if the value is a
plain number. `knownSummon` says that the spell copies or selects a summoning spell. -/
def interpretDamage (effect : Option Int) (damage : Int) (knownSummon : Bool) :
    Option EntityId :=
  let summons :=
    match effect with
    | some effect => isSummoningEffect effect
    | none => knownSummon
  if summons then
    if 0 < damage then some ⟨.monster, damage⟩
    else if damage < 0 then some ⟨.montag, -damage⟩
    else none
  else if effect.any isEnchantmentEffect && 0 < damage then
    some ⟨.enchantment, damage⟩
  else
    none

end ModMerge
