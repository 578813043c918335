import ModMerge.Mod.Renumbering
import ModMerge.Proofs.Script.DirectiveTable
import ModMerge.Proofs.Text.Numerals

/-!
# Where content moves

What renumbering relies on about the ids of a mod is collected in `ModMapping.Sound`:
base-game content stays, and what moves or is new gets an id that mods own. The number that
renumbering writes for content that moved then names that content where it is now, for
directives and for the damage values of spells alike (`read_movedNumber`).
-/

namespace ModMerge

namespace ModMapping

variable {mapping : ModMapping}

/-- Base-game content stays, and all other ids that are settled on belong to mods. -/
structure Sound (mapping : ModMapping) : Prop where
  vanilla : ∀ type id, (defaultRange type).isVanilla id = true → mapping.newId type id = id
  moved : ∀ type id, mapping.newId type id ≠ id →
    (defaultRange type).isModding (mapping.newId type id) = true
  implicit : ∀ type index id, mapping.implicitId? type index = some id →
    (defaultRange type).isModding id = true

/-- Content has moved to the id, or the id has been given to content without one. -/
def Assigns (mapping : ModMapping) (id : Int) : Prop :=
  (∃ type old, mapping.newId type old ≠ old ∧ mapping.newId type old = id) ∨
    ∃ type index, mapping.implicitId? type index = some id

/-- No id that is assigned has more digits than can be read. -/
def ShortIds (mapping : ModMapping) : Prop :=
  ∀ id, mapping.Assigns id → Text.Short id

/-- The content where it is now. -/
def movedContent (mapping : ModMapping) (content : EntityId) : EntityId :=
  ⟨content.type, mapping.newId content.type content.id⟩

/-- The number that takes the place of a number that is read as `content`. -/
def movedNumber (mapping : ModMapping) (content : Option EntityId) (number : Int) : Int :=
  match content.bind fun content => mapping.remapContent content (number < 0) with
  | some remap => remap.argument
  | none => number

/-- Ids that mods own are positive and not long. -/
theorem bounds_of_isModding {type : EntityType} {id : Int}
    (modding : (defaultRange type).isModding id = true) : 0 < id ∧ id ≤ 100000 := by
  have bounds : 0 ≤ (defaultRange type).vanillaEnd ∧ (defaultRange type).moddingEnd ≤ 100000 := by
    cases type <;> decide
  rw [EntityRange.isModding_iff] at modding
  omega

/-- Moving does not make content belong to the base game, nor take it from there. -/
theorem Sound.isVanilla_newId (sound : mapping.Sound) (type : EntityType) (id : Int) :
    (defaultRange type).isVanilla (mapping.newId type id) = (defaultRange type).isVanilla id := by
  by_cases stays : mapping.newId type id = id
  · rw [stays]
  · have notVanilla : (defaultRange type).isVanilla id = false := by
      rw [← Bool.not_eq_true]
      exact fun vanilla => stays (sound.vanilla type id vanilla)
    rw [notVanilla, ← Bool.not_eq_true]
    intro vanilla
    have modding := sound.moved type id stays
    rw [EntityRange.not_isModding_of_isVanilla _ _ vanilla] at modding
    cases modding

/-- Ids that mods own can be written and read. -/
theorem short_of_isModding {type : EntityType} {id : Int}
    (modding : (defaultRange type).isModding id = true) : Text.Short id := by
  have bounds := bounds_of_isModding modding
  have small : id.natAbs < 10 ^ 6 := by omega
  exact Nat.lt_of_lt_of_le small (Nat.pow_le_pow_right (by decide) (by decide))

theorem Sound.shortIds (sound : mapping.Sound) : mapping.ShortIds := by
  rintro _ (⟨type, old, moves, rfl⟩ | ⟨type, index, settled⟩)
  · exact short_of_isModding (sound.moved type old moves)
  · exact short_of_isModding (sound.implicit type index _ settled)

/-- The ways in which a mod's numbers are read: the sign of a number decides about the type of
the content, and its magnitude is the id. -/
def FollowsSign (read : Int → Option EntityId) : Prop :=
  ∀ number content, read number = some content → ∀ id, 0 < id →
    read (if number < 0 then -id else id) = some ⟨content.type, id⟩

theorem followsSign_resolve (ref : DirectiveRef) : FollowsSign ref.resolve := by
  intro number content found id positive
  by_cases negative : number < 0
  · rw [DirectiveRef.resolve, if_pos negative] at found
    obtain ⟨type, isType, rfl⟩ := Option.map_eq_some_iff.1 found
    rw [if_pos negative, DirectiveRef.resolve, if_pos (by omega), isType, Int.neg_neg]
    rfl
  · rw [DirectiveRef.resolve, if_neg negative] at found
    split at found
    · next accepts =>
        obtain rfl := Option.some.inj found
        rw [if_neg negative, DirectiveRef.resolve, if_neg (by omega), if_pos accepts]
    · cases found

theorem followsSign_interpretDamage (effect : Option Int) (knownSummon : Bool) :
    FollowsSign fun damage => interpretDamage effect damage knownSummon := by
  have general : ∀ summons enchants : Bool, FollowsSign fun damage =>
      if summons then
        if 0 < damage then some ⟨.monster, damage⟩
        else if damage < 0 then some ⟨.montag, -damage⟩
        else none
      else if enchants && 0 < damage then some ⟨.enchantment, damage⟩
      else none := by
    intro summons enchants number content found id positive
    simp only at found ⊢
    split at found
    · next isSummons =>
        rw [if_pos isSummons]
        split at found
        · next isPositive =>
            obtain rfl := Option.some.inj found
            have notNegative : ¬ number < 0 := by omega
            rw [if_neg notNegative, if_pos positive]
        split at found
        · next negative =>
            obtain rfl := Option.some.inj found
            rw [if_pos negative, if_neg (by omega), if_pos (by omega), Int.neg_neg]
        · cases found
    · next isNoSummons =>
        rw [if_neg isNoSummons]
        split at found
        · next isEnchantment =>
            obtain rfl := Option.some.inj found
            rw [Bool.and_eq_true, decide_eq_true_eq] at isEnchantment
            have notNegative : ¬ number < 0 := by omega
            rw [if_neg notNegative, if_pos (by simp [isEnchantment.1, positive])]
        · cases found
  exact general _ _

/-- What a remapped argument is. -/
theorem remapContent_eq_some_iff {content : EntityId} {negative : Bool}
    {remap : RemappedArgument} : mapping.remapContent content negative = some remap ↔
      mapping.newId content.type content.id ≠ content.id ∧
      remap = ⟨content.type, content.id, mapping.newId content.type content.id,
        if negative then -mapping.newId content.type content.id
          else mapping.newId content.type content.id⟩ := by
  simp only [remapContent]
  split
  · next same => simp [same]
  · next different => simp [different, eq_comm]

theorem short_of_remapContent (sound : mapping.Sound) {content : EntityId} {negative : Bool}
    {remap : RemappedArgument} (moves : mapping.remapContent content negative = some remap) :
    Text.Short remap.argument := by
  obtain ⟨different, rfl⟩ := remapContent_eq_some_iff.1 moves
  have short := short_of_isModding (sound.moved _ _ different)
  simp only
  split
  · rwa [Text.Short, Int.natAbs_neg]
  · exact short

/-- The new number is read as the content where it is now. -/
theorem read_movedNumber (sound : mapping.Sound) {read : Int → Option EntityId}
    (followsSign : FollowsSign read) (number : Int) :
    read (mapping.movedNumber (read number) number) =
      (read number).map mapping.movedContent := by
  cases found : read number with
  | none => simpa [movedNumber] using found
  | some content =>
      by_cases stays : mapping.newId content.type content.id = content.id
      · have unchanged : mapping.movedNumber (some content) number = number := by
          simp [movedNumber, remapContent, stays]
        rw [unchanged, found, Option.map_some, movedContent, stays]
      · have positive := (bounds_of_isModding (sound.moved _ _ stays)).1
        have written := followsSign number content found _ positive
        simpa [movedNumber, remapContent, stays, movedContent] using written

end ModMapping
end ModMerge
