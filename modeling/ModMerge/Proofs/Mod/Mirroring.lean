import ModMerge.Proofs.Mod.MovedContent
import ModMerge.Proofs.Mod.Recording

/-!
# The same mod, renumbered

Two surveys are compared: one of a mod and one of what renumbering has written of it. The
second mirrors the first if it has found the same content where the ids have moved to, the
definitions without an id among it, and the same references (`Survey.Mirrors`). It may
have begun in the middle of a larger file; names are compared only if it did not.
-/

namespace ModMerge

theorem eq_none_of_rel {First Second : Type} {related : First → Second → Prop}
    {second : Option Second} (both : Option.Rel related none second) : second = none := by
  cases both
  rfl

theorem exists_of_rel_some {First Second : Type} {related : First → Second → Prop} {first : First}
    {second : Option Second} (both : Option.Rel related (some first) second) :
    ∃ value, second = some value ∧ related first value := by
  cases both with
  | some here => exact ⟨_, rfl, here⟩

theorem isSome_of_rel {First Second : Type} {related : First → Second → Prop}
    {first : Option First} {second : Option Second} (both : Option.Rel related first second) :
    second.isSome = first.isSome := by
  cases both <;> rfl

/-- A reading of the name is settled if it stands for the id that the mapping gives. -/
structure NameBinding.SettledAs (mapping : ModMapping) (binding settled : NameBinding) : Prop where
  type_eq : settled.type = binding.type
  target : ∃ id, settled.target = .explicit id ∧ mapping.resolveBinding? binding = some id

/-- Whether a spell is known to summon. -/
def SpellReference.isKnownSummon (reference : SpellReference) : Bool :=
  isKnownSummonSpell reference.id reference.name

/-- A spell block whose damage value has been replaced by `damage`, as long as the value has
not been dealt with. -/
structure SpellBlock.MirroredBy (damage : Option Int) (spell read : SpellBlock) : Prop where
  effect : read.effect = spell.effect
  resolved : read.resolved = spell.resolved
  selected : read.selected.isKnownSummon = spell.selected.isKnownSummon
  copied : read.copied.isKnownSummon = spell.copied.isKnownSummon
  damage : spell.resolved = false → read.damage = damage

/-- `read` is `base` with the content and the references of `definition` added, every id where
it has moved to. -/
structure ModDefinition.Mirrors (mapping : ModMapping) (definition base read : ModDefinition) :
    Prop where
  defined : ∀ type id, id ∈ (read.entities.get type).defined ↔
    id ∈ (base.entities.get type).defined ∨
    (∃ old ∈ (definition.entities.get type).defined, mapping.newId type old = id) ∨
    ∃ index < definition.nextImplicitIndex type, mapping.implicitId? type index = some id
  vanillaEdited : ∀ type id, id ∈ (read.entities.get type).vanillaEdited ↔
    id ∈ (base.entities.get type).vanillaEdited ∨
    id ∈ (definition.entities.get type).vanillaEdited
  implicitCount : ∀ type, read.nextImplicitIndex type = base.nextImplicitIndex type
  references : read.references = base.references ++ definition.references

/-- The names of the two surveys stand for the same content. -/
structure Survey.MirrorsNames (mapping : ModMapping) (survey read : Survey) : Prop where
  active : Option.Rel (NameBinding.SettledAs mapping) survey.context.active read.context.active
  names : ∀ (type : EntityType) (key : String), Option.Rel (NameBinding.SettledAs mapping)
    (survey.definition.names.get type)[key]? (read.definition.names.get type)[key]?

/-- A survey that no name can be known to. -/
structure Survey.Nameless (survey : Survey) : Prop where
  active : survey.context.active = none
  names : survey.definition.names = .uniform ∅

/-- `read` has begun as `start` and found what `survey` has found in the mod. While the damage
value of a spell waits for its meaning, `damage` stands in its place. -/
structure Survey.Mirrors (mapping : ModMapping) (survey start : Survey) (damage : Option Int)
    (read : Survey) : Prop where
  spell : Option.Rel (SpellBlock.MirroredBy damage) survey.context.spell read.context.spell
  definition : survey.definition.Mirrors mapping start.definition read.definition
  names : start.Nameless → survey.MirrorsNames mapping read

namespace ModDefinition.Mirrors

variable {mapping : ModMapping} {base definition read : ModDefinition}

/-- Content that was named is found where it is now. -/
theorem recordId (mirrors : definition.Mirrors mapping base read) (sound : mapping.Sound)
    (content : EntityId) :
    (definition.recordId content).Mirrors mapping base
      (read.recordId (mapping.movedContent content)) where
  defined type id := by
    simp only [mem_defined_recordId, mirrors.defined type id, nextImplicitIndex_recordId]
    constructor
    · rintro (⟨notVanilla, here⟩ | inBase | ⟨old, isDefined, newEq⟩ | isImplicit)
      · rw [ModMapping.movedContent, EntityId.mk.injEq] at here
        obtain ⟨rfl, rfl⟩ := here
        rw [sound.isVanilla_newId] at notVanilla
        exact .inr (.inl ⟨content.id, .inl ⟨notVanilla, rfl⟩, rfl⟩)
      · exact .inl inBase
      · exact .inr (.inl ⟨old, .inr isDefined, newEq⟩)
      · exact .inr (.inr isImplicit)
    · rintro (inBase | ⟨old, ⟨notVanilla, rfl⟩ | isDefined, rfl⟩ | isImplicit)
      · exact .inr (.inl inBase)
      · rw [← sound.isVanilla_newId] at notVanilla
        exact .inl ⟨notVanilla, rfl⟩
      · exact .inr (.inr (.inl ⟨old, isDefined, rfl⟩))
      · exact .inr (.inr (.inr isImplicit))
  vanillaEdited type id := by
    have same : (defaultRange type).isVanilla id = true →
        (mapping.movedContent content = ⟨type, id⟩ ↔ content = ⟨type, id⟩) := by
      intro vanilla
      obtain ⟨contentType, contentId⟩ := content
      simp only [ModMapping.movedContent, EntityId.mk.injEq]
      constructor
      · rintro ⟨rfl, rfl⟩
        rw [sound.isVanilla_newId] at vanilla
        exact ⟨rfl, (sound.vanilla _ _ vanilla).symm⟩
      · rintro ⟨rfl, rfl⟩
        exact ⟨rfl, sound.vanilla _ _ vanilla⟩
    rw [mem_vanillaEdited_recordId, mem_vanillaEdited_recordId, mirrors.vanillaEdited type id,
      and_congr_right same, or_left_comm]
  implicitCount type := by
    rw [nextImplicitIndex_recordId, mirrors.implicitCount type]
  references := by
    rw [references_recordId, references_recordId, mirrors.references]

/-- A definition without an id is found at the id that it was given. -/
theorem recordImplicit (mirrors : definition.Mirrors mapping base read) (sound : mapping.Sound)
    {type : EntityType} {id : Int}
    (settled : mapping.implicitId? type (definition.nextImplicitIndex type) = some id) :
    (definition.recordImplicit type).Mirrors mapping base (read.recordId ⟨type, id⟩) := by
  have modding := sound.implicit _ _ _ settled
  have notVanilla : (defaultRange type).isVanilla id = false := by
    rw [← Bool.not_eq_true]
    intro vanilla
    rw [EntityRange.not_isModding_of_isVanilla _ _ vanilla] at modding
    cases modding
  refine ⟨fun other found => ?_, fun other found => ?_, fun other => ?_, ?_⟩
  · rw [mem_defined_recordId, mirrors.defined other found, defined_recordImplicit,
      nextImplicitIndex_recordImplicit, EntityId.mk.injEq]
    by_cases sameType : type = other
    · subst sameType
      rw [if_pos rfl]
      constructor
      · rintro (⟨-, -, rfl⟩ | inBase | isMoved | ⟨index, bound, isImplicit⟩)
        · exact .inr (.inr ⟨_, Nat.lt_succ_self _, settled⟩)
        · exact .inl inBase
        · exact .inr (.inl isMoved)
        · exact .inr (.inr ⟨index, Nat.lt_succ_of_lt bound, isImplicit⟩)
      · rintro (inBase | isMoved | ⟨index, bound, isImplicit⟩)
        · exact .inr (.inl inBase)
        · exact .inr (.inr (.inl isMoved))
        · rcases Nat.lt_succ_iff_lt_or_eq.1 bound with earlier | rfl
          · exact .inr (.inr (.inr ⟨index, earlier, isImplicit⟩))
          · rw [settled] at isImplicit
            obtain rfl := Option.some.inj isImplicit
            exact .inl ⟨notVanilla, rfl, rfl⟩
    · simp [sameType]
  · rw [mem_vanillaEdited_recordId, mirrors.vanillaEdited other found, vanillaEdited_recordImplicit]
    refine ⟨fun either => ?_, .inr⟩
    rcases either with ⟨vanilla, same⟩ | member
    · rw [EntityId.mk.injEq] at same
      obtain ⟨rfl, rfl⟩ := same
      rw [notVanilla] at vanilla
      cases vanilla
    · exact member
  · rw [nextImplicitIndex_recordId, mirrors.implicitCount other]
  · rw [references_recordId]
    exact mirrors.references

theorem recordReference (mirrors : definition.Mirrors mapping base read) (type : EntityType)
    (name : String) :
    (definition.recordReference type name).Mirrors mapping base
      (read.recordReference type name) where
  defined := mirrors.defined
  vanillaEdited := mirrors.vanillaEdited
  implicitCount := mirrors.implicitCount
  references := by
    simp only [ModDefinition.recordReference, mirrors.references, List.append_assoc]

/-- Warnings and names are not compared here. -/
theorem of_same {otherDefinition otherRead : ModDefinition}
    (mirrors : definition.Mirrors mapping base read)
    (entities : otherDefinition.entities = definition.entities)
    (references : otherDefinition.references = definition.references)
    (readEntities : otherRead.entities = read.entities)
    (readReferences : otherRead.references = read.references) :
    otherDefinition.Mirrors mapping base otherRead where
  defined type id := by
    rw [readEntities, entities, nextImplicitIndex, entities]
    exact mirrors.defined type id
  vanillaEdited type id := by
    rw [readEntities, entities]
    exact mirrors.vanillaEdited type id
  implicitCount type := by
    rw [nextImplicitIndex, readEntities]
    exact mirrors.implicitCount type
  references := by
    rw [readReferences, references]
    exact mirrors.references

end ModDefinition.Mirrors

/-! ### Arguments -/

/-- How the argument of a directive is rewritten: a number moves with its content, and a
definition without an id is given its id, possibly behind another word. -/
inductive ArgumentMoved (mapping : ModMapping) (definition : ModDefinition) (ref : DirectiveRef) :
    Argument → DirectiveRef → Argument → Prop where
  | number (number : Int) : ArgumentMoved mapping definition ref (.number number) ref
      (.number (mapping.movedNumber (ref.resolve number) number))
  | name (name : String) : ArgumentMoved mapping definition ref (.name name) ref (.name name)
  | absent (notNew : ref.rule.role ≠ .new) :
      ArgumentMoved mapping definition ref .absent ref .absent
  | assigned {newRef : DirectiveRef} {id : Int} (isNew : ref.rule.role = .new)
      (resolves : newRef.resolve id = some ⟨ref.type, id⟩) (sameType : newRef.type = ref.type)
      (settled : mapping.implicitId? ref.type (definition.nextImplicitIndex ref.type) = some id) :
      ArgumentMoved mapping definition ref .absent newRef (.number id)

namespace ArgumentMoved

variable {mapping : ModMapping} {base definition read : ModDefinition} {ref newRef : DirectiveRef}
  {argument newArgument : Argument}

/-- What a line names is recorded in both surveys. -/
theorem recordArgument (moved : ArgumentMoved mapping definition ref argument newRef newArgument)
    (sound : mapping.Sound) (mirrors : definition.Mirrors mapping base read) :
    (definition.recordArgument ref argument).Mirrors mapping base
      (read.recordArgument newRef newArgument) := by
  cases moved with
  | number number =>
      simp only [ModDefinition.recordArgument,
        ModMapping.read_movedNumber sound (ModMapping.followsSign_resolve ref)]
      cases ref.resolve number with
      | none => exact mirrors
      | some content => exact mirrors.recordId sound content
  | name name => exact mirrors.recordReference ref.type name
  | absent notNew =>
      simp only [ModDefinition.recordArgument, if_neg notNew]
      exact mirrors
  | assigned isNew resolves sameType settled =>
      simp only [ModDefinition.recordArgument, if_pos isNew, resolves]
      exact mirrors.recordImplicit sound settled

/-- Names in the block that a line opens stand for the same content in both surveys. -/
theorem blockBinding (moved : ArgumentMoved mapping definition ref argument newRef newArgument)
    (sound : mapping.Sound)
    (names : ∀ (type : EntityType) (key : String), Option.Rel (NameBinding.SettledAs mapping)
      (definition.names.get type)[key]? (read.names.get type)[key]?) :
    Option.Rel (NameBinding.SettledAs mapping) (definition.blockBinding ref argument)
      (read.blockBinding newRef newArgument) := by
  cases moved with
  | number number =>
      simp only [ModDefinition.blockBinding,
        ModMapping.read_movedNumber sound (ModMapping.followsSign_resolve ref)]
      cases ref.resolve number with
      | none => exact .none
      | some content => exact .some ⟨rfl, _, rfl, rfl⟩
  | name name =>
      simp only [ModDefinition.blockBinding]
      split
      · exact .none
      · exact names ref.type (nameKey name)
  | absent notNew =>
      simp only [ModDefinition.blockBinding, if_neg notNew]
      exact .none
  | assigned isNew resolves sameType settled =>
      simp only [ModDefinition.blockBinding, if_pos isNew, resolves, Option.map_some]
      exact .some ⟨rfl, _, rfl, settled⟩

/-- The spells that are known to summon belong to the base game. -/
theorem isVanilla_of_knownSummon : ∀ id ∈ knownSummonIds,
    (defaultRange .spell).isVanilla id = true := by
  decide

theorem isKnownSummon_of_not_isVanilla {id : Int}
    (notVanilla : (defaultRange .spell).isVanilla id = false) :
    (SpellReference.ofArgument (.number id)).isKnownSummon = false := by
  have notListed : id ∉ knownSummonIds := by
    intro listed
    rw [isVanilla_of_knownSummon id listed] at notVanilla
    cases notVanilla
  simp [SpellReference.isKnownSummon, SpellReference.ofArgument, Argument.number?,
    Argument.name?, isKnownSummonSpell, notListed]

/-- A spell that is named by its number is as well known after it has moved. -/
theorem isKnownSummon_movedNumber (sound : mapping.Sound) (isSpell : ref.type = .spell)
    (number : Int) :
    (SpellReference.ofArgument
        (.number (mapping.movedNumber (ref.resolve number) number))).isKnownSummon =
      (SpellReference.ofArgument (.number number)).isKnownSummon := by
  have negative : ∀ id : Int, id < 0 → (defaultRange .spell).isVanilla id = false := by
    intro id below
    simp [EntityRange.isVanilla]
    omega
  cases found : ref.resolve number with
  | none => rfl
  | some content =>
      by_cases stays : mapping.newId content.type content.id = content.id
      · simp [ModMapping.movedNumber, ModMapping.remapContent, stays]
      · have modding := sound.moved _ _ stays
        have positive := (ModMapping.bounds_of_isModding modding).1
        by_cases below : number < 0
        · have written : mapping.movedNumber (some content) number =
              -mapping.newId content.type content.id := by
            simp [ModMapping.movedNumber, ModMapping.remapContent, stays, below]
          rw [written, isKnownSummon_of_not_isVanilla (negative _ (by omega)),
            isKnownSummon_of_not_isVanilla (negative _ below)]
        · have written : mapping.movedNumber (some content) number =
              mapping.newId content.type content.id := by
            simp [ModMapping.movedNumber, ModMapping.remapContent, stays, below]
          have isNumber : content = ⟨.spell, number⟩ := by
            rw [DirectiveRef.resolve, if_neg below, isSpell] at found
            split at found
            · exact (Option.some.inj found).symm
            · cases found
          subst isNumber
          have notVanilla : (defaultRange .spell).isVanilla number = false := by
            rw [← Bool.not_eq_true]
            exact fun vanilla => stays (sound.vanilla _ _ vanilla)
          rw [written, isKnownSummon_of_not_isVanilla notVanilla]
          apply isKnownSummon_of_not_isVanilla
          rw [sound.isVanilla_newId]
          exact notVanilla

/-- The spell that a block edits is as well known after it has moved. -/
theorem isKnownSummon_selected
    (moved : ArgumentMoved mapping definition ref argument newRef newArgument)
    (sound : mapping.Sound) (isSpell : ref.type = .spell) :
    (if newRef.rule.role = .select then SpellReference.ofArgument newArgument
        else {}).isKnownSummon =
      (if ref.rule.role = .select then SpellReference.ofArgument argument
        else {}).isKnownSummon := by
  cases moved with
  | number number =>
      split
      · exact isKnownSummon_movedNumber sound isSpell number
      · rfl
  | name name => rfl
  | absent notNew => rfl
  | assigned isNew resolves sameType settled =>
      have none : (if ref.rule.role = .select then SpellReference.ofArgument .absent
          else {}).isKnownSummon = false := by
        rw [isNew]
        rfl
      rw [none]
      split
      · apply isKnownSummon_of_not_isVanilla
        have modding := sound.implicit _ _ _ settled
        rw [isSpell] at modding
        rw [← Bool.not_eq_true]
        intro vanilla
        rw [EntityRange.not_isModding_of_isVanilla _ _ vanilla] at modding
        cases modding
      · rfl

end ArgumentMoved

end ModMerge
