import ModMerge.Proofs.Mod.EditedLines
import ModMerge.Proofs.Mod.SpellRuns

/-!
# The damage lines of a spell block

However many damage lines a spell block with one effect has, renumbering changes at most one of
them: the last before the effect or, if there is none, the first after it. That line names its
content where it is now. All other damage lines stay as they are.
-/

namespace ModMerge

/-- The number that names content where it is now, with the sign of the number that named it. -/
def ModMapping.newNumber (mapping : ModMapping) (content : EntityId) (number : Int) : Int :=
  let new := mapping.newId content.type content.id
  if number < 0 then -new else new

/-- What is written for the line names the content of its damage value where it is now; a damage
value that is a plain number stays. -/
def RenumberedLine.FollowsDamage (line : RenumberedLine) (mapping : ModMapping)
    (effect damage : Int) : Prop :=
  ∃ written, line.written = some written ∧
    match interpretDamage (some effect) damage false with
    | some content => argumentNumber? written.line = some (mapping.newNumber content damage)
    | none => written = { line := line.line }

/-- The lines of a spell block, before and after the line that gives its effect. -/
structure EffectBlock where
  opening : RenumberedLine
  front : List RenumberedLine
  effectLine : RenumberedLine
  back : List RenumberedLine

/-- The block stands in the transcript as a whole, and it has one effect. -/
structure EffectBlock.IsIn (block : EffectBlock) (transcript : List RenumberedLine)
    (effect : Int) : Prop where
  stands : ∃ before rest, (∀ line ∈ rest.head?, line.meaning = .blockEnd) ∧
    transcript = before ++ block.opening ::
      (block.front ++ block.effectLine :: (block.back ++ rest))
  opens : block.opening.meaning.opensSpell = true
  effect : ∃ ref, block.effectLine.meaning = .spellContent .effect ref (.number effect)
  inside : ∀ line ∈ block.front ++ block.back,
    line.meaning ≠ .blockEnd ∧ line.meaning.isEffect = false

/-- The lines of the block in the order in which they are searched for a damage value: from the
effect back to the beginning of the block, and then from the effect on to its end. -/
def EffectBlock.searched (block : EffectBlock) : List RenumberedLine :=
  block.front.reverse ++ block.back

/-! ### Lines that are settled -/

section

variable {mapping : ModMapping} {before after : List RenumberedLine} {line : RenumberedLine}
  {spell settled : SpellBlock} {effect damage : Int}

/-- A damage line is written as the settlement of its block says. -/
theorem RenumberedLine.Fits.written_damage (fits : line.Fits mapping before after)
    (isRead : line.IsRead) (inSpell : line.before.context.spell = some spell)
    (gives : line.meaning.damage? = some damage) :
    line.written = some (mapping.damageLine line.line
      (SpellBlock.settlement { spell with damage := some damage } (after.map (·.meaning)))) := by
  obtain ⟨⟨survey, text, meaning⟩, output⟩ := line
  obtain ⟨directive, ref, isDamage, rfl⟩ := LineMeaning.damage?_eq_some_iff.1 gives
  obtain ⟨written, isWritten, drafted⟩ :=
    fits.exists_written rfl (isRead.substantial (by simp) (by simp) (by simp))
  rw [ModMapping.draft_damage mapping survey text isDamage, inSpell, Option.bind_some,
    SpellBlock.read_of_isDamage isDamage] at drafted
  rw [isWritten, drafted]

/-- A damage line that is not settled stays as it is. -/
theorem ModMapping.damageLine_none (mapping : ModMapping) (line : Line) :
    mapping.damageLine line none = { line } :=
  rfl

theorem followsDamage_of_settled (isRead : line.IsRead)
    (gives : line.meaning.damage? = some damage)
    (written : line.written = some (mapping.damageLine line.line (some settled)))
    (hasEffect : settled.effect = some effect) (hasDamage : settled.damage = some damage) :
    line.FollowsDamage mapping effect damage := by
  refine ⟨_, written, ?_⟩
  obtain ⟨⟨survey, text, meaning⟩, output⟩ := line
  obtain ⟨directive, ref, isDamage, rfl⟩ := LineMeaning.damage?_eq_some_iff.1 gives
  have isForm : (⟨survey, text, (LineForm.spellContent directive ref).meaning (.number damage)⟩ :
    SurveyedLine).IsRead := isRead
  have target : settled.damageTarget = interpretDamage (some effect) damage false := by
    rw [SpellBlock.damageTarget, hasDamage, hasEffect]
    rfl
  have moves : mapping.remapDamage settled = (interpretDamage (some effect) damage false).bind
      fun content => mapping.remapContent content (damage < 0) := by
    rw [ModMapping.remapDamage, target, hasDamage, Option.any_some]
  simp only [ModMapping.damageLine, Option.bind_some, moves]
  cases found : interpretDamage (some effect) damage false with
  | none => rfl
  | some content =>
      simp only [Option.bind_some, ModMapping.newNumber]
      cases remapped : mapping.remapContent content (damage < 0) with
      | none =>
          have stays : mapping.newId content.type content.id = content.id := by
            simpa [ModMapping.remapContent] using remapped
          have isNamed := isNamedBy_of_interpretDamage found
          rw [EntityId.IsNamedBy] at isNamed
          rw [stays, ← isNamed]
          exact isForm.argumentNumber?_line
      | some remap =>
          obtain ⟨-, rfl⟩ := ModMapping.remapContent_eq_some_iff.1 remapped
          have isNumber := isForm.argumentNumber?_replaceArgument
            (if damage < 0 then -mapping.newId content.type content.id
              else mapping.newId content.type content.id)
          simpa [Renumbering.damageLine] using isNumber

end

/-! ### Blocks -/

section

variable {mapping : ModMapping} {modName : String} {script : List Char} {renumbered : RenumberedMod}
  {transcript : List RenumberedLine} {line : RenumberedLine}

/-- The spell block at one of its lines, from where it was opened. -/
theorem IsTranscript.exists_spell (isTranscript : IsTranscript transcript modName script renumbered)
    {before inside rest : List RenumberedLine} {opening : RenumberedLine}
    (split : transcript = before ++ opening :: (inside ++ line :: rest))
    (opens : opening.meaning.opensSpell = true)
    (notEnd : ∀ line ∈ inside, line.meaning ≠ .blockEnd) :
    ∃ spell : SpellBlock, spell.Waits ∧ spell.damage = none ∧ line.before.context.spell =
      some ((inside.map (·.meaning)).foldl SpellBlock.after spell) := by
  have readings : surveyedLines modName script = before.map (·.toSurveyedLine) ++
      opening.toSurveyedLine :: (inside.map (·.toSurveyedLine) ++
        line.toSurveyedLine :: rest.map (·.toSurveyedLine)) := by
    rw [← isTranscript.reads, split]
    simp only [List.map_append, List.map_cons]
  obtain ⟨spell, waits, noDamage, inSpell⟩ := Survey.exists_spell_before
    ParseContext.consistent_initial readings opens (by simpa using notEnd)
  refine ⟨spell, waits, noDamage, ?_⟩
  rw [inSpell, List.map_map]
  rfl

namespace EffectBlock.IsIn

variable {block : EffectBlock} {effect damage : Int} {front back : List RenumberedLine}

theorem not_end (isIn : block.IsIn transcript effect) :
    ∀ line ∈ block.front ++ block.effectLine :: block.back, line.meaning ≠ .blockEnd := by
  intro line member
  obtain ⟨ref, isEffect⟩ := isIn.effect
  rcases List.mem_append.1 member with inFront | member
  · exact (isIn.inside line (List.mem_append_left _ inFront)).1
  rcases List.mem_cons.1 member with rfl | inBack
  · rw [isEffect]
    simp
  · exact (isIn.inside line (List.mem_append_right _ inBack)).1

/-- Before the effect the block waits, and the next line about its effect is the effect. -/
theorem exists_waits (isIn : block.IsIn transcript effect)
    (isTranscript : IsTranscript transcript modName script renumbered)
    (fits : EachFits mapping transcript)
    (split : block.front = front ++ line :: back)
    (gives : line.meaning.damage? = some damage) :
    ∃ spell : SpellBlock, spell.Waits ∧ spell.damage = some damage ∧ line.IsRead ∧
      (∀ meaning ∈ back.map (·.meaning), meaning ≠ .blockEnd ∧ meaning.isEffect = false) ∧
      ∃ ref later, line.written = some (mapping.damageLine line.line (spell.settlement
        (back.map (·.meaning) ++ .spellContent .effect ref (.number effect) :: later))) := by
  obtain ⟨before, rest, -, whole⟩ := isIn.stands
  obtain ⟨ref, isEffect⟩ := isIn.effect
  have inside := isIn.inside
  have notEnd := isIn.not_end
  rw [split] at whole inside notEnd
  have splitHere : transcript = before ++ block.opening ::
      (front ++ line :: (back ++ block.effectLine :: (block.back ++ rest))) := by
    simpa using whole
  obtain ⟨spell, waits, -, inSpell⟩ := isTranscript.exists_spell splitHere isIn.opens
    fun other member => notEnd other (by simp [member])
  have stillWaits := waits.foldl (List.forall_mem_map.2 fun other (member : other ∈ front) =>
    (inside other (by simp [member])).2)
  obtain ⟨isRead, lineFits⟩ := fits (before ++ block.opening :: front) line _
    (by simpa using splitHere)
  refine ⟨{ (front.map (·.meaning)).foldl SpellBlock.after spell with damage := some damage },
    ⟨stillWaits.effect, stillWaits.unresolved⟩, rfl, isRead, ?_, ref,
    (block.back ++ rest).map (·.meaning), ?_⟩
  · exact List.forall_mem_map.2 fun other member => inside other (by simp [member])
  · rw [lineFits.written_damage isRead inSpell gives, List.map_append, List.map_cons, isEffect]

/-- After the effect the block has dealt with a damage value if there was one. -/
theorem exists_acts (isIn : block.IsIn transcript effect)
    (isTranscript : IsTranscript transcript modName script renumbered)
    (fits : EachFits mapping transcript)
    (split : block.back = front ++ line :: back)
    (gives : line.meaning.damage? = some damage) :
    ∃ spell : SpellBlock, spell.Acts effect ∧
      spell.damage.isSome = (block.front ++ front).any (·.meaning.damage?.isSome) ∧
      line.IsRead ∧ ∃ later, line.written = some (mapping.damageLine line.line
        (SpellBlock.settlement { spell with damage := some damage } later)) := by
  obtain ⟨before, rest, -, whole⟩ := isIn.stands
  obtain ⟨ref, isEffect⟩ := isIn.effect
  have inside := isIn.inside
  have notEnd := isIn.not_end
  rw [split] at whole inside notEnd
  have splitHere : transcript = before ++ block.opening ::
      ((block.front ++ block.effectLine :: front) ++ line :: (back ++ rest)) := by
    simpa using whole
  obtain ⟨spell, waits, noDamage, inSpell⟩ := isTranscript.exists_spell splitHere isIn.opens
    fun other member => notEnd other (by
      simp only [List.mem_append, List.mem_cons] at member ⊢
      tauto)
  have stillWaits := waits.foldl (List.forall_mem_map.2 fun other (member : other ∈ block.front) =>
    (inside other (by simp [member])).2)
  have acts := (stillWaits.after_effect ref effect).foldl
    (List.forall_mem_map.2 fun other (member : other ∈ front) =>
      (inside other (by simp [member])).2)
  obtain ⟨isRead, lineFits⟩ := fits
    (before ++ block.opening :: (block.front ++ block.effectLine :: front)) line _
    (by simpa using splitHere)
  have come : ((block.front ++ block.effectLine :: front).map (·.meaning)).foldl
      SpellBlock.after spell = (front.map (·.meaning)).foldl SpellBlock.after
        (((block.front.map (·.meaning)).foldl SpellBlock.after spell).after
          (.spellContent .effect ref (.number effect))) := by
    rw [List.map_append, List.map_cons, List.foldl_append, List.foldl_cons, isEffect]
  rw [come] at inSpell
  refine ⟨_, acts, ?_, isRead, _, lineFits.written_damage isRead inSpell gives⟩
  have effectDamage : block.effectLine.meaning.damage?.isSome = false := by
    rw [isEffect]
    rfl
  rw [← come, SpellBlock.isSome_damage_foldl, noDamage, List.any_map, Option.isSome_none,
    Bool.false_or, List.any_append, List.any_cons, Function.comp_apply, effectDamage,
    Bool.false_or, List.any_append]
  rfl

/-- The damage line that the search comes to first is settled with the effect. -/
theorem followsDamage_first (isIn : block.IsIn transcript effect)
    (isTranscript : IsTranscript transcript modName script renumbered)
    (fits : EachFits mapping transcript)
    {skipped others : List RenumberedLine}
    (found : block.searched = skipped ++ line :: others)
    (first : ∀ other ∈ skipped, other.meaning.damage? = none)
    (gives : line.meaning.damage? = some damage) : line.FollowsDamage mapping effect damage := by
  rcases exists_of_append_eq_append_cons found with ⟨rest, inFront, -⟩ | ⟨rest, rfl, inBack⟩
  · -- No other damage value comes between the line and the effect.
    have split : block.front = rest.reverse ++ line :: skipped.reverse := by
      simpa using congrArg List.reverse inFront
    obtain ⟨spell, waits, hasDamage, isRead, inside, ref, later, written⟩ :=
      isIn.exists_waits isTranscript fits split gives
    obtain ⟨settled, settles, settledEffect, settledDamage⟩ :=
      waits.exists_settlement hasDamage inside
        (List.forall_mem_map.2 fun other member => first other (List.mem_reverse.1 member))
        ref effect later
    rw [settles] at written
    exact followsDamage_of_settled isRead gives written settledEffect settledDamage
  · -- No damage value has come before the line, and there is an effect.
    obtain ⟨spell, acts, noDamage, isRead, later, written⟩ :=
      isIn.exists_acts isTranscript fits inBack gives
    have noneBefore : (block.front ++ rest).any (·.meaning.damage?.isSome) = false := by
      rw [List.any_eq_false]
      intro other member
      rw [first other (by simpa using member)]
      simp
    rw [noneBefore] at noDamage
    have isReady : ({ spell with damage := some damage } : SpellBlock).ready = true := by
      simp [SpellBlock.ready, acts.resolved, noDamage, acts.effect]
    rw [SpellBlock.settlement_of_ready isReady] at written
    exact followsDamage_of_settled isRead gives written acts.effect rfl

/-- The damage lines that the search does not come to stay as they are. -/
theorem written_eq_of_later (isIn : block.IsIn transcript effect)
    (isTranscript : IsTranscript transcript modName script renumbered)
    (fits : EachFits mapping transcript)
    {skipped others : List RenumberedLine}
    (found : block.searched = skipped ++ line :: others)
    (earlier : skipped.any (·.meaning.damage?.isSome) = true)
    (gives : line.meaning.damage? = some damage) :
    line.written = some { line := line.line } := by
  rcases exists_of_append_eq_append_cons found with ⟨rest, inFront, -⟩ | ⟨rest, rfl, inBack⟩
  · have split : block.front = rest.reverse ++ line :: skipped.reverse := by
      simpa using congrArg List.reverse inFront
    obtain ⟨spell, waits, -, -, inside, ref, later, written⟩ :=
      isIn.exists_waits isTranscript fits split gives
    have replaced : (skipped.reverse.map (·.meaning)).any (·.damage?.isSome) = true := by
      rw [List.any_map, List.any_reverse]
      exact earlier
    rw [waits.settlement_eq_none inside replaced, mapping.damageLine_none] at written
    exact written
  · obtain ⟨spell, acts, hasDamage, -, later, written⟩ :=
      isIn.exists_acts isTranscript fits inBack gives
    have someBefore : (block.front ++ rest).any (·.meaning.damage?.isSome) = true := by
      rwa [List.any_append, List.any_reverse, ← List.any_append] at earlier
    rw [someBefore, ← acts.resolved] at hasDamage
    have isResolved : ({ spell with damage := some damage } : SpellBlock).resolved = true :=
      hasDamage
    rw [SpellBlock.settlement_of_resolved isResolved, mapping.damageLine_none] at written
    exact written

end EffectBlock.IsIn

end

/-! ### Whole mods -/

/-- In a mod that can be read, renumbered with a mapping that has enough ids for it, one damage
line of each spell block with an effect names its content where it is now: the last before the
effect, or else the first after it. The other damage lines stay as they are. -/
theorem one_damage_line_follows {mapping : ModMapping} {modName : String} {script : List Char}
    {definition : ModDefinition} (parsed : ModDefinition.parse modName script = .ok definition)
    (provided : ∀ type, definition.nextImplicitIndex type ≤ (mapping.implicitIds type).length) :
    ∃ renumbered transcript, mapping.RenumbersTo modName script renumbered ∧
      IsTranscript transcript modName script renumbered ∧
      ∀ (block : EffectBlock) effect, block.IsIn transcript effect →
        ∀ skipped line others damage, block.searched = skipped ++ line :: others →
          line.meaning.damage? = some damage →
          if skipped.any (·.meaning.damage?.isSome) then line.written = some { line := line.line }
          else line.FollowsDamage mapping effect damage := by
  obtain ⟨renumbered, transcript, renumbersTo, isTranscript, fits⟩ :=
    exists_transcript parsed provided
  refine ⟨renumbered, transcript, renumbersTo, isTranscript, ?_⟩
  intro block effect isIn skipped line others damage found gives
  split
  · next earlier => exact isIn.written_eq_of_later isTranscript fits found earlier gives
  · next first =>
      refine isIn.followsDamage_first isTranscript fits found (fun other member => ?_) gives
      rw [List.any_eq_true, not_exists] at first
      simpa [member] using first other

/-- A summoning spell with two damage lines after its effect. -/
def twoDamagesScript : List Char :=
  "#newspell 2000\n#effect 1\n#damage 5000\n#damagemon 5000\n#end".toList

/-- The monster that the spell summons moves. -/
def movedMonsterMapping : ModMapping :=
  ({ modName := "Spells" } : ModMapping).recordRemap .monster 5000 13500

theorem exists_parse_twoDamagesScript : ∃ definition,
    ModDefinition.parse "Spells" twoDamagesScript = .ok definition ∧
      ∀ type, definition.nextImplicitIndex type ≤ (movedMonsterMapping.implicitIds type).length :=
  exists_parse_of_any (by decide +kernel)

theorem one_damage_line_follows_twoDamagesScript :
    ∃ definition, ModDefinition.parse "Spells" twoDamagesScript = .ok definition ∧
      (∀ type, definition.nextImplicitIndex type ≤
        (movedMonsterMapping.implicitIds type).length) ∧
      ∃ renumbered transcript,
        movedMonsterMapping.renumber "Spells" twoDamagesScript = .ok renumbered ∧
        IsTranscript transcript "Spells" twoDamagesScript renumbered ∧
        ∀ (block : EffectBlock) effect, block.IsIn transcript effect →
          ∀ skipped line others damage, block.searched = skipped ++ line :: others →
            line.meaning.damage? = some damage →
            if skipped.any (·.meaning.damage?.isSome) then
              line.written = some { line := line.line }
            else line.FollowsDamage movedMonsterMapping effect damage := by
  obtain ⟨definition, parsed, provided⟩ := exists_parse_twoDamagesScript
  obtain ⟨renumbered, transcript, renumbersTo, follows⟩ := one_damage_line_follows parsed provided
  exact ⟨definition, parsed, provided, renumbered, transcript,
    renumbersTo.eq_ok_of_isOk (by decide +kernel), follows⟩

theorem exists_block_twoDamagesScript {transcript : List RenumberedLine}
    {renumbered : RenumberedMod}
    (isTranscript : IsTranscript transcript "Spells" twoDamagesScript renumbered) :
    ∃ (block : EffectBlock) (first second : RenumberedLine), block.IsIn transcript 1 ∧
      block.front = [] ∧ block.back = [first, second] ∧ first.meaning.damage? = some 5000 ∧
      second.meaning.damage? = some 5000 ∧ second.line = "#damagemon 5000".toList := by
  have opens : ((surveyedLines "Spells" twoDamagesScript).head?.any (·.meaning.opensSpell)) =
      true := by decide +kernel
  have inside : (surveyedLines "Spells" twoDamagesScript).tail.map
        (fun surveyed => (surveyed.line, surveyed.meaning)) =
      [("#effect 1".toList, .spellContent .effect none (.number 1)),
        ("#damage 5000".toList, .spellContent .damage none (.number 5000)),
        ("#damagemon 5000".toList, .spellContent .damageMonster none (.number 5000)),
        ("#end".toList, .blockEnd)] := by decide +kernel
  rw [← isTranscript.reads] at opens inside
  cases transcript with
  | nil => cases opens
  | cons opening lines =>
      rw [List.map_cons, List.tail_cons, List.map_map] at inside
      obtain ⟨effectLine, _, rfl, isEffect, inside⟩ := List.map_eq_cons_iff.1 inside
      obtain ⟨first, _, rfl, isFirst, inside⟩ := List.map_eq_cons_iff.1 inside
      obtain ⟨second, _, rfl, isSecond, inside⟩ := List.map_eq_cons_iff.1 inside
      obtain ⟨ending, _, rfl, isEnd, inside⟩ := List.map_eq_cons_iff.1 inside
      obtain rfl := List.map_eq_nil_iff.1 inside
      have firstMeaning : first.meaning = .spellContent .damage none (.number 5000) :=
        congrArg Prod.snd isFirst
      have secondMeaning : second.meaning = .spellContent .damageMonster none (.number 5000) :=
        congrArg Prod.snd isSecond
      refine ⟨⟨opening, [], effectLine, [first, second]⟩, first, second, ?_, rfl, rfl, ?_, ?_,
        congrArg Prod.fst isSecond⟩
      · exact
          { stands := ⟨[], [ending], by simpa using congrArg Prod.snd isEnd, rfl⟩
            opens
            effect := ⟨none, congrArg Prod.snd isEffect⟩
            inside := by simp [firstMeaning, secondMeaning, LineMeaning.isEffect] }
      · rw [firstMeaning]
        rfl
      · rw [secondMeaning]
        rfl

/-- The second damage line still summons the monster that has another number now. -/
theorem exists_damage_line_not_followed :
    ∃ definition, ModDefinition.parse "Spells" twoDamagesScript = .ok definition ∧
      (∀ type, definition.nextImplicitIndex type ≤
        (movedMonsterMapping.implicitIds type).length) ∧
      ∃ renumbered transcript,
        movedMonsterMapping.renumber "Spells" twoDamagesScript = .ok renumbered ∧
        IsTranscript transcript "Spells" twoDamagesScript renumbered ∧
        ∃ (block : EffectBlock) (line : RenumberedLine), block.IsIn transcript 1 ∧
          line ∈ block.front ++ block.back ∧ line.meaning.damage? = some 5000 ∧
          interpretDamage (some 1) 5000 false = some ⟨.monster, 5000⟩ ∧
          movedMonsterMapping.newNumber ⟨.monster, 5000⟩ 5000 = 13500 ∧
          line.written = some { line := "#damagemon 5000".toList } ∧
          ¬ line.FollowsDamage movedMonsterMapping 1 5000 := by
  obtain ⟨definition, parsed, provided⟩ := exists_parse_twoDamagesScript
  obtain ⟨renumbered, transcript, renumbersTo, isTranscript, fits⟩ :=
    exists_transcript parsed provided
  refine ⟨definition, parsed, provided, renumbered, transcript,
    renumbersTo.eq_ok_of_isOk (by decide +kernel), isTranscript, ?_⟩
  obtain ⟨block, first, second, isIn, front, back, firstGives, gives, line⟩ :=
    exists_block_twoDamagesScript isTranscript
  have searched : block.searched = [first] ++ second :: [] := by
    rw [EffectBlock.searched, front, back]
    rfl
  have written := isIn.written_eq_of_later isTranscript fits searched (by simp [firstGives]) gives
  rw [line] at written
  have target : interpretDamage (some 1) 5000 false = some ⟨.monster, 5000⟩ := by decide +kernel
  have moved : movedMonsterMapping.newNumber ⟨.monster, 5000⟩ 5000 = 13500 := by decide +kernel
  refine ⟨block, second, isIn, by simp [front, back], gives, target, moved, written, ?_⟩
  rintro ⟨other, isOther, follows⟩
  obtain rfl := Option.some.inj (isOther.symm.trans written)
  have stays : argumentNumber? "#damagemon 5000".toList = some 5000 := by decide +kernel
  simp only [target, moved, stays] at follows
  cases follows

end ModMerge
