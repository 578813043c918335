import ModMerge.Proofs.Mod.LineEdits
import ModMerge.Proofs.Mod.LockstepSpells

/-!
# Spell blocks line by line

A spell block deals with one damage value. Until it has an effect it waits, and every damage
value takes the place of the one before; the effect settles the last of them. If there was
none, the first damage value after the effect is settled at once. Whatever comes later is
not looked at.
-/

namespace ModMerge

namespace LineMeaning

/-- The damage value that a line gives. -/
def damage? : LineMeaning → Option Int
  | .spellContent directive _ (.number damage) => if directive.isDamage then some damage else none
  | _ => none

/-- Whether a line is about the effect of a spell. -/
def isEffect : LineMeaning → Bool
  | .spellContent .effect _ _ => true
  | _ => false

/-- Whether a line opens a spell block. -/
def opensSpell : LineMeaning → Bool
  | .blockStart _ ref _ => ref.type == .spell
  | _ => false

variable {meaning : LineMeaning}

theorem damage?_eq_some_iff {damage : Int} :
    meaning.damage? = some damage ↔ ∃ directive ref,
      directive.isDamage = true ∧ meaning = .spellContent directive ref (.number damage) := by
  constructor
  · intro gives
    rw [damage?.eq_def] at gives
    split at gives
    · next directive ref number =>
        split at gives
        · next isDamage =>
            obtain rfl := Option.some.inj gives
            exact ⟨directive, ref, isDamage, rfl⟩
        · cases gives
    · cases gives
  · rintro ⟨directive, ref, isDamage, rfl⟩
    rw [damage?, if_pos isDamage]

theorem isSome_damage?_spellContent (directive : SpellDirective) (ref : Option DirectiveRef)
    (argument : Argument) : (spellContent directive ref argument).damage?.isSome =
      (directive.isDamage && argument.number?.isSome) := by
  cases directive <;> cases argument <;> rfl

theorem opensSpell_iff : meaning.opensSpell = true ↔
    ∃ word ref argument, meaning = .blockStart word ref argument ∧ ref.type = .spell := by
  cases meaning <;> simp [opensSpell]

end LineMeaning

namespace SpellBlock

variable {spell : SpellBlock} {meaning : LineMeaning} {meanings : List LineMeaning} {effect : Int}

/-- The spell block after a line within it. -/
def after (spell : SpellBlock) : LineMeaning → SpellBlock
  | .spellContent directive _ argument =>
      let read := spell.read directive argument
      if read.ready then { read with resolved := true } else read
  | _ => spell

/-- The block has no effect yet. -/
structure Waits (spell : SpellBlock) : Prop where
  effect : spell.effect = none
  unresolved : spell.resolved = false

/-- The block has an effect, and has dealt with its damage value if there was one. -/
structure Acts (spell : SpellBlock) (effect : Int) : Prop where
  effect : spell.effect = some effect
  resolved : spell.resolved = spell.damage.isSome

/-! ### The damage value and the effect -/

theorem isSome_damage_read (spell : SpellBlock) (directive : SpellDirective)
    (ref : Option DirectiveRef) (argument : Argument) :
    (spell.read directive argument).damage.isSome =
      (spell.damage.isSome ||
        (LineMeaning.spellContent directive ref argument).damage?.isSome) := by
  rw [LineMeaning.isSome_damage?_spellContent]
  cases directive <;> cases argument <;>
    simp [read, Argument.number?, SpellDirective.isDamage]

/-- A damage value is never taken back. -/
theorem isSome_damage_after (spell : SpellBlock) (meaning : LineMeaning) :
    (spell.after meaning).damage.isSome = (spell.damage.isSome || meaning.damage?.isSome) := by
  cases meaning with
  | spellContent directive ref argument =>
      rw [← isSome_damage_read]
      simp only [after]
      split <;> rfl
  | _ => exact (Bool.or_false _).symm

theorem isSome_damage_foldl (spell : SpellBlock) (meanings : List LineMeaning) :
    (meanings.foldl after spell).damage.isSome =
      (spell.damage.isSome || meanings.any (·.damage?.isSome)) := by
  induction meanings generalizing spell with
  | nil => exact (Bool.or_false _).symm
  | cons meaning rest inductionHypothesis =>
      rw [List.foldl_cons, inductionHypothesis, isSome_damage_after, List.any_cons, Bool.or_assoc]

theorem damage_after_of_eq_none (noDamage : meaning.damage? = none) (spell : SpellBlock) :
    (spell.after meaning).damage = spell.damage := by
  cases meaning with
  | spellContent directive ref argument =>
      have noNumber := LineMeaning.isSome_damage?_spellContent directive ref argument
      rw [noDamage] at noNumber
      simp only [after]
      split <;> exact damage_read noNumber.symm spell
  | _ => rfl

theorem effect_read {directive : SpellDirective} (notEffect : directive ≠ .effect)
    (spell : SpellBlock) (argument : Argument) :
    (spell.read directive argument).effect = spell.effect := by
  cases directive <;> cases argument <;> first | rfl | exact absurd rfl notEffect

/-! ### What a line keeps -/

theorem Waits.read (waits : spell.Waits) {directive : SpellDirective}
    (notEffect : directive ≠ .effect) (argument : Argument) :
    (spell.read directive argument).Waits :=
  ⟨(effect_read notEffect spell argument).trans waits.effect,
    (resolved_read spell directive argument).trans waits.unresolved⟩

theorem Waits.not_ready (waits : spell.Waits) : spell.ready = false := by
  rw [ready, waits.effect]
  simp

theorem Waits.after (waits : spell.Waits) (noEffect : meaning.isEffect = false) :
    (spell.after meaning).Waits := by
  cases meaning with
  | spellContent directive ref argument =>
      have notEffect : directive ≠ .effect := by
        rintro rfl
        cases noEffect
      have readWaits := waits.read notEffect argument
      simp only [SpellBlock.after, readWaits.not_ready, Bool.false_eq_true, if_false]
      exact readWaits
  | _ => exact waits

theorem Waits.foldl (waits : spell.Waits) (noEffect : ∀ meaning ∈ meanings,
    meaning.isEffect = false) : (meanings.foldl SpellBlock.after spell).Waits :=
  List.foldlRecOn meanings SpellBlock.after waits fun _ stillWaits meaning member =>
    stillWaits.after (noEffect meaning member)

/-- The effect settles the damage value that has been waiting for it. -/
theorem Waits.after_effect (waits : spell.Waits) (ref : Option DirectiveRef) (effect : Int) :
    (spell.after (.spellContent .effect ref (.number effect))).Acts effect := by
  simp only [SpellBlock.after, SpellBlock.read, Argument.number?, ready, waits.unresolved,
    Option.isSome_some, Bool.not_false, Bool.true_and]
  split
  · next hasDamage => exact ⟨rfl, hasDamage.symm⟩
  · next noDamage => exact ⟨rfl, (Bool.eq_false_iff.2 noDamage).symm⟩

theorem Acts.after (acts : spell.Acts effect) (noEffect : meaning.isEffect = false) :
    (spell.after meaning).Acts effect := by
  cases meaning with
  | spellContent directive ref argument =>
      have notEffect : directive ≠ .effect := by
        rintro rfl
        cases noEffect
      have sameEffect := (effect_read notEffect spell argument).trans acts.effect
      have sameResolved := (resolved_read spell directive argument).trans acts.resolved
      have damage := isSome_damage_read spell directive ref argument
      simp only [SpellBlock.after]
      split
      · next isReady =>
          rw [ready, Bool.and_eq_true] at isReady
          exact ⟨sameEffect, isReady.2.symm⟩
      · next notReady =>
          refine ⟨sameEffect, ?_⟩
          rw [ready, sameEffect, sameResolved] at notReady
          rw [sameResolved, damage]
          cases hasDamage : spell.damage with
          | some _ => rfl
          | none =>
              rw [hasDamage] at notReady damage
              rw [damage] at notReady
              simpa using notReady
  | _ => exact acts

theorem Acts.foldl (acts : spell.Acts effect) (noEffect : ∀ meaning ∈ meanings,
    meaning.isEffect = false) : (meanings.foldl SpellBlock.after spell).Acts effect :=
  List.foldlRecOn (motive := fun spell => spell.Acts effect) meanings SpellBlock.after acts
    fun _ stillActs meaning member => stillActs.after (noEffect meaning member)

/-! ### Settlements -/

/-- A block that is done with its damage value settles no other. -/
theorem settlement_of_resolved (resolved : spell.resolved = true) (later : List LineMeaning) :
    spell.settlement later = none := by
  induction later generalizing spell with
  | nil => rw [settlement_nil (ready_of_resolved resolved), if_pos resolved]
  | cons meaning later inductionHypothesis =>
      by_cases isEnd : meaning = .blockEnd
      · rw [isEnd, settlement_blockEnd, settlement_nil (ready_of_resolved resolved),
          if_pos resolved]
      by_cases isContent : ∃ directive ref argument, meaning = .spellContent directive ref argument
      · obtain ⟨directive, ref, argument, rfl⟩ := isContent
        rw [settlement_spellContent (ready_of_resolved resolved)]
        split
        · rfl
        · exact inductionHypothesis ((resolved_read spell directive argument).trans resolved)
      · rw [settlement_cons isEnd fun directive ref argument same =>
          isContent ⟨directive, ref, argument, same⟩]
        exact inductionHypothesis resolved

/-- A block that waits goes on to wait, unless another damage value comes. -/
theorem Waits.settlement_cons (waits : spell.Waits) (notEnd : meaning ≠ .blockEnd)
    (noEffect : meaning.isEffect = false) (later : List LineMeaning) :
    spell.settlement (meaning :: later) =
      if meaning.damage?.isSome then none else (spell.after meaning).settlement later := by
  by_cases isContent : ∃ directive ref argument, meaning = .spellContent directive ref argument
  · obtain ⟨directive, ref, argument, rfl⟩ := isContent
    have notEffect : directive ≠ .effect := by
      rintro rfl
      cases noEffect
    have readWaits := waits.read notEffect argument
    rw [settlement_spellContent waits.not_ready, LineMeaning.isSome_damage?_spellContent]
    simp only [SpellBlock.after, readWaits.not_ready, Bool.false_eq_true, if_false]
  · have notContent : ∀ directive ref argument, meaning ≠ .spellContent directive ref argument :=
      fun directive ref argument same => isContent ⟨directive, ref, argument, same⟩
    rw [SpellBlock.settlement_cons notEnd notContent]
    cases meaning with
    | spellContent directive ref argument => exact absurd rfl (notContent directive ref argument)
    | _ => rfl

/-- A damage value that another one follows before the effect is not settled. -/
theorem Waits.settlement_eq_none (waits : spell.Waits)
    (inside : ∀ meaning ∈ meanings, meaning ≠ .blockEnd ∧ meaning.isEffect = false)
    (replaced : meanings.any (·.damage?.isSome) = true) (later : List LineMeaning) :
    spell.settlement (meanings ++ later) = none := by
  induction meanings generalizing spell with
  | nil => cases replaced
  | cons meaning rest inductionHypothesis =>
      obtain ⟨notEnd, noEffect⟩ := inside meaning List.mem_cons_self
      rw [List.cons_append, waits.settlement_cons notEnd noEffect]
      split
      · rfl
      · next noDamage =>
          rw [List.any_cons, Bool.or_eq_true] at replaced
          exact inductionHypothesis (waits.after noEffect)
            (fun other member => inside other (List.mem_cons_of_mem meaning member))
            (replaced.resolve_left noDamage)

/-- The last damage value before the effect is settled with the effect. -/
theorem Waits.exists_settlement (waits : spell.Waits) {damage : Int}
    (given : spell.damage = some damage)
    (inside : ∀ meaning ∈ meanings, meaning ≠ .blockEnd ∧ meaning.isEffect = false)
    (last : ∀ meaning ∈ meanings, meaning.damage? = none) (ref : Option DirectiveRef)
    (effect : Int) (later : List LineMeaning) :
    ∃ settled, spell.settlement
        (meanings ++ .spellContent .effect ref (.number effect) :: later) = some settled ∧
      settled.effect = some effect ∧ settled.damage = some damage := by
  induction meanings generalizing spell with
  | nil =>
      have isReady : (spell.read .effect (.number effect)).ready = true := by
        rw [ready, resolved_read, waits.unresolved]
        simp only [SpellBlock.read, given]
        rfl
      have noDamage : (SpellDirective.effect.isDamage && (Argument.number effect).number?.isSome) =
          false := rfl
      rw [List.nil_append, settlement_spellContent waits.not_ready, noDamage,
        if_neg Bool.false_ne_true, settlement_of_ready isReady]
      exact ⟨_, rfl, rfl, given⟩
  | cons meaning rest inductionHypothesis =>
      obtain ⟨notEnd, noEffect⟩ := inside meaning List.mem_cons_self
      have noDamage := last meaning List.mem_cons_self
      rw [List.cons_append, waits.settlement_cons notEnd noEffect, noDamage, Option.isSome_none,
        if_neg Bool.false_ne_true]
      exact inductionHypothesis (waits.after noEffect)
        ((damage_after_of_eq_none noDamage spell).trans given)
        (fun other member => inside other (List.mem_cons_of_mem meaning member))
        fun other member => last other (List.mem_cons_of_mem meaning member)

end SpellBlock

/-! ### Runs through a spell block -/

namespace Survey

variable {survey next : Survey} {spell : SpellBlock} {lineNumber : Nat} {meaning : LineMeaning}

theorem spell_advance (consistent : survey.context.Consistent)
    (inSpell : survey.context.spell = some spell) (notEnd : meaning ≠ .blockEnd)
    (advanced : survey.advance lineNumber meaning = .ok next) :
    next.context.spell = some (spell.after meaning) := by
  cases meaning with
  | blockEnd => exact absurd rfl notEnd
  | blockStart word ref argument =>
      have noSpell := consistent.spell_eq_none (survey.outside_of_openBlock advanced)
      cases noSpell.symm.trans inSpell
  | spellContent directive ref argument =>
      obtain rfl := Except.ok.inj advanced
      simp only [SpellBlock.after]
      split
      · next ready => rw [readSpellLine_of_ready inSpell ready]
      · next notReady => rw [readSpellLine_of_not_ready inSpell (Bool.eq_false_iff.2 notReady)]
  | _ =>
      rw [(context_advance rfl advanced).2]
      exact inSpell

/-- Within a spell block, what the block has come to follows from its lines. -/
theorem spell_before {lines : List ScriptLine} {inside rest : List SurveyedLine}
    {surveyed : SurveyedLine} (consistent : survey.context.Consistent)
    (inSpell : survey.context.spell = some spell)
    (readings : survey.readings lines = inside ++ surveyed :: rest)
    (notEnd : ∀ line ∈ inside, line.meaning ≠ .blockEnd) :
    surveyed.before.context.spell =
      some ((inside.map (·.meaning)).foldl SpellBlock.after spell) := by
  induction inside generalizing survey spell lines with
  | nil =>
      obtain ⟨_, _, _, -, ofStep, -⟩ := exists_ofStep_of_readings readings
      rw [ofStep.before_eq]
      exact inSpell
  | cons first others inductionHypothesis =>
      obtain ⟨_, _, next, -, ofStep, later⟩ := exists_ofStep_of_readings readings
      rw [List.map_cons, List.foldl_cons]
      exact inductionHypothesis (consistent_step consistent ofStep.stepped)
        (spell_advance consistent inSpell (notEnd first List.mem_cons_self) ofStep.advanced) later
        fun line member => notEnd line (List.mem_cons_of_mem first member)

/-- A spell block that is opened has neither an effect nor a damage value. -/
theorem exists_spell_opened (opens : meaning.opensSpell = true)
    (advanced : survey.advance lineNumber meaning = .ok next) :
    ∃ spell, next.context.spell = some spell ∧ spell.Waits ∧ spell.damage = none := by
  obtain ⟨word, ref, argument, rfl, isSpell⟩ := LineMeaning.opensSpell_iff.1 opens
  obtain ⟨same, isOpened, inSpell, -⟩ :=
    survey.exists_openBlock lineNumber ref argument (survey.outside_of_openBlock advanced)
  obtain rfl := Except.ok.inj (isOpened.symm.trans advanced)
  rw [inSpell, if_pos isSpell]
  exact ⟨_, rfl, ⟨rfl, rfl⟩, rfl⟩

/-- The spell block at one of its lines, from where it was opened. -/
theorem exists_spell_before {lines : List ScriptLine} {front inside rest : List SurveyedLine}
    {opening surveyed : SurveyedLine} (consistent : survey.context.Consistent)
    (readings : survey.readings lines = front ++ opening :: (inside ++ surveyed :: rest))
    (opens : opening.meaning.opensSpell = true)
    (notEnd : ∀ line ∈ inside, line.meaning ≠ .blockEnd) :
    ∃ spell : SpellBlock, spell.Waits ∧ spell.damage = none ∧ surveyed.before.context.spell =
      some ((inside.map (·.meaning)).foldl SpellBlock.after spell) := by
  induction front generalizing survey lines with
  | nil =>
      obtain ⟨_, _, next, -, ofStep, later⟩ := exists_ofStep_of_readings readings
      obtain ⟨spell, inSpell, waits, noDamage⟩ := exists_spell_opened opens ofStep.advanced
      exact ⟨spell, waits, noDamage,
        spell_before (consistent_step consistent ofStep.stepped) inSpell later notEnd⟩
  | cons first others inductionHypothesis =>
      obtain ⟨_, _, next, -, ofStep, later⟩ := exists_ofStep_of_readings readings
      exact inductionHypothesis (consistent_step consistent ofStep.stepped) later

end Survey

end ModMerge
