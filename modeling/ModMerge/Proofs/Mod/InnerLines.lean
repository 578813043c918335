import ModMerge.Proofs.Mod.SameRecords
import ModMerge.Proofs.Mod.SpellCollection

/-!
# Surveys within a spell block

Within a spell block a survey passes every line, and each line either tells the block a part of
what it does or records something of its own. The content that the damage value refers to is
recorded once, and it makes no difference after which line (`exists_run_inner`): what has been
recorded is what the other lines record, and that content besides.
-/

namespace ModMerge

/-- Whether a line within a spell block neither ends the block nor begins anything else. -/
def LineMeaning.isInner : LineMeaning → Bool
  | .descriptionText _ | .descriptionStart true | .blockStart .. | .blockEnd => false
  | _ => true

/-- The definition with what a line within a block records of its own. -/
def ModDefinition.recordInner (definition : ModDefinition) (active : Option NameBinding) :
    LineMeaning → ModDefinition
  | .modName (some name) => { definition with displayName := some name }
  | .name (some name) =>
      match active with
      | some binding => if name.isEmpty then definition else definition.recordName name binding
      | none => definition
  | .entity _ ref argument =>
      if ref.rule.role.isDefinition then definition.recordArgument ref argument else definition
  | _ => definition

/-- The content that a block has found its damage value to refer to. -/
def SpellBlock.foundTarget (spell : SpellBlock) : Option EntityId :=
  if spell.resolved then spell.damageTarget else none

namespace ModDefinition

/-- Lines that tell the block something record nothing of their own. -/
theorem recordInner_of_tellsSpell {meaning : LineMeaning} (tells : meaning.tellsSpell = true)
    (definition : ModDefinition) (active : Option NameBinding) :
    definition.recordInner active meaning = definition := by
  cases meaning with
  | modName | name | entity => cases tells
  | _ => rfl

namespace Adds

variable {extra : Option EntityId} {first second : ModDefinition}

theorem recordInner (adds : first.Adds extra second) (active : Option NameBinding)
    (meaning : LineMeaning) :
    (first.recordInner active meaning).Adds extra (second.recordInner active meaning) := by
  cases meaning with
  | modName given =>
      cases given with
      | none => exact adds
      | some name => exact { adds with displayName := rfl }
  | name given =>
      cases given with
      | none => exact adds
      | some name =>
          simp only [ModDefinition.recordInner]
          split
          · split
            · exact adds
            · exact adds.recordName name _
          · exact adds
  | entity word ref argument =>
      simp only [ModDefinition.recordInner]
      split
      · exact adds.recordArgument ref argument
      · exact adds
  | _ => exact adds

/-- What the second definition records of a damage value is what it adds. -/
theorem recordMoreDamage (adds : first.Adds none second) (spell : SpellBlock) :
    first.Adds spell.damageTarget (second.recordDamage spell) := by
  rw [ModDefinition.recordDamage]
  cases spell.damageTarget with
  | none => exact adds
  | some content => exact adds.recordMore content

end Adds
end ModDefinition

/-- The survey stands within a spell block. -/
structure Survey.InSpell (survey : Survey) (spell : SpellBlock) : Prop where
  state : survey.context.state = .inSpellBlock
  activeType : survey.context.activeType = some .spell
  spell : survey.context.spell = some spell

namespace Survey

variable {survey next last : Survey} {spell : SpellBlock} {meaning : LineMeaning}
  {lineNumber : Nat}

/-- The survey past a line within a spell block. -/
def pastInner (survey : Survey) (spell : SpellBlock) (meaning : LineMeaning) : Survey where
  context := { survey.context with spell := some (spell.after meaning) }
  definition :=
    let recorded := survey.definition.recordInner survey.context.active meaning
    if (spell.after meaning).resolved && !spell.resolved then
      recorded.recordDamage (spell.after meaning)
    else recorded

/-- A line that tells the block nothing is passed as it would be elsewhere. -/
theorem pastInner_of_untold (inSpell : survey.InSpell spell)
    (untold : spell.after meaning = spell) :
    survey.pastInner spell meaning = { survey with
      definition := survey.definition.recordInner survey.context.active meaning } := by
  have context : { survey.context with spell := some spell } = survey.context := by
    rw [← inSpell.spell]
  simp only [pastInner, untold, context, Bool.and_not_self, Bool.false_eq_true, if_false]

theorem advance_inner (inSpell : survey.InSpell spell) (inner : meaning.isInner = true) :
    survey.advance lineNumber meaning = .ok (survey.pastInner spell meaning) := by
  cases meaning with
  | blockStart | blockEnd | descriptionText => cases inner
  | descriptionStart staysOpen =>
      cases staysOpen with
      | true => cases inner
      | false => rw [pastInner_of_untold inSpell rfl]; rfl
  | modName given => cases given <;> (rw [pastInner_of_untold inSpell rfl]; rfl)
  | name given =>
      rw [pastInner_of_untold inSpell rfl]
      cases given with
      | none => rfl
      | some name =>
          simp only [advance_name, bindName, ModDefinition.recordInner]
          cases survey.context.active with
          | none => rfl
          | some binding => cases name.isEmpty <;> rfl
  | entity word ref argument =>
      rw [pastInner_of_untold inSpell rfl, ModDefinition.recordInner, advance]
      split <;> rfl
  | spellContent directive ref argument =>
      rw [advance, pastInner, SpellBlock.after]
      cases ready : (spell.read directive argument).ready with
      | true =>
          have unresolved : spell.resolved = false := by
            rw [← spell.resolved_read directive argument, ← Bool.not_eq_true]
            intro resolved
            cases ready.symm.trans (SpellBlock.ready_of_resolved resolved)
          rw [readSpellLine_of_ready inSpell.spell ready, unresolved]
          rfl
      | false =>
          simp only [readSpellLine_of_not_ready inSpell.spell ready, Bool.false_eq_true, if_false,
            spell.resolved_read, Bool.and_not_self, ModDefinition.recordInner]
  | blank | comment | otherMetadata word | text word =>
      rw [pastInner_of_untold inSpell rfl]
      rfl

/-- Past a line, what the survey has recorded is what the line records of its own and, once the
damage value has a meaning, the content that it refers to. -/
theorem adds_pastInner {meanings : List LineMeaning} {plain : ModDefinition}
    (once : spell.ToldOnce (meaning :: meanings))
    (adds : plain.Adds spell.dealt.foundTarget survey.definition) :
    (plain.recordInner survey.context.active meaning).Adds (spell.told meaning).dealt.foundTarget
      (survey.pastInner spell.dealt meaning).definition := by
  have recorded := adds.recordInner survey.context.active meaning
  rw [pastInner, SpellBlock.after_dealt once]
  rw [SpellBlock.foundTarget] at recorded ⊢
  cases before : spell.dealt.resolved with
  | true =>
      obtain ⟨hasEffect, hasDamage⟩ := Bool.and_eq_true_iff.1 before
      have notEffect := once.not_effect hasEffect meaning List.mem_cons_self
      have noDamage := once.not_damage hasDamage meaning List.mem_cons_self
      have resolved : (spell.told meaning).dealt.resolved = true := by
        rw [SpellBlock.dealt, SpellBlock.effect_told notEffect, SpellBlock.damage_told noDamage]
        exact before
      have sameTarget := SpellBlock.damageTarget_told hasEffect notEffect noDamage
      rw [before, if_pos rfl] at recorded
      rw [resolved, if_pos rfl]
      exact sameTarget ▸ recorded
  | false =>
      rw [before, if_neg Bool.false_ne_true] at recorded
      cases (spell.told meaning).dealt.resolved with
      | true => exact recorded.recordMoreDamage (spell.told meaning).dealt
      | false => exact recorded

end Survey

/-! ### Runs within a block -/

/-- Where the lines of spell blocks stand. -/
def ParseContext.ofSpellBlock : ParseContext :=
  { state := .inSpellBlock, activeType := some .spell }

/-- The text means this in every spell block, and leaves the block open. -/
structure ReadsInner (text : Line) (meaning : LineMeaning) : Prop where
  read : ∃ classified, classify .ofSpellBlock text = .ok classified ∧
    classified.meaning = meaning
  inner : meaning.isInner = true

namespace Survey.InSpell

variable {survey next last : Survey} {spell : SpellBlock} {meaning : LineMeaning}
  {line : ScriptLine} {lines : List ScriptLine} {meanings : List LineMeaning}

theorem classify_eq (inSpell : survey.InSpell spell) (text : Line) :
    classify survey.context text = classify .ofSpellBlock text :=
  classify_congr inSpell.state inSpell.activeType text

theorem pastInner (inSpell : survey.InSpell spell) (meaning : LineMeaning) :
    (survey.pastInner spell meaning).InSpell (spell.after meaning) :=
  ⟨inSpell.state, inSpell.activeType, rfl⟩

theorem step_eq (inSpell : survey.InSpell spell) (reads : ReadsInner line.text meaning) :
    survey.step line = .ok (survey.pastInner spell meaning) := by
  obtain ⟨classified, read, rfl⟩ := reads.read
  exact step_eq_ok_iff.2 ⟨classified, (inSpell.classify_eq line.text).trans read,
    advance_inner inSpell reads.inner⟩

/-- A line that is passed within a spell block and does not end it is a line within it. -/
theorem readsInner_of_step (inSpell : survey.InSpell spell) {surveyed : SurveyedLine}
    (ofStep : surveyed.OfStep survey line next) (notEnd : surveyed.meaning ≠ .blockEnd) :
    ReadsInner line.text surveyed.meaning := by
  obtain ⟨classified, read, same⟩ := ofStep.read
  have outside : survey.context.inDescription = false := by
    rw [ParseContext.inDescription, inSpell.state]
    rfl
  refine ⟨⟨classified, ?_, same⟩, ?_⟩
  · rwa [← inSpell.classify_eq, ← classify_trimRight, ← ofStep.line_eq]
  · have advanced := ofStep.advanced
    have notText := meaning_ne_descriptionText outside read
    rw [same] at notText
    cases isMeaning : surveyed.meaning with
    | blockEnd => exact absurd isMeaning notEnd
    | descriptionText closes => exact absurd isMeaning (notText closes)
    | blockStart word ref argument =>
        rw [isMeaning] at advanced
        exact absurd inSpell.state (survey.outside_of_openBlock advanced)
    | descriptionStart staysOpen =>
        cases staysOpen with
        | false => rfl
        | true =>
            rw [isMeaning] at advanced
            have isIdle := (advance_descriptionStart_eq_ok_iff.1 advanced).1
            rw [inSpell.state] at isIdle
            cases isIdle
    | _ => rfl

/-- All lines that are passed before the end of a spell block are lines within it. -/
theorem readsInner_of_run (inSpell : survey.InSpell spell) (ran : survey.run lines = .ok last)
    (notEnd : ∀ surveyed ∈ survey.readings lines, surveyed.meaning ≠ .blockEnd) :
    List.Forall₂ (fun line meaning => ReadsInner line.text meaning) lines
      ((survey.readings lines).map (·.meaning)) := by
  induction lines generalizing survey spell with
  | nil => exact .nil
  | cons line rest inductionHypothesis =>
      obtain ⟨next, stepped, remaining⟩ := run_cons_eq_ok.1 ran
      obtain ⟨surveyed, ofStep, readings⟩ := exists_readings_cons stepped rest
      rw [readings] at notEnd ⊢
      have reads := inSpell.readsInner_of_step ofStep (notEnd _ List.mem_cons_self)
      obtain rfl := Except.ok.inj ((inSpell.step_eq reads).symm.trans stepped)
      exact .cons reads (inductionHypothesis (inSpell.pastInner surveyed.meaning) remaining
        fun other member => notEnd other (List.mem_cons_of_mem surveyed member))

/-- A survey passes all lines within a spell block. In the end it has recorded what they record of
their own and, if the damage value has a meaning, the content that it refers to. -/
theorem exists_run_inner {plain : ModDefinition}
    (reads : List.Forall₂ (fun (line : ScriptLine) meaning => ReadsInner line.text meaning) lines
      meanings)
    (inSpell : survey.InSpell spell.dealt) (once : spell.ToldOnce meanings)
    (adds : plain.Adds spell.dealt.foundTarget survey.definition) :
    ∃ last, survey.run lines = .ok last ∧ (survey.readings lines).map (·.meaning) = meanings ∧
      last.context =
        { survey.context with spell := some (meanings.foldl SpellBlock.told spell).dealt } ∧
      (meanings.foldl (·.recordInner survey.context.active ·) plain).Adds
        (meanings.foldl SpellBlock.told spell).dealt.foundTarget last.definition := by
  induction reads generalizing survey spell plain with
  | nil =>
      refine ⟨survey, rfl, rfl, ?_, adds⟩
      rw [List.foldl_nil, ← inSpell.spell]
  | @cons line meaning rest others reads _ inductionHypothesis =>
      have stepped := inSpell.step_eq reads
      have inSpellNext := inSpell.pastInner meaning
      rw [SpellBlock.after_dealt once] at inSpellNext
      obtain ⟨last, ran, readings, context, addsLast⟩ :=
        inductionHypothesis inSpellNext once.told (adds_pastInner once adds)
      obtain ⟨classified, read, same⟩ := reads.read
      refine ⟨last, run_cons_eq_ok.2 ⟨_, stepped, ran⟩, ?_, context, addsLast⟩
      simp only [Survey.readings, inSpell.classify_eq, read, stepped, List.map_cons, same, readings]

end Survey.InSpell
end ModMerge
