import ModMerge.Proofs.Mod.DraftedRuns
import ModMerge.Proofs.Mod.EditedLines

/-!
# One context for both walks

Reading a mod and renumbering it are two walks through the same lines, and each keeps a context
of its own. Renumbering gives names nothing to be bound to; in all else the two contexts are the
same after any number of lines, and both are consistent. So whatever the one walk has been told
about the open spell block the other has been told as well, and a damage line waits to be
renumbered exactly while reading still waits to know what its value means.
-/

namespace ModMerge

/-- Names matter to no part of the consistency of a context. -/
theorem ParseContext.Consistent.withoutName {context : ParseContext}
    (consistent : context.Consistent) :
    ({ context with active := none } : ParseContext).Consistent :=
  ⟨consistent.spell_iff, consistent.spell_activeType, consistent.spell_blockLine,
    consistent.description_iff⟩

namespace Renumbering

/-- Renumbering stands where the survey does: in the same state and block, with the same spell
block, past as many definitions without an id, and with a damage line that waits exactly if the
value of the spell block does. -/
structure SharesContext (renumbering : Renumbering) (survey : Survey) : Prop where
  state_eq : renumbering.context.state = survey.context.state
  activeType_eq : renumbering.context.activeType = survey.context.activeType
  blockLine_eq : renumbering.context.blockLine = survey.context.blockLine
  descriptionLine_eq : renumbering.context.descriptionLine = survey.context.descriptionLine
  spell_eq : renumbering.context.spell = survey.context.spell
  counts_eq : ∀ type, renumbering.implicitCounts.get type =
    survey.definition.nextImplicitIndex type
  /-- Outside of spell blocks no line waits. -/
  pending_eq_none : survey.context.spell = none → renumbering.pendingDamage = none
  pending_iff : ∀ spell ∈ survey.context.spell, spell.resolved = false →
    (renumbering.pendingDamage.isSome ↔ spell.damage.isSome)
  /-- The line that waits has been written. -/
  pending_lt : ∀ position ∈ renumbering.pendingDamage, position < renumbering.output.size

variable {renumbering : Renumbering} {mapping : ModMapping} {survey : Survey}

/-- The value of a spell block that is not settled waits together with its line. -/
theorem Waiting.isSome_iff {pending : Option Nat} {spell : Option SpellBlock} {block : SpellBlock}
    (waiting : Waiting pending spell) (isOpen : block ∈ spell)
    (unresolved : block.resolved = false) :
    pending.isSome ↔ block.damage.isSome := by
  constructor
  · intro waits
    obtain ⟨other, isOther, hasDamage⟩ := waiting.damage waits
    obtain rfl := Option.mem_unique isOther isOpen
    exact hasDamage
  · exact waiting.waits block isOpen unresolved

theorem InStep.sharesContext (inStep : renumbering.InStep mapping survey) :
    renumbering.SharesContext survey where
  state_eq := by rw [inStep.context_eq]
  activeType_eq := by rw [inStep.context_eq]
  blockLine_eq := by rw [inStep.context_eq]
  descriptionLine_eq := by rw [inStep.context_eq]
  spell_eq := inStep.spell_eq
  counts_eq := inStep.counts_eq
  pending_eq_none noSpell := Waiting.pending_eq_none (noSpell ▸ inStep.waiting)
  pending_iff _ isOpen unresolved := inStep.waiting.isSome_iff isOpen unresolved
  pending_lt := inStep.bound

end Renumbering

/-- A walk that passes all lines passes the first of them, and then meets no fewer definitions
without an id. -/
theorem Survey.exists_run_take {start last : Survey} {lines : List ScriptLine}
    (ran : start.run lines = .ok last) (count : Nat) :
    ∃ survey, start.run (lines.take count) = .ok survey ∧ ∀ type,
      survey.definition.nextImplicitIndex type ≤ last.definition.nextImplicitIndex type := by
  rw [← List.take_append_drop count lines] at ran
  obtain ⟨survey, ranFirst, remaining⟩ := Survey.run_append_eq_ok.1 ran
  exact ⟨survey, ranFirst, Survey.nextImplicitIndex_le_of_run remaining⟩

/-- The numbers that have been written for some first lines have been read or assigned, and only
those that have been assigned may have too many digits. -/
theorem Renumbering.assigns_of_long {mapping : ModMapping} {modName : String}
    {lines : List ScriptLine} {renumbering : Renumbering}
    (unchanged : renumbering.WaitsUnchanged)
    (settled : renumbering.settled [] = (mapping.transcribe []
      (({ definition := { modName } } : Survey).readings lines)).filterMap (·.written)) :
    ∀ number ∈ renumbering.numbers, ¬ Text.Short number → mapping.Assigns number := by
  intro number isWritten
  -- The line that waits has no number yet, so all numbers are among those of the settled lines.
  have grows : Grows renumbering { renumbering with
      output := (renumbering.settled []).toArray, pendingDamage := none } :=
    grows_written List.toList_toArray rfl
  have inSettled := grows.numbers_subset unchanged isWritten
  rw [numbers, List.toList_toArray, settled] at inSettled
  exact (isTranscribed_transcribe mapping ParseContext.consistent_initial lines).assigns_of_long
    number inSettled

/-- Of a mod that can be read, with a mapping that has enough ids for it, both walks pass any
number of its first lines, unless a number that is written has too many digits. After these each
walk has a consistent context, and it is the same context but for what a name would be bound to. -/
theorem walks_share_context {mapping : ModMapping} {modName : String} {script : List Char}
    {definition : ModDefinition} (parsed : ModDefinition.parse modName script = .ok definition)
    (provided : ∀ type, definition.nextImplicitIndex type ≤ (mapping.implicitIds type).length)
    (count : Nat) :
    ∃ (survey : Survey) (renumbering : Renumbering),
      Survey.run { definition := { modName } } ((scriptLines script).take count) = .ok survey ∧
      Renumbering.run { modName, mapping } ((scriptLines script).take count) =
        whenWritable renumbering.numbers renumbering ∧
      (∀ number ∈ renumbering.numbers, ¬ Text.Short number → mapping.Assigns number) ∧
      survey.context.Consistent ∧ renumbering.context.Consistent ∧
      renumbering.SharesContext survey := by
  obtain ⟨last, surveyed, -, rfl⟩ := ModDefinition.parse_eq_ok_iff.1 parsed
  obtain ⟨survey, ran, fewer⟩ := Survey.exists_run_take surveyed count
  obtain ⟨renumbering, passed, inStep, settled⟩ :=
    (Renumbering.InStep.initial modName mapping).exists_run ran fun type =>
      (fewer type).trans (last.nextImplicitIndex_finish type ▸ provided type)
  have unchanged : ({ modName, mapping } : Renumbering).WaitsUnchanged :=
    Renumbering.waitsUnchanged_of_none rfl
  obtain ⟨lastUnchanged, -⟩ := Renumbering.numbers_subset_of_passAll unchanged passed
  refine ⟨survey, renumbering, ran, Renumbering.run_of_passAll unchanged nofun passed,
    Renumbering.assigns_of_long lastUnchanged settled, inStep.consistent, ?_,
    inStep.sharesContext⟩
  rw [inStep.context_eq]
  exact inStep.consistent.withoutName

theorem walks_share_context_scoutScript :
    ∃ definition, ModDefinition.parse "Scouts" scoutScript = .ok definition ∧
      (∀ type, definition.nextImplicitIndex type ≤ (scoutMapping.implicitIds type).length) ∧
      ∃ (survey : Survey) (renumbering : Renumbering) (spell : SpellBlock),
        Survey.run { definition := { modName := "Scouts" } } ((scriptLines scoutScript).take 10) =
          .ok survey ∧
        Renumbering.run { modName := "Scouts", mapping := scoutMapping }
          ((scriptLines scoutScript).take 10) = .ok renumbering ∧
        renumbering.context.Consistent ∧ renumbering.context.spell = some spell ∧
        spell.damage = some 5000 ∧ renumbering.pendingDamage.isSome ∧
        renumbering.implicitCounts.get .monster = 1 := by
  obtain ⟨definition, parsed, provided⟩ := exists_parse_scoutScript
  obtain ⟨survey, renumbering, ran, renumberEq, -, -, consistent, shares⟩ :=
    walks_share_context parsed provided 10
  have isRun : (Renumbering.run { modName := "Scouts", mapping := scoutMapping }
      ((scriptLines scoutScript).take 10)).isOk = true := by decide +kernel
  obtain ⟨written, renumbered⟩ := exists_eq_ok_of_isOk isRun
  obtain ⟨-, rfl⟩ := whenWritable_eq_ok_iff.1 (renumberEq.symm.trans renumbered)
  -- The tenth line gives the damage value of a spell whose effect is told in the eleventh.
  have here : (Survey.run { definition := { modName := "Scouts" } }
      ((scriptLines scoutScript).take 10)).toOption.any (fun survey =>
        survey.definition.nextImplicitIndex .monster == 1 && survey.context.spell.any fun spell =>
          !spell.resolved && spell.damage == some 5000) = true := by decide +kernel
  rw [ran] at here
  simp only [Except.toOption, Option.any_some, Bool.and_eq_true, beq_iff_eq, Option.any_eq_true,
    Bool.not_eq_true'] at here
  obtain ⟨counted, spell, inSpell, unresolved, damage⟩ := here
  refine ⟨definition, parsed, provided, survey, renumbering, spell, ran, renumbered, consistent,
    shares.spell_eq.trans inSpell, damage, ?_, (shares.counts_eq .monster).trans counted⟩
  rw [shares.pending_iff spell inSpell unresolved, damage]
  rfl

end ModMerge
