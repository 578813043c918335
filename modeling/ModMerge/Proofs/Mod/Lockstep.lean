import ModMerge.Proofs.Mod.RenumberingSteps
import ModMerge.Proofs.Mod.Writing

/-!
# Renumbering in lockstep with a survey

Renumbering a mod and surveying it pass the same lines in the same contexts. `Lockstep`
relates the two after the same lines: what has been written renders what the survey has
found, whatever the damage value that still waits for its effect will be replaced by.
-/

namespace ModMerge

namespace Renumbering

variable {renumbering : Renumbering} {line : Line}

/-! ### Writing a line -/

theorem emit_of_reads {inSpellBlock : Bool} {meaning : LineMeaning}
    (reads : Reads inSpellBlock line meaning) (notBlank : meaning ≠ .blank)
    (notEnd : meaning ≠ .blockEnd) (renumbering : Renumbering) :
    renumbering.emit line = { renumbering with output := renumbering.output.push { line } } := by
  rw [emit, isBlankText_of_reads reads notBlank, isEndLine_of_reads reads notEnd]
  rfl

theorem emit_of_isBlankText (blank : Text.isBlankText line = true) (renumbering : Renumbering) :
    renumbering.emit line = renumbering ∨
    renumbering.emit line =
      { renumbering with output := renumbering.output.push { line := [] } } := by
  rw [emit, if_pos blank]
  split
  · exact .inl rfl
  · exact .inr rfl

theorem emit_of_blockEnd {inSpellBlock : Bool} (reads : Reads inSpellBlock line .blockEnd)
    (renumbering : Renumbering) :
    renumbering.emit line = renumbering ∧ lastEnds renumbering.output.toList = true ∨
    renumbering.emit line = { renumbering with output := renumbering.output.push { line } } := by
  rw [emit, isBlankText_of_reads reads (by simp), if_neg Bool.false_ne_true]
  split
  · next repeated =>
      rw [Bool.and_eq_true, Array.findRev?_eq_find?_reverse, ← Array.find?_toList,
        Array.toList_reverse] at repeated
      exact .inl ⟨rfl, repeated.2⟩
  · exact .inr rfl

/-! ### The damage value that waits -/

/-- The damage value that is read in place of `damage` if the value that waits is replaced. -/
def replacedDamage (pending : Option Nat) (change : Option RemappedArgument)
    (damage : Option Int) : Option Int :=
  match pending, change with
  | some _, some remap => some remap.argument
  | _, _ => damage

/-- The damage value that will be read of the spell block that is open. -/
def waitingDamage (renumbering : Renumbering) (survey : Survey)
    (change : Option RemappedArgument) : Option Int :=
  replacedDamage renumbering.pendingDamage change (survey.context.spell.bind (·.damage))

/-- The replacement can be written and read. -/
def ShortChange (change : Option RemappedArgument) : Prop :=
  ∀ remap ∈ change, Text.Short remap.argument

theorem waitingDamage_congr {next : Renumbering} {survey nextSurvey : Survey}
    (pendingDamage : next.pendingDamage = renumbering.pendingDamage)
    (spell : nextSurvey.context.spell.bind (·.damage) = survey.context.spell.bind (·.damage))
    (change : Option RemappedArgument) :
    next.waitingDamage nextSurvey change = renumbering.waitingDamage survey change := by
  unfold waitingDamage
  rw [pendingDamage, spell]

/-- Renumbering and a survey of the same mod, after the same lines. -/
structure Lockstep (atStart : Prop) (mapping : ModMapping) (start : Survey)
    (renumbering : Renumbering) (survey : Survey) : Prop where
  mapping_eq : renumbering.mapping = mapping
  context_eq : renumbering.context = { survey.context with active := none }
  counts_eq : ∀ type, renumbering.implicitCounts.get type =
    survey.definition.nextImplicitIndex type
  consistent : survey.context.Consistent
  waiting : Waiting renumbering.pendingDamage survey.context.spell
  bound : ∀ position ∈ renumbering.pendingDamage, position < renumbering.output.size
  renders : ∀ change, ShortChange change → Renders atStart mapping start
    (renumbering.written change) survey (renumbering.waitingDamage survey change)

namespace Lockstep

variable {atStart : Prop} {mapping : ModMapping} {start survey nextSurvey : Survey}
  {next : Renumbering}

/-- Nothing has been read or written. -/
theorem initial (modName : String) (mapping : ModMapping) {definition : ModDefinition}
    (consistent : start.context.Consistent) (outside : start.context.inDescription = false)
    (none : ∀ type, definition.nextImplicitIndex type = 0)
    (mirrors : ({ definition } : Survey).Mirrors mapping start Option.none start) :
    ({ modName, mapping } : Renumbering).Lockstep atStart mapping start { definition } where
  mapping_eq := rfl
  context_eq := rfl
  counts_eq type := by rw [EntityTable.get_uniform, none]
  consistent := ParseContext.consistent_initial
  waiting := waiting_none
  bound _ member := by cases member
  renders change _ := .nil consistent outside mirrors

/-- A line that is left out. -/
theorem unread (lockstep : renumbering.Lockstep atStart mapping start survey)
    {context : ParseContext}
    (context_eq : context = { nextSurvey.context with active := none })
    (consistent : nextSurvey.context.Consistent)
    (spell : nextSurvey.context.spell = survey.context.spell)
    (active : nextSurvey.context.active = survey.context.active)
    (blockLine : nextSurvey.context.blockLine = survey.context.blockLine)
    (definition : ∃ displayName, nextSurvey.definition = { survey.definition with displayName }) :
    ({ renumbering with context } : Renumbering).Lockstep atStart mapping start nextSurvey := by
  refine ⟨lockstep.mapping_eq, context_eq, fun type => ?_, consistent, ?_, lockstep.bound,
    fun change short => ?_⟩
  · obtain ⟨displayName, definition⟩ := definition
    rw [definition]
    exact lockstep.counts_eq type
  · rw [spell]
    exact lockstep.waiting
  · have sameDamage : ({ renumbering with context } : Renumbering).waitingDamage nextSurvey change =
        renumbering.waitingDamage survey change := waitingDamage_congr rfl (by rw [spell]) change
    rw [sameDamage]
    refine (lockstep.renders change short).of_mirrors
      (fun read mirrors => mirrors.of_unread spell active definition) fun noBlock => ?_
    exact ⟨by rw [blockLine, noBlock.blockLine], by rw [active, noBlock.active]⟩

/-- A line that is written and does not end a block. -/
theorem push (lockstep : renumbering.Lockstep atStart mapping start survey) {written : OutputLine}
    {meaning : LineMeaning} (output : next.output = renumbering.output.push written)
    (pendingDamage : next.pendingDamage = renumbering.pendingDamage)
    (mapping_eq : next.mapping = mapping)
    (context_eq : next.context = { nextSurvey.context with active := none })
    (counts_eq : ∀ type, next.implicitCounts.get type =
      nextSurvey.definition.nextImplicitIndex type)
    (consistent : nextSurvey.context.Consistent)
    (waiting : Waiting renumbering.pendingDamage nextSurvey.context.spell)
    (readable : written.Readable atStart)
    (reads : Reads survey.context.spell.isSome written.line meaning)
    (notBlank : meaning ≠ .blank) (noDescription : meaning ≠ .descriptionStart true)
    (notEnd : meaning ≠ .blockEnd)
    (leads : ∀ change, ShortChange change → ∀ read,
      read.context.inSpellBlock = survey.context.spell.isSome →
      survey.Mirrors mapping start (renumbering.waitingDamage survey change) read →
      ∀ lineNumber, ∃ nextRead, read.advance lineNumber meaning = .ok nextRead ∧
        nextSurvey.Mirrors mapping start (next.waitingDamage nextSurvey change) nextRead) :
    next.Lockstep atStart mapping start nextSurvey where
  mapping_eq := mapping_eq
  context_eq := context_eq
  counts_eq := counts_eq
  consistent := consistent
  waiting := by
    rw [pendingDamage]
    exact waiting
  bound position member := by
    rw [output, Array.size_push]
    exact Nat.lt_succ_of_lt (lockstep.bound position (pendingDamage ▸ member))
  renders change short := by
    rw [written_push next lockstep.bound output pendingDamage]
    exact (lockstep.renders change short).concat readable reads notBlank noDescription
      (fun isEnd => absurd isEnd notEnd) (leads change short)

/-- A blank line. -/
theorem blank (lockstep : renumbering.Lockstep atStart mapping start survey) {line : Line}
    (blank : Text.isBlankText line = true) :
    (renumbering.emit line).Lockstep atStart mapping start survey := by
  rcases emit_of_isBlankText blank renumbering with dropped | pushed
  · rw [dropped]
    exact lockstep
  · rw [pushed]
    refine ⟨lockstep.mapping_eq, lockstep.context_eq, lockstep.counts_eq, lockstep.consistent,
      lockstep.waiting, fun position member => ?_, fun change short => ?_⟩
    · rw [Array.size_push]
      exact Nat.lt_succ_of_lt (lockstep.bound position member)
    · rw [written_push { renumbering with output := renumbering.output.push { line := [] } }
        lockstep.bound rfl rfl]
      exact (lockstep.renders change short).concat_blank

end Lockstep

end Renumbering

end ModMerge
