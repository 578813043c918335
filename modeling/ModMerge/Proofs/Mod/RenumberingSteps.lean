import ModMerge.Mod.Renumbering
import ModMerge.Proofs.Mod.Walks

/-!
# What renumbering does with a line

Where renumbering goes along with a survey, the two read, open and leave the same blocks. A
damage line that comes before the effect of its spell waits in what has been written
(`Waiting`): each line of a spell block is written while it waits, begins to wait in its
place, or settles it, and so does the end of the block.
-/

namespace ModMerge

theorem modify_concat_of_lt {Value : Type} {values : List Value} {position : Nat}
    (bound : position < values.length) (last : Value) (change : Value → Value) :
    (values ++ [last]).modify position change = values.modify position change ++ [last] := by
  rw [List.modify_eq_take_cons_drop (by simp; omega), List.modify_eq_take_cons_drop bound,
    List.take_append_of_le_length (by omega), List.drop_append_of_le_length (by omega),
    List.getElem_append_left bound]
  simp

theorem modify_concat_last {Value : Type} (values : List Value) (last : Value)
    (change : Value → Value) :
    (values ++ [last]).modify values.length change = values ++ [change last] := by
  rw [List.modify_eq_take_cons_drop (by simp)]
  simp

/-! ### Contexts without names -/

/-- Blanks at the end of a line do not matter, and neither does what a name would be bound to. -/
theorem classify_trimRight (context : ParseContext) (line : Line) :
    classify { context with active := none } (Text.trimRight line) = classify context line := by
  simp only [classify, Text.trim_trimRight]
  rfl

namespace ParseContext

theorem enterDescription_withoutName {context entered : ParseContext}
    {lineNumber : Nat} (isEntered : context.enterDescription lineNumber = .ok entered) :
    ({ context with active := none } : ParseContext).enterDescription lineNumber =
        .ok { entered with active := none } ∧
      entered.spell = context.spell ∧ entered.active = context.active ∧
      entered.blockLine = context.blockLine := by
  rw [enterDescription] at isEntered ⊢
  split at isEntered
  · next idle =>
      obtain rfl := Except.ok.inj isEntered
      exact ⟨if_pos idle, rfl, rfl, rfl⟩
  · cases isEntered

theorem openBlock_withoutName {context opened : ParseContext} {type : EntityType}
    {binding : Option NameBinding} {line : Nat}
    (isOpened : context.openBlock type binding line = .ok opened) :
    ({ context with active := none } : ParseContext).openBlock type none line =
      .ok { opened with active := none } := by
  rw [openBlock] at isOpened
  split at isOpened
  · cases isOpened
  · next outside =>
      obtain rfl := Except.ok.inj isOpened
      rw [openBlock, if_neg outside]
      split <;> rfl

theorem noteSelected_withoutName (context : ParseContext) (ref : DirectiveRef)
    (argument : Argument) :
    ({ context with active := none } : ParseContext).noteSelected ref argument =
      { context.noteSelected ref argument with active := none } := by
  have sameBlock : ({ context with active := none } : ParseContext).inSpellBlock =
      context.inSpellBlock := rfl
  rw [noteSelected, noteSelected, sameBlock]
  by_cases edits : (context.inSpellBlock && ref.rule.role == .select) = true
  · simp only [if_pos edits]
    rfl
  · simp only [if_neg edits]

end ParseContext

/-! ### The damage value of a spell -/

/-- Whether a directive gives a damage value. -/
def SpellDirective.isDamage : SpellDirective → Bool
  | .damage | .damageMonster => true
  | .effect | .copySpell => false

theorem SpellDirective.isDamage_iff {directive : SpellDirective} :
    directive.isDamage = true ↔ directive = .damage ∨ directive = .damageMonster := by
  cases directive <;> simp [isDamage]

namespace SpellBlock

variable {spell : SpellBlock} {directive : SpellDirective} {argument : Argument}

theorem ready_iff : spell.ready = true ↔
    spell.resolved = false ∧ spell.effect.isSome = true ∧ spell.damage.isSome = true := by
  rw [ready, Bool.and_eq_true, Bool.and_eq_true, Bool.not_eq_true', and_assoc]

theorem ready_of_resolved (resolved : spell.resolved = true) : spell.ready = false := by
  rw [ready, resolved]
  rfl

theorem ready_of_damage_eq_none (noDamage : spell.damage = none) : spell.ready = false := by
  rw [ready, noDamage]
  exact Bool.and_false _

theorem resolved_read (spell : SpellBlock) (directive : SpellDirective)
    (argument : Argument) : (spell.read directive argument).resolved = spell.resolved := by
  cases directive <;> cases argument <;> rfl

theorem read_of_isDamage (isDamage : directive.isDamage = true) (spell : SpellBlock)
    (damage : Int) :
    spell.read directive (.number damage) = { spell with damage := some damage } := by
  rcases SpellDirective.isDamage_iff.1 isDamage with rfl | rfl <;> rfl

theorem read_of_noNumber (isDamage : directive.isDamage = true)
    (noNumber : argument.number? = none) (spell : SpellBlock) :
    spell.read directive argument = spell := by
  rcases SpellDirective.isDamage_iff.1 isDamage with rfl | rfl <;> simp only [read, noNumber]

theorem damage_read (noDamage : (directive.isDamage && argument.number?.isSome) = false)
    (spell : SpellBlock) : (spell.read directive argument).damage = spell.damage := by
  cases directive <;> cases argument <;> first | rfl | cases noDamage

end SpellBlock

namespace Survey

variable {survey : Survey} {spell : SpellBlock} {directive : SpellDirective} {argument : Argument}

theorem readSpellLine_of_not_ready (inSpell : survey.context.spell = some spell)
    (notReady : (spell.read directive argument).ready = false) :
    survey.readSpellLine directive argument = { survey with
      context := { survey.context with spell := some (spell.read directive argument) } } := by
  simp only [readSpellLine, inSpell, notReady, Bool.false_eq_true, if_false]

theorem readSpellLine_of_ready (inSpell : survey.context.spell = some spell)
    (ready : (spell.read directive argument).ready = true) :
    survey.readSpellLine directive argument =
      { context := { survey.context with
          spell := some { spell.read directive argument with resolved := true } }
        definition := survey.definition.recordDamage
          { spell.read directive argument with resolved := true } } := by
  simp only [readSpellLine, inSpell, ready, if_true]

end Survey

namespace Renumbering

variable {renumbering : Renumbering} {line : Line} {lineNumber : Nat}

/-- A spell block has no effect for its damage value yet, or the value has been dealt with; and
a damage line waits for as long as the value of the block does. -/
structure Waiting (pending : Option Nat) (spell : Option SpellBlock) : Prop where
  notReady : ∀ block ∈ spell, block.ready = false
  damage : pending.isSome → ∃ block ∈ spell, block.damage.isSome
  waits : ∀ block ∈ spell, block.resolved = false → block.damage.isSome → pending.isSome

namespace Waiting

variable {pending : Option Nat} {spell before : SpellBlock}

/-- No spell block, no damage line. -/
theorem pending_eq_none (waiting : Waiting pending none) : pending = none := by
  rw [← Option.not_isSome_iff_eq_none]
  intro isSome
  obtain ⟨block, member, -⟩ := waiting.damage isSome
  cases member

/-- Nothing waits for a block without a damage value. -/
theorem of_noDamage {block : Option SpellBlock}
    (noDamage : ∀ spell ∈ block, spell.damage = none) : Waiting none block where
  notReady spell isOpen := SpellBlock.ready_of_damage_eq_none (noDamage spell isOpen)
  damage isSome := by cases isSome
  waits spell isOpen _ present := by
    rw [noDamage spell isOpen] at present
    cases present

/-- A damage value begins to wait. -/
theorem of_damage (notReady : spell.ready = false) (present : spell.damage.isSome = true)
    (position : Nat) : Waiting (some position) (some spell) where
  notReady block isOpen := by
    obtain rfl := Option.some.inj isOpen
    exact notReady
  damage _ := ⟨spell, rfl, present⟩
  waits _ _ _ _ := rfl

/-- A damage value that has been dealt with is not waited for, whatever has been before. -/
theorem of_resolved (present : pending.isSome → spell.damage.isSome = true) :
    Waiting pending (some { spell with resolved := true }) where
  notReady block isOpen := by
    obtain rfl := Option.some.inj isOpen
    exact SpellBlock.ready_of_resolved rfl
  damage isSome := ⟨_, rfl, present isSome⟩
  waits block isOpen unresolved := by
    obtain rfl := Option.some.inj isOpen
    cases unresolved

/-- A line that leaves the damage value without a meaning, as it is. -/
theorem read (waiting : Waiting pending (some before)) {directive : SpellDirective}
    {argument : Argument} (notReady : (before.read directive argument).ready = false)
    (sameDamage : (before.read directive argument).damage = before.damage) :
    Waiting pending (some (before.read directive argument)) where
  notReady block isOpen := by
    obtain rfl := Option.some.inj isOpen
    exact notReady
  damage isSome := by
    obtain ⟨block, isOpen, present⟩ := waiting.damage isSome
    obtain rfl := Option.some.inj isOpen
    exact ⟨_, rfl, sameDamage ▸ present⟩
  waits block isOpen unresolved present := by
    obtain rfl := Option.some.inj isOpen
    rw [SpellBlock.resolved_read] at unresolved
    exact waiting.waits before rfl unresolved (sameDamage ▸ present)

end Waiting

theorem waiting_none : Waiting none none := .of_noDamage fun _ isOpen => by cases isOpen

/-! ### The damage line that waits -/

/-- The lines as they will be if the damage value that waits is replaced. -/
def written (renumbering : Renumbering) (change : Option RemappedArgument) : List OutputLine :=
  match renumbering.pendingDamage, change with
  | some position, some remap =>
      renumbering.output.toList.modify position fun waiting => damageLine waiting.line remap
  | _, _ => renumbering.output.toList

theorem written_of_pendingDamage_eq_none (nothing : renumbering.pendingDamage = none)
    (change : Option RemappedArgument) :
    renumbering.written change = renumbering.output.toList := by
  unfold written
  rw [nothing]

theorem written_none (renumbering : Renumbering) :
    renumbering.written none = renumbering.output.toList := by
  unfold written
  cases renumbering.pendingDamage <;> rfl

theorem written_push (next : Renumbering) {written : OutputLine}
    (bound : ∀ position ∈ renumbering.pendingDamage, position < renumbering.output.size)
    (output : next.output = renumbering.output.push written)
    (pendingDamage : next.pendingDamage = renumbering.pendingDamage)
    (change : Option RemappedArgument) :
    next.written change = renumbering.written change ++ [written] := by
  unfold Renumbering.written
  rw [pendingDamage, output, Array.toList_push]
  cases pending : renumbering.pendingDamage with
  | none => rfl
  | some position =>
      cases change with
      | none => rfl
      | some remap =>
          have inside := bound position pending
          rw [← Array.length_toList] at inside
          exact modify_concat_of_lt inside _ _

/-- A damage line that waits is replaced for the spell that its block turns out to be. -/
theorem resolvePending_eq (renumbering : Renumbering) {position : Nat}
    (pending : renumbering.pendingDamage = some position) (spell : SpellBlock) :
    ∃ output, renumbering.resolvePending spell position =
        { renumbering with
          context := { renumbering.context with spell := some { spell with resolved := true } }
          output
          pendingDamage := none } ∧
      output.toList = renumbering.written (renumbering.mapping.remapDamage spell) := by
  unfold resolvePending Renumbering.written
  rw [pending]
  cases renumbering.mapping.remapDamage spell with
  | none => exact ⟨_, rfl, rfl⟩
  | some remap => exact ⟨_, rfl, Array.toList_modify⟩

/-! ### Lines of a spell block -/

section

variable {before : SpellBlock} {directive : SpellDirective} {argument : Argument} {number : Int}

/-- A damage line without a number is written. -/
theorem spellLine_of_noNumber (inSpell : renumbering.context.spell = some before)
    (isDamage : directive.isDamage = true) (noNumber : argument.number? = none) (line : Line)
    (ref : Option DirectiveRef) :
    renumbering.spellLine line directive ref argument =
      ({ renumbering with context := { renumbering.context with
        spell := some (before.read directive argument) } } : Renumbering).emit line := by
  rcases SpellDirective.isDamage_iff.1 isDamage with rfl | rfl <;>
    simp only [spellLine, inSpell, noNumber, Option.isNone_none, if_true]

/-- A damage line whose block has its effect is written for that effect. -/
theorem spellLine_of_ready (inSpell : renumbering.context.spell = some before)
    (isDamage : directive.isDamage = true)
    (ready : (before.read directive (.number number)).ready = true) (line : Line)
    (ref : Option DirectiveRef) :
    renumbering.spellLine line directive ref (.number number) =
      ({ renumbering with context := { renumbering.context with
        spell := some { before.read directive (.number number) with resolved := true } } } :
          Renumbering).emitDamage line
            { before.read directive (.number number) with resolved := true } := by
  rcases SpellDirective.isDamage_iff.1 isDamage with rfl | rfl <;>
    (simp only [spellLine, inSpell, ready, if_true]; rfl)

/-- A damage line whose block has no effect waits. -/
theorem spellLine_of_not_ready (inSpell : renumbering.context.spell = some before)
    (isDamage : directive.isDamage = true)
    (notReady : (before.read directive (.number number)).ready = false) (line : Line)
    (ref : Option DirectiveRef) :
    renumbering.spellLine line directive ref (.number number) =
      { renumbering with
        context := { renumbering.context with
          spell := some (before.read directive (.number number)) }
        output := renumbering.output.push { line }
        pendingDamage := some renumbering.output.size } := by
  rcases SpellDirective.isDamage_iff.1 isDamage with rfl | rfl <;>
    (simp only [spellLine, inSpell, notReady, Argument.number?]; rfl)

/-- An effect without a damage value to settle is written. -/
theorem spellLine_effect (inSpell : renumbering.context.spell = some before)
    (notReady : (before.read .effect argument).ready = false) (line : Line)
    (ref : Option DirectiveRef) :
    renumbering.spellLine line .effect ref argument =
      ({ renumbering with context := { renumbering.context with
        spell := some (before.read .effect argument) } } : Renumbering).emit line := by
  simp only [spellLine, inSpell, notReady, Bool.false_eq_true, if_false]
  split <;> rfl

/-- An effect settles the damage line that has been waiting for it. -/
theorem exists_spellLine_effect (inSpell : renumbering.context.spell = some before)
    (waiting : Waiting renumbering.pendingDamage (some before))
    (bound : ∀ position ∈ renumbering.pendingDamage, position < renumbering.output.size)
    (ready : (before.read .effect argument).ready = true)
    (emitted : ∀ renumbering : Renumbering, renumbering.emit line =
      { renumbering with output := renumbering.output.push { line } })
    (ref : Option DirectiveRef) :
    renumbering.pendingDamage.isSome = true ∧
    ∃ output, renumbering.spellLine line .effect ref argument =
        { renumbering with
          context := { renumbering.context with
            spell := some { before.read .effect argument with resolved := true } }
          output
          pendingDamage := none } ∧
      output.toList = renumbering.written
        (renumbering.mapping.remapDamage (before.read .effect argument)) ++
          [({ line } : OutputLine)] := by
  obtain ⟨unresolved, -, present⟩ := SpellBlock.ready_iff.1 ready
  have waits := waiting.waits before rfl unresolved present
  obtain ⟨position, pending⟩ := Option.isSome_iff_exists.1 waits
  let noted : Renumbering := { renumbering with
    context := { renumbering.context with spell := some (before.read .effect argument) }
    output := renumbering.output.push { line } }
  obtain ⟨output, settled, outputEq⟩ :=
    noted.resolvePending_eq pending (before.read .effect argument)
  refine ⟨waits, output, ?_, outputEq.trans (written_push noted bound rfl rfl _)⟩
  simp only [spellLine, inSpell, emitted, pending, ready, if_true]
  exact settled

/-- When a block ends, the damage line that waits is settled unless the value of the block has
been dealt with. -/
theorem exists_finishSpell (waiting : Waiting renumbering.pendingDamage renumbering.context.spell)
    (inSpellBlock : renumbering.context.inSpellBlock = renumbering.context.spell.isSome) :
    ∃ context output,
      renumbering.leaveSpell =
        { renumbering with context, output, pendingDamage := none } ∧
      context.closeBlock = renumbering.context.closeBlock ∧
      output.toList = renumbering.written (renumbering.context.spell.bind fun spell =>
        if spell.resolved then none else renumbering.mapping.remapDamage spell) := by
  rw [leaveSpell, inSpellBlock]
  cases inSpell : renumbering.context.spell with
  | none =>
      have nothing := Waiting.pending_eq_none (inSpell ▸ waiting)
      refine ⟨renumbering.context, renumbering.output, ?_, rfl, (written_none _).symm⟩
      rw [Option.isSome_none, if_neg Bool.false_ne_true, ← nothing]
  | some spell =>
      rw [Option.isSome_some, if_pos rfl, finishSpell, inSpell, Option.bind_some]
      cases pending : renumbering.pendingDamage with
      | none =>
          exact ⟨renumbering.context, renumbering.output, rfl, rfl,
            (written_of_pendingDamage_eq_none pending _).symm⟩
      | some position =>
          simp only
          split
          · exact ⟨renumbering.context, renumbering.output, rfl, rfl, (written_none _).symm⟩
          · obtain ⟨output, settled, outputEq⟩ := renumbering.resolvePending_eq pending spell
            exact ⟨_, output, settled, rfl, outputEq⟩

end

/-! ### Lines that open a block or a description -/

section

variable {survey nextSurvey : Survey} {mapping : ModMapping} {definition : ModDefinition}
  {ref : DirectiveRef} {argument : Argument}

/-- There is an id for content without one if there is one for all such content up to it. -/
theorem exists_implicitId? (isNew : ref.rule.role = .new)
    (provided : ∀ type, (definition.recordArgument ref .absent).nextImplicitIndex type ≤
      (mapping.implicitIds type).length) :
    ∃ id, mapping.implicitId? ref.type (definition.nextImplicitIndex ref.type) = some id := by
  have recorded : definition.recordArgument ref .absent = definition.recordImplicit ref.type :=
    if_pos isNew
  have enough := provided ref.type
  rw [recorded, ModDefinition.nextImplicitIndex_recordImplicit, if_pos rfl,
    ModMapping.implicitIds, Array.length_toList] at enough
  exact ⟨_, Array.getElem?_eq_getElem enough⟩

/-- Renumbering counts the content without an id as it is recorded. -/
theorem get_set_implicitCounts {counts : EntityTable Nat} (isNew : ref.rule.role = .new)
    (counts_eq : ∀ type, counts.get type = definition.nextImplicitIndex type)
    (type : EntityType) :
    (counts.set ref.type (definition.nextImplicitIndex ref.type + 1)).get type =
      (definition.recordArgument ref .absent).nextImplicitIndex type := by
  have recorded : definition.recordArgument ref .absent = definition.recordImplicit ref.type :=
    if_pos isNew
  rw [recorded, EntityTable.get_set, ModDefinition.nextImplicitIndex_recordImplicit]
  split
  · next same => rw [same]
  · exact counts_eq type

/-- Once the line is written, renumbering opens the block that a survey opens. -/
theorem openBlock_eq {written : Renumbering} {word : String}
    (emitted : renumbering.emitBlockStart lineNumber line word ref argument = .ok written)
    (context_eq : written.context = { survey.context with active := none })
    (opened : survey.openBlock lineNumber ref argument = .ok nextSurvey) :
    renumbering.openBlock lineNumber line word ref argument =
      .ok { written with context := { nextSurvey.context with active := none } } := by
  obtain ⟨context, isOpened, finished⟩ := bind_eq_ok.1 opened
  obtain rfl := Except.ok.inj finished
  have openedToo := ParseContext.openBlock_withoutName isOpened
  rw [← context_eq] at openedToo
  simp only [openBlock, emitted, bind, Except.bind, openedToo, Except.mapError, pure, Except.pure,
    ParseContext.noteSelected_withoutName]

/-- Renumbering enters the description that a survey enters. -/
theorem advance_descriptionStart {entered : ParseContext}
    (context_eq : renumbering.context = { survey.context with active := none })
    (isEntered : survey.context.enterDescription lineNumber = .ok entered) (line : Line) :
    renumbering.advance lineNumber line (.descriptionStart true) =
      .ok { renumbering with context := { entered with active := none } } := by
  have enteredToo := (ParseContext.enterDescription_withoutName isEntered).1
  rw [← context_eq] at enteredToo
  simp only [advance, enteredToo, Except.mapError, bind, Except.bind, pure, Except.pure]

end

/-! ### Whole scripts -/

/-- Past some lines of a script, whatever numbers this writes. -/
def passAll (renumbering : Renumbering) (lines : List ScriptLine) :
    Except RenumberError Renumbering :=
  lines.foldlM pass renumbering

theorem passAll_cons_eq_ok {last : Renumbering} {line : ScriptLine} {rest : List ScriptLine} :
    renumbering.passAll (line :: rest) = .ok last ↔
      ∃ next, renumbering.pass line = .ok next ∧ next.passAll rest = .ok last := by
  rw [passAll, List.foldlM_cons, bind_eq_ok]
  rfl

end Renumbering

end ModMerge
