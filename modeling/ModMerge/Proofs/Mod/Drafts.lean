import ModMerge.Proofs.Mod.SurveyedLines
import ModMerge.Proofs.Script.ArgumentNumbers

/-!
# What renumbering drafts for each line

Renumbering goes back to a damage line once its spell block has an effect or ends. What it
makes of each line can also be said line by line and once and for all, if the lines after it
are known: this is the line's draft. Of the drafts, blank lines and ends of blocks that
repeat what has been written before are left out.
-/

namespace ModMerge

/-! ### Drafts -/

/-- The spell block in which the damage value of `spell` is read, where `later` is what the
lines after it mean: the block as soon as it has an effect, and otherwise the whole block.
There is none if another damage value takes the place of this one, or if the block is done
with damage values. -/
def SpellBlock.settlement (spell : SpellBlock) (later : List LineMeaning) : Option SpellBlock :=
  if spell.ready then some spell
  else
    match later with
    | [] | .blockEnd :: _ => if spell.resolved then none else some spell
    | .spellContent directive _ argument :: rest =>
        if directive.isDamage && argument.number?.isSome then none
        else (spell.read directive argument).settlement rest
    | _ :: rest => spell.settlement rest

namespace SpellBlock

variable {spell : SpellBlock} {meaning : LineMeaning}

theorem settlement_of_ready (ready : spell.ready = true) (later : List LineMeaning) :
    spell.settlement later = some spell := by
  rw [settlement.eq_def, if_pos ready]

/-- The end of the block settles what is left to settle. -/
theorem settlement_nil (notReady : spell.ready = false) :
    spell.settlement [] = if spell.resolved then none else some spell := by
  rw [settlement, notReady, if_neg Bool.false_ne_true]

theorem settlement_blockEnd (spell : SpellBlock) (later : List LineMeaning) :
    spell.settlement (.blockEnd :: later) = spell.settlement [] := by
  rw [settlement, settlement]

theorem settlement_spellContent (notReady : spell.ready = false) (directive : SpellDirective)
    (ref : Option DirectiveRef) (argument : Argument) (later : List LineMeaning) :
    spell.settlement (.spellContent directive ref argument :: later) =
      if directive.isDamage && argument.number?.isSome then none
      else (spell.read directive argument).settlement later := by
  rw [settlement, notReady, if_neg Bool.false_ne_true]

/-- Other lines have nothing to do with the damage value. -/
theorem settlement_cons (notEnd : meaning ≠ .blockEnd)
    (notContent : ∀ directive ref argument, meaning ≠ .spellContent directive ref argument)
    (later : List LineMeaning) : spell.settlement (meaning :: later) = spell.settlement later := by
  cases ready : spell.ready with
  | true => rw [settlement_of_ready ready, settlement_of_ready ready]
  | false =>
      rw [settlement, ready, if_neg Bool.false_ne_true]
      · exact notEnd
      · exact notContent

end SpellBlock

namespace ModMapping

/-- A line whose number names content, at its new id if it moved. -/
def entityLine (mapping : ModMapping) (line : Line) (ref : DirectiveRef) (number : Int) :
    OutputLine :=
  match mapping.remapArgument ref number with
  | some remap =>
      { line := Text.leadingBlanks line ++ replaceArgument (Text.trim line) remap.argument
        change := some (.remapped remap.type remap.old remap.new) }
  | none => { line }

/-- A line whose number is the damage value of a spell, at the new id of its content if that
moved. -/
def damageLine (mapping : ModMapping) (line : Line) (settled : Option SpellBlock) : OutputLine :=
  match settled.bind mapping.remapDamage with
  | some remap => Renumbering.damageLine line remap
  | none => { line }

/-- A line that creates content without an id, with the id that it is given. -/
def assignedLine (line : Line) (word : String) (ref : DirectiveRef) (id : Int) : OutputLine :=
  let indent := Text.leadingBlanks line
  let rest := afterDirectiveWord (Text.trim line)
  match ref.rule.implicitSelect with
  | some selectWord =>
      { line := indent ++ directiveWithId selectWord id rest
        change := some (.converted word selectWord id) }
  | none =>
      { line := indent ++ directiveWithId word id rest
        change := some (.assigned ref.type id) }

theorem exists_assignedLine_eq (line : Line) (word : String) (ref : DirectiveRef) (id : Int) :
    ∃ change, assignedLine line word ref id =
      ⟨Text.leadingBlanks line ++ directiveWithId (ref.rule.implicitSelect.getD word) id
        (afterDirectiveWord (Text.trim line)), some change⟩ := by
  rw [assignedLine]
  cases ref.rule.implicitSelect <;> exact ⟨_, rfl⟩

theorem numbers_assignedLine (line : Line) (word : String) (ref : DirectiveRef) (id : Int) :
    (assignedLine line word ref id).numbers = [id] := by
  rw [assignedLine]
  cases ref.rule.implicitSelect <;> rfl

/-- A line that opens a block; `index` counts the definitions of its type without an id. -/
def blockStartLine (mapping : ModMapping) (line : Line) (word : String) (ref : DirectiveRef)
    (argument : Argument) (index : Nat) : OutputLine :=
  match argument with
  | .number number => mapping.entityLine line ref number
  | .name _ => { line }
  | .absent =>
      match (if ref.rule.role = .new then mapping.implicitId? ref.type index else none) with
      | some id => assignedLine line word ref id
      | none => { line }

/-- A line of a spell block. -/
def spellLine (mapping : ModMapping) (line : Line) (spell : Option SpellBlock)
    (directive : SpellDirective) (ref : Option DirectiveRef) (argument : Argument)
    (later : List LineMeaning) : OutputLine :=
  match directive, ref, argument with
  | .copySpell, some ref, .number number => mapping.entityLine line ref number
  | .damage, _, .number _ | .damageMonster, _, .number _ =>
      mapping.damageLine line
        (spell.bind fun before => (before.read directive argument).settlement later)
  | _, _, _ => { line }

/-- What is written for a line, unless it is left out; `later` is what the lines after it
mean. -/
def draft (mapping : ModMapping) (surveyed : SurveyedLine) (later : List LineMeaning) :
    Option OutputLine :=
  match surveyed.meaning with
  | .descriptionText _ | .modName _ | .descriptionStart _ | .otherMetadata _ => none
  | .blockStart word ref argument =>
      some <| mapping.blockStartLine surveyed.line word ref argument
        (surveyed.before.definition.nextImplicitIndex ref.type)
  | .spellContent directive ref argument =>
      some <| mapping.spellLine surveyed.line surveyed.before.context.spell directive ref argument
        later
  | .entity _ ref (.number number) => some (mapping.entityLine surveyed.line ref number)
  | .blank | .comment | .blockEnd | .name _ | .entity .. | .text _ => some { line := surveyed.line }

theorem draft_damage (mapping : ModMapping) (survey : Survey) (line : Line)
    {directive : SpellDirective} (isDamage : directive.isDamage = true)
    (ref : Option DirectiveRef) (number : Int) (later : List LineMeaning) :
    mapping.draft ⟨survey, line, .spellContent directive ref (.number number)⟩ later =
      some (mapping.damageLine line (survey.context.spell.bind fun before =>
        (before.read directive (.number number)).settlement later)) := by
  rcases SpellDirective.isDamage_iff.1 isDamage with rfl | rfl <;> cases ref <;> rfl

end ModMapping

namespace SurveyedLine.IsRead

variable {survey : Survey} {line : Line} {meaning : LineMeaning}

theorem substantial (isRead : (⟨survey, line, meaning⟩ : SurveyedLine).IsRead)
    (notText : ∀ closes, meaning ≠ .descriptionText closes) (notBlank : meaning ≠ .blank)
    (notEnd : meaning ≠ .blockEnd) : Substantial line := by
  obtain ⟨classified, read, same⟩ := isRead.read
  have reads := reads_of_classify (isRead.outside notText) read
  exact substantial_of_reads reads (same ▸ notBlank) (same ▸ notEnd)

theorem argumentNumber?_line {form : LineForm} {number : Int}
    (isRead : (⟨survey, line, form.meaning (.number number)⟩ : SurveyedLine).IsRead) :
    argumentNumber? line = some number := by
  obtain ⟨classified, read, isForm⟩ := isRead.read
  exact (exists_numberedDirective (isRead.outside (by cases form <;> simp [LineForm.meaning])) read
    isForm isRead.last).1

theorem argumentNumber?_replaceArgument {form : LineForm} {number : Int}
    (isRead : (⟨survey, line, form.meaning (.number number)⟩ : SurveyedLine).IsRead)
    (new : Int) :
    argumentNumber? (Text.leadingBlanks line ++ replaceArgument (Text.trim line) new) =
      some new := by
  obtain ⟨classified, read, isForm⟩ := isRead.read
  obtain ⟨-, directive, -, withNumber⟩ :=
    exists_numberedDirective (isRead.outside (by cases form <;> simp [LineForm.meaning])) read
      isForm isRead.last
  rw [withNumber]
  exact directive.argumentNumber?_withNumber new

/-- A line with a number is never left out, and neither is the line with another number. -/
theorem substantial_replaceArgument {form : LineForm} {number : Int}
    (isRead : (⟨survey, line, form.meaning (.number number)⟩ : SurveyedLine).IsRead)
    (new : Int) :
    Substantial (Text.leadingBlanks line ++ replaceArgument (Text.trim line) new) :=
  substantial_of_argumentNumber? (isRead.argumentNumber?_replaceArgument new)

/-- The word that is written before the id of content without one is a directive of the game. -/
theorem isWord_implicitSelect {word : String} {ref : DirectiveRef} {argument : Argument}
    (isRead : (⟨survey, line, .blockStart word ref argument⟩ : SurveyedLine).IsRead) :
    (ref.rule.implicitSelect.getD word).toList ≠ [] ∧
      ∀ character ∈ (ref.rule.implicitSelect.getD word).toList,
        Text.isAsciiWordChar character = true := by
  obtain ⟨classified, read, isStart⟩ := isRead.read
  obtain ⟨inTable, opens, isWord⟩ : (LineForm.blockStart word ref).FromTable :=
    LineForm.fromTable_of_classify read isStart
  cases select : ref.rule.implicitSelect with
  | none =>
      obtain ⟨ne_nil, isAscii, -⟩ := spelling_of_opensBlock ref inTable opens word isWord
      exact ⟨ne_nil, isAscii⟩
  | some selectWord =>
      obtain ⟨newRef, newInTable, -, -, newOpens, newIsWord⟩ :=
        exists_select_of_implicitSelect ref inTable selectWord select
      obtain ⟨ne_nil, isAscii, -⟩ :=
        spelling_of_opensBlock newRef newInTable newOpens selectWord newIsWord
      exact ⟨ne_nil, isAscii⟩

/-- A line that creates content without an id gives the id that is written into it. -/
theorem argumentNumber?_assignedLine {word : String} {ref : DirectiveRef} {argument : Argument}
    (isRead : (⟨survey, line, .blockStart word ref argument⟩ : SurveyedLine).IsRead)
    (id : Int) :
    argumentNumber? (ModMapping.assignedLine line word ref id).line = some id := by
  obtain ⟨classified, read, isStart⟩ := isRead.read
  have outside := isRead.outside fun _ same => by cases same
  obtain ⟨_, _, -, unnumbered⟩ := exists_unnumbered outside read isStart isRead.last
  obtain ⟨ne_nil, isWord⟩ := isRead.isWord_implicitSelect
  obtain ⟨change, assignedEq⟩ := ModMapping.exists_assignedLine_eq line word ref id
  rw [assignedEq]
  exact unnumbered.argumentNumber?_directiveWithId ne_nil isWord id

end SurveyedLine.IsRead

/-! ### Lines that are left out -/

/-- Whether a line repeats what was written last: a blank line after a blank line, or the end of
a block after the end of a block. -/
def isRedundant (output : List OutputLine) (line : Line) : Bool :=
  if Text.isBlankText line then output.getLast?.any fun last => Text.isBlankText last.line
  else isEndLine line && lastEnds output

/-- What is left of a draft. -/
def kept (output : List OutputLine) (draft : Option OutputLine) : Option OutputLine :=
  draft.filter fun written => !isRedundant output written.line

theorem Substantial.isRedundant_eq_false {line : Line} (substantial : Substantial line)
    (output : List OutputLine) : isRedundant output line = false := by
  rw [isRedundant, substantial.notBlank, substantial.notEnd]
  rfl

theorem kept_of_isRedundant {output : List OutputLine} {written : OutputLine}
    (redundant : isRedundant output written.line = true) : kept output (some written) = none := by
  simp [kept, redundant]

theorem kept_of_not_isRedundant {output : List OutputLine} {written : OutputLine}
    (notRedundant : isRedundant output written.line = false) :
    kept output (some written) = some written := by
  simp [kept, notRedundant]

/-- A line of a script and what was written for it. -/
structure RenumberedLine extends SurveyedLine where
  written : Option OutputLine

/-- The lines of a script with what is written for them after `output`. -/
def ModMapping.transcribe (mapping : ModMapping) (output : List OutputLine) :
    List SurveyedLine → List RenumberedLine
  | [] => []
  | surveyed :: later =>
      let written := kept output (mapping.draft surveyed (later.map (·.meaning)))
      { surveyed with written } :: mapping.transcribe (output ++ written.toList) later

/-! ### Lines that cannot be told apart -/

/-- The line bears alike on what is left out after it. -/
structure OutputLine.Similar (first second : OutputLine) : Prop where
  blank : Text.isBlankText second.line = Text.isBlankText first.line
  ends : isEndLine second.line = isEndLine first.line

theorem OutputLine.Similar.refl (written : OutputLine) : written.Similar written :=
  ⟨rfl, rfl⟩

theorem OutputLine.similar_of_substantial {first second : OutputLine}
    (substantial : Substantial first.line) (substantialToo : Substantial second.line) :
    first.Similar second :=
  ⟨substantialToo.notBlank.trans substantial.notBlank.symm,
    substantialToo.notEnd.trans substantial.notEnd.symm⟩

theorem lastEnds_eq_of_similar {first second : List OutputLine}
    (similar : List.Forall₂ OutputLine.Similar first second) :
    lastEnds second = lastEnds first := by
  have reversed := (List.forall₂_reverse_iff).2 similar
  unfold lastEnds
  generalize first.reverse = firsts at reversed
  generalize second.reverse = seconds at reversed
  induction reversed with
  | nil => rfl
  | @cons one other _ _ same _ inductionHypothesis =>
      rw [List.find?_cons, List.find?_cons, same.blank]
      cases Text.isBlankText one.line
      · exact same.ends
      · exact inductionHypothesis

theorem isRedundant_eq_of_similar {first second : List OutputLine}
    (similar : List.Forall₂ OutputLine.Similar first second) (line : Line) :
    isRedundant second line = isRedundant first line := by
  have lastBlank : (second.getLast?.any fun last => Text.isBlankText last.line) =
      first.getLast?.any fun last => Text.isBlankText last.line := by
    have reversed := (List.forall₂_reverse_iff).2 similar
    rw [← List.head?_reverse, ← List.head?_reverse]
    generalize first.reverse = firsts at reversed
    generalize second.reverse = seconds at reversed
    cases reversed with
    | nil => rfl
    | cons same _ => exact same.blank
  rw [isRedundant, lastBlank, lastEnds_eq_of_similar similar, isRedundant]

end ModMerge
