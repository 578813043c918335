import ModMerge.Proofs.Mod.Recording
import ModMerge.Proofs.Script.WrittenLines

/-!
# Walks through a script

Every step of a survey keeps its context consistent. What a survey finds does not depend on
how the lines are numbered, and `Survey.Reaches` says what is certain to be found after some
lines whatever their numbers are; blank lines at either end make no difference to that.
-/

namespace ModMerge

theorem inDescription_iff {context : ParseContext} :
    context.inDescription = true ↔ context.state = .inDescription :=
  beq_iff_eq

theorem inSpellBlock_iff {context : ParseContext} :
    context.inSpellBlock = true ↔ context.state = .inSpellBlock :=
  beq_iff_eq

namespace ParseContext.Consistent

variable {context next : ParseContext}

theorem inSpellBlock_eq (consistent : context.Consistent) :
    context.inSpellBlock = context.spell.isSome := by
  rw [Bool.eq_iff_iff, inSpellBlock_iff, consistent.spell_iff]

theorem spell_eq_none (consistent : context.Consistent) (outside : context.state ≠ .inSpellBlock) :
    context.spell = none := by
  rw [ne_eq, consistent.spell_iff, Option.not_isSome_iff_eq_none] at outside
  exact outside

theorem descriptionLine_eq_none (consistent : context.Consistent)
    (outside : context.state ≠ .inDescription) : context.descriptionLine = none := by
  rw [ne_eq, consistent.description_iff, Option.not_isSome_iff_eq_none] at outside
  exact outside

theorem enterDescription (consistent : context.Consistent) {line : Nat}
    (entered : context.enterDescription line = .ok next) : next.Consistent := by
  rw [ParseContext.enterDescription] at entered
  split at entered
  · next idle =>
      obtain rfl := Except.ok.inj entered
      have noSpell := consistent.spell_eq_none (by rw [idle]; simp)
      exact ⟨by simp [noSpell], by simp, by simp, by simp⟩
  · cases entered

theorem leaveDescription (consistent : context.Consistent)
    (inside : context.state = .inDescription) : context.leaveDescription.Consistent := by
  have noSpell := consistent.spell_eq_none (by rw [inside]; simp)
  exact ⟨by simp [ParseContext.leaveDescription, noSpell], by simp [ParseContext.leaveDescription],
    by simp [ParseContext.leaveDescription], by simp [ParseContext.leaveDescription]⟩

theorem closeBlock (consistent : context.Consistent) (outside : context.state ≠ .inDescription) :
    context.closeBlock.Consistent := by
  have noLine := consistent.descriptionLine_eq_none outside
  exact ⟨by simp [ParseContext.closeBlock], by simp [ParseContext.closeBlock],
    by simp [ParseContext.closeBlock], by simp [ParseContext.closeBlock, noLine]⟩

theorem withSpell (consistent : context.Consistent) (inSpell : context.spell.isSome)
    (spell : SpellBlock) : ({ context with spell := some spell } : ParseContext).Consistent :=
  ⟨by simp [consistent.spell_iff, inSpell], consistent.spell_activeType,
    consistent.spell_blockLine, consistent.description_iff⟩

theorem openBlock (consistent : context.Consistent) (outside : context.state ≠ .inDescription)
    {type : EntityType} {binding : Option NameBinding} {line : Nat}
    (opened : context.openBlock type binding line = .ok next) : next.Consistent := by
  have noLine := consistent.descriptionLine_eq_none outside
  rw [ParseContext.openBlock] at opened
  split at opened
  · cases opened
  · next notInside =>
      have noSpell := consistent.spell_eq_none notInside
      obtain rfl := Except.ok.inj opened
      split
      · next isSpell => exact ⟨by simp, by simp [isSpell], by simp, by simp [noLine]⟩
      · exact ⟨by simp [noSpell, notInside], by simp [notInside], by simp [notInside],
          by simp [outside, noLine]⟩

theorem noteSelected (consistent : context.Consistent) (ref : DirectiveRef)
    (argument : Argument) : (context.noteSelected ref argument).Consistent := by
  rw [ParseContext.noteSelected]
  split
  · exact ⟨by simpa [modifySpell] using consistent.spell_iff, consistent.spell_activeType,
      consistent.spell_blockLine, consistent.description_iff⟩
  · exact consistent

end ParseContext.Consistent

/-! ### Steps -/

/-- Only within a description is a line read as part of it. -/
theorem meaning_ne_descriptionText {context : ParseContext} {line : Line}
    {classified : ClassifiedLine} (outside : context.inDescription = false)
    (read : classify context line = .ok classified) (closes : Bool) :
    classified.meaning ≠ .descriptionText closes := by
  intro same
  obtain ⟨wordChars, rest, argument, -, -, meaningEq⟩ :=
    exists_spelt_of_classify outside read (by rw [same]; simp)
  exact (directiveMeaning_ne _ _ _).2 closes (meaningEq.symm.trans same)

namespace Survey

variable {survey next : Survey}

/-- Every line outside of descriptions keeps the context consistent. -/
theorem consistent_advance {lineNumber : Nat} {meaning : LineMeaning}
    (consistent : survey.context.Consistent) (outside : survey.context.state ≠ .inDescription)
    (notText : ∀ closes, meaning ≠ .descriptionText closes)
    (advanced : survey.advance lineNumber meaning = .ok next) : next.context.Consistent := by
  cases meaning with
  | descriptionText closes => exact absurd rfl (notText closes)
  | descriptionStart staysOpen =>
      cases staysOpen with
      | false => obtain rfl := Except.ok.inj advanced; exact consistent
      | true =>
          obtain ⟨context, entered, finished⟩ := bind_eq_ok.1 advanced
          obtain rfl := Except.ok.inj finished
          exact consistent.enterDescription entered
  | blockStart word ref argument =>
      obtain ⟨context, opened, finished⟩ := bind_eq_ok.1 advanced
      obtain rfl := Except.ok.inj finished
      exact (consistent.openBlock outside opened).noteSelected ref argument
  | blockEnd =>
      obtain rfl := Except.ok.inj advanced
      exact consistent.closeBlock outside
  | spellContent directive ref argument =>
      obtain rfl := Except.ok.inj advanced
      rw [readSpellLine]
      split
      · exact consistent
      · next spell inSpell =>
          have isSome : survey.context.spell.isSome := by rw [inSpell]; rfl
          simp only
          split
          · exact consistent.withSpell isSome _
          · exact consistent.withSpell isSome _
  | modName given =>
      cases given <;> (obtain rfl := Except.ok.inj advanced; exact consistent)
  | name given =>
      cases given with
      | none => obtain rfl := Except.ok.inj advanced; exact consistent
      | some name =>
          simp only [advance] at advanced
          split at advanced
          · split at advanced <;> (obtain rfl := Except.ok.inj advanced; exact consistent)
          · obtain rfl := Except.ok.inj advanced
            exact consistent
  | entity word ref argument =>
      obtain rfl := Except.ok.inj advanced
      split <;> exact consistent
  | blank | comment | otherMetadata word | text word =>
      obtain rfl := Except.ok.inj advanced
      exact consistent

/-- Every step keeps the context consistent. -/
theorem consistent_step {line : ScriptLine} (consistent : survey.context.Consistent)
    (stepped : survey.step line = .ok next) : next.context.Consistent := by
  obtain ⟨classified, read, advanced⟩ := step_eq_ok_iff.1 stepped
  cases inside : survey.context.inDescription with
  | true =>
      rw [classify_inDescription inside] at read
      obtain rfl := Except.ok.inj read
      obtain rfl := Except.ok.inj advanced
      split
      · exact consistent.leaveDescription (inDescription_iff.1 inside)
      · exact consistent
  | false =>
      have outside : survey.context.state ≠ .inDescription := by
        rw [ne_eq, ← inDescription_iff, inside]
        exact Bool.false_ne_true
      exact consistent_advance consistent outside (meaning_ne_descriptionText inside read) advanced

theorem consistent_run {lines : List ScriptLine} (consistent : survey.context.Consistent)
    (ran : survey.run lines = .ok next) : next.context.Consistent :=
  invariant_of_foldlM (fun _ _ (survey : Survey) => survey.context.Consistent)
    (fun _ _ _ _ _ consistent stepped => consistent_step consistent stepped) consistent ran

/-- A description is begun by its first line only. -/
theorem inDescription_advance {lineNumber : Nat} {meaning : LineMeaning}
    (outside : survey.context.inDescription = false)
    (noDescription : meaning ≠ .descriptionStart true)
    (advanced : survey.advance lineNumber meaning = .ok next) :
    next.context.inDescription = false := by
  cases meaning with
  | descriptionText closes =>
      obtain rfl := Except.ok.inj advanced
      split
      · rfl
      · exact outside
  | descriptionStart staysOpen =>
      cases staysOpen with
      | false => obtain rfl := Except.ok.inj advanced; exact outside
      | true => exact absurd rfl noDescription
  | blockStart word ref argument =>
      obtain ⟨context, opened, finished⟩ := bind_eq_ok.1 advanced
      obtain rfl := Except.ok.inj finished
      have same : (context.noteSelected ref argument).state = context.state := by
        rw [ParseContext.noteSelected]
        split <;> rfl
      simp only [ParseContext.inDescription, same]
      rw [ParseContext.openBlock] at opened
      split at opened
      · cases opened
      · obtain rfl := Except.ok.inj opened
        split
        · rfl
        · exact outside
  | blockEnd =>
      obtain rfl := Except.ok.inj advanced
      rfl
  | spellContent directive ref argument =>
      obtain rfl := Except.ok.inj advanced
      rw [readSpellLine]
      split
      · exact outside
      · simp only
        split <;> exact outside
  | modName given =>
      cases given <;> (obtain rfl := Except.ok.inj advanced; exact outside)
  | name given =>
      cases given with
      | none => obtain rfl := Except.ok.inj advanced; exact outside
      | some name =>
          simp only [advance] at advanced
          split at advanced
          · split at advanced <;> (obtain rfl := Except.ok.inj advanced; exact outside)
          · obtain rfl := Except.ok.inj advanced
            exact outside
  | entity word ref argument =>
      obtain rfl := Except.ok.inj advanced
      split <;> exact outside
  | blank | comment | otherMetadata word | text word =>
      obtain rfl := Except.ok.inj advanced
      exact outside

/-- A blank line is passed over, in descriptions too. -/
theorem step_of_isBlankText (survey : Survey) {line : ScriptLine}
    (blank : Text.isBlankText line.text = true) : survey.step line = .ok survey := by
  have nothing : Text.trim line.text = [] := Text.trim_eq_nil_iff.2 blank
  rw [step_eq_ok_iff]
  cases inside : survey.context.inDescription with
  | true =>
      refine ⟨_, classify_inDescription inside _, ?_⟩
      rw [nothing]
      rfl
  | false =>
      refine ⟨⟨[], .blank⟩, ?_, rfl⟩
      rw [classify_eq _ inside, nothing]
      rfl

/-! ### Runs -/

theorem run_of_isBlankText (start : Survey) {blanks : List ScriptLine}
    (areBlank : ∀ line ∈ blanks, Text.isBlankText line.text = true) :
    start.run blanks = .ok start := by
  induction blanks with
  | nil => rfl
  | cons first rest inductionHypothesis =>
      have passed := start.step_of_isBlankText (areBlank first List.mem_cons_self)
      exact run_cons_eq_ok.2 ⟨start, passed, inductionHypothesis fun line member =>
        areBlank line (List.mem_cons_of_mem _ member)⟩

/-- However the lines are numbered, the survey passes them, is in no description afterwards,
and `holds` then. -/
def Reaches (start : Survey) (lines : List Line) (holds : Survey → Prop) : Prop :=
  ∀ numbered : List ScriptLine, numbered.map (·.text) = lines →
    ∃ read, start.run numbered = .ok read ∧ read.context.Consistent ∧
      read.context.inDescription = false ∧ holds read

namespace Reaches

variable {start : Survey} {lines more : List Line} {line : Line}
  {holds before after : Survey → Prop}
  {inSpellBlock : Bool} {meaning : LineMeaning}

theorem nil (consistent : start.context.Consistent) (outside : start.context.inDescription = false)
    (holdsNow : holds start) : start.Reaches [] holds := by
  intro numbered texts
  obtain rfl := List.map_eq_nil_iff.1 texts
  exact ⟨start, rfl, consistent, outside, holdsNow⟩

theorem mono (reaches : start.Reaches lines before) (weaker : ∀ read, before read → after read) :
    start.Reaches lines after := by
  intro numbered texts
  obtain ⟨read, finished, consistent, outside, holdsThen⟩ := reaches numbered texts
  exact ⟨read, finished, consistent, outside, weaker read holdsThen⟩

/-- Further lines are read from wherever the first have led. -/
theorem append (reaches : start.Reaches lines before)
    (later : ∀ read, read.context.Consistent → read.context.inDescription = false →
      before read → read.Reaches more after) : start.Reaches (lines ++ more) after := by
  intro numbered texts
  obtain ⟨first, second, rfl, firstTexts, secondTexts⟩ := List.map_eq_append_iff.1 texts
  obtain ⟨middle, run, consistent, outside, holdsThen⟩ := reaches first firstTexts
  obtain ⟨read, rest, atEnd⟩ := later middle consistent outside holdsThen second secondTexts
  exact ⟨read, run_append_eq_ok.2 ⟨middle, run, rest⟩, atEnd⟩

/-- One further line. -/
theorem concat (reaches : start.Reaches lines before) (reads : Reads inSpellBlock line meaning)
    (sameBlock : ∀ read, before read → read.context.spell.isSome = inSpellBlock)
    (noDescription : meaning ≠ .descriptionStart true)
    (leads : ∀ read, read.context.inSpellBlock = inSpellBlock → before read → ∀ lineNumber,
      ∃ next, read.advance lineNumber meaning = .ok next ∧ after next) :
    start.Reaches (lines ++ [line]) after := by
  refine reaches.append fun read consistent outside holdsThen numbered texts => ?_
  obtain ⟨only, rfl, rfl⟩ := List.map_eq_singleton_iff.1 texts
  have inBlock : read.context.inSpellBlock = inSpellBlock := by
    rw [consistent.inSpellBlock_eq, sameBlock read holdsThen]
  obtain ⟨next, advanced, holdsNext⟩ := leads read inBlock holdsThen only.number
  obtain ⟨classified, isRead, alike⟩ := reads read.context outside inBlock
  have stepped : read.step only = .ok next :=
    step_eq_ok_iff.2 ⟨classified, isRead, (alike.advance_eq read _).trans advanced⟩
  exact ⟨next, run_cons_eq_ok.2 ⟨next, stepped, rfl⟩, consistent_step consistent stepped,
    inDescription_advance outside noDescription advanced, holdsNext⟩

/-- A blank line is passed over wherever it is. -/
theorem blank (reaches : start.Reaches lines holds) : start.Reaches (lines ++ [[]]) holds := by
  refine reaches.append fun read consistent outside holdsThen numbered texts => ?_
  obtain ⟨only, rfl, isEmpty⟩ := List.map_eq_singleton_iff.1 texts
  refine ⟨read, run_of_isBlankText read fun line member => ?_, consistent, outside, holdsThen⟩
  obtain rfl := List.mem_singleton.1 member
  rw [isEmpty]
  rfl

/-- A comment is passed over, in a spell block or not. -/
theorem comment (reaches : start.Reaches lines holds) (rest : Line) :
    start.Reaches (lines ++ ['-' :: '-' :: rest]) holds := by
  refine reaches.append fun read consistent outside holdsThen numbered texts => ?_
  obtain ⟨only, rfl, isComment⟩ := List.map_eq_singleton_iff.1 texts
  have nothing : Text.AllBlank [] := fun _ member => by cases member
  obtain ⟨classified, isRead, alike⟩ :=
    reads_comment read.context.inSpellBlock nothing read.context outside rfl
  have passed : read.step only = .ok read := by
    refine step_eq_ok_iff.2 ⟨classified, ?_, alike.advance_eq read _⟩
    rw [isComment]
    exact isRead
  exact ⟨read, run_cons_eq_ok.2 ⟨read, passed, rfl⟩, consistent, outside, holdsThen⟩

/-- Blank lines at either end may be left out. -/
theorem of_blanks {blanksBefore blanksAfter : List Line}
    (reaches : start.Reaches (blanksBefore ++ lines ++ blanksAfter) holds)
    (blankBefore : ∀ line ∈ blanksBefore, Text.isBlankText line = true)
    (blankAfter : ∀ line ∈ blanksAfter, Text.isBlankText line = true) :
    start.Reaches lines holds := by
  intro numbered texts
  have renumber : ∀ blanks : List Line, (∀ line ∈ blanks, Text.isBlankText line = true) →
      ∃ lines : List ScriptLine, lines.map (·.text) = blanks ∧
        ∀ line ∈ lines, Text.isBlankText line.text = true := by
    intro blanks areBlank
    refine ⟨blanks.map fun line => ⟨0, line, line⟩, by rw [List.map_map]; exact List.map_id _, ?_⟩
    simpa using areBlank
  obtain ⟨first, firstTexts, firstBlank⟩ := renumber blanksBefore blankBefore
  obtain ⟨last, lastTexts, lastBlank⟩ := renumber blanksAfter blankAfter
  obtain ⟨read, finished, atEnd⟩ := reaches (first ++ numbered ++ last) (by
    rw [List.map_append, List.map_append, firstTexts, texts, lastTexts])
  obtain ⟨middle, run, passedLast⟩ := run_append_eq_ok.1 finished
  obtain ⟨_, passedFirst, run⟩ := run_append_eq_ok.1 run
  obtain rfl := Except.ok.inj ((run_of_isBlankText start firstBlank).symm.trans passedFirst)
  obtain rfl := Except.ok.inj ((run_of_isBlankText middle lastBlank).symm.trans passedLast)
  exact ⟨middle, run, atEnd⟩

end Reaches

end Survey

end ModMerge
