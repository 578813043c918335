import ModMerge.Proofs.Mod.LockstepSpells

/-!
# Whole scripts in lockstep

Renumbering takes every step that a survey takes, as long as the mapping provides enough ids
for the definitions without one. Each kind of line keeps the two in lockstep, and so does a
run through all lines of a script.
-/

namespace ModMerge

theorem unmarked_trimRight {line : Line} (unmarked : Unmarked line) :
    Unmarked (Text.trimRight line) := by
  obtain ⟨blanks, -, lineEq⟩ := Text.exists_eq_trimRight_append line
  cases trimmed : Text.trimRight line with
  | nil => exact fun same => by cases same
  | cons first rest =>
      rw [trimmed] at lineEq
      rw [lineEq] at unmarked
      exact unmarked

namespace Renumbering.Lockstep

variable {atStart : Prop} {renumbering : Renumbering} {mapping : ModMapping}
  {start survey nextSurvey : Survey}

/-- A line about the mod itself. -/
theorem metadata (lockstep : renumbering.Lockstep atStart mapping start survey)
    (context : nextSurvey.context = survey.context)
    (definition : ∃ displayName, nextSurvey.definition = { survey.definition with displayName }) :
    renumbering.Lockstep atStart mapping start nextSurvey := by
  have sameContext : renumbering.context = { nextSurvey.context with active := none } := by
    rw [context]
    exact lockstep.context_eq
  exact lockstep.unread sameContext (context ▸ lockstep.consistent) (by rw [context])
    (by rw [context]) (by rw [context]) definition

/-- A line of a spell block, whatever it is about. -/
theorem spellContent (lockstep : renumbering.Lockstep atStart mapping start survey)
    (sound : mapping.Sound) {line : Line} {directive : SpellDirective} {ref : Option DirectiveRef}
    {argument : Argument}
    (isRead : ReadLine atStart survey.context line (.spellContent directive ref argument)) :
    (renumbering.spellLine line directive ref argument).Lockstep atStart mapping start
      (survey.readSpellLine directive argument) := by
  have damageLine : directive.isDamage = true →
      ∀ before, survey.context.spell = some before →
      (renumbering.spellLine line directive ref argument).Lockstep atStart mapping start
        (survey.readSpellLine directive argument) := by
    intro isDamage before inSpell
    cases argument with
    | name name => exact lockstep.unreadDamage sound isDamage isRead inSpell rfl
    | absent => exact lockstep.unreadDamage sound isDamage isRead inSpell rfl
    | number number =>
        cases ready : (before.read directive (.number number)).ready with
        | true => exact lockstep.readyDamage sound isDamage isRead inSpell ready
        | false => exact lockstep.waitingDamageLine sound isDamage isRead inSpell ready
  cases inSpell : survey.context.spell with
  | none =>
      have passed : ∀ survey : Survey, survey.context.spell = none →
          survey.readSpellLine directive argument = survey := by
        intro survey noSpell
        simp only [Survey.readSpellLine, noSpell]
      have emitted : renumbering.spellLine line directive ref argument = renumbering.emit line := by
        simp only [spellLine, lockstep.spell_eq, inSpell]
      rw [emitted, passed survey inSpell, emit_of_reads isRead.reads (by simp) (by simp)]
      refine lockstep.keep isRead.readable isRead.reads (by simp) (by simp) (by simp) rfl
        (fun _ => rfl) fun damage read mirrors _ => ⟨read, ?_, mirrors⟩
      exact congrArg Except.ok (passed read (eq_none_of_rel (inSpell ▸ mirrors.spell)))
  | some before =>
      cases directive with
      | effect => exact lockstep.effect sound isRead inSpell
      | damage => exact damageLine rfl before inSpell
      | damageMonster => exact damageLine rfl before inSpell
      | copySpell => exact lockstep.copySpell sound isRead inSpell

/-- Every line outside of descriptions keeps the two in lockstep. -/
theorem exists_advance (lockstep : renumbering.Lockstep atStart mapping start survey)
    (sound : mapping.Sound) {lineNumber : Nat} {line : Line} {meaning : LineMeaning}
    (isRead : ReadLine atStart survey.context line meaning)
    (advanced : survey.advance lineNumber meaning = .ok nextSurvey)
    (provided : ∀ type, nextSurvey.definition.nextImplicitIndex type ≤
      (mapping.implicitIds type).length) :
    ∃ next, renumbering.advance lineNumber line meaning = .ok next ∧
      next.Lockstep atStart mapping start nextSurvey := by
  cases meaning with
  | descriptionText closes =>
      obtain ⟨classified, read, same⟩ := isRead.read
      exact absurd same (meaning_ne_descriptionText isRead.outside read closes)
  | descriptionStart staysOpen =>
      cases staysOpen with
      | false =>
          obtain rfl := Except.ok.inj advanced
          exact ⟨renumbering, rfl, lockstep⟩
      | true =>
          have consistent := Survey.consistent_advance lockstep.consistent
            isRead.not_inDescription (fun _ same => by cases same) advanced
          obtain ⟨entered, isEntered, finished⟩ := bind_eq_ok.1 advanced
          obtain rfl := Except.ok.inj finished
          obtain ⟨-, spell, active, blockLine⟩ :=
            ParseContext.enterDescription_withoutName isEntered
          exact ⟨_, advance_descriptionStart lockstep.context_eq isEntered line,
            lockstep.unread rfl consistent spell active blockLine
              ⟨survey.definition.displayName, rfl⟩⟩
  | modName given =>
      refine ⟨renumbering, rfl, ?_⟩
      cases given <;> obtain rfl := Except.ok.inj advanced
      · exact lockstep
      · exact lockstep.metadata rfl ⟨_, rfl⟩
  | otherMetadata word =>
      obtain rfl := Except.ok.inj advanced
      exact ⟨renumbering, rfl, lockstep⟩
  | blockStart word ref argument => exact lockstep.blockStart sound isRead advanced provided
  | blockEnd =>
      obtain rfl := Except.ok.inj advanced
      exact ⟨_, rfl, lockstep.blockEnd sound isRead⟩
  | spellContent directive ref argument =>
      obtain rfl := Except.ok.inj advanced
      exact ⟨_, rfl, lockstep.spellContent sound isRead⟩
  | entity word ref argument => exact lockstep.entity sound isRead advanced
  | name given =>
      cases given with
      | none =>
          obtain rfl := Except.ok.inj advanced
          exact ⟨_, rfl, lockstep.text isRead (by simp) (by simp) (by simp) fun _ _ => rfl⟩
      | some name =>
          obtain rfl := Except.ok.inj ((survey.advance_name lineNumber name).symm.trans advanced)
          exact ⟨_, rfl, lockstep.name isRead⟩
  | comment =>
      obtain rfl := Except.ok.inj advanced
      exact ⟨_, rfl, lockstep.text isRead (by simp) (by simp) (by simp) fun _ _ => rfl⟩
  | text word =>
      obtain rfl := Except.ok.inj advanced
      exact ⟨_, rfl, lockstep.text isRead (by simp) (by simp) (by simp) fun _ _ => rfl⟩
  | blank =>
      obtain rfl := Except.ok.inj advanced
      obtain ⟨classified, read, isBlank⟩ := isRead.read
      exact ⟨_, rfl, lockstep.blank (isBlankText_of_classify isRead.outside read isBlank)⟩

/-- A line within a description, which is left out. -/
theorem exists_descriptionText (lockstep : renumbering.Lockstep atStart mapping start survey)
    (inside : survey.context.inDescription = true) {lineNumber : Nat} {line : Line}
    {closes : Bool}
    (advanced : survey.advance lineNumber (.descriptionText closes) = .ok nextSurvey) :
    ∃ next, renumbering.advance lineNumber line (.descriptionText closes) = .ok next ∧
      next.Lockstep atStart mapping start nextSurvey := by
  refine ⟨_, rfl, ?_⟩
  obtain rfl := Except.ok.inj advanced
  cases closes with
  | false => exact lockstep
  | true =>
      refine lockstep.unread ?_ ?_ rfl rfl rfl ⟨survey.definition.displayName, rfl⟩
      · rw [lockstep.context_eq]
        rfl
      · exact lockstep.consistent.leaveDescription (inDescription_iff.1 inside)

/-- Every line of a script keeps the two in lockstep. -/
theorem exists_step (lockstep : renumbering.Lockstep atStart mapping start survey)
    (sound : mapping.Sound)
    {line : ScriptLine} (plain : Plain line.text)
    (unmarked : atStart → Unmarked line.text)
    (stepped : survey.step line = .ok nextSurvey)
    (provided : ∀ type, nextSurvey.definition.nextImplicitIndex type ≤
      (mapping.implicitIds type).length) :
    ∃ next, renumbering.pass line = .ok next ∧ next.Lockstep atStart mapping start nextSurvey := by
  obtain ⟨classified, read, advanced⟩ := Survey.step_eq_ok_iff.1 stepped
  have readToo : classify renumbering.context (Text.trimRight line.text) = .ok classified := by
    rw [lockstep.context_eq, classify_trimRight, read]
  have steppedToo : renumbering.pass line =
      renumbering.advance line.number (Text.trimRight line.text) classified.meaning := by
    simp only [pass, readToo]
  rw [steppedToo]
  cases inside : survey.context.inDescription with
  | true =>
      rw [classify_inDescription inside] at read
      obtain rfl := Except.ok.inj read
      exact lockstep.exists_descriptionText inside advanced
  | false =>
      refine lockstep.exists_advance sound ⟨inside, ⟨classified, ?_, rfl⟩, ?_, ?_⟩ advanced provided
      · rw [lockstep.context_eq] at readToo
        exact readToo
      · exact plain.of_subset fun _ member => Text.mem_of_mem_trimRight member
      · exact fun first => unmarked_trimRight (unmarked first)

/-- Renumbering passes all lines that a survey passes. -/
theorem exists_run (lockstep : renumbering.Lockstep atStart mapping start survey)
    (sound : mapping.Sound)
    {lines : List ScriptLine} (plain : ∀ line ∈ lines, Plain line.text)
    (unmarked : atStart → ∀ line ∈ lines, Unmarked line.text)
    (ran : survey.run lines = .ok nextSurvey)
    (provided : ∀ type, nextSurvey.definition.nextImplicitIndex type ≤
      (mapping.implicitIds type).length) :
    ∃ next, renumbering.passAll lines = .ok next ∧
      next.Lockstep atStart mapping start nextSurvey := by
  induction lines generalizing renumbering survey with
  | nil =>
      obtain rfl := Except.ok.inj ran
      exact ⟨renumbering, rfl, lockstep⟩
  | cons line rest inductionHypothesis =>
      obtain ⟨middleSurvey, stepped, remaining⟩ := Survey.run_cons_eq_ok.1 ran
      -- The counts only grow, so the mapping provides enough ids for this line, too.
      have soFar : ∀ type, middleSurvey.definition.nextImplicitIndex type ≤
          (mapping.implicitIds type).length := fun type =>
        (Survey.nextImplicitIndex_le_of_run remaining type).trans (provided type)
      obtain ⟨middle, steppedToo, middleLockstep⟩ := lockstep.exists_step sound
        (plain line List.mem_cons_self) (fun first => unmarked first line List.mem_cons_self)
        stepped soFar
      obtain ⟨next, ranToo, nextLockstep⟩ := inductionHypothesis middleLockstep
        (fun other member => plain other (List.mem_cons_of_mem _ member))
        (fun first other member => unmarked first other (List.mem_cons_of_mem _ member)) remaining
      exact ⟨next, passAll_cons_eq_ok.2 ⟨middle, steppedToo, ranToo⟩, nextLockstep⟩

end Renumbering.Lockstep

end ModMerge
