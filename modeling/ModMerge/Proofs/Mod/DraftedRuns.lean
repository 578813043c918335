import ModMerge.Proofs.Mod.DraftedSpells

/-!
# Drafts of whole scripts

Every line is written as it is drafted, and so is a whole script: what renumbering writes is
what is left of the drafts of its lines.
-/

namespace ModMerge.Renumbering.InStep

variable {renumbering : Renumbering} {mapping : ModMapping} {survey nextSurvey : Survey}
  {line : Line} {meaning : LineMeaning} {lineNumber : Nat}

/-! ### Any line -/

/-- Renumbering passes every line that the survey passes, and writes what is left of its draft. -/
theorem exists_advance (inStep : renumbering.InStep mapping survey)
    (isRead : (⟨survey, line, meaning⟩ : SurveyedLine).IsRead)
    (advanced : survey.advance lineNumber meaning = .ok nextSurvey)
    (provided : ∀ type, nextSurvey.definition.nextImplicitIndex type ≤
      (mapping.implicitIds type).length) :
    ∃ next, renumbering.advance lineNumber line meaning = .ok next ∧
      Follows mapping renumbering ⟨survey, line, meaning⟩ next nextSurvey := by
  have consistent : nextSurvey.context.Consistent := isRead.consistent_advance advanced
  have passed : nextSurvey = survey → ∀ drafted, meaning ≠ .blockEnd →
      (∀ directive ref argument, meaning ≠ .spellContent directive ref argument) →
      (∀ later, mapping.draft ⟨survey, line, meaning⟩ later = some drafted) →
      Follows mapping renumbering ⟨survey, line, meaning⟩ (renumbering.write drafted)
        nextSurvey := by
    rintro rfl drafted notEnd notContent isDraft
    exact inStep.follows_plain inStep.consistent rfl (fun _ => rfl) notEnd notContent isDraft
  have emitted := emit_eq_write isRead.last renumbering
  cases meaning with
  | blank | comment | text word =>
      obtain rfl := Except.ok.inj advanced
      refine ⟨renumbering.write { line }, congrArg Except.ok emitted, ?_⟩
      exact passed rfl _ (by simp) (by simp) fun _ => rfl
  | otherMetadata word =>
      obtain rfl := Except.ok.inj advanced
      exact ⟨renumbering, rfl, inStep.unwritten inStep.context_eq consistent rfl (fun _ => rfl) rfl⟩
  | modName given =>
      cases given <;> obtain rfl := Except.ok.inj advanced <;>
        exact ⟨renumbering, rfl,
          inStep.unwritten inStep.context_eq consistent rfl (fun _ => rfl) rfl⟩
  | descriptionText closes =>
      obtain rfl := Except.ok.inj advanced
      cases closes with
      | false =>
          exact ⟨renumbering, rfl,
            inStep.unwritten inStep.context_eq consistent rfl (fun _ => rfl) rfl⟩
      | true =>
          refine ⟨_, rfl, inStep.unwritten ?_ consistent rfl (fun _ => rfl) rfl⟩
          rw [inStep.context_eq]
          rfl
  | descriptionStart staysOpen =>
      cases staysOpen with
      | false =>
          obtain rfl := Except.ok.inj advanced
          exact ⟨renumbering, rfl,
            inStep.unwritten inStep.context_eq consistent rfl (fun _ => rfl) rfl⟩
      | true =>
          obtain ⟨entered, isEntered, finished⟩ := bind_eq_ok.1 advanced
          obtain rfl := Except.ok.inj finished
          obtain ⟨-, spell, -, -⟩ := ParseContext.enterDescription_withoutName isEntered
          exact ⟨_, advance_descriptionStart inStep.context_eq isEntered line,
            inStep.unwritten rfl consistent spell (fun _ => rfl) rfl⟩
  | blockStart word ref argument => exact inStep.exists_blockStart isRead advanced provided
  | blockEnd =>
      obtain rfl := Except.ok.inj advanced
      exact ⟨_, rfl, inStep.follows_closeBlock isRead⟩
  | spellContent directive ref argument =>
      obtain rfl := Except.ok.inj advanced
      exact ⟨_, rfl, inStep.follows_spellLine isRead⟩
  | name given =>
      refine ⟨renumbering.write { line }, congrArg Except.ok emitted, ?_⟩
      cases given with
      | none =>
          obtain rfl := Except.ok.inj advanced
          exact passed rfl _ (by simp) (by simp) fun _ => rfl
      | some name =>
          rw [survey.advance_name] at advanced
          obtain rfl := Except.ok.inj advanced
          obtain ⟨entities, -, context⟩ := survey.bindName_unchanged name
          refine inStep.follows_plain consistent context (fun type => ?_) (by simp) (by simp)
            fun _ => rfl
          rw [ModDefinition.nextImplicitIndex, entities, ModDefinition.nextImplicitIndex]
  | entity word ref argument =>
      have context : nextSurvey.context = survey.context := by
        obtain rfl := Except.ok.inj advanced
        split <;> rfl
      have counts := Survey.nextImplicitIndex_advance (isRead.role_ne_new) advanced
      cases argument with
      | number number =>
          have isForm : (⟨survey, line, (LineForm.entity word ref).meaning (.number number)⟩ :
              SurveyedLine).IsRead := isRead
          refine ⟨renumbering.write (mapping.entityLine line ref number), ?_,
            inStep.follows_plain consistent context counts (by simp) (by simp) fun _ => rfl⟩
          rw [Renumbering.advance, emitEntity_eq_write isForm, inStep.mapping_eq]
      | name name =>
          exact ⟨renumbering.write { line }, congrArg Except.ok emitted,
            inStep.follows_plain consistent context counts (by simp) (by simp) fun _ => rfl⟩
      | absent =>
          exact ⟨renumbering.write { line }, congrArg Except.ok emitted,
            inStep.follows_plain consistent context counts (by simp) (by simp) fun _ => rfl⟩

/-- Renumbering passes the next line of the script. -/
theorem exists_step (inStep : renumbering.InStep mapping survey) {scriptLine : ScriptLine}
    {surveyed : SurveyedLine} (ofStep : surveyed.OfStep survey scriptLine nextSurvey)
    (provided : ∀ type, nextSurvey.definition.nextImplicitIndex type ≤
      (mapping.implicitIds type).length) :
    ∃ next, renumbering.pass scriptLine = .ok next ∧
      Follows mapping renumbering surveyed next nextSurvey := by
  obtain ⟨before, line, meaning⟩ := surveyed
  obtain rfl : before = survey := ofStep.before_eq
  have lineEq : Text.trimRight scriptLine.text = line := ofStep.line_eq.symm
  obtain ⟨next, advanced, follows⟩ :=
    inStep.exists_advance (ofStep.isRead inStep.consistent) ofStep.advanced provided
  obtain ⟨classified, read, same⟩ := ofStep.read
  have sameReading : classify renumbering.context line = classify before.context line := by
    rw [inStep.context_eq]
    exact classify_congr rfl rfl line
  refine ⟨next, ?_, follows⟩
  have same : classified.meaning = meaning := same
  rw [pass, lineEq, sameReading, read]
  simp only [same, advanced]

/-! ### Whole scripts -/

theorem initial (modName : String) (mapping : ModMapping) :
    ({ modName, mapping } : Renumbering).InStep mapping { definition := { modName } } where
  mapping_eq := rfl
  context_eq := rfl
  counts_eq type := by
    rw [EntityTable.get_uniform, ModDefinition.nextImplicitIndex, EntityTable.get_uniform]
  consistent := ParseContext.consistent_initial
  waiting := waiting_none
  replaceable _ pending := by cases pending

/-- Renumbering passes all lines that a survey passes. What it writes in the end is what is left
of the drafts of these lines. -/
theorem exists_run (inStep : renumbering.InStep mapping survey) {lines : List ScriptLine}
    (ran : survey.run lines = .ok nextSurvey)
    (provided : ∀ type, nextSurvey.definition.nextImplicitIndex type ≤
      (mapping.implicitIds type).length) :
    ∃ next, renumbering.passAll lines = .ok next ∧ next.InStep mapping nextSurvey ∧
      next.settled [] =
        renumbering.settled ((survey.readings lines).map (·.meaning)) ++
          (mapping.transcribe (renumbering.settled ((survey.readings lines).map (·.meaning)))
            (survey.readings lines)).filterMap (·.written) := by
  induction lines generalizing renumbering survey with
  | nil =>
      obtain rfl := Except.ok.inj ran
      exact ⟨renumbering, rfl, inStep, (List.append_nil _).symm⟩
  | cons line rest inductionHypothesis =>
      obtain ⟨middleSurvey, stepped, remaining⟩ := Survey.run_cons_eq_ok.1 ran
      -- The counts only grow, so the mapping has enough ids for this line, too.
      have soFar : ∀ type, middleSurvey.definition.nextImplicitIndex type ≤
          (mapping.implicitIds type).length := fun type =>
        (Survey.nextImplicitIndex_le_of_run remaining type).trans (provided type)
      obtain ⟨surveyed, ofStep, readings⟩ := Survey.exists_readings_cons stepped rest
      obtain ⟨middle, steppedToo, follows⟩ := inStep.exists_step ofStep soFar
      obtain ⟨next, ranToo, nextInStep, settled⟩ := inductionHypothesis follows.inStep remaining
      refine ⟨next, passAll_cons_eq_ok.2 ⟨middle, steppedToo, ranToo⟩, nextInStep, ?_⟩
      rw [settled, follows.settled, readings, List.map_cons, ModMapping.transcribe,
        List.append_assoc, List.filterMap_cons]
      cases kept _ (mapping.draft surveyed _) <;> rfl

end ModMerge.Renumbering.InStep
