import ModMerge.Proofs.Mod.Walks
import ModMerge.Proofs.Script.StateWalk

/-!
# Which scripts are refused

A survey stands in the state that the spelling of the lines before leads to, and it stops at
the first line that is refused there. A script is refused for such a line, and if there is
none, for a description that is still open at its end. What has gone before a line can
always be relied on: within a spell block the block is there.
-/

namespace ModMerge

open ParseState (Refuses)

/-- The state after a line of a meaning. -/
def LineMeaning.stateAfter (state : ParseState) : LineMeaning → ParseState
  | .descriptionText closes => if closes then .idle else state
  | .descriptionStart true => .inDescription
  | .blockEnd => .idle
  | .blockStart _ ref _ => if ref.type = .spell then .inSpellBlock else state
  | _ => state

namespace ParseState

/-- None of the lines is refused where it stands. -/
def Admits (state : ParseState) (lines : List ScriptLine) : Prop :=
  ∀ front line back, lines = front ++ line :: back →
    ∀ fault, ¬ (state.pastAll front).Refuses line.text fault

theorem admits_nil (state : ParseState) : state.Admits [] := by
  intro front line back split
  simp at split

theorem admits_cons_iff {state : ParseState} {line : ScriptLine} {rest : List ScriptLine} :
    state.Admits (line :: rest) ↔
      (∀ fault, ¬ state.Refuses line.text fault) ∧ (state.past line.text).Admits rest := by
  constructor
  · intro admits
    refine ⟨admits [] line rest rfl, fun front other back split => ?_⟩
    exact admits (line :: front) other back (by rw [split]; rfl)
  · rintro ⟨here, later⟩ front other back split
    cases front with
    | nil =>
        obtain ⟨rfl, rfl⟩ := List.cons.inj split
        exact here
    | cons first front =>
        obtain ⟨rfl, rfl⟩ := List.cons.inj split
        exact later front other back rfl

end ParseState

/-- The spelling of a line tells the state that its meaning leads to. -/
theorem past_of_classify {context : ParseContext} {line : Line} {classified : ClassifiedLine}
    (read : classify context line = .ok classified) :
    context.state.past line = classified.meaning.stateAfter context.state := by
  cases inside : context.inDescription with
  | true =>
      rw [classify_inDescription inside] at read
      obtain rfl := Except.ok.inj read
      rw [inDescription_iff.1 inside]
      rfl
  | false =>
      have outside : context.state ≠ .inDescription := by
        rw [ne_eq, ← inDescription_iff, inside]
        exact Bool.false_ne_true
      have startsBlock := opensBlock_iff_of_classify inside read .spell
      have ends := endsBlock_iff_of_classify inside read
      have startsDescription := opensDescription_iff_of_classify inside read
      have noText := meaning_ne_descriptionText inside read
      rw [ParseState.past, if_neg outside]
      cases isRead : classified.meaning with
      | descriptionText closes => exact absurd isRead (noText closes)
      | descriptionStart staysOpen =>
          cases staysOpen <;> simp_all [LineMeaning.stateAfter]
      | _ => simp_all [LineMeaning.stateAfter]

namespace Survey

variable {survey next last : Survey} {lineNumber : Nat} {meaning : LineMeaning}

/-! ### One line -/

/-- The two kinds of lines that a survey cannot get past. -/
theorem advance_eq_error_iff {refusal : InvalidTransition} :
    survey.advance lineNumber meaning = .error refusal ↔
      (survey.context.state = .inSpellBlock ∧
        (∃ word ref argument, meaning = .blockStart word ref argument) ∧
        refusal = .blockInsideSpell
          ((survey.context.spell.map (·.startLine)).getD lineNumber)) ∨
      (survey.context.state ≠ .idle ∧ meaning = .descriptionStart true ∧
        refusal = .descriptionInside survey.context.state) := by
  cases meaning with
  | blockStart word ref argument =>
      simp only [advance, openBlock, ParseContext.openBlock]
      by_cases inside : survey.context.state = .inSpellBlock
      · simp [inside, bind, Except.bind, eq_comm]
      · simp [inside, bind, Except.bind, pure, Except.pure]
  | descriptionStart staysOpen =>
      cases staysOpen with
      | false => simp [advance]
      | true =>
          simp only [advance, ParseContext.enterDescription]
          by_cases idle : survey.context.state = .idle
          · simp [idle, bind, Except.bind, pure, Except.pure]
          · simp [idle, bind, Except.bind, eq_comm]
  | modName given => cases given <;> simp [advance]
  | name given =>
      cases given with
      | none => simp [advance]
      | some name =>
          simp only [advance]
          cases survey.context.active with
          | none => simp
          | some binding => cases name.isEmpty <;> simp
  | _ => simp [advance]

/-- A line that a survey gets past leaves it in the state that the meaning of the line leads to. -/
theorem state_advance (advanced : survey.advance lineNumber meaning = .ok next) :
    next.context.state = meaning.stateAfter survey.context.state := by
  cases meaning with
  | descriptionText closes =>
      obtain rfl := Except.ok.inj advanced
      cases closes <;> rfl
  | descriptionStart staysOpen =>
      cases staysOpen with
      | false => obtain rfl := Except.ok.inj advanced; rfl
      | true =>
          obtain ⟨-, rfl⟩ := advance_descriptionStart_eq_ok_iff.1 advanced
          rfl
  | blockStart word ref argument =>
      obtain ⟨opened, isOpened, finished⟩ := bind_eq_ok.1 advanced
      obtain rfl := Except.ok.inj finished
      have noted : (opened.noteSelected ref argument).state = opened.state := by
        rw [ParseContext.noteSelected]
        split <;> rfl
      rw [noted]
      rw [ParseContext.openBlock] at isOpened
      split at isOpened
      · cases isOpened
      · obtain rfl := Except.ok.inj isOpened
        rw [LineMeaning.stateAfter]
        split <;> rfl
  | blockEnd => obtain rfl := Except.ok.inj advanced; rfl
  | spellContent directive ref argument =>
      obtain rfl := Except.ok.inj advanced
      rw [readSpellLine]
      split
      · rfl
      · simp only
        split <;> rfl
  | modName given => cases given <;> (obtain rfl := Except.ok.inj advanced; rfl)
  | name given =>
      cases given with
      | none => obtain rfl := Except.ok.inj advanced; rfl
      | some name =>
          simp only [advance] at advanced
          split at advanced
          · split at advanced <;> (obtain rfl := Except.ok.inj advanced; rfl)
          · obtain rfl := Except.ok.inj advanced; rfl
  | entity word ref argument =>
      obtain rfl := Except.ok.inj advanced
      split <;> rfl
  | blank | comment | otherMetadata word | text word =>
      obtain rfl := Except.ok.inj advanced
      rfl

/-- The error of a survey at a line. -/
def errorAt (survey : Survey) (line : ScriptLine) (fault : ScriptFault) : ModParseError :=
  { modName := survey.definition.modName, lineNumber := line.number, line := line.raw, fault }

/-- A survey stops at a line that cannot be read, or that it cannot get past. -/
theorem step_eq_error_iff {line : ScriptLine} {error : ModParseError} :
    survey.step line = .error error ↔
      (∃ numeral, classify survey.context line.text = .error numeral ∧
        error = survey.errorAt line (.numeral numeral)) ∨
      ∃ classified refusal, classify survey.context line.text = .ok classified ∧
        survey.advance line.number classified.meaning = .error refusal ∧
        error = survey.errorAt line (.transition refusal) := by
  rw [step]
  cases read : classify survey.context line.text with
  | error numeral => simp [errorAt, eq_comm]
  | ok classified =>
      cases advanced : survey.advance line.number classified.meaning <;>
        simp [advanced, errorAt, eq_comm]

/-- A line that a survey stops at is refused for what the error says. -/
theorem refuses_of_step {line : ScriptLine} {error : ModParseError}
    (stopped : survey.step line = .error error) :
    survey.context.state.Refuses line.text error.fault ∧
      error = survey.errorAt line error.fault := by
  cases inside : survey.context.inDescription with
  | true =>
      rw [step_eq_error_iff, classify_inDescription inside] at stopped
      obtain ⟨_, fails, -⟩ | ⟨_, _, read, advanced, -⟩ := stopped
      · cases fails
      · obtain rfl := Except.ok.inj read
        cases advanced
  | false =>
      have outside : survey.context.state ≠ .inDescription := by
        rw [ne_eq, ← inDescription_iff, inside]
        exact Bool.false_ne_true
      obtain ⟨numeral, fails, rfl⟩ | ⟨classified, refusal, read, advanced, rfl⟩ :=
        step_eq_error_iff.1 stopped
      · obtain ⟨count, given, tooMany, rfl⟩ := (classify_eq_error_iff inside).1 fails
        exact ⟨.numeral outside given tooMany, rfl⟩
      refine ⟨?_, rfl⟩
      obtain ⟨inSpell, ⟨word, ref, argument, isStart⟩, rfl⟩ | ⟨notIdle, isStart, rfl⟩ :=
        advance_eq_error_iff.1 advanced
      · rw [inSpell]
        exact .block _
          ((opensBlock_iff_of_classify inside read ref.type).2 ⟨_, _, _, isStart, rfl⟩)
      · have inSpell : survey.context.state = .inSpellBlock := by
          cases state : survey.context.state with
          | idle => exact absurd state notIdle
          | inDescription => exact absurd state outside
          | inSpellBlock => rfl
        rw [inSpell]
        exact .description ((opensDescription_iff_of_classify inside read).2 isStart)

/-- A line that is refused stops a survey. -/
theorem not_refuses_of_step {line : ScriptLine} (stepped : survey.step line = .ok next)
    (fault : ScriptFault) : ¬ survey.context.state.Refuses line.text fault := by
  obtain ⟨classified, read, advanced⟩ := step_eq_ok_iff.1 stepped
  have stops : ∀ {refusal}, survey.advance line.number classified.meaning = .error refusal →
      False := by
    intro refusal isRefused
    rw [advanced] at isRefused
    cases isRefused
  have outside : ∀ {state}, survey.context.state = state → state ≠ .inDescription →
      survey.context.inDescription = false := by
    rintro state rfl notInside
    rwa [← Bool.not_eq_true, inDescription_iff]
  intro refused
  generalize same : survey.context.state = state at refused
  cases refused with
  | block startLine opens =>
      obtain ⟨word, ref, argument, isStart, -⟩ :=
        (opensBlock_iff_of_classify (outside same (by simp)) read _).1 opens
      exact stops (advance_eq_error_iff.2 (.inl ⟨same, ⟨word, ref, argument, isStart⟩, rfl⟩))
  | description opens =>
      have isStart := (opensDescription_iff_of_classify (outside same (by simp)) read).1 opens
      exact stops (advance_eq_error_iff.2 (.inr ⟨by simp [same], isStart, rfl⟩))
  | numeral notInside given tooMany =>
      have fails := (classify_eq_error_iff (outside same notInside)).2 ⟨_, given, tooMany, rfl⟩
      rw [read] at fails
      cases fails

/-- A survey gets past a line in the state that its spelling leads to. -/
theorem state_step {line : ScriptLine} (stepped : survey.step line = .ok next) :
    next.context.state = survey.context.state.past line.text := by
  obtain ⟨classified, read, advanced⟩ := step_eq_ok_iff.1 stepped
  rw [past_of_classify read, state_advance advanced]

/-! ### All lines -/

theorem modName_step {line : ScriptLine} (stepped : survey.step line = .ok next) :
    next.definition.modName = survey.definition.modName :=
  (ModDefinition.keptByRecording_modName _).step rfl stepped

/-- A survey that passes all lines was refused none of them, and it stands where they lead. -/
theorem state_run {lines : List ScriptLine} (ran : survey.run lines = .ok last) :
    survey.context.state.Admits lines ∧
      last.context.state = survey.context.state.pastAll lines := by
  induction lines generalizing survey with
  | nil =>
      obtain rfl := Except.ok.inj ran
      exact ⟨ParseState.admits_nil _, rfl⟩
  | cons line rest inductionHypothesis =>
      obtain ⟨next, stepped, remaining⟩ := run_cons_eq_ok.1 ran
      have later := inductionHypothesis remaining
      rw [state_step stepped] at later
      exact ⟨ParseState.admits_cons_iff.2 ⟨not_refuses_of_step stepped, later.1⟩, later.2⟩

/-- A survey that stops does so at the first line that is refused. -/
theorem first_refused_of_run {lines : List ScriptLine} {error : ModParseError}
    (stopped : survey.run lines = .error error) :
    ∃ front line back, lines = front ++ line :: back ∧ survey.context.state.Admits front ∧
      (survey.context.state.pastAll front).Refuses line.text error.fault ∧
      error = survey.errorAt line error.fault := by
  induction lines generalizing survey with
  | nil => cases stopped
  | cons line rest inductionHypothesis =>
      cases stepped : survey.step line with
      | error here =>
          have same : here = error := by
            rw [run, List.foldlM_cons, stepped] at stopped
            exact Except.error.inj stopped
          obtain ⟨refused, errorEq⟩ := refuses_of_step stepped
          exact ⟨[], line, rest, rfl, ParseState.admits_nil _, same ▸ refused, same ▸ errorEq⟩
      | ok next =>
          rw [run, List.foldlM_cons, stepped] at stopped
          obtain ⟨front, other, back, rfl, admitted, refused, errorEq⟩ :=
            inductionHypothesis stopped
          rw [state_step stepped] at admitted refused
          refine ⟨line :: front, other, back, rfl,
            ParseState.admits_cons_iff.2 ⟨not_refuses_of_step stepped, admitted⟩, refused, ?_⟩
          rw [errorEq, errorAt, modName_step stepped]
          rfl

/-! ### Descriptions that stay open -/

/-- After a line that leaves a survey in a description, the description has gone on, or the line
has begun it. -/
theorem descriptionLine_step {line : ScriptLine} (stepped : survey.step line = .ok next)
    (isOpen : next.context.state = .inDescription) :
    (survey.context.state = .inDescription ∧ closesDescription line.text = false ∧
      next.context.descriptionLine = survey.context.descriptionLine) ∨
    (survey.context.state ≠ .inDescription ∧ opensDescription line.text = true ∧
      next.context.descriptionLine = some line.number) := by
  obtain ⟨classified, read, advanced⟩ := step_eq_ok_iff.1 stepped
  by_cases inside : survey.context.state = .inDescription
  · refine .inl ⟨inside, ?_⟩
    rw [classify_inDescription (inDescription_iff.2 inside)] at read
    obtain rfl := Except.ok.inj read
    obtain rfl := Except.ok.inj advanced
    rw [closesDescription]
    cases closes : hasOpenQuote (beforeComment (Text.trim line.text)) with
    | true =>
        rw [closes] at isOpen
        cases isOpen
    | false => exact ⟨rfl, rfl⟩
  · have outside : survey.context.inDescription = false := by
      rwa [← Bool.not_eq_true, inDescription_iff]
    have begins : opensDescription line.text = true := by
      rw [state_step stepped, ParseState.past_eq_inDescription_iff] at isOpen
      exact (isOpen.resolve_left fun goesOn => inside goesOn.1).2
    refine .inr ⟨inside, begins, ?_⟩
    rw [(opensDescription_iff_of_classify outside read).1 begins] at advanced
    obtain ⟨-, rfl⟩ := advance_descriptionStart_eq_ok_iff.1 advanced
    rfl

end Survey

/-- The line begins a description that none of the lines after it closes. -/
def BeginsOpenDescription (state : ParseState) (lines : List ScriptLine) (line : ScriptLine) :
    Prop :=
  ∃ front back, lines = front ++ line :: back ∧ state.pastAll front ≠ .inDescription ∧
    opensDescription line.text = true ∧
    ∀ other ∈ back, closesDescription other.text = false

/-- Where a survey ends in a description, the line that began it is known. -/
theorem Survey.descriptionLine_run {survey last : Survey} {lines : List ScriptLine}
    (outside : survey.context.state ≠ .inDescription) (ran : survey.run lines = .ok last)
    (isOpen : last.context.state = .inDescription) :
    ∃ line, BeginsOpenDescription survey.context.state lines line ∧
      last.context.descriptionLine = some line.number := by
  refine (invariant_of_foldlM (fun done _ (reached : Survey) =>
    reached.context.state = survey.context.state.pastAll done ∧
    (reached.context.state = .inDescription → ∃ line,
      BeginsOpenDescription survey.context.state done line ∧
        reached.context.descriptionLine = some line.number)) ?_
    ⟨rfl, fun inside => absurd inside outside⟩ ran).2 isOpen
  rintro done line _ before after ⟨stateEq, known⟩ stepped
  refine ⟨?_, fun stillOpen => ?_⟩
  · rw [state_step stepped, stateEq, ParseState.pastAll_append]
    rfl
  obtain ⟨inside, goesOn, sameLine⟩ | ⟨notInside, begins, lineEq⟩ :=
    descriptionLine_step stepped stillOpen
  · obtain ⟨first, ⟨front, back, rfl, notInside, begins, unclosed⟩, isFirst⟩ := known inside
    refine ⟨first, ⟨front, back ++ [line], by simp, notInside, begins, ?_⟩,
      sameLine.trans isFirst⟩
    intro other member
    rcases List.mem_append.1 member with inBack | isLine
    · exact unclosed other inBack
    · obtain rfl := List.mem_singleton.1 isLine
      exact goesOn
  · exact ⟨line, ⟨done, [], rfl, stateEq ▸ notInside, begins, by simp⟩, lineEq⟩

/-! ### Scripts -/

theorem number_of_scriptLines_eq {script : List Char} {front back : List ScriptLine}
    {line : ScriptLine} (split : scriptLines script = front ++ line :: back) :
    line.number = front.length + 1 := by
  have found : (scriptLines script)[front.length]? = some line := by
    rw [split]
    simp
  rw [scriptLines, List.getElem?_mapIdx] at found
  obtain ⟨raw, -, rfl⟩ := Option.map_eq_some_iff.1 found
  rfl

/-- The line is the first of a script that is refused where it stands, and what for. -/
def IsFirstRefused (script : List Char) (line : ScriptLine) (fault : ScriptFault) : Prop :=
  ∃ front back, scriptLines script = front ++ line :: back ∧ ParseState.idle.Admits front ∧
    (ParseState.idle.pastAll front).Refuses line.text fault

/-- An error that names a line of the script of a mod. -/
structure ModParseError.IsAt (error : ModParseError) (modName : String) (script : List Char)
    (line : ScriptLine) : Prop where
  modName : error.modName = modName
  isLine : line ∈ scriptLines script
  lineNumber : error.lineNumber = line.number
  line : error.line = line.raw

section

variable {modName : String} {script : List Char}

/-- A survey that stops in a script stops at the first line that is refused. -/
theorem isFirstRefused_of_run {error : ModParseError}
    (stopped : Survey.run { definition := { modName } } (scriptLines script) = .error error) :
    ∃ line, error.IsAt modName script line ∧ IsFirstRefused script line error.fault := by
  obtain ⟨front, line, back, split, admitted, refused, errorEq⟩ :=
    Survey.first_refused_of_run stopped
  have isLine : line ∈ scriptLines script := by
    rw [split]
    exact List.mem_append_right _ List.mem_cons_self
  refine ⟨line, ⟨?_, isLine, ?_, ?_⟩, front, back, split, admitted, refused⟩
  all_goals
    rw [errorEq]
    rfl

/-- A script that ends in a description is refused for the line that began it. -/
theorem exists_error_of_run {last : Survey}
    (ran : Survey.run { definition := { modName } } (scriptLines script) = .ok last)
    (isOpen : last.context.state = .inDescription) :
    ∃ error line, ModDefinition.parse modName script = .error error ∧
      error.IsAt modName script line ∧ error.fault = .descriptionNeverClosed ∧
      BeginsOpenDescription .idle (scriptLines script) line := by
  obtain ⟨line, begins, lineEq⟩ := Survey.descriptionLine_run (by simp) ran isOpen
  have isKnown : last.context.openDescriptionLine? = some line.number := by
    rw [ParseContext.openDescriptionLine?, inDescription_iff.2 isOpen, if_pos rfl, lineEq]
  obtain ⟨front, back, split, outside, opens, unclosed⟩ := begins
  have found : (scriptLines script)[line.number - 1]? = some line := by
    rw [number_of_scriptLines_eq split, split]
    simp
  refine ⟨⟨modName, line.number, line.raw, .descriptionNeverClosed⟩, line, ?_,
    ⟨rfl, List.mem_of_getElem? found, rfl, rfl⟩, rfl, front, back, split, outside, opens, unclosed⟩
  simp only [ModDefinition.parse, ran, bind, Except.bind, isKnown, found]
  rfl

/-- A script is refused exactly for a line that is refused where it stands, or for a description
that is still open at its end. The error is about the mod and names the first line that is
refused, or else the line that began the description. Up to there the survey is in the state that
the spelling of the lines tells, and it has a spell block at hand exactly in the state for that. -/
theorem parse_eq_error_exactly (modName : String) (script : List Char) :
    ((∃ error, ModDefinition.parse modName script = .error error) ↔
      (∃ front line back fault, scriptLines script = front ++ line :: back ∧
        (ParseState.idle.pastAll front).Refuses line.text fault) ∨
      ParseState.idle.pastAll (scriptLines script) = .inDescription) ∧
    (∀ error, ModDefinition.parse modName script = .error error →
      ∃ line, error.IsAt modName script line ∧
        (IsFirstRefused script line error.fault ∨
          ParseState.idle.Admits (scriptLines script) ∧
            BeginsOpenDescription .idle (scriptLines script) line ∧
            error.fault = .descriptionNeverClosed)) ∧
    (∀ front reached, front <+: scriptLines script →
      Survey.run { definition := { modName } } front = .ok reached →
      reached.context.state = ParseState.idle.pastAll front ∧
        (reached.context.state = .inSpellBlock ↔ reached.context.spell.isSome)) := by
  have reliable : ∀ front reached, front <+: scriptLines script →
      Survey.run { definition := { modName } } front = .ok reached →
      reached.context.state = ParseState.idle.pastAll front ∧
        (reached.context.state = .inSpellBlock ↔ reached.context.spell.isSome) := by
    intro front reached _ ran
    exact ⟨(Survey.state_run ran).2,
      (Survey.consistent_run ParseContext.consistent_initial ran).spell_iff⟩
  cases ran : Survey.run { definition := { modName } } (scriptLines script) with
  | error error =>
      have refused : ModDefinition.parse modName script = .error error := by
        simp only [ModDefinition.parse, ran, bind, Except.bind]
      obtain ⟨line, isAt, isFirst⟩ := isFirstRefused_of_run ran
      refine ⟨⟨fun _ => .inl ?_, fun _ => ⟨error, refused⟩⟩, fun other same => ?_, reliable⟩
      · obtain ⟨front, back, split, -, refuses⟩ := isFirst
        exact ⟨front, line, back, _, split, refuses⟩
      · obtain rfl := Except.error.inj (refused.symm.trans same)
        exact ⟨line, isAt, .inl isFirst⟩
  | ok last =>
      obtain ⟨admitted, stateEq⟩ := Survey.state_run ran
      by_cases isOpen : last.context.state = .inDescription
      · obtain ⟨error, line, refused, isAt, fault, begins⟩ := exists_error_of_run ran isOpen
        refine ⟨⟨fun _ => .inr (stateEq ▸ isOpen), fun _ => ⟨error, refused⟩⟩,
          fun other same => ?_, reliable⟩
        obtain rfl := Except.error.inj (refused.symm.trans same)
        exact ⟨line, isAt, .inr ⟨admitted, begins, fault⟩⟩
      · have accepted : ModDefinition.parse modName script = .ok last.finish := by
          have nothingOpen : last.context.openDescriptionLine? = none := by
            rw [ParseContext.openDescriptionLine?, if_neg (by rwa [inDescription_iff])]
          simp only [ModDefinition.parse, ran, bind, Except.bind, nothingOpen]
        refine ⟨⟨?_, ?_⟩, fun error same => ?_, reliable⟩
        · rintro ⟨error, refused⟩
          cases accepted.symm.trans refused
        · rintro (⟨front, line, back, fault, split, refuses⟩ | atEnd)
          · exact absurd refuses (admitted front line back split fault)
          · exact absurd (stateEq.trans atEnd) isOpen
        · cases accepted.symm.trans same

end

end ModMerge
