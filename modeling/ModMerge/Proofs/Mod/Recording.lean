import ModMerge.Mod.Survey
import ModMerge.Proofs.Allocation.Names
import ModMerge.Proofs.Allocation.Steps
import ModMerge.Proofs.Fold
import ModMerge.Proofs.Text.LowerCasing
import ModMerge.Proofs.Text.Numerals

/-!
# What reading a mod keeps

Whatever line it passes, reading a mod changes the definition only by recording something in
it. A property of definitions that recording keeps (`KeptByRecording`) is therefore one of
everything that has been read: base-game ids are never defined, nor are negative ones, names are
held under their keys, and what has been recorded stays.
-/

namespace ModMerge

/-- A step that succeeds passes its line with the meaning that the line has. -/
theorem Survey.step_eq_ok_iff {survey next : Survey} {line : ScriptLine} :
    survey.step line = .ok next ↔ ∃ classified, classify survey.context line.text = .ok classified ∧
      survey.advance line.number classified.meaning = .ok next := by
  rw [Survey.step]
  cases read : classify survey.context line.text with
  | error error => simp
  | ok classified =>
      cases advanced : survey.advance line.number classified.meaning <;> simp [advanced]

namespace Survey

variable {survey next last : Survey}

/-- A survey gets past a line that begins a description exactly if it is at rest. -/
theorem advance_descriptionStart_eq_ok_iff {lineNumber : Nat} :
    survey.advance lineNumber (.descriptionStart true) = .ok next ↔
      survey.context.state = .idle ∧ next = { survey with context :=
        { survey.context with state := .inDescription, descriptionLine := some lineNumber } } := by
  simp only [advance, ParseContext.enterDescription]
  by_cases idle : survey.context.state = .idle
  · simp [idle, bind, Except.bind, pure, Except.pure, eq_comm]
  · simp [idle, bind, Except.bind]

/-- A run takes its first line by a step. -/
theorem run_cons_eq_ok {line : ScriptLine} {rest : List ScriptLine} :
    survey.run (line :: rest) = .ok last ↔
      ∃ next, survey.step line = .ok next ∧ next.run rest = .ok last := by
  rw [run, List.foldlM_cons, bind_eq_ok]
  rfl

/-- A run can be taken in two parts. -/
theorem run_append_eq_ok {front back : List ScriptLine} :
    survey.run (front ++ back) = .ok last ↔
      ∃ middle, survey.run front = .ok middle ∧ middle.run back = .ok last := by
  rw [run, List.foldlM_append, bind_eq_ok]
  rfl

end Survey

/-! ### Ids that are recorded -/

/-- A negative number names content by its absolute value, or none. -/
theorem id_nonneg_of_resolve {ref : DirectiveRef} {number : Int} {content : EntityId}
    (resolved : ref.resolve number = some content) : 0 ≤ content.id := by
  rw [DirectiveRef.resolve] at resolved
  split at resolved
  · next negative =>
      obtain ⟨type, -, rfl⟩ := Option.map_eq_some_iff.1 resolved
      exact Int.le_of_lt (Int.neg_pos_of_neg negative)
  · next notNegative =>
      split at resolved
      · obtain rfl := Option.some.inj resolved
        exact Int.not_lt.1 notNegative
      · cases resolved

/-- A damage value of zero names no content. -/
theorem id_pos_of_interpretDamage {effect : Option Int} {damage : Int} {knownSummon : Bool}
    {content : EntityId} (interpreted : interpretDamage effect damage knownSummon = some content) :
    0 < content.id := by
  simp only [interpretDamage] at interpreted
  cases effect <;> grind

/-- The number names its content by its magnitude. -/
def EntityId.IsNamedBy (content : EntityId) (number : Int) : Prop :=
  number = if number < 0 then -content.id else content.id

theorem isNamedBy_of_resolve {ref : DirectiveRef} {number : Int} {content : EntityId}
    (found : ref.resolve number = some content) : content.IsNamedBy number := by
  rw [DirectiveRef.resolve] at found
  rw [EntityId.IsNamedBy]
  split at found
  · next negative =>
      obtain ⟨type, -, rfl⟩ := Option.map_eq_some_iff.1 found
      rw [if_pos negative, Int.neg_neg]
  · next notNegative =>
      split at found
      · obtain rfl := Option.some.inj found
        rw [if_neg notNegative]
      · cases found

theorem isNamedBy_of_interpretDamage {effect : Option Int} {damage : Int} {knownSummon : Bool}
    {content : EntityId} (found : interpretDamage effect damage knownSummon = some content) :
    content.IsNamedBy damage := by
  rw [EntityId.IsNamedBy]
  have general : ∀ summons enchants : Bool,
      (if summons then
        if 0 < damage then some (⟨.monster, damage⟩ : EntityId)
        else if damage < 0 then some ⟨.montag, -damage⟩
        else none
      else if enchants && 0 < damage then some ⟨.enchantment, damage⟩
      else none) = some content →
      damage = if damage < 0 then -content.id else content.id := by
    intro summons enchants found
    split at found
    · split at found
      · next positive =>
          obtain rfl := Option.some.inj found
          rw [if_neg (by omega)]
      split at found
      · next negative =>
          obtain rfl := Option.some.inj found
          rw [if_pos negative, Int.neg_neg]
      · cases found
    · split at found
      · next isEnchantment =>
          obtain rfl := Option.some.inj found
          rw [Bool.and_eq_true, decide_eq_true_eq] at isEnchantment
          rw [if_neg (by omega)]
      · cases found
  exact general _ _ found

/-- The id of content has as many digits as the number that names it. -/
theorem EntityId.IsNamedBy.short {content : EntityId} {number : Int}
    (isNamed : content.IsNamedBy number) (short : Text.Short number) : Text.Short content.id := by
  rw [EntityId.IsNamedBy] at isNamed
  rw [Text.Short] at short ⊢
  split at isNamed <;> omega

/-- The property survives everything that reading a mod records; no id that is recorded is
negative. -/
structure KeptByRecording (holds : ModDefinition → Prop) : Prop where
  displayName : ∀ definition name, holds definition →
    holds { definition with displayName := some name }
  warning : ∀ definition warning, holds definition → holds (definition.recordWarning warning)
  id : ∀ definition content, 0 ≤ content.id → holds definition →
    holds (definition.recordId content)
  reference : ∀ definition type name, holds definition →
    holds (definition.recordReference type name)
  implicit : ∀ definition type, holds definition → holds (definition.recordImplicit type)
  name : ∀ definition name binding, holds definition → holds (definition.recordName name binding)

namespace KeptByRecording

variable {holds : ModDefinition → Prop} {definition : ModDefinition} {survey next : Survey}

theorem argument (kept : KeptByRecording holds) (ref : DirectiveRef) (argument : Argument)
    (holdsNow : holds definition) : holds (definition.recordArgument ref argument) := by
  cases argument with
  | number number =>
      simp only [ModDefinition.recordArgument]
      split
      · next content resolved => exact kept.id _ _ (id_nonneg_of_resolve resolved) holdsNow
      · exact holdsNow
  | name name => exact kept.reference _ _ _ holdsNow
  | absent =>
      simp only [ModDefinition.recordArgument]
      split
      · exact kept.implicit _ _ holdsNow
      · exact holdsNow

theorem damage (kept : KeptByRecording holds) (spell : SpellBlock) (holdsNow : holds definition) :
    holds (definition.recordDamage spell) := by
  rw [ModDefinition.recordDamage]
  split
  · next content isTarget =>
      obtain ⟨damage, -, interpreted⟩ := Option.bind_eq_some_iff.1 isTarget
      exact kept.id _ _ (Int.le_of_lt (id_pos_of_interpretDamage interpreted)) holdsNow
  · exact holdsNow

theorem closeBlock (kept : KeptByRecording holds) (holdsNow : holds survey.definition) :
    holds survey.closeBlock.definition := by
  simp only [Survey.closeBlock]
  split
  · split
    · exact holdsNow
    · exact kept.damage _ holdsNow
  · exact holdsNow

theorem openBlock (kept : KeptByRecording holds) {lineNumber : Nat} {ref : DirectiveRef}
    {argument : Argument} (holdsNow : holds survey.definition)
    (opened : survey.openBlock lineNumber ref argument = .ok next) : holds next.definition := by
  obtain ⟨context, -, finished⟩ := bind_eq_ok.1 opened
  obtain rfl := Except.ok.inj finished
  simp only
  split
  · exact kept.warning _ _ (kept.argument ref argument holdsNow)
  · exact kept.argument ref argument holdsNow

theorem readSpellLine (kept : KeptByRecording holds) (directive : SpellDirective)
    (argument : Argument) (holdsNow : holds survey.definition) :
    holds (survey.readSpellLine directive argument).definition := by
  rw [Survey.readSpellLine]
  split
  · exact holdsNow
  · simp only
    split
    · exact kept.damage _ holdsNow
    · exact holdsNow

theorem advance (kept : KeptByRecording holds) {lineNumber : Nat} {meaning : LineMeaning}
    (holdsNow : holds survey.definition)
    (advanced : survey.advance lineNumber meaning = .ok next) : holds next.definition := by
  cases meaning with
  | descriptionText closes =>
      obtain rfl := Except.ok.inj advanced
      split <;> exact holdsNow
  | modName given =>
      cases given with
      | none => obtain rfl := Except.ok.inj advanced; exact holdsNow
      | some name =>
          obtain rfl := Except.ok.inj advanced
          exact kept.displayName _ _ holdsNow
  | descriptionStart staysOpen =>
      cases staysOpen with
      | false => obtain rfl := Except.ok.inj advanced; exact holdsNow
      | true =>
          obtain ⟨-, rfl⟩ := Survey.advance_descriptionStart_eq_ok_iff.1 advanced
          exact holdsNow
  | blockStart word ref argument => exact kept.openBlock holdsNow advanced
  | blockEnd =>
      obtain rfl := Except.ok.inj advanced
      exact kept.closeBlock holdsNow
  | spellContent directive ref argument =>
      obtain rfl := Except.ok.inj advanced
      exact kept.readSpellLine directive argument holdsNow
  | name given =>
      cases given with
      | none => obtain rfl := Except.ok.inj advanced; exact holdsNow
      | some name =>
          simp only [Survey.advance] at advanced
          split at advanced
          · split at advanced
            · obtain rfl := Except.ok.inj advanced
              exact holdsNow
            · obtain rfl := Except.ok.inj advanced
              exact kept.name _ _ _ holdsNow
          · obtain rfl := Except.ok.inj advanced
            exact holdsNow
  | entity word ref argument =>
      obtain rfl := Except.ok.inj advanced
      split
      · exact kept.argument ref argument holdsNow
      · exact holdsNow
  | blank | comment | otherMetadata word | text word =>
      obtain rfl := Except.ok.inj advanced
      exact holdsNow

theorem step (kept : KeptByRecording holds) {line : ScriptLine} (holdsNow : holds survey.definition)
    (stepped : survey.step line = .ok next) : holds next.definition := by
  obtain ⟨classified, -, advanced⟩ := Survey.step_eq_ok_iff.1 stepped
  exact kept.advance holdsNow advanced

theorem run (kept : KeptByRecording holds) {lines : List ScriptLine}
    (holdsNow : holds survey.definition) (finished : survey.run lines = .ok next) :
    holds next.definition :=
  invariant_of_foldlM (fun _ _ survey => holds survey.definition)
    (fun _ _ _ _ _ holdsBefore stepped => kept.step holdsBefore stepped) holdsNow finished

theorem finish (kept : KeptByRecording holds) (holdsNow : holds survey.definition) :
    holds survey.finish := by
  rw [Survey.finish]
  split
  · exact kept.closeBlock (kept.warning _ _ holdsNow)
  · exact holdsNow

theorem parse (kept : KeptByRecording holds) {modName : String} {script : List Char}
    (initially : holds { modName }) (read : ModDefinition.parse modName script = .ok definition) :
    holds definition := by
  obtain ⟨survey, finished, read⟩ := bind_eq_ok.1 read
  split at read
  · cases read
  · obtain rfl := Except.ok.inj read
    exact kept.finish (kept.run initially finished)

end KeptByRecording

namespace ModDefinition

variable {definition : ModDefinition} {content : EntityId} {type other : EntityType} {id : Int}

/-! ### What recording changes -/

theorem mem_defined_recordId :
    id ∈ ((definition.recordId content).entities.get type).defined ↔
      ((defaultRange type).isVanilla id = false ∧ content = ⟨type, id⟩) ∨
      id ∈ (definition.entities.get type).defined := by
  obtain ⟨contentType, contentId⟩ := content
  simp only [recordId, EntityId.mk.injEq]
  split
  · next vanilla =>
      simp only [recordVanilla, EntityTable.modify, EntityTable.get_set]
      split
      · next same => subst same; grind
      · next different => simp [different]
  · next notVanilla =>
      simp only [recordDefined, EntityTable.modify, EntityTable.get_set]
      split
      · next same => subst same; rw [IdSet.mem_insert]; grind
      · next different => simp [different]

theorem mem_vanillaEdited_recordId :
    id ∈ ((definition.recordId content).entities.get type).vanillaEdited ↔
      ((defaultRange type).isVanilla id = true ∧ content = ⟨type, id⟩) ∨
      id ∈ (definition.entities.get type).vanillaEdited := by
  obtain ⟨contentType, contentId⟩ := content
  simp only [recordId, EntityId.mk.injEq]
  split
  · next vanilla =>
      simp only [recordVanilla, EntityTable.modify, EntityTable.get_set]
      split
      · next same => subst same; rw [IdSet.mem_insert]; grind
      · next different => simp [different]
  · next notVanilla =>
      simp only [recordDefined, EntityTable.modify, EntityTable.get_set]
      split
      · next same => subst same; grind
      · next different => simp [different]

@[simp]
theorem nextImplicitIndex_recordId :
    (definition.recordId content).nextImplicitIndex type = definition.nextImplicitIndex type := by
  simp only [recordId, recordVanilla, recordDefined, nextImplicitIndex]
  split
  all_goals
    simp only [EntityTable.modify, EntityTable.get_set]
    split
    · next same => subst same; rfl
    · rfl

theorem nextImplicitIndex_recordImplicit :
    (definition.recordImplicit other).nextImplicitIndex type =
      if other = type then definition.nextImplicitIndex type + 1
      else definition.nextImplicitIndex type := by
  simp only [recordImplicit, nextImplicitIndex, EntityTable.modify, EntityTable.get_set]
  split
  · next same => subst same; rfl
  · rfl

@[simp]
theorem defined_recordImplicit :
    ((definition.recordImplicit other).entities.get type).defined =
      (definition.entities.get type).defined := by
  simp only [recordImplicit, EntityTable.modify, EntityTable.get_set]
  split
  · next same => subst same; rfl
  · rfl

@[simp]
theorem vanillaEdited_recordImplicit :
    ((definition.recordImplicit other).entities.get type).vanillaEdited =
      (definition.entities.get type).vanillaEdited := by
  simp only [recordImplicit, EntityTable.modify, EntityTable.get_set]
  split
  · next same => subst same; rfl
  · rfl

@[simp]
theorem names_recordId : (definition.recordId content).names = definition.names := by
  rw [recordId]
  split <;> rfl

@[simp]
theorem references_recordId :
    (definition.recordId content).references = definition.references := by
  rw [recordId]
  split <;> rfl

theorem displayName_recordId :
    (definition.recordId content).displayName = definition.displayName := by
  rw [recordId]
  split <;> rfl

theorem warnings_recordId : (definition.recordId content).warnings = definition.warnings := by
  rw [recordId]
  split <;> rfl

@[simp]
theorem names_recordArgument (ref : DirectiveRef) (argument : Argument) :
    (definition.recordArgument ref argument).names = definition.names := by
  cases argument with
  | number number =>
      simp only [recordArgument]
      split
      · exact names_recordId
      · rfl
  | name name => rfl
  | absent =>
      simp only [recordArgument]
      split <;> rfl

/-- Only a line that creates content without an id adds to their number. -/
theorem nextImplicitIndex_recordArgument (definition : ModDefinition) {ref : DirectiveRef}
    {argument : Argument} (kept : argument = .absent → ref.rule.role ≠ .new) (type : EntityType) :
    (definition.recordArgument ref argument).nextImplicitIndex type =
      definition.nextImplicitIndex type := by
  cases argument with
  | number number =>
      simp only [recordArgument]
      split
      · exact nextImplicitIndex_recordId
      · rfl
  | name name => rfl
  | absent => simp only [recordArgument, if_neg (kept rfl)]

@[simp]
theorem names_recordDamage (spell : SpellBlock) :
    (definition.recordDamage spell).names = definition.names := by
  rw [recordDamage]
  split
  · exact names_recordId
  · rfl

@[simp]
theorem nextImplicitIndex_recordDamage (spell : SpellBlock) :
    (definition.recordDamage spell).nextImplicitIndex type = definition.nextImplicitIndex type := by
  rw [recordDamage]
  split
  · exact nextImplicitIndex_recordId
  · rfl

/-! ### What is kept -/

/-- The definition stays the one of its mod. -/
theorem keptByRecording_modName (modName : String) :
    KeptByRecording fun definition => definition.modName = modName where
  displayName _ _ same := same
  warning _ _ same := same
  id definition content _ same := by
    rw [recordId]
    split <;> exact same
  reference _ _ _ same := same
  implicit _ _ same := same
  name _ _ _ same := same

/-- What holds of every id that can be recorded as a mod's own holds of all ids that it defines. -/
theorem keptByRecording_defined {holds : EntityType → Int → Prop}
    (own : ∀ type id, 0 ≤ id → (defaultRange type).isVanilla id = false → holds type id) :
    KeptByRecording fun definition =>
      ∀ type, ∀ id ∈ (definition.entities.get type).defined, holds type id where
  displayName _ _ all := all
  warning _ _ all := all
  reference _ _ _ all := all
  name _ _ _ all := all
  implicit definition other all type id member := by
    rw [defined_recordImplicit] at member
    exact all type id member
  id definition content notNegative all type id member := by
    rcases mem_defined_recordId.1 member with ⟨notVanilla, rfl⟩ | defined
    · exact own type id notNegative notVanilla
    · exact all type id defined

/-- Base-game ids are edited, never defined. -/
def NoVanillaDefined (definition : ModDefinition) : Prop :=
  ∀ type, ∀ id ∈ (definition.entities.get type).defined, (defaultRange type).isVanilla id = false

theorem keptByRecording_noVanillaDefined : KeptByRecording NoVanillaDefined :=
  keptByRecording_defined fun _ _ _ notVanilla => notVanilla

/-- Nothing but base-game ids is edited. -/
def OnlyVanillaEdited (definition : ModDefinition) : Prop :=
  ∀ type, ∀ id ∈ (definition.entities.get type).vanillaEdited,
    (defaultRange type).isVanilla id = true

theorem keptByRecording_onlyVanillaEdited : KeptByRecording OnlyVanillaEdited where
  displayName _ _ only := only
  warning _ _ only := only
  reference _ _ _ only := only
  name _ _ _ only := only
  implicit definition other only type id member := by
    rw [vanillaEdited_recordImplicit] at member
    exact only type id member
  id definition content _ only type id member := by
    rcases mem_vanillaEdited_recordId.1 member with ⟨vanilla, -⟩ | edited
    · exact vanilla
    · exact only type id edited

theorem keptByRecording_namesKeyed : KeptByRecording NamesKeyed where
  displayName _ _ keyed := keyed
  warning _ _ keyed := keyed
  reference _ _ _ keyed := keyed
  implicit _ _ keyed := keyed
  id definition content _ keyed := by
    rw [NamesKeyed, names_recordId]
    exact keyed
  name definition name binding keyed type key member := by
    simp only [recordName, EntityTable.modify, EntityTable.get_set] at member
    split at member
    · next same =>
        subst same
        rcases Std.TreeMap.mem_insert.1 member with same | known
        · rw [← Std.LawfulEqCmp.compare_eq_iff_eq.1 same]
          exact nameKey_nameKey name
        · exact keyed _ key known
    · exact keyed type key member

/-- No id is negative. -/
def NoNegativeDefined (definition : ModDefinition) : Prop :=
  ∀ type, ∀ id ∈ (definition.entities.get type).defined, 0 ≤ id

theorem keptByRecording_noNegativeDefined : KeptByRecording NoNegativeDefined :=
  keptByRecording_defined fun _ _ notNegative _ => notNegative

/-- The number of definitions without an id does not fall below what it was. -/
theorem keptByRecording_nextImplicitIndex (type : EntityType) (least : Nat) :
    KeptByRecording fun definition => least ≤ definition.nextImplicitIndex type where
  displayName _ _ bound := bound
  warning _ _ bound := bound
  reference _ _ _ bound := bound
  name _ _ _ bound := bound
  id definition content _ bound := by
    rw [nextImplicitIndex_recordId]
    exact bound
  implicit definition other bound := by
    rw [nextImplicitIndex_recordImplicit]
    split
    · exact Nat.le_succ_of_le bound
    · exact bound

end ModDefinition

theorem Survey.nextImplicitIndex_le_of_run {survey last : Survey} {lines : List ScriptLine}
    (ran : survey.run lines = .ok last) (type : EntityType) :
    survey.definition.nextImplicitIndex type ≤ last.definition.nextImplicitIndex type :=
  (ModDefinition.keptByRecording_nextImplicitIndex type _).run (Nat.le_refl _) ran

end ModMerge
