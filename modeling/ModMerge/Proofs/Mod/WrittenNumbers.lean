import ModMerge.Proofs.Mod.RenumberingSteps
import ModMerge.Proofs.Text.Numerals

/-!
# The numbers that renumbering writes

Renumbering a mod ends at the first line for which a number of too many digits would have to be
written. A number that has been put into a line stays there: no line is changed twice, since the
damage line that waits has not been changed yet (`Grows`). So to look at the numbers of each line
as it is passed comes to the same as to write all lines and to look at all their numbers in the
end (`run_of_passAll`, `renumber_of_passAll`).
-/

namespace ModMerge

/-! ### Results that may be refused -/

/-- A result for which these numbers are written, unless one of them has too many digits. -/
def whenWritable {Result : Type} (numbers : List Int) (result : Result) :
    Except RenumberError Result := do
  (Text.requireWritable numbers).mapError .numeral
  return result

section

variable {Result : Type} {numbers others : List Int} {result : Result}

theorem whenWritable_of_short (short : ∀ number ∈ numbers, Text.Short number) :
    whenWritable numbers result = .ok result :=
  bind_of_eq_ok (mapError_eq_ok.2 (Text.requireWritable_eq_ok_iff.2 short))

theorem whenWritable_of_long {number : Int} (member : number ∈ numbers)
    (long : ¬ Text.Short number) :
    whenWritable numbers result = .error (.numeral .tooLong) :=
  bind_of_eq_error (by rw [Text.requireWritable_of_long member long]; rfl)

/-- There is a result, or a number that has too many digits. -/
theorem whenWritable_cases (numbers : List Int) (result : Result) :
    ((∀ number ∈ numbers, Text.Short number) ∧ whenWritable numbers result = .ok result) ∨
      (∃ number ∈ numbers, ¬ Text.Short number) ∧
        whenWritable numbers result = .error (.numeral .tooLong) := by
  by_cases short : ∀ number ∈ numbers, Text.Short number
  · exact .inl ⟨short, whenWritable_of_short short⟩
  · simp only [not_forall, exists_prop] at short
    obtain ⟨number, member, long⟩ := short
    exact .inr ⟨⟨number, member, long⟩, whenWritable_of_long member long⟩

theorem whenWritable_eq_ok_iff {other : Result} : whenWritable numbers result = .ok other ↔
    (∀ number ∈ numbers, Text.Short number) ∧ result = other := by
  rcases whenWritable_cases numbers result with ⟨short, written⟩ | ⟨⟨number, member, long⟩, refused⟩
  · rw [written, Except.ok.injEq, and_iff_right short]
  · rw [refused]
    exact iff_of_false nofun fun short => long (short.1 number member)

end

namespace Renumbering

variable {renumbering before middle after : Renumbering}

/-- The numbers that have been put into lines. -/
def numbers (renumbering : Renumbering) : List Int :=
  renumbering.output.toList.flatMap OutputLine.numbers

/-- The damage line that waits has been written and has not been changed. -/
def WaitsUnchanged (renumbering : Renumbering) : Prop :=
  ∀ position ∈ renumbering.pendingDamage, ∃ waiting,
    renumbering.output.toList[position]? = some waiting ∧ waiting.change = none

theorem waitsUnchanged_of_none (nothing : renumbering.pendingDamage = none) :
    renumbering.WaitsUnchanged := by
  intro position pending
  cases nothing.symm.trans pending

theorem mem_numbers {number : Int} : number ∈ renumbering.numbers ↔
    ∃ (index : Nat) (written : OutputLine), renumbering.output.toList[index]? = some written ∧
      number ∈ written.numbers := by
  rw [numbers, List.mem_flatMap]
  constructor
  · rintro ⟨written, member, isNumber⟩
    obtain ⟨index, here⟩ := List.mem_iff_getElem?.1 member
    exact ⟨index, written, here, isNumber⟩
  · rintro ⟨index, written, here, isNumber⟩
    exact ⟨written, List.mem_of_getElem? here, isNumber⟩

theorem mem_touchedSince {written : OutputLine} : written ∈ after.touchedSince before ↔
    ∃ index : Nat, after.output.toList[index]? = some written ∧
      (before.pendingDamage = some index ∨ before.output.size ≤ index) := by
  have isNew : (after.output.extract before.output.size after.output.size).toList =
      after.output.toList.drop before.output.size := by
    rw [Array.toList_extract, List.extract_eq_take_drop, List.take_of_length_le (by simp)]
  rw [touchedSince, isNew, List.mem_append, Option.mem_toList, Option.bind_eq_some_iff]
  constructor
  · rintro (⟨index, waits, here⟩ | member)
    · exact ⟨index, by rwa [Array.getElem?_toList], .inl waits⟩
    · obtain ⟨index, here⟩ := List.mem_iff_getElem?.1 member
      rw [List.getElem?_drop] at here
      exact ⟨_, here, .inr (Nat.le_add_right ..)⟩
  · rintro ⟨index, here, waits | isNew⟩
    · exact .inl ⟨index, waits, by rwa [← Array.getElem?_toList]⟩
    · refine .inr (List.mem_of_getElem? (i := index - before.output.size) ?_)
      rwa [List.getElem?_drop, Nat.add_sub_cancel' isNew]

/-! ### Lines stay as they have been written -/

/-- What becomes of the lines that have been written while others are passed: they stay, all but
the damage line that waits. -/
structure Grows (before after : Renumbering) : Prop where
  kept : ∀ (index : Nat) written, before.output.toList[index]? = some written →
    before.pendingDamage ≠ some index → after.output.toList[index]? = some written
  waits : after.WaitsUnchanged

namespace Grows

/-- The numbers that are written are those that were and those of the lines that were touched. -/
theorem mem_numbers_iff (grows : Grows before after) (unchanged : before.WaitsUnchanged)
    {number : Int} : number ∈ after.numbers ↔
      number ∈ before.numbers ∨
        number ∈ (after.touchedSince before).flatMap OutputLine.numbers := by
  rw [mem_numbers, mem_numbers, List.mem_flatMap]
  constructor
  · rintro ⟨index, written, here, isNumber⟩
    by_cases waits : before.pendingDamage = some index
    · exact .inr ⟨written, mem_touchedSince.2 ⟨index, here, .inl waits⟩, isNumber⟩
    by_cases isNew : before.output.size ≤ index
    · exact .inr ⟨written, mem_touchedSince.2 ⟨index, here, .inr isNew⟩, isNumber⟩
    · rw [not_le, ← Array.length_toList] at isNew
      have was := List.getElem?_eq_getElem isNew
      obtain rfl := Option.some.inj ((grows.kept index _ was waits).symm.trans here)
      exact .inl ⟨index, _, was, isNumber⟩
  · rintro (⟨index, written, was, isNumber⟩ | ⟨written, touched, isNumber⟩)
    · refine ⟨index, written, grows.kept index written was fun waits => ?_, isNumber⟩
      -- The line that waits has no change, and so no number has been put into it.
      obtain ⟨waiting, here, noChange⟩ := unchanged index waits
      obtain rfl := Option.some.inj (here.symm.trans was)
      rw [OutputLine.numbers, noChange] at isNumber
      cases isNumber
    · obtain ⟨index, here, -⟩ := mem_touchedSince.1 touched
      exact ⟨index, written, here, isNumber⟩

theorem refl (unchanged : renumbering.WaitsUnchanged) : Grows renumbering renumbering :=
  ⟨fun _ _ here _ => here, unchanged⟩

theorem trans (first : Grows before middle) (second : Grows middle after)
    (waits : ∀ position ∈ middle.pendingDamage, before.pendingDamage = some position) :
    Grows before after where
  kept index written here stays :=
    second.kept index written (first.kept index written here stays) fun pending =>
      stays (waits index pending)
  waits := second.waits

/-- Lines are added, and nothing else waits than before. -/
theorem of_append (unchanged : before.WaitsUnchanged) {added : List OutputLine}
    (output : after.output.toList = before.output.toList ++ added)
    (waits : ∀ position ∈ after.pendingDamage, before.pendingDamage = some position) :
    Grows before after := by
  have kept : ∀ (index : Nat) written, before.output.toList[index]? = some written →
      after.output.toList[index]? = some written := by
    intro index written here
    obtain ⟨bound, -⟩ := List.getElem?_eq_some_iff.1 here
    rw [output, List.getElem?_append_left bound, here]
  refine ⟨fun index written here _ => kept index written here, fun position pending => ?_⟩
  obtain ⟨waiting, here, noChange⟩ := unchanged position (waits position pending)
  exact ⟨waiting, kept position waiting here, noChange⟩

/-- Another context does not matter. -/
theorem of_same (unchanged : before.WaitsUnchanged) (output : after.output = before.output)
    (waits : ∀ position ∈ after.pendingDamage, before.pendingDamage = some position) :
    Grows before after :=
  of_append unchanged (by rw [output, List.append_nil]) waits

/-- A line is added. -/
theorem of_push (unchanged : before.WaitsUnchanged) {written : OutputLine}
    (output : after.output = before.output.push written)
    (pendingDamage : after.pendingDamage = before.pendingDamage) : Grows before after :=
  of_append unchanged (by rw [output, Array.toList_push])
    fun _ pending => pendingDamage.symm.trans pending

end Grows

/-! ### Each way of writing -/

@[simp]
theorem pendingDamage_emit (line : Line) :
    (renumbering.emit line).pendingDamage = renumbering.pendingDamage := by
  rw [emit]
  split
  · split <;> rfl
  · split <;> rfl

@[simp]
theorem pendingDamage_resolvePending (spell : SpellBlock) (position : Nat) :
    (renumbering.resolvePending spell position).pendingDamage = none := by
  simp only [resolvePending]
  split <;> rfl

theorem pendingDamage_finishSpell : renumbering.finishSpell.pendingDamage = none := by
  rw [finishSpell]
  split
  · split
    · rfl
    · exact pendingDamage_resolvePending ..
  · rfl

/-- Whatever takes the place of the line that waits, the others stay. -/
theorem getElem?_written {index : Nat} {written : OutputLine}
    (here : renumbering.output.toList[index]? = some written)
    (stays : renumbering.pendingDamage ≠ some index) (change : Option RemappedArgument) :
    (renumbering.written change)[index]? = some written := by
  unfold Renumbering.written
  split
  · next waiting _ waits =>
      have other : waiting ≠ index := fun same => stays (by rw [waits, same])
      simpa [List.getElem?_modify, other] using here
  · exact here

theorem grows_written {change : Option RemappedArgument}
    (output : after.output.toList = renumbering.written change)
    (nothing : after.pendingDamage = none) : Grows renumbering after where
  kept _ _ here stays := output ▸ getElem?_written here stays change
  waits := waitsUnchanged_of_none nothing

/-- Only the line that waits is replaced. -/
theorem grows_resolvePending (spell : SpellBlock) {position : Nat}
    (pending : renumbering.pendingDamage = some position) :
    Grows renumbering (renumbering.resolvePending spell position) := by
  obtain ⟨output, resolved, outputEq⟩ := renumbering.resolvePending_eq pending spell
  rw [resolved]
  exact grows_written outputEq rfl

variable (unchanged : renumbering.WaitsUnchanged)

include unchanged

theorem grows_emit (line : Line) : Grows renumbering (renumbering.emit line) := by
  rw [emit]
  split
  · split
    · exact .refl unchanged
    · exact .of_push unchanged rfl rfl
  split
  · exact .refl unchanged
  · exact .of_push unchanged rfl rfl

theorem grows_emitEntity (line : Line) (ref : DirectiveRef) (number : Int) :
    Grows renumbering (renumbering.emitEntity line ref number) := by
  rw [emitEntity]
  split
  · exact .of_push unchanged rfl rfl
  · exact grows_emit unchanged line

theorem grows_emitDamage (line : Line) (spell : SpellBlock) :
    Grows renumbering (renumbering.emitDamage line spell) := by
  rw [emitDamage]
  split
  · exact .of_push unchanged rfl rfl
  · exact grows_emit unchanged line

theorem grows_finishSpell : Grows renumbering renumbering.finishSpell := by
  have dropped : Grows renumbering { renumbering with pendingDamage := none } :=
    .of_same unchanged rfl (by simp)
  rw [finishSpell]
  split
  · next pending =>
      split
      · exact dropped
      · exact grows_resolvePending _ pending
  · exact dropped

theorem grows_leaveSpell : Grows renumbering renumbering.leaveSpell := by
  rw [leaveSpell]
  split
  · exact grows_finishSpell unchanged
  · exact .refl unchanged

theorem grows_closeBlock (line : Line) : Grows renumbering (renumbering.closeBlock line) := by
  have left := grows_leaveSpell unchanged
  have waits : WaitsUnchanged { renumbering.leaveSpell with
      context := renumbering.leaveSpell.context.closeBlock } := left.waits
  have emitted := grows_emit waits line
  refine left.trans ⟨emitted.kept, emitted.waits⟩ fun position pending => ?_
  rw [leaveSpell] at pending
  split at pending
  · cases pendingDamage_finishSpell.symm.trans pending
  · exact pending

theorem grows_emitBlockStart {lineNumber : Nat} {line : Line} {word : String} {ref : DirectiveRef}
    {argument : Argument}
    (emitted : renumbering.emitBlockStart lineNumber line word ref argument = .ok after) :
    Grows renumbering after := by
  cases argument with
  | number number =>
      obtain rfl := Except.ok.inj emitted
      exact grows_emitEntity unchanged line ref number
  | name name =>
      obtain rfl := Except.ok.inj emitted
      exact grows_emit unchanged line
  | absent =>
      simp only [emitBlockStart] at emitted
      split at emitted
      · split at emitted
        · cases emitted
        · obtain rfl := Except.ok.inj emitted
          split <;> exact .of_push unchanged rfl rfl
      · obtain rfl := Except.ok.inj emitted
        exact grows_emit unchanged line

theorem grows_openBlock {lineNumber : Nat} {line : Line} {word : String} {ref : DirectiveRef}
    {argument : Argument}
    (opened : renumbering.openBlock lineNumber line word ref argument = .ok after) :
    Grows renumbering after := by
  obtain ⟨written, emitted, remaining⟩ := bind_eq_ok.1 opened
  obtain ⟨context, -, finished⟩ := bind_eq_ok.1 remaining
  obtain rfl := Except.ok.inj finished
  have grows := grows_emitBlockStart unchanged emitted
  exact ⟨grows.kept, grows.waits⟩

omit unchanged in
/-- What a spell block remembers does not bear on what has been written. -/
theorem Grows.of_noted {spell : Option SpellBlock}
    (grows : Grows { renumbering with context := { renumbering.context with spell } } after) :
    Grows renumbering after :=
  ⟨grows.kept, grows.waits⟩

theorem waitsUnchanged_noted (spell : Option SpellBlock) : ({ renumbering with
    context := { renumbering.context with spell } } : Renumbering).WaitsUnchanged :=
  unchanged

theorem grows_spellLine_of_isDamage (line : Line) {directive : SpellDirective}
    (ref : Option DirectiveRef) (argument : Argument) {spell : SpellBlock}
    (inSpell : renumbering.context.spell = some spell) (isDamage : directive.isDamage = true) :
    Grows renumbering (renumbering.spellLine line directive ref argument) := by
  cases argument with
  | name _ | absent =>
      rw [spellLine_of_noNumber inSpell isDamage rfl]
      exact .of_noted (grows_emit (waitsUnchanged_noted unchanged _) line)
  | number number =>
      cases ready : (spell.read directive (.number number)).ready with
      | true =>
          rw [spellLine_of_ready inSpell isDamage ready]
          exact .of_noted (grows_emitDamage (waitsUnchanged_noted unchanged _) line _)
      | false =>
          rw [spellLine_of_not_ready inSpell isDamage ready]
          refine ⟨fun index written here _ => ?_, fun position pending => ?_⟩
          · obtain ⟨bound, -⟩ := List.getElem?_eq_some_iff.1 here
            rw [Array.toList_push, List.getElem?_append_left bound, here]
          · obtain rfl := Option.some.inj pending
            exact ⟨{ line }, by simp, rfl⟩

theorem grows_spellLine (line : Line) (directive : SpellDirective) (ref : Option DirectiveRef)
    (argument : Argument) :
    Grows renumbering (renumbering.spellLine line directive ref argument) := by
  have waits := fun spell => waitsUnchanged_noted unchanged spell
  cases inSpell : renumbering.context.spell with
  | none =>
      simp only [spellLine, inSpell]
      exact grows_emit unchanged line
  | some before =>
      cases directive with
      | damage | damageMonster =>
          exact grows_spellLine_of_isDamage unchanged line ref argument inSpell rfl
      | effect =>
          have emitted := grows_emit (waits (some (before.read .effect argument))) line
          simp only [spellLine, inSpell]
          split
          · next position pending =>
              split
              · refine .of_noted (emitted.trans (grows_resolvePending _ pending) ?_)
                exact fun _ => (pendingDamage_emit line ▸ ·)
              · exact .of_noted emitted
          · exact .of_noted emitted
      | copySpell =>
          simp only [spellLine, inSpell]
          split
          · exact .of_noted (grows_emitEntity (waits _) line _ _)
          · exact .of_noted (grows_emit (waits _) line)

/-- Whatever a line means, those written before it stay. -/
theorem grows_advance {lineNumber : Nat} {line : Line} {meaning : LineMeaning}
    (advanced : renumbering.advance lineNumber line meaning = .ok after) :
    Grows renumbering after := by
  have kept : ∀ context : ParseContext, Grows renumbering { renumbering with context } :=
    fun context => .of_same unchanged rfl fun _ pending => pending
  cases meaning with
  | descriptionText closes =>
      obtain rfl := Except.ok.inj advanced
      split
      · exact kept _
      · exact .refl unchanged
  | descriptionStart staysOpen =>
      cases staysOpen with
      | false =>
          obtain rfl := Except.ok.inj advanced
          exact .refl unchanged
      | true =>
          obtain ⟨context, -, finished⟩ := bind_eq_ok.1 advanced
          obtain rfl := Except.ok.inj finished
          exact kept context
  | modName _ | otherMetadata _ =>
      obtain rfl := Except.ok.inj advanced
      exact .refl unchanged
  | blockStart word ref argument => exact grows_openBlock unchanged advanced
  | blockEnd =>
      obtain rfl := Except.ok.inj advanced
      exact grows_closeBlock unchanged line
  | spellContent directive ref argument =>
      obtain rfl := Except.ok.inj advanced
      exact grows_spellLine unchanged line directive ref argument
  | entity word ref argument =>
      cases argument with
      | number number =>
          obtain rfl := Except.ok.inj advanced
          exact grows_emitEntity unchanged line ref number
      | name _ | absent =>
          obtain rfl := Except.ok.inj advanced
          exact grows_emit unchanged line
  | blank | comment | name _ | text _ =>
      obtain rfl := Except.ok.inj advanced
      exact grows_emit unchanged line

theorem grows_pass {line : ScriptLine} (passed : renumbering.pass line = .ok after) :
    Grows renumbering after := by
  simp only [pass] at passed
  split at passed
  · cases passed
  · exact grows_advance unchanged passed

omit unchanged

/-! ### Whole scripts -/

/-- To look at the numbers of what has been touched is enough. -/
theorem Grows.requireWritten_eq (grows : Grows before after) (unchanged : before.WaitsUnchanged)
    (short : ∀ number ∈ before.numbers, Text.Short number) :
    after.requireWritten before = (Text.requireWritable after.numbers).mapError .numeral := by
  rw [requireWritten, Text.requireWritable_congr]
  simp only [grows.mem_numbers_iff unchanged, or_imp, forall_and, and_iff_right short]

/-- No number that has been written is lost again. -/
theorem Grows.numbers_subset (grows : Grows before after) (unchanged : before.WaitsUnchanged) :
    before.numbers ⊆ after.numbers :=
  fun _ member => (grows.mem_numbers_iff unchanged).2 (.inl member)

theorem numbers_subset_of_passAll {last : Renumbering} {lines : List ScriptLine}
    (unchanged : renumbering.WaitsUnchanged) (passed : renumbering.passAll lines = .ok last) :
    last.WaitsUnchanged ∧ renumbering.numbers ⊆ last.numbers := by
  refine invariant_of_foldlM
    (fun _ _ state => state.WaitsUnchanged ∧ renumbering.numbers ⊆ state.numbers)
    ?_ ⟨unchanged, fun _ member => member⟩ passed
  rintro - line - before after ⟨unchangedHere, included⟩ stepped
  have grows := grows_pass unchangedHere stepped
  exact ⟨grows.waits, List.Subset.trans included (grows.numbers_subset unchangedHere)⟩

/-- A walk that looks at the numbers of each line ends as one that does not, unless one of the
numbers that the other writes has too many digits. -/
theorem run_of_passAll {last : Renumbering} {lines : List ScriptLine}
    (unchanged : renumbering.WaitsUnchanged)
    (short : ∀ number ∈ renumbering.numbers, Text.Short number)
    (passed : renumbering.passAll lines = .ok last) :
    renumbering.run lines = whenWritable last.numbers last := by
  induction lines generalizing renumbering with
  | nil =>
      obtain rfl := Except.ok.inj passed
      exact (whenWritable_of_short short).symm
  | cons line rest inductionHypothesis =>
      obtain ⟨next, steppedTo, remaining⟩ := passAll_cons_eq_ok.1 passed
      have grows := grows_pass unchanged steppedTo
      have looked : renumbering.step line = whenWritable next.numbers next := by
        rw [step, bind_of_eq_ok steppedTo, grows.requireWritten_eq unchanged short]
        rfl
      rw [run, List.foldlM_cons, looked]
      rcases whenWritable_cases next.numbers next with
        ⟨shortNext, written⟩ | ⟨⟨number, member, long⟩, refused⟩
      · rw [bind_of_eq_ok written]
        exact inductionHypothesis grows.waits shortNext remaining
      · obtain ⟨-, included⟩ := numbers_subset_of_passAll grows.waits remaining
        rw [bind_of_eq_error refused, whenWritable_of_long (included member) long]

end Renumbering

/-- The numbers that are put into the lines of a mod's part of a merged file. -/
def RenumberedMod.numbers (renumbered : RenumberedMod) : List Int :=
  renumbered.output.flatMap OutputLine.numbers

section

variable {mapping : ModMapping} {modName : String} {script : List Char} {last : Renumbering}

/-- A mod is renumbered by writing all of its lines and looking at the numbers in the end. -/
theorem renumber_of_passAll
    (passed : ({ modName, mapping } : Renumbering).passAll (scriptLines script) = .ok last) :
    mapping.renumber modName script = whenWritable last.leaveSpell.numbers last.finish := by
  have unchanged : ({ modName, mapping } : Renumbering).WaitsUnchanged :=
    Renumbering.waitsUnchanged_of_none rfl
  obtain ⟨lastUnchanged, -⟩ := Renumbering.numbers_subset_of_passAll unchanged passed
  have grows := Renumbering.grows_leaveSpell lastUnchanged
  rw [ModMapping.renumber, Renumbering.run_of_passAll unchanged nofun passed]
  rcases whenWritable_cases last.numbers last with
    ⟨short, written⟩ | ⟨⟨number, member, long⟩, refused⟩
  · rw [bind_of_eq_ok written, grows.requireWritten_eq lastUnchanged short]
    rfl
  · rw [bind_of_eq_error refused,
      whenWritable_of_long (grows.numbers_subset lastUnchanged member) long]

end

end ModMerge
