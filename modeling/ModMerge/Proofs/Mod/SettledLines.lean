import ModMerge.Proofs.Mod.BlockSteps
import ModMerge.Proofs.Mod.LineEdits

/-!
# Lines that renumbering would leave as they are

Whatever is written for a line can be read again. It is about content, which it gives a number
or a name if it creates it, and it opens and ends the blocks that the line opens and ends.
-/

namespace ModMerge

/-! ### Comments -/

theorem last_decimalText (number : Int) :
    ∀ character ∈ (Text.decimalText number).getLast?, Text.isBlank character = false :=
  fun _ isLast => NumberSlot.not_isBlank_of_mem_decimalText (List.mem_of_getLast? isLast)

/-- What ends in something that does not end in a blank does not end in one. -/
theorem last_append {front back : Line} (ne_nil : back ≠ [])
    (last : ∀ character ∈ back.getLast?, Text.isBlank character = false) :
    ∀ character ∈ (front ++ back).getLast?, Text.isBlank character = false := by
  rw [List.getLast?_append_of_ne_nil _ ne_nil]
  exact last

theorem toList_remapText (type : EntityType) (old new : Int) :
    ∃ front, (remapText type old new).toList = front ++ Text.decimalText new := by
  refine ⟨("Remapped " ++ type.label ++ " " ++ Text.decimalString old ++ " -> ").toList, ?_⟩
  rw [remapText, String.toList_append, Text.decimalString, Text.decimalString, String.toList_ofList]

/-- A comment ends in a number or in a word. -/
theorem LineChange.exists_toList_comment (change : LineChange) : ∃ front back,
    change.comment.toList = front ++ back ∧ back ≠ [] ∧
      ∀ character ∈ back.getLast?, Text.isBlank character = false := by
  cases change with
  | remapped type old new =>
      obtain ⟨front, text⟩ := toList_remapText type old new
      exact ⟨front, _, text, Text.decimalText_ne_nil new, last_decimalText new⟩
  | assigned type new =>
      have last : " definition".toList.getLast? = some 'n' := by decide
      refine ⟨_, " definition".toList, String.toList_append, by decide, fun character isLast => ?_⟩
      rw [last] at isLast
      obtain rfl := Option.some.inj isLast
      decide
  | converted word selectWord new =>
      refine ⟨_, _, String.toList_append, ?_⟩
      rw [Text.decimalString, String.toList_ofList]
      exact ⟨Text.decimalText_ne_nil new, last_decimalText new⟩
  | damage type old new =>
      obtain ⟨front, text⟩ := toList_remapText type old new
      refine ⟨((if type = .enchantment then "Enchantment" else "Summoning") ++ " => ").toList ++
        front, _, ?_, Text.decimalText_ne_nil new, last_decimalText new⟩
      rw [List.append_assoc, ← text, ← String.toList_append]
      rfl

/-! ### Lines that stand for others -/

/-- A line of the second meaning opens and ends the blocks that one of the first does, and it is
about content that has an id. -/
structure LineMeaning.StandsFor (meaning other : LineMeaning) : Prop where
  opensBlock_eq : other.opensBlock = meaning.opensBlock
  leavesInSpell_eq : ∀ inSpell, other.leavesInSpell inSpell = meaning.leavesInSpell inSpell
  notMetadata : other.isMetadata = false
  numbered : ∀ type, other.createsUnnumbered type = false

theorem standsFor_number (form : LineForm) (argument : Argument) (number : Int) :
    (form.meaning argument).StandsFor (form.meaning (.number number)) := by
  cases form <;> exact ⟨rfl, fun _ => rfl, rfl, fun _ => rfl⟩

/-- A line that can be read again, and left as it is. -/
structure OutputLine.Settled (written : OutputLine) : Prop where
  readable : written.Readable True
  last : ∀ line ∈ written.render, ∀ character ∈ line.getLast?, Text.isBlank character = false
  isSettled : ∀ line ∈ written.render, IsSettled line

theorem isSettled_of_reads {inSpellBlock : Bool} {line : Line} {meaning other : LineMeaning}
    (reads : Reads inSpellBlock line other) (standsFor : meaning.StandsFor other) :
    IsSettled line := by
  obtain ⟨context, outside, same⟩ := ParseContext.exists_outside inSpellBlock
  obtain ⟨classified, read, alike⟩ := reads context outside same
  have kept : classified.meaning.isMetadata = false ∧
      ∀ type, classified.meaning.createsUnnumbered type = false := by
    have notMetadata := standsFor.notMetadata
    have numbered := standsFor.numbered
    generalize classified.meaning = read at alike
    cases alike with
    | refl => exact ⟨notMetadata, numbered⟩
    | spellContent | usage => exact ⟨rfl, fun _ => rfl⟩
  exact isSettled_of_classify outside read kept.1 kept.2

theorem OutputLine.last_commentLine {written : OutputLine} (change : LineChange) :
    ∀ character ∈ (Text.leadingBlanks written.line ++
      (commentMark ++ " " ++ change.comment).toList).getLast?, Text.isBlank character = false := by
  obtain ⟨front, back, comment, ne_nil, last⟩ := change.exists_toList_comment
  rw [String.toList_append, comment, ← List.append_assoc, ← List.append_assoc]
  exact last_append ne_nil last

theorem isSettled_comment {indent : Line} (blank : Text.AllBlank indent) (comment : String) :
    IsSettled (indent ++ (commentMark ++ " " ++ comment).toList) := by
  obtain ⟨rest, isComment⟩ := toList_commentMark comment
  rw [isComment]
  exact isSettled_of_reads (reads_comment false blank)
    (⟨rfl, fun _ => rfl, rfl, fun _ => rfl⟩ : LineMeaning.comment.StandsFor .comment)

theorem OutputLine.settled_of_reads {written : OutputLine} (readable : written.Readable True)
    (last : ∀ character ∈ written.line.getLast?, Text.isBlank character = false)
    {inSpellBlock : Bool} {meaning other : LineMeaning}
    (reads : Reads inSpellBlock written.line other) (standsFor : meaning.StandsFor other) :
    written.Settled := by
  have isSettled := isSettled_of_reads reads standsFor
  refine ⟨readable, fun line member => ?_, fun line member => ?_⟩
  all_goals
    rw [render] at member
    split at member
  · next change _ =>
      rcases List.mem_pair.1 member with rfl | rfl
      · exact last_commentLine change
      · exact last
  · exact List.mem_singleton.1 member ▸ last
  · next change _ =>
      rcases List.mem_pair.1 member with rfl | rfl
      · exact isSettled_comment (Text.allBlank_leadingBlanks written.line) change.comment
      · exact isSettled
  · exact List.mem_singleton.1 member ▸ isSettled

/-- The numbers that are put into the line are not too long to be written, and so not to be read. -/
def OutputLine.ShortNumbers (written : OutputLine) : Prop :=
  ∀ number ∈ written.numbers, Text.Short number

/-- What is drafted for a line stands for it. -/
theorem IsDraft.exists_reads {mapping : ModMapping} {surveyed : SurveyedLine}
    {written : OutputLine} (isDraft : IsDraft mapping surveyed written)
    (isRead : surveyed.IsRead) (plain : Plain surveyed.line) (unmarked : Unmarked surveyed.line)
    (notMetadata : surveyed.meaning.isMetadata = false)
    (provided : ∀ type, surveyed.meaning.createsUnnumbered type = true →
      (mapping.implicitId? type
        (surveyed.before.definition.nextImplicitIndex type)).isSome)
    (short : written.ShortNumbers) :
    ∃ other, Reads surveyed.before.context.inSpellBlock written.line other ∧
      surveyed.meaning.StandsFor other ∧ written.Settled := by
  obtain ⟨survey, line, meaning⟩ := surveyed
  have readLine : ReadLine True survey.context line meaning :=
    ⟨isRead.outside fun _ same => (by cases same; cases notMetadata), isRead.read, plain,
      fun _ => unmarked⟩
  have last := (isDraft.lineEdit isRead).last isRead
  cases isDraft with
  | same noneAssigned =>
      have standsFor : meaning.StandsFor meaning := by
        refine ⟨rfl, fun _ => rfl, notMetadata, fun type => ?_⟩
        rw [← Bool.not_eq_true]
        intro creates
        have isSome := provided type creates
        obtain ⟨word, ref, isStart, isNew, rfl⟩ := LineMeaning.createsUnnumbered_iff.1 creates
        rw [noneAssigned word ref isStart isNew] at isSome
        cases isSome
      exact ⟨meaning, readLine.reads, standsFor,
        OutputLine.settled_of_reads readLine.readable last readLine.reads standsFor⟩
  | moved form number new change isForm different plainWords tells =>
      obtain rfl : meaning = _ := isForm
      obtain ⟨content, -, -, magnitude, numbers⟩ := tells
      have isShort : Text.Short new := by
        rw [Text.Short, magnitude]
        refine short _ ?_
        rw [OutputLine.numbers, Option.elim_some, numbers]
        exact List.mem_cons_of_mem _ List.mem_cons_self
      obtain ⟨readable, reads⟩ := readLine.replaced isShort change plainWords rfl
      have standsFor := standsFor_number form (.number number) new
      exact ⟨_, reads, standsFor, OutputLine.settled_of_reads readable last reads standsFor⟩
  | assigned word ref id isStart isNew isAssigned =>
      obtain rfl : meaning = _ := isStart
      have isShort : Text.Short id := by
        refine short id ?_
        rw [ModMapping.numbers_assignedLine]
        exact List.mem_singleton_self id
      obtain ⟨inTable, opens, isWord⟩ : (LineForm.blockStart word ref).FromTable :=
        readLine.fromTable
      have plainWord := (spelling_of_opensBlock ref inTable opens word isWord).2.2.2
      have standsFor : ∀ newWord {newRef : DirectiveRef}, newRef.type = ref.type →
          (LineMeaning.blockStart word ref .absent).StandsFor
            (.blockStart newWord newRef (.number id)) := fun newWord newRef sameType =>
        ⟨rfl, fun _ => by rw [LineMeaning.leavesInSpell, LineMeaning.leavesInSpell, sameType], rfl,
          fun _ => rfl⟩
      rw [ModMapping.assignedLine] at last ⊢
      cases select : ref.rule.implicitSelect with
      | none =>
          simp only [select] at last
          obtain ⟨readable, reads⟩ :=
            readLine.identified inTable opens isWord isShort (.assigned ref.type id) trivial
          exact ⟨_, reads, standsFor word rfl,
            OutputLine.settled_of_reads readable last reads (standsFor word rfl)⟩
      | some selectWord =>
          simp only [select] at last
          obtain ⟨newRef, newInTable, sameType, -, newOpens, newIsWord⟩ :=
            exists_select_of_implicitSelect ref inTable selectWord select
          have plainSelect :=
            (spelling_of_opensBlock newRef newInTable newOpens selectWord newIsWord).2.2.2
          obtain ⟨readable, reads⟩ := readLine.identified newInTable newOpens newIsWord isShort
            (.converted word selectWord id) ⟨plainWord, plainSelect⟩
          exact ⟨_, reads, standsFor selectWord sameType,
            OutputLine.settled_of_reads readable last reads (standsFor selectWord sameType)⟩

end ModMerge
