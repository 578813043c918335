import ModMerge.Proofs.Mod.LockstepLines
import ModMerge.Proofs.Mod.SurveyedLines

/-!
# What a line does to the open block

Whether a line can be passed depends on the lines before it only in so far as a spell block is
open or not, and whether one is open afterwards depends on nothing else. Lines about the mod
itself and lines that open blocks are what they are in every block (`IsSettled`).
-/

namespace ModMerge

namespace LineMeaning

/-- Whether a line opens a block. -/
def opensBlock : LineMeaning → Bool
  | .blockStart .. => true
  | _ => false

/-- Whether a spell block is open after a line; `inSpell` says whether one was open before. -/
def leavesInSpell (inSpell : Bool) : LineMeaning → Bool
  | .blockStart _ ref _ => ref.type == .spell
  | .blockEnd => false
  | _ => inSpell

/-- Only lines that open blocks create content without an id. -/
theorem createsUnnumbered_eq_false {meaning : LineMeaning} (opensNone : meaning.opensBlock = false)
    (type : EntityType) : meaning.createsUnnumbered type = false := by
  cases meaning <;> first | rfl | cases opensNone

end LineMeaning

namespace Survey

variable {survey next : Survey} {lineNumber : Nat} {meaning : LineMeaning}

theorem isSome_spell_advance
    (sameBlock : survey.context.inSpellBlock = survey.context.spell.isSome)
    (advanced : survey.advance lineNumber meaning = .ok next) :
    next.context.spell.isSome = meaning.leavesInSpell survey.context.spell.isSome := by
  cases meaning with
  | blockStart word ref argument =>
      have outside := survey.outside_of_openBlock advanced
      obtain ⟨opened, isOpened, spell, -⟩ := survey.exists_openBlock lineNumber ref argument outside
      obtain rfl := Except.ok.inj (isOpened.symm.trans advanced)
      rw [ne_eq, ← inSpellBlock_iff, sameBlock, Option.not_isSome_iff_eq_none] at outside
      rw [spell, LineMeaning.leavesInSpell, outside]
      by_cases isSpell : ref.type = .spell <;> simp [isSpell]
  | blockEnd => obtain rfl := Except.ok.inj advanced; rfl
  | spellContent directive ref argument =>
      obtain rfl := Except.ok.inj advanced
      change _ = survey.context.spell.isSome
      rw [readSpellLine]
      cases inSpell : survey.context.spell with
      | none => simp only [inSpell]
      | some spell =>
          simp only
          split <;> rfl
  | _ =>
      rw [(context_advance rfl advanced).2]
      rfl

theorem outside_of_opensBlock (advanced : survey.advance lineNumber meaning = .ok next)
    (opens : meaning.opensBlock = true) : survey.context.state ≠ .inSpellBlock := by
  cases meaning <;> first | exact survey.outside_of_openBlock advanced | cases opens

/-- Only the beginnings of descriptions and of blocks are ever refused. -/
theorem exists_advance (survey : Survey) (noDescription : meaning ≠ .descriptionStart true)
    (outside : meaning.opensBlock = true → survey.context.state ≠ .inSpellBlock)
    (lineNumber : Nat) : ∃ next, survey.advance lineNumber meaning = .ok next := by
  cases meaning with
  | descriptionStart staysOpen =>
      cases staysOpen with
      | false => exact ⟨_, rfl⟩
      | true => exact absurd rfl noDescription
  | blockStart word ref argument =>
      obtain ⟨next, opened, -⟩ := survey.exists_openBlock lineNumber ref argument (outside rfl)
      exact ⟨next, opened⟩
  | name given =>
      cases given with
      | none => exact ⟨_, rfl⟩
      | some name => exact ⟨_, survey.advance_name lineNumber name⟩
  | modName given => cases given <;> exact ⟨_, rfl⟩
  | _ => exact ⟨_, rfl⟩

end Survey

/-! ### Lines that are read alike in every block -/

/-- Blocks make no difference to lines about the mod itself and to lines that open blocks. -/
theorem directiveMeaning_eq_or (context other : ParseContext) (directive : DirectiveLine)
    (argument : Argument) :
    directiveMeaning other directive argument = directiveMeaning context directive argument ∨
      (directiveMeaning other directive argument).isMetadata = false ∧
        (directiveMeaning other directive argument).opensBlock = false := by
  simp only [directiveMeaning]
  split
  · exact .inl rfl
  split
  · exact .inl rfl
  split
  · exact .inl rfl
  split
  · exact .inl rfl
  split
  · exact .inl rfl
  split
  · exact .inr ⟨rfl, rfl⟩
  split
  · exact .inr ⟨rfl, rfl⟩
  split <;> exact .inr ⟨rfl, rfl⟩

/-- Outside of descriptions the line is never read as a line about the mod itself, nor as one that
creates content without an id. -/
def IsSettled (line : Line) : Prop :=
  ∀ context classified, context.inDescription = false → classify context line = .ok classified →
    classified.meaning.isMetadata = false ∧
      ∀ type, classified.meaning.createsUnnumbered type = false

/-- What can be told from one reading holds of all. -/
theorem isSettled_of_classify {context : ParseContext} {line : Line} {classified : ClassifiedLine}
    (outside : context.inDescription = false) (read : classify context line = .ok classified)
    (notMetadata : classified.meaning.isMetadata = false)
    (numbered : ∀ type, classified.meaning.createsUnnumbered type = false) : IsSettled line := by
  intro other otherClassified otherOutside otherRead
  rw [classify_eq line outside] at read
  rw [classify_eq line otherOutside] at otherRead
  by_cases isBlank : (Text.trim line).isEmpty = true
  · rw [if_pos isBlank] at read otherRead
    obtain rfl := Except.ok.inj (read.symm.trans otherRead)
    exact ⟨notMetadata, numbered⟩
  rw [if_neg isBlank] at read otherRead
  by_cases isComment : ((Text.trim line).take 2 == ['-', '-']) = true
  · rw [if_pos isComment] at read otherRead
    obtain rfl := Except.ok.inj (read.symm.trans otherRead)
    exact ⟨notMetadata, numbered⟩
  rw [if_neg isComment] at read otherRead
  cases found : directiveLine? (Text.trim line) with
  | none =>
      rw [found] at read otherRead
      obtain rfl := Except.ok.inj (read.symm.trans otherRead)
      exact ⟨notMetadata, numbered⟩
  | some directive =>
      rw [found] at read otherRead
      obtain ⟨argument, hasArgument, rfl⟩ := map_eq_ok.1 read
      obtain ⟨otherArgument, otherHasArgument, rfl⟩ := map_eq_ok.1 otherRead
      obtain rfl := Except.ok.inj (hasArgument.symm.trans otherHasArgument)
      rcases directiveMeaning_eq_or context other directive argument with same | ⟨plain, opensNone⟩
      · simp only [same]
        exact ⟨notMetadata, numbered⟩
      · exact ⟨plain, LineMeaning.createsUnnumbered_eq_false opensNone⟩

end ModMerge
