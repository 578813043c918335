import Mathlib.Data.List.DropRight
import ModMerge.Text.Blank

/-!
# Trimming

A text is its leading blanks, its trimmed text, and further blanks. Trimming therefore only
depends on what stands between the outer blanks, which is how a line can be rewritten
without a reader noticing the difference.
-/

namespace ModMerge.Text

variable {text core before after : List Char}

/-- All characters are blank. -/
def AllBlank (text : List Char) : Prop :=
  ∀ character ∈ text, isBlank character = true

/-- Neither the first nor the last character is blank. -/
structure IsTrimmed (text : List Char) : Prop where
  head : ∀ character ∈ text.head?, isBlank character = false
  last : ∀ character ∈ text.getLast?, isBlank character = false

theorem isBlankText_iff : isBlankText text = true ↔ AllBlank text :=
  List.all_eq_true

theorem allBlank_leadingBlanks (text : List Char) : AllBlank (leadingBlanks text) :=
  fun _ => List.mem_takeWhile_imp

theorem trimRight_eq_rdropWhile (text : List Char) : trimRight text = text.rdropWhile isBlank :=
  rfl

/-- What trimming on the right removes is blank. -/
theorem exists_eq_trimRight_append (text : List Char) :
    ∃ tail, AllBlank tail ∧ text = trimRight text ++ tail := by
  refine ⟨text.rtakeWhile isBlank, fun character => List.mem_rtakeWhile_imp, ?_⟩
  exact (List.rdropWhile_append_rtakeWhile ..).symm

theorem trimLeft_append (blanks : AllBlank before) : trimLeft (before ++ text) = trimLeft text :=
  List.dropWhile_append_of_pos blanks

theorem trimRight_append (blanks : AllBlank after) :
    trimRight (text ++ after) = trimRight text := by
  rw [trimRight, List.reverse_append,
    List.dropWhile_append_of_pos
      fun character member => blanks character (List.mem_reverse.1 member)]
  rfl

theorem trimLeft_eq_self (head : ∀ character ∈ text.head?, isBlank character = false) :
    trimLeft text = text := by
  cases text with
  | nil => rfl
  | cons first rest => simp [trimLeft, head first rfl]

theorem trimRight_eq_self (last : ∀ character ∈ text.getLast?, isBlank character = false) :
    trimRight text = text := by
  rw [trimRight_eq_rdropWhile, List.rdropWhile_eq_self_iff]
  intro notEmpty blank
  have notBlank := last _ (List.getLast?_eq_some_getLast notEmpty)
  rw [notBlank] at blank
  cases blank

theorem head_trimLeft (text : List Char) :
    ∀ character ∈ (trimLeft text).head?, isBlank character = false := by
  intro character isHead
  have notBlank := List.head?_dropWhile_not isBlank text
  rw [← trimLeft, Option.mem_def.1 isHead] at notBlank
  simpa using notBlank

theorem last_trimRight (text : List Char) :
    ∀ character ∈ (trimRight text).getLast?, isBlank character = false := by
  intro character isLast
  apply head_trimLeft text.reverse
  rw [trimRight, List.getLast?_reverse] at isLast
  exact isLast

/-- A text whose last character is not blank keeps its beginning when it is trimmed. -/
theorem trim_eq_of_isTrimmed (trimmed : IsTrimmed text) : trim text = text := by
  rw [trim, trimLeft_eq_self trimmed.head, trimRight_eq_self trimmed.last]

theorem isTrimmed_trim (text : List Char) : IsTrimmed (trim text) where
  head := by
    intro character isHead
    apply head_trimLeft text
    obtain ⟨tail, -, split⟩ := exists_eq_trimRight_append (trimLeft text)
    rw [split, List.head?_append]
    rw [trim] at isHead
    rw [Option.mem_def.1 isHead]
    rfl
  last := last_trimRight _

/-- Outer blanks do not matter. -/
theorem trim_append_append (blanksBefore : AllBlank before) (trimmed : IsTrimmed core)
    (blanksAfter : AllBlank after) : trim (before ++ core ++ after) = core := by
  rw [List.append_assoc, trim, trimLeft_append blanksBefore]
  cases core with
  | nil =>
      have nothing : trimLeft after = [] := by
        rw [trimLeft, List.dropWhile_eq_nil_iff]
        exact blanksAfter
      rw [List.nil_append, nothing]
      rfl
  | cons first rest =>
      have kept : trimLeft (first :: rest ++ after) = first :: rest ++ after :=
        trimLeft_eq_self fun character isHead => trimmed.head character isHead
      rw [kept, trimRight_append blanksAfter, trimRight_eq_self trimmed.last]

/-- Blanks before a text do not matter. -/
theorem trim_append_of_isTrimmed (blanksBefore : AllBlank before) (trimmed : IsTrimmed core) :
    trim (before ++ core) = core := by
  have same := trim_append_append blanksBefore trimmed
    (fun _ member => absurd member List.not_mem_nil)
  rwa [List.append_nil] at same

/-- What stands behind a character that is not blank is trimmed only at its end. -/
theorem trim_append_cons {front rest : List Char} {mark : Char} (blanks : AllBlank before)
    (head : ∀ character ∈ (front ++ [mark]).head?, isBlank character = false)
    (notBlank : isBlank mark = false) :
    trim (before ++ (front ++ mark :: rest)) = front ++ mark :: trimRight rest := by
  obtain ⟨after, areBlank, restEq⟩ := exists_eq_trimRight_append rest
  have trimmed : IsTrimmed (front ++ mark :: trimRight rest) := by
    refine ⟨fun character isHead => head character ?_, fun character isLast => ?_⟩
    · rw [List.head?_append] at isHead ⊢
      exact isHead
    · rw [List.getLast?_append_of_ne_nil _ (List.cons_ne_nil _ _)] at isLast
      cases kept : trimRight rest with
      | nil =>
          rw [kept] at isLast
          obtain rfl := Option.some.inj isLast
          exact notBlank
      | cons first others =>
          rw [kept, List.getLast?_cons_cons, ← kept] at isLast
          exact last_trimRight rest character isLast
  have whole : before ++ (front ++ mark :: rest) =
      before ++ (front ++ mark :: trimRight rest) ++ after := by
    conv_lhs => rw [restEq]
    simp
  rw [whole, trim_append_append blanks trimmed areBlank]

/-- A text is its leading blanks, its trimmed text, and further blanks. -/
theorem exists_eq_leadingBlanks_append_trim (text : List Char) :
    ∃ tail, AllBlank tail ∧ text = leadingBlanks text ++ trim text ++ tail := by
  obtain ⟨tail, blanks, split⟩ := exists_eq_trimRight_append (trimLeft text)
  refine ⟨tail, blanks, ?_⟩
  rw [trim, List.append_assoc, ← split, leadingBlanks_append_trimLeft]

/-- Without blanks at its end a text is its leading blanks and its trimmed text. -/
theorem leadingBlanks_append_trim
    (last : ∀ character ∈ text.getLast?, isBlank character = false) :
    leadingBlanks text ++ trim text = text := by
  have kept : trimRight (trimLeft text) = trimLeft text := by
    refine trimRight_eq_self fun character isLast => last character ?_
    have whole : leadingBlanks text ++ trimLeft text = text := leadingBlanks_append_trimLeft text
    have notEmpty : trimLeft text ≠ [] := by
      rintro empty
      rw [empty] at isLast
      cases isLast
    rw [← whole, List.getLast?_append_of_ne_nil _ notEmpty]
    exact isLast
  rw [trim, kept, leadingBlanks_append_trimLeft]

theorem AllBlank.append (first : AllBlank before) (second : AllBlank after) :
    AllBlank (before ++ after) := by
  intro character member
  exact (List.mem_append.1 member).elim (first character) (second character)

theorem trim_trimRight (text : List Char) : trim (trimRight text) = trim text := by
  obtain ⟨removed, removedBlank, whole⟩ := exists_eq_trimRight_append text
  obtain ⟨tail, tailBlank, split⟩ := exists_eq_leadingBlanks_append_trim (trimRight text)
  have same := trim_append_append (allBlank_leadingBlanks (trimRight text))
    (isTrimmed_trim (trimRight text)) (tailBlank.append removedBlank)
  rw [← List.append_assoc, ← split, ← whole] at same
  exact same.symm

theorem trim_eq_nil_iff : trim text = [] ↔ isBlankText text = true := by
  rw [isBlankText_iff]
  constructor
  · intro nothing
    obtain ⟨tail, blanks, split⟩ := exists_eq_leadingBlanks_append_trim text
    rw [split, nothing, List.append_nil]
    exact (allBlank_leadingBlanks text).append blanks
  · intro blanks
    have trimmed : IsTrimmed [] := ⟨by simp, by simp⟩
    have whole := trim_append_append blanks trimmed (fun _ member => absurd member List.not_mem_nil)
    simpa using whole

theorem mem_of_mem_trim {character : Char} (member : character ∈ trim text) :
    character ∈ text := by
  obtain ⟨tail, -, split⟩ := exists_eq_leadingBlanks_append_trim text
  rw [split]
  exact List.mem_append_left _ (List.mem_append_right _ member)

theorem mem_of_mem_trimRight {character : Char} (member : character ∈ trimRight text) :
    character ∈ text := by
  obtain ⟨tail, -, split⟩ := exists_eq_trimRight_append text
  rw [split]
  exact List.mem_append_left _ member

end ModMerge.Text
