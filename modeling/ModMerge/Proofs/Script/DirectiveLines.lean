import ModMerge.Mod.Renumbering
import ModMerge.Proofs.Text.Numerals
import ModMerge.Proofs.Text.Trimming

/-!
# Directive lines

A directive line is spelt as a mark, a word, and a rest that begins with no further word
character. Replacing its number, or writing an id behind its word, spells a directive line
again, and reading that finds the number that was written.
-/

namespace ModMerge

/-- A trimmed line is the mark, these word characters, and this rest. -/
structure Spelt (text wordChars rest : Line) : Prop where
  text_eq : text = '#' :: (wordChars ++ rest)
  ne_nil : wordChars ≠ []
  isWord : ∀ character ∈ wordChars, Text.isAsciiWordChar character = true
  ends : ∀ character ∈ rest.head?, Text.isAsciiWordChar character = false
  noLineFeed : '\n' ∉ rest

/-- What begins with no member of a class adds nothing to the longest prefix within the class. -/
theorem takeWhile_dropWhile_append_of_ends {isMember : Char → Bool} {rest : Line}
    (ends : ∀ character ∈ rest.head?, isMember character = false) (front : Line) :
    (front ++ rest).takeWhile isMember = front.takeWhile isMember ∧
      (front ++ rest).dropWhile isMember = front.dropWhile isMember ++ rest := by
  induction front with
  | nil =>
      cases rest with
      | nil => simp
      | cons character rest => simp [ends character rfl]
  | cons first others inductionHypothesis =>
      cases isFirst : isMember first <;> simp [isFirst, inductionHypothesis]

/-- Where a rest begins with no member of a class, the longest prefix within the class is what
stands before. -/
theorem takeWhile_dropWhile_append {isMember : Char → Bool} {front rest : Line}
    (members : ∀ character ∈ front, isMember character = true)
    (ends : ∀ character ∈ rest.head?, isMember character = false) :
    (front ++ rest).takeWhile isMember = front ∧ (front ++ rest).dropWhile isMember = rest := by
  have whole := takeWhile_dropWhile_append_of_ends ends front
  rwa [List.takeWhile_eq_self_iff.2 members, List.dropWhile_eq_nil_iff.2 members,
    List.nil_append] at whole

/-- A directive line is found exactly where one is spelt. -/
theorem directiveLine?_eq_some_iff {text : Line} {directive : DirectiveLine} :
    directiveLine? text = some directive ↔
      ∃ wordChars, Spelt text wordChars directive.rest ∧
        directive.word = String.ofList (wordChars.map Char.toLower) := by
  constructor
  · intro found
    cases text with
    | nil => cases found
    | cons mark body =>
        by_cases isMark : mark = '#'
        · subst isMark
          simp only [directiveLine?, Option.ite_none_left_eq_some, Option.some.injEq,
            Bool.or_eq_true, not_or] at found
          obtain ⟨⟨notEmpty, noLineFeed⟩, rfl⟩ := found
          refine ⟨body.takeWhile Text.isAsciiWordChar, ⟨?_, ?_, ?_, ?_, ?_⟩, rfl⟩
          · rw [List.takeWhile_append_dropWhile]
          · simpa using notEmpty
          · exact fun character => List.mem_takeWhile_imp
          · intro character isHead
            have notWord := List.head?_dropWhile_not Text.isAsciiWordChar body
            rw [Option.mem_def.1 isHead] at notWord
            simpa using notWord
          · simpa using noLineFeed
        · rw [directiveLine?] at found
          · cases found
          · exact fun body same => isMark (List.cons.inj same).1
  · rintro ⟨wordChars, spelt, wordEq⟩
    obtain ⟨taken, dropped⟩ := takeWhile_dropWhile_append spelt.isWord spelt.ends
    have notEmpty : wordChars.isEmpty = false := by simpa using spelt.ne_nil
    have noLineFeed : directive.rest.contains '\n' = false := by simpa using spelt.noLineFeed
    rw [spelt.text_eq]
    simp only [directiveLine?, taken, dropped, notEmpty, noLineFeed, Bool.or_self, ← wordEq]
    rfl

/-- Where an argument is a number, a numeral stands behind blanks. -/
theorem readArgument_eq_number_iff {rest : Line} {number : Int} :
    readArgument rest = .ok (.number number) ↔ (Text.leadingBlanks rest).isEmpty = false ∧
      ∃ numeral, Text.takeNumeral? (Text.trimLeft rest) = some numeral ∧
        numeral.value = .ok number := by
  rw [readArgument]
  constructor
  · intro found
    split at found
    · cases found
    · next notEmpty =>
        refine ⟨by simpa using notEmpty, ?_⟩
        split at found
        · next numeral isNumeral =>
            refine ⟨numeral, isNumeral, ?_⟩
            cases value : numeral.value with
            | error error => simp [value, Except.map] at found
            | ok other => simpa [value, Except.map] using found
        · split at found <;> cases found
  · rintro ⟨notEmpty, numeral, isNumeral, value⟩
    rw [notEmpty, isNumeral]
    simp [value, Except.map]

/-! ### Lines with a written number -/

/-- A directive line with a number. -/
def numberedLine (wordChars blanks : Line) (number : Int) (tail : Line) : Line :=
  '#' :: (wordChars ++ (blanks ++ (Text.decimalText number ++ tail)))

/-- Where a number can be written: its digits, the blanks before it and the tail after it do not
run into each other. -/
structure NumberSlot (blanks tail : Line) : Prop where
  ne_nil : blanks ≠ []
  allBlank : Text.AllBlank blanks
  noDigitHead : Text.NoDigitHead tail
  last : ∀ character ∈ tail.getLast?, Text.isBlank character = false
  noLineFeed : '\n' ∉ blanks ++ tail

/-- A number can be written between blanks and a tail and read again: it is not so long that it
could not be read. -/
structure Writable (blanks : Line) (number : Int) (tail : Line) : Prop
    extends NumberSlot blanks tail where
  short : Text.Short number

namespace NumberSlot

variable {blanks tail wordChars : Line} {number : Int}

theorem not_isBlank_of_mem_decimalText {character : Char}
    (member : character ∈ Text.decimalText number) : Text.isBlank character = false := by
  rcases Text.mem_decimalText member with rfl | digit
  · decide
  · exact Text.not_isBlank_of_asciiDigit digit

theorem head?_decimalText_append (number : Int) (tail : Line) :
    ∀ character ∈ (Text.decimalText number ++ tail).head?, Text.isBlank character = false := by
  intro character isHead
  rw [List.head?_append_of_ne_nil _ (Text.decimalText_ne_nil number)] at isHead
  exact not_isBlank_of_mem_decimalText (List.mem_of_mem_head? isHead)

theorem spelt (slot : NumberSlot blanks tail) (number : Int) (ne_nil : wordChars ≠ [])
    (isWord : ∀ character ∈ wordChars, Text.isAsciiWordChar character = true) :
    Spelt (numberedLine wordChars blanks number tail) wordChars
      (blanks ++ (Text.decimalText number ++ tail)) where
  text_eq := rfl
  ne_nil := ne_nil
  isWord := isWord
  ends := by
    intro character isHead
    rw [List.head?_append_of_ne_nil _ slot.ne_nil] at isHead
    have blank := slot.allBlank character (List.mem_of_mem_head? isHead)
    rw [← Bool.not_eq_true]
    intro ascii
    have isWordChar := Text.isWordChar_of_isAsciiWordChar character ascii
    rw [Text.not_isWordChar_of_isBlank blank] at isWordChar
    cases isWordChar
  noLineFeed := by
    intro member
    have notHere := slot.noLineFeed
    rw [List.mem_append, not_or] at notHere
    rw [List.mem_append, List.mem_append] at member
    rcases member with inBlanks | inNumber | inTail
    · exact notHere.1 inBlanks
    · have notBlank := not_isBlank_of_mem_decimalText inNumber
      revert notBlank
      decide
    · exact notHere.2 inTail

theorem isTrimmed (slot : NumberSlot blanks tail) (wordChars : Line) (number : Int) :
    Text.IsTrimmed (numberedLine wordChars blanks number tail) where
  head := by
    intro character isHead
    obtain rfl := Option.some.inj isHead
    decide
  last := by
    intro character isLast
    have notEmpty : Text.decimalText number ++ tail ≠ [] :=
      List.append_ne_nil_of_left_ne_nil (Text.decimalText_ne_nil number) _
    have whole : numberedLine wordChars blanks number tail =
        ('#' :: (wordChars ++ blanks)) ++ (Text.decimalText number ++ tail) := by
      simp [numberedLine]
    rw [whole, List.getLast?_append_of_ne_nil _ notEmpty] at isLast
    cases tail with
    | nil =>
        rw [List.append_nil] at isLast
        exact not_isBlank_of_mem_decimalText (List.mem_of_getLast? isLast)
    | cons first rest =>
        rw [List.getLast?_append_of_ne_nil _ (List.cons_ne_nil _ _)] at isLast
        exact slot.last character isLast

/-- The number is found where the blanks end. -/
theorem takeNumeral?_trimLeft (slot : NumberSlot blanks tail) (number : Int) :
    Text.leadingBlanks (blanks ++ (Text.decimalText number ++ tail)) = blanks ∧
    Text.takeNumeral? (Text.trimLeft (blanks ++ (Text.decimalText number ++ tail))) =
      some ⟨decide (number < 0), Nat.toDigits 10 number.natAbs, tail⟩ := by
  obtain ⟨taken, dropped⟩ := takeWhile_dropWhile_append slot.allBlank
    (head?_decimalText_append number tail)
  rw [Text.leadingBlanks, Text.trimLeft, taken, dropped]
  exact ⟨rfl, Text.takeNumeral?_decimalText number slot.noDigitHead⟩

end NumberSlot

/-- The number that was written is read. -/
theorem Writable.readArgument {blanks tail : Line} {number : Int}
    (writable : Writable blanks number tail) :
    readArgument (blanks ++ (Text.decimalText number ++ tail)) = .ok (.number number) := by
  obtain ⟨blanksEq, isNumeral⟩ := writable.takeNumeral?_trimLeft number
  rw [readArgument_eq_number_iff, blanksEq]
  exact ⟨by simpa using writable.ne_nil, _, isNumeral, Text.value_of_toDigits writable.short⟩

end ModMerge
