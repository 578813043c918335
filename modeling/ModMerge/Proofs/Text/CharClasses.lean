import ModMerge.Script.Line

/-!
# Classes of characters

How the classes of characters that reading depends on lie to each other: blanks are not word
characters, digits are, and decimal numbers are written in digits only.
-/

namespace ModMerge.Text

/-- The codes of blank characters. -/
def blankCodes : List Nat :=
  [0x09, 0x0a, 0x0b, 0x0c, 0x0d, 0x1c, 0x1d, 0x1e, 0x1f, 0x20, 0x85, 0xa0, 0x1680, 0x2000,
    0x2001, 0x2002, 0x2003, 0x2004, 0x2005, 0x2006, 0x2007, 0x2008, 0x2009, 0x200a, 0x2028,
    0x2029, 0x202f, 0x205f, 0x3000]

theorem toNat_mem_blankCodes {character : Char} (blank : isBlank character = true) :
    character.toNat ∈ blankCodes := by
  simp only [isBlank, Bool.or_eq_true, Bool.and_eq_true, decide_eq_true_eq, beq_iff_eq] at blank
  simp only [blankCodes, List.mem_cons, List.not_mem_nil, or_false]
  omega

/-- No range of word characters covers a blank. The comparisons are spelt with `Nat.blt`, which
the kernel computes directly. -/
theorem wordCharRanges_avoid_blankCodes : (wordCharRanges.all fun range =>
    blankCodes.all fun code => Nat.blt code range.1 || Nat.blt range.2 code) = true := by
  decide +kernel

theorem not_isAsciiWordChar_of_isBlank {character : Char} (blank : isBlank character = true) :
    isAsciiWordChar character = false := by
  have table : ∀ code ∈ blankCodes, isAsciiWordChar (Char.ofNat code) = false := by
    decide +kernel
  rw [← Char.ofNat_toNat character]
  exact table _ (toNat_mem_blankCodes blank)

theorem not_isWordChar_of_isBlank {character : Char} (blank : isBlank character = true) :
    isWordChar character = false := by
  have isCode := toNat_mem_blankCodes blank
  rw [isWordChar, not_isAsciiWordChar_of_isBlank blank, Bool.false_or, ← Bool.not_eq_true,
    CodeRanges.contains_iff]
  rintro ⟨range, inTable, above, below⟩
  have avoided := List.all_eq_true.1
    (List.all_eq_true.1 wordCharRanges_avoid_blankCodes range inTable) _ isCode
  simp only [Bool.or_eq_true, Nat.blt_eq] at avoided
  omega

/-- The digits of each script beyond ASCII lie within one range of word characters. -/
theorem wordCharRanges_cover_digits : (digitZeros.all fun zeroCode => Nat.beq zeroCode 0x30 ||
    wordCharRanges.any fun range =>
      Nat.ble range.1 zeroCode && Nat.ble (zeroCode + 9) range.2) = true := by
  decide +kernel

theorem isWordChar_of_isDigit {character : Char} (digit : isDigit character = true) :
    isWordChar character = true := by
  obtain ⟨value, found⟩ := Option.isSome_iff_exists.1 digit
  obtain ⟨zeroCode, isZero, -⟩ := Option.map_eq_some_iff.1 found
  have bounds := List.find?_some isZero
  simp only [Bool.and_eq_true, decide_eq_true_eq] at bounds
  have covered := List.all_eq_true.1 wordCharRanges_cover_digits zeroCode
    (List.mem_of_find?_eq_some isZero)
  simp only [Bool.or_eq_true, Nat.beq_eq, List.any_eq_true, Bool.and_eq_true,
    Nat.ble_eq] at covered
  obtain rfl | ⟨range, inTable, above, below⟩ := covered
  · have ascii : character.isDigit = true := by
      simp only [Char.isDigit, Bool.and_eq_true, decide_eq_true_eq]
      exact ⟨bounds.1, bounds.2⟩
    simp [isWordChar, isAsciiWordChar, Char.isAlphanum, ascii]
  · rw [isWordChar, Bool.or_eq_true, CodeRanges.contains_iff]
    exact .inr ⟨range, inTable, by omega, by omega⟩

theorem not_isDigit_of_isBlank {character : Char} (blank : isBlank character = true) :
    isDigit character = false := by
  rw [← Bool.not_eq_true]
  intro digit
  have isWord := isWordChar_of_isDigit digit
  rw [not_isWordChar_of_isBlank blank] at isWord
  cases isWord

/-- The characters `0` to `9`. -/
theorem digitValue?_of_asciiDigit {character : Char} (digit : character.isDigit = true) :
    digitValue? character = some (character.toNat - 48) := by
  have bounds : 48 ≤ character.toNat ∧ character.toNat ≤ 57 := by
    simpa [Char.isDigit, UInt32.le_iff_toNat_le] using digit
  have first : digitZeros.find? (fun zeroCode => zeroCode ≤ character.toNat &&
      character.toNat ≤ zeroCode + 9) = some 0x30 := by
    rw [digitZeros, List.find?_cons_of_pos]
    simpa using bounds
  rw [digitValue?, first, Option.map_some]

theorem not_isBlank_of_asciiDigit {character : Char} (digit : character.isDigit = true) :
    isBlank character = false := by
  have isDigitToo : isDigit character = true := by
    rw [isDigit, digitValue?_of_asciiDigit digit, Option.isSome_some]
  rw [← Bool.not_eq_true]
  intro blank
  rw [not_isDigit_of_isBlank blank] at isDigitToo
  cases isDigitToo

end ModMerge.Text
