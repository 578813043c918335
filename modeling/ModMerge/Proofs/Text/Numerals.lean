import Mathlib.Algebra.Group.Nat.Defs
import Mathlib.Data.List.Induction
import ModMerge.Proofs.Text.CharClasses

/-!
# Reading back numbers

A number written in decimal digits is read back as the same number, whatever follows it, as
long as that does not begin with a further digit.
-/

namespace ModMerge.Text

/-- A number of no more digits than can be read. -/
def Short (number : Int) : Prop :=
  number.natAbs < 10 ^ digitLimit

instance (number : Int) : Decidable (Short number) :=
  inferInstanceAs (Decidable (number.natAbs < 10 ^ digitLimit))

theorem Short.of_between {first last number : Int} (low : Short first) (high : Short last)
    (above : first ≤ number) (below : number ≤ last) : Short number := by
  unfold Short at *
  omega

theorem isWritable_iff {number : Int} : isWritable number = true ↔ Short number := by
  rw [isWritable, decide_eq_true_eq, Short, Nat.length_toDigits_le_iff (by decide) (by decide)]

/-- Numbers can be written if each of them is short. -/
theorem requireWritable_eq_ok_iff {numbers : List Int} :
    requireWritable numbers = .ok () ↔ ∀ number ∈ numbers, Short number := by
  simp only [← isWritable_iff, ← List.all_eq_true, requireWritable]
  split
  · next writable => exact iff_of_true rfl writable
  · next refused => exact iff_of_false nofun refused

theorem requireWritable_eq_ok_or (numbers : List Int) :
    requireWritable numbers = .ok () ∨ requireWritable numbers = .error .tooLong := by
  rw [requireWritable]
  split
  · exact .inl rfl
  · exact .inr rfl

/-- Whether numbers can be written is all that counts. -/
theorem requireWritable_congr {numbers others : List Int}
    (same : (∀ number ∈ numbers, Short number) ↔ ∀ number ∈ others, Short number) :
    requireWritable numbers = requireWritable others := by
  rw [← requireWritable_eq_ok_iff, ← requireWritable_eq_ok_iff] at same
  rcases requireWritable_eq_ok_or numbers with written | refused
  · rw [written, same.1 written]
  · rcases requireWritable_eq_ok_or others with otherWritten | otherRefused
    · cases refused.symm.trans (same.2 otherWritten)
    · rw [refused, otherRefused]

/-- A single number that is not short stands in the way. -/
theorem requireWritable_of_long {numbers : List Int} {number : Int} (member : number ∈ numbers)
    (long : ¬ Short number) : requireWritable numbers = .error .tooLong :=
  if_neg fun writable => long (isWritable_iff.1 (List.all_eq_true.1 writable number member))

/-- The text does not go on with a digit. -/
def NoDigitHead (rest : List Char) : Prop :=
  ∀ character ∈ rest.head?, isDigit character = false

theorem isDigit_of_mem_toDigits {number : Nat} {digit : Char}
    (member : digit ∈ Nat.toDigits 10 number) : isDigit digit = true := by
  have ascii := Nat.isDigit_of_mem_toDigits (by decide) (by decide) member
  rw [isDigit, digitValue?_of_asciiDigit ascii, Option.isSome_some]

theorem digitsValue_toDigits (number : Nat) : digitsValue (Nat.toDigits 10 number) = number := by
  have same : ∀ (digits : List Char) (value : Nat), (∀ digit ∈ digits, digit.isDigit = true) →
      digits.foldl (fun value digit => 10 * value + (digitValue? digit).getD 0) value =
        Nat.ofDigitChars 10 digits value := by
    intro digits
    induction digits with
    | nil => simp
    | cons digit rest inductionHypothesis =>
        intro value ascii
        rw [List.foldl_cons, Nat.ofDigitChars_cons,
          inductionHypothesis _ fun other member => ascii other (List.mem_cons_of_mem _ member),
          digitValue?_of_asciiDigit (ascii digit List.mem_cons_self), Option.getD_some]
        rfl
  rw [digitsValue, same _ _ fun digit member =>
    Nat.isDigit_of_mem_toDigits (by decide) (by decide) member]
  exact Nat.ofDigitChars_toDigits (by decide) (by decide)

theorem takeWhile_isDigit_append {digits rest : List Char}
    (areDigits : ∀ digit ∈ digits, isDigit digit = true) (ends : NoDigitHead rest) :
    (digits ++ rest).takeWhile isDigit = digits ∧ (digits ++ rest).dropWhile isDigit = rest := by
  rw [List.takeWhile_append_of_pos areDigits, List.dropWhile_append_of_pos areDigits]
  cases rest with
  | nil => simp
  | cons character rest =>
      have notDigit := ends character rfl
      simp [notDigit]

/-- A number that has been written is found where it begins. -/
theorem takeNumeral?_decimalText (number : Int) {rest : List Char} (ends : NoDigitHead rest) :
    takeNumeral? (decimalText number ++ rest) =
      some ⟨decide (number < 0), Nat.toDigits 10 number.natAbs, rest⟩ := by
  have areDigits : ∀ digit ∈ Nat.toDigits 10 number.natAbs, isDigit digit = true :=
    fun digit => isDigit_of_mem_toDigits
  obtain ⟨taken, dropped⟩ := takeWhile_isDigit_append areDigits ends
  have someDigit : (Nat.toDigits 10 number.natAbs).isEmpty = false := by simp
  by_cases negative : number < 0
  · rw [decimalText, if_pos negative]
    simp only [List.cons_append, takeNumeral?, taken, dropped, someDigit, negative]
    rfl
  · rw [decimalText, if_neg negative]
    have noSign : ∀ tail, Nat.toDigits 10 number.natAbs ++ rest ≠ '-' :: tail := by
      intro tail same
      have notEmpty : Nat.toDigits 10 number.natAbs ≠ [] := Nat.toDigits_ne_nil
      obtain ⟨first, others, digits⟩ := List.exists_cons_of_ne_nil notEmpty
      rw [digits, List.cons_append, List.cons.injEq] at same
      have isDigitFirst := areDigits first (digits ▸ List.mem_cons_self)
      rw [same.1] at isDigitFirst
      revert isDigitFirst
      decide
    simp only [takeNumeral?, taken, dropped, someDigit, negative]
    rfl

/-- A numeral that is found is what the text begins with, perhaps after a minus sign. -/
theorem exists_of_takeNumeral? {characters : List Char} {numeral : NumeralSpan}
    (found : takeNumeral? characters = some numeral) :
    ∃ sign, characters = sign ++ (numeral.digits ++ numeral.rest) ∧
      NoDigitHead numeral.rest := by
  have noDigit : ∀ unsigned : List Char, NoDigitHead (unsigned.dropWhile isDigit) := by
    intro unsigned character isHead
    have notDigit := List.head?_dropWhile_not isDigit unsigned
    rw [Option.mem_def.1 isHead] at notDigit
    simpa using notDigit
  simp only [takeNumeral?] at found
  split at found
  · next unsigned =>
      split at found
      · cases found
      · obtain rfl := Option.some.inj found
        exact ⟨['-'], by simp [List.takeWhile_append_dropWhile], noDigit _⟩
  · split at found
    · cases found
    · obtain rfl := Option.some.inj found
      exact ⟨[], by simp [List.takeWhile_append_dropWhile], noDigit _⟩

/-- A written number of at most `digitLimit` digits is read as that number. -/
theorem value_of_toDigits {number : Int} {rest : List Char} (short : Short number) :
    NumeralSpan.value ⟨decide (number < 0), Nat.toDigits 10 number.natAbs, rest⟩ =
      .ok number := by
  have fits : (Nat.toDigits 10 number.natAbs).length ≤ digitLimit :=
    of_decide_eq_true (isWritable_iff.2 short)
  rw [NumeralSpan.value, readDigits, if_pos fits, digitsValue_toDigits]
  simp only [Except.map, signed, decide_eq_true_eq, Except.ok.injEq]
  split <;> omega

/-- Digits denote less than what a one before as many zeros denotes. -/
theorem digitsValue_lt (digits : List Char) : digitsValue digits < 10 ^ digits.length := by
  induction digits using List.reverseRecOn with
  | nil => decide
  | append_singleton digits digit inductionHypothesis =>
      have value : digitsValue (digits ++ [digit]) =
          10 * digitsValue digits + (digitValue? digit).getD 0 := by
        rw [digitsValue, List.foldl_append]
        rfl
      have small : (digitValue? digit).getD 0 < 10 := by
        cases found : digitValue? digit with
        | none => decide
        | some value => exact digitValue?_lt_ten digit value found
      rw [value, List.length_append, List.length_singleton, Nat.pow_succ]
      omega

/-- Whatever number is read can be written. -/
theorem short_of_value {numeral : NumeralSpan} {number : Int}
    (read : numeral.value = .ok number) : Short number := by
  rw [NumeralSpan.value, readDigits] at read
  split at read
  · next few =>
      obtain rfl := Except.ok.inj read
      have magnitude : (signed numeral.negative (digitsValue numeral.digits)).natAbs =
          digitsValue numeral.digits := by
        rw [signed]
        split <;> omega
      rw [Short, magnitude]
      exact Nat.lt_of_lt_of_le (digitsValue_lt _) (Nat.pow_le_pow_right (by decide) few)
  · cases read

theorem mem_decimalText {number : Int} {character : Char}
    (member : character ∈ decimalText number) : character = '-' ∨ character.isDigit = true := by
  rw [decimalText] at member
  have digits : character ∈ Nat.toDigits 10 number.natAbs → character.isDigit = true :=
    Nat.isDigit_of_mem_toDigits (by decide) (by decide)
  split at member
  · exact (List.mem_cons.1 member).imp id digits
  · exact .inr (digits member)

theorem decimalText_ne_nil (number : Int) : decimalText number ≠ [] := by
  rw [decimalText]
  split
  · exact List.cons_ne_nil _ _
  · exact Nat.toDigits_ne_nil

end ModMerge.Text
