import ModMerge.Text.CodeRanges

/-!
# Decimal digits

A decimal digit is any character of the Unicode category `Nd`. Every script that has
such digits lists them in order from zero to nine, so one table of zeros gives both the
class (`isDigit`) and the value of a digit (`digitValue?`).
-/

namespace ModMerge.Text

/-- The digits zero of all scripts; each is followed by the other nine digits. -/
def digitZeros : List Nat := [
  0x30, 0x660, 0x6f0, 0x7c0, 0x966, 0x9e6, 0xa66, 0xae6, 0xb66, 0xbe6, 0xc66, 0xce6, 0xd66,
  0xde6, 0xe50, 0xed0, 0xf20, 0x1040, 0x1090, 0x17e0, 0x1810, 0x1946, 0x19d0, 0x1a80, 0x1a90,
  0x1b50, 0x1bb0, 0x1c40, 0x1c50, 0xa620, 0xa8d0, 0xa900, 0xa9d0, 0xa9f0, 0xaa50, 0xabf0,
  0xff10, 0x104a0, 0x10d30, 0x11066, 0x110f0, 0x11136, 0x111d0, 0x112f0, 0x11450, 0x114d0,
  0x11650, 0x116c0, 0x11730, 0x118e0, 0x11950, 0x11c50, 0x11d50, 0x11da0, 0x16a60, 0x16ac0,
  0x16b50, 0x1d7ce, 0x1d7d8, 0x1d7e2, 0x1d7ec, 0x1d7f6, 0x1e140, 0x1e2f0, 0x1e950, 0x1fbf0]

/-- The value of a decimal digit of any script; `none` for every other character. -/
def digitValue? (character : Char) : Option Nat :=
  (digitZeros.find? fun zeroCode => zeroCode ≤ character.toNat && character.toNat ≤ zeroCode + 9).map
    fun zeroCode => character.toNat - zeroCode

/-- Decimal digits of any script. -/
def isDigit (character : Char) : Bool :=
  (digitValue? character).isSome

/-- A digit has a value below ten. -/
theorem digitValue?_lt_ten (character : Char) (value : Nat)
    (found : digitValue? character = some value) : value < 10 := by
  obtain ⟨zeroCode, member, rfl⟩ := Option.map_eq_some_iff.1 found
  have bounds := List.find?_some member
  simp only [Bool.and_eq_true, decide_eq_true_eq] at bounds
  omega

end ModMerge.Text
