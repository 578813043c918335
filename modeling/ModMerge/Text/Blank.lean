/-!
# Blank characters

The blank characters are the white space of Unicode together with the four ASCII
information separators. `trim` removes them from both ends of a text; the zero-width
characters are not blank.
-/

namespace ModMerge.Text

/-- White space, including the information separators `1c` to `1f`. -/
def isBlank (character : Char) : Bool :=
  let code := character.toNat
  (0x09 ≤ code && code ≤ 0x0d) || (0x1c ≤ code && code ≤ 0x20) || code == 0x85 ||
    code == 0xa0 || code == 0x1680 || (0x2000 ≤ code && code ≤ 0x200a) || code == 0x2028 ||
    code == 0x2029 || code == 0x202f || code == 0x205f || code == 0x3000

/-- A text without its leading blanks. -/
def trimLeft (characters : List Char) : List Char :=
  characters.dropWhile isBlank

/-- A text without its trailing blanks. -/
def trimRight (characters : List Char) : List Char :=
  (characters.reverse.dropWhile isBlank).reverse

/-- A text without leading and trailing blanks. -/
def trim (characters : List Char) : List Char :=
  trimRight (trimLeft characters)

/-- Whether a text holds nothing but blanks. -/
def isBlankText (characters : List Char) : Bool :=
  characters.all isBlank

/-- The leading blanks of a text. -/
def leadingBlanks (characters : List Char) : List Char :=
  characters.takeWhile isBlank

/-- A text is its leading blanks followed by the rest. -/
theorem leadingBlanks_append_trimLeft (characters : List Char) :
    leadingBlanks characters ++ trimLeft characters = characters :=
  List.takeWhile_append_dropWhile

end ModMerge.Text
