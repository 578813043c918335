import ModMerge.Text.Printable

/-!
# Quoted text

Descriptions of mods and error messages show a text between quotes, with every character
that has no visible form written as an escape. Single quotes are used unless the text
contains a single quote and no double quote.
-/

namespace ModMerge.Text

/-- A number in lower-case hexadecimal digits, padded with zeros to a width. -/
def hexadecimal (width number : Nat) : List Char :=
  let digits := Nat.toDigits 16 number
  List.replicate (width - digits.length) '0' ++ digits

/-- One character of a quoted text. -/
def quotedChar (quote character : Char) : List Char :=
  if character == quote || character == '\\' then ['\\', character]
  else if character == '\t' then ['\\', 't']
  else if character == '\n' then ['\\', 'n']
  else if character == '\r' then ['\\', 'r']
  else if isPrintable character then [character]
  else
    let code := character.toNat
    if code < 0x100 then '\\' :: 'x' :: hexadecimal 2 code
    else if code < 0x10000 then '\\' :: 'u' :: hexadecimal 4 code
    else '\\' :: 'U' :: hexadecimal 8 code

/-- The quote that a text is written with. -/
def quoteOf (characters : List Char) : Char :=
  if characters.contains '\'' && !characters.contains '"' then '"' else '\''

/-- A text between quotes. -/
def quoted (characters : List Char) : List Char :=
  let quote := quoteOf characters
  quote :: characters.flatMap (quotedChar quote) ++ [quote]

/-- A string between quotes. -/
def quotedString (text : String) : String :=
  String.ofList (quoted text.toList)

end ModMerge.Text
