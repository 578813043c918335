import ModMerge.Text.Blank
import ModMerge.Text.DecimalDigit
import ModMerge.Text.Quoted

/-!
# Numerals

A numeral is an optional minus sign followed by decimal digits of any script. `takeNumeral?`
reads the longest numeral at the start of a text and `decimalText` writes a number. A numeral of
more than `digitLimit` digits, leading zeros included, has no value, and a number of more digits
has no text: wherever a number that may be too long is put into a text, `requireWritable` comes
before `decimalText`. Settings are read by the laxer rule of `integerOfText`, which also allows
blanks around the number, a plus sign and single underscores between digits.
-/

namespace ModMerge.Text

/-- The most digits that a numeral may have. -/
def digitLimit : Nat := 4300

/-- Why a text has no integer value, or an integer no text. -/
inductive NumeralError where
  | tooManyDigits (count : Nat)
  | malformed (text : String)
  /-- A number that was to be written has too many digits. -/
  | tooLong
deriving DecidableEq, Repr

/-- The number that digits denote in base ten; other characters count as zero. -/
def digitsValue (digits : List Char) : Nat :=
  digits.foldl (fun value digit => 10 * value + (digitValue? digit).getD 0) 0

/-- The value of digits, if there are not too many. -/
def readDigits (digits : List Char) : Except NumeralError Nat :=
  if digits.length ≤ digitLimit then
    .ok (digitsValue digits)
  else
    .error (.tooManyDigits digits.length)

/-- A number with the given sign. -/
def signed (negative : Bool) (magnitude : Nat) : Int :=
  if negative then -(magnitude : Int) else magnitude

/-- A numeral at the start of a text, with what follows it. -/
structure NumeralSpan where
  negative : Bool
  digits : List Char
  rest : List Char
deriving DecidableEq, Repr

/-- The longest numeral at the start of a text. -/
def takeNumeral? (characters : List Char) : Option NumeralSpan :=
  let (negative, unsigned) :=
    match characters with
    | '-' :: rest => (true, rest)
    | _ => (false, characters)
  let digits := unsigned.takeWhile isDigit
  if digits.isEmpty then none
  else some ⟨negative, digits, unsigned.dropWhile isDigit⟩

/-- The integer that a numeral denotes. -/
def NumeralSpan.value (numeral : NumeralSpan) : Except NumeralError Int :=
  (readDigits numeral.digits).map (signed numeral.negative)

/-- A number in decimal digits, with a minus sign if it is negative. -/
def decimalText (number : Int) : List Char :=
  if number < 0 then
    '-' :: Nat.toDigits 10 number.natAbs
  else
    Nat.toDigits 10 number.natAbs

/-- A number in decimal digits, as a string. -/
def decimalString (number : Int) : String :=
  String.ofList (decimalText number)

/-- Whether a number has few enough digits to be written. -/
def isWritable (number : Int) : Bool :=
  (Nat.toDigits 10 number.natAbs).length ≤ digitLimit

/-- Refuse to write numbers of which one has too many digits. -/
def requireWritable (numbers : List Int) : Except NumeralError Unit :=
  if numbers.all isWritable then .ok () else .error .tooLong

/-- The wording for a number of too many digits, where `detail` tells more about it. -/
def tooManyDigitsMessage (detail : String) : String :=
  "Exceeds the limit (" ++ decimalString digitLimit ++
    " digits) for integer string conversion" ++ detail ++
    "; use sys.set_int_max_str_digits() to increase the limit"

/-- The wording for what cannot be read or written; of a malformed text, at most two hundred
characters are shown. -/
def NumeralError.message : NumeralError → String
  | .tooManyDigits count =>
      tooManyDigitsMessage (": value has " ++ decimalString count ++ " digits")
  | .malformed text =>
      "invalid literal for int() with base 10: " ++
        String.ofList ((quoted text.toList).take 200)
  | .tooLong => tooManyDigitsMessage ""

/-- Blanks that may surround the integer of a setting: all of them but the information
separators. -/
def isNumberBlank (character : Char) : Bool :=
  isBlank character && !(0x1c ≤ character.toNat && character.toNat ≤ 0x1f)

/-- The digits at the start of a text in which single underscores may stand between
digits, and what follows; `none` if an underscore has no digit on one of its sides.
`afterDigit` says whether a digit stands just before. -/
def takeGroupedDigits? (afterDigit : Bool) : List Char → Option (List Char × List Char)
  | [] => some ([], [])
  | '_' :: next :: rest =>
      if afterDigit && isDigit next then
        (takeGroupedDigits? true rest).map fun (digits, remaining) =>
          (next :: digits, remaining)
      else none
  | '_' :: [] => none
  | character :: rest =>
      if isDigit character then
        (takeGroupedDigits? true rest).map fun (digits, remaining) =>
          (character :: digits, remaining)
      else some ([], character :: rest)

/-- The integer that a setting's text denotes. -/
def integerOfText (text : String) : Except NumeralError Int :=
  let characters := text.toList.dropWhile isNumberBlank
  let (negative, unsigned) :=
    match characters with
    | '-' :: rest => (true, rest)
    | '+' :: rest => (false, rest)
    | _ => (false, characters)
  match takeGroupedDigits? false unsigned with
  | none => .error (.malformed text)
  | some ([], _) => .error (.malformed text)
  | some (digits, rest) => do
      let magnitude ← readDigits digits
      if rest.all isNumberBlank then
        .ok (signed negative magnitude)
      else
        .error (.malformed text)

end ModMerge.Text
