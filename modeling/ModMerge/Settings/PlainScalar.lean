import ModMerge.Settings.Value

/-!
# Scalars without quotes

A scalar that is written without quotes may be a word for null or for a truth value, or a
number; any other one is a text. Integers are decimal, or begin with `0b`, `0x` or, for
octal digits, `0`, or consist of parts in base sixty with colons between them. Floating-point
numbers have a point. Underscores between the digits of a number mean nothing.
-/

namespace ModMerge

/-- Why a scalar that looks like an integer is none. -/
inductive ScalarError where
  | tooManyDigits (count : Nat)
  | noDigits (base : Nat)
deriving DecidableEq, Repr

/-- The wording for a scalar that looks like an integer but is none. -/
def ScalarError.message : ScalarError → String
  | tooManyDigits count => (Text.NumeralError.tooManyDigits count).message
  | noDigits base =>
      "invalid literal for int() with base " ++ Text.decimalString base ++ ": ''"

namespace Scalar

/-- The words for null. -/
def nullWords : List String := ["", "~", "null", "Null", "NULL"]

/-- The words for true. -/
def trueWords : List String :=
  ["yes", "Yes", "YES", "true", "True", "TRUE", "on", "On", "ON"]

/-- The words for false. -/
def falseWords : List String :=
  ["no", "No", "NO", "false", "False", "FALSE", "off", "Off", "OFF"]

/-- Whether a character is a decimal digit. -/
def isPlainDigit (character : Char) : Bool :=
  '0' ≤ character && character ≤ '9'

/-- The value of a character as a digit in any base up to sixteen. -/
def digitOf (character : Char) : Nat :=
  let code := character.toNat
  if code < 0x40 then code - 0x30
  else if code < 0x60 then code - 0x37
  else code - 0x57

/-- The number that digits denote in a base. -/
def valueIn (base : Nat) (digits : List Char) : Nat :=
  digits.foldl (fun value digit => base * value + digitOf digit) 0

/-- Whether a text consists of the given characters and underscores, and is not empty. -/
def isGrouped (isDigit : Char → Bool) (characters : List Char) : Bool :=
  !characters.isEmpty && characters.all fun character => isDigit character || character == '_'

/-- A text without its underscores. -/
def ungrouped (characters : List Char) : List Char :=
  characters.filter (· != '_')

/-- Whether a text consists of decimal digits and underscores and begins with a digit. -/
def isGroupedNumber (characters : List Char) : Bool :=
  characters.head?.any isPlainDigit && isGrouped isPlainDigit characters

/-- Whether a text is a part in base sixty: one digit, or two of which the first is at most
five. -/
def isSixtieth : List Char → Bool
  | [unit] => isPlainDigit unit
  | [ten, unit] => '0' ≤ ten && ten ≤ '5' && isPlainDigit unit
  | _ => false

/-- A text without its sign, and whether the sign is a minus. -/
def withoutSign : List Char → Bool × List Char
  | '-' :: rest => (true, rest)
  | '+' :: rest => (false, rest)
  | characters => (false, characters)

/-- The decimal number that grouped digits denote, if there are not too many. -/
def decimalValue (characters : List Char) : Except ScalarError Nat :=
  let digits := ungrouped characters
  if digits.length ≤ Text.digitLimit then .ok (valueIn 10 digits)
  else .error (.tooManyDigits digits.length)

/-- The number that digits denote in a base other than ten. -/
def valueInBase (base : Nat) (characters : List Char) : Except ScalarError Nat :=
  match ungrouped characters with
  | [] => .error (.noDigits base)
  | digits => .ok (valueIn base digits)

/-- Whether a character is a hexadecimal digit. -/
def isHexDigit (character : Char) : Bool :=
  isPlainDigit character || ('a' ≤ character && character ≤ 'f') ||
    ('A' ≤ character && character ≤ 'F')

/-- Whether a character is an octal digit. -/
def isOctalDigit (character : Char) : Bool :=
  '0' ≤ character && character ≤ '7'

/-- The magnitude of an integer in parts of base sixty. -/
def sixtiesValue? (characters : List Char) : Option (Except ScalarError Nat) :=
  match characters.splitOn ':' with
  | first :: second :: rest =>
      if isGroupedNumber first && first.head? != some '0' && (second :: rest).all isSixtieth then
        some do
          let mut value ← decimalValue first
          for part in second :: rest do
            value := 60 * value + valueIn 10 part
          return value
      else none
  | _ => none

/-- The magnitude of an integer without its sign; `none` if the text is no integer. -/
def magnitude? (characters : List Char) : Option (Except ScalarError Nat) :=
  match characters with
  | ['0'] => some (.ok 0)
  | '0' :: 'b' :: digits =>
      if isGrouped (fun digit => digit == '0' || digit == '1') digits then
        some (valueInBase 2 digits)
      else none
  | '0' :: 'x' :: digits =>
      if isGrouped isHexDigit digits then some (valueInBase 16 digits) else none
  | '0' :: digits =>
      if isGrouped isOctalDigit digits then some (.ok (valueIn 8 (ungrouped digits))) else none
  | _ =>
      if isGroupedNumber characters then some (decimalValue characters)
      else sixtiesValue? characters

/-- The integer that a text denotes; `none` if the text is no integer. -/
def integer? (characters : List Char) : Option (Except ScalarError Int) :=
  let (negative, unsigned) := withoutSign characters
  (magnitude? unsigned).map fun magnitude => magnitude.map (Text.signed negative)

/-- The exponent that may follow the digits of a floating-point number; it needs a sign. -/
def exponent? : List Char → Option Int
  | [] => some 0
  | mark :: sign :: digits =>
      if (mark == 'e' || mark == 'E') && (sign == '-' || sign == '+') && !digits.isEmpty &&
          digits.all isPlainDigit then
        some (Text.signed (sign == '-') (valueIn 10 digits))
      else none
  | _ => none

/-- The floating-point number with the given digits before and after its point. -/
def floatOfDigits (whole fraction : List Char) (exponent : Int) : Float :=
  let digits := ungrouped whole ++ ungrouped fraction
  Text.floatOfDecimal (valueIn 10 digits) (exponent - (ungrouped fraction).length)

/-- A text that begins with a point and digits: the digits and what follows them. -/
def fraction? : List Char → Option (List Char × List Char)
  | '.' :: rest =>
      some (rest.span fun character => isPlainDigit character || character == '_')
  | _ => none

/-- The magnitude of a floating-point number in parts of base sixty. Only the last part has
a point. -/
def floatSixties? (characters : List Char) : Option Float :=
  match characters.splitOn ':' with
  | first :: second :: rest =>
      let parts := second :: rest
      let (lastWhole, ending) := (parts.getLastD []).span isPlainDigit
      match fraction? ending with
      | some (fraction, []) =>
          if isGroupedNumber first && (parts.dropLast ++ [lastWhole]).all isSixtieth then
            let (value, _) := (first :: parts.dropLast).foldr
              (fun part (value, base) =>
                (value + floatOfDigits part [] 0 * Float.ofNat base, 60 * base))
              (floatOfDigits lastWhole fraction 0, 60)
            some value
          else none
      | _ => none
  | _ => none

/-- The magnitude of a floating-point number that begins with a digit. -/
def floatMagnitude? (characters : List Char) : Option Float :=
  let (whole, ending) := characters.span fun character =>
    isPlainDigit character || character == '_'
  if isGroupedNumber whole then
    match fraction? ending with
    | some (fraction, rest) => (exponent? rest).map (floatOfDigits whole fraction)
    | none => floatSixties? characters
  else none

/-- The words for infinity, after an optional sign. -/
def infinityWords : List String := [".inf", ".Inf", ".INF"]

/-- The words for what is no number. -/
def notNumberWords : List String := [".nan", ".NaN", ".NAN"]

/-- The floating-point number that a text denotes. A number that begins with its point has
no sign. -/
def float? (characters : List Char) : Option Float :=
  let (negative, unsigned) := withoutSign characters
  let withSign (value : Float) := if negative then -value else value
  if infinityWords.contains (String.ofList unsigned) then some (withSign (1.0 / 0.0))
  else if notNumberWords.contains (String.ofList characters) then some (0.0 / 0.0)
  else
    match fraction? characters with
    | some (fraction, rest) =>
        if isGroupedNumber fraction then (exponent? rest).map (floatOfDigits [] fraction)
        else none
    | none => (floatMagnitude? unsigned).map withSign

/-- The scalar that a text without quotes denotes. -/
def ofPlain (characters : List Char) : Except ScalarError Scalar :=
  let word := String.ofList characters
  if nullWords.contains word then .ok null
  else if trueWords.contains word then .ok (truth true)
  else if falseWords.contains word then .ok (truth false)
  else
    match float? characters, integer? characters with
    | some value, _ => .ok (float value)
    | none, some value => value.map integer
    | none, none => .ok (text word)

end Scalar
end ModMerge
