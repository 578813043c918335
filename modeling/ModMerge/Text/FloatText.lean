import ModMerge.Text.Numeral

/-!
# Floating-point numbers as text

A floating-point number is written in the fewest decimal digits that are read back as the
same number and, among those, in the ones nearest to it. The digits are found by exact
arithmetic: the numbers that are read back as a given one form an interval, and on each
grid of decimals only the two neighbours of the number can be the nearest ones in it.
-/

namespace ModMerge.Text

/-- A power of a base. A negative exponent counts as zero. -/
def power (base : Nat) (exponent : Int) : Nat :=
  Nat.pow base exponent.toNat

/-- A finite floating-point number: a sign, and a significand times a power of two. -/
structure BinaryFloat where
  negative : Bool
  significand : Nat
  exponent : Int
deriving DecidableEq, Repr

namespace BinaryFloat

/-- The parts of a number; infinities and what is no number have none. -/
def ofFloat? (value : Float) : Option BinaryFloat :=
  let bits := value.toBits.toNat
  let fraction := bits % power 2 52
  let exponent : Nat := bits / power 2 52 % power 2 11
  let negative := bits / power 2 63 = 1
  if exponent = power 2 11 - 1 then none
  else if exponent = 0 then some ⟨negative, fraction, -1074⟩
  else some ⟨negative, power 2 52 + fraction, (exponent : Int) - 1075⟩

/-- The integer that is left when the fraction of a number is dropped. -/
def truncate (number : BinaryFloat) : Int :=
  signed number.negative <|
    number.significand * power 2 number.exponent / power 2 (-number.exponent)

/-- Whether the next number below is nearer than the next one above. -/
def nearBelow (number : BinaryFloat) : Bool :=
  number.significand = power 2 52 && number.exponent > -1074

end BinaryFloat

/-- Digits times a power of ten. -/
structure Decimal where
  digits : Nat
  exponent : Int
deriving DecidableEq, Repr

namespace Decimal

/-- How a decimal compares with a number times a power of two. -/
def compareWith (decimal : Decimal) (significand : Nat) (exponent : Int) : Ordering :=
  compare
    (decimal.digits * power 10 decimal.exponent * power 2 (-exponent))
    (significand * power 2 exponent * power 10 (-decimal.exponent))

/-- Whether a decimal is read back as a number. The ends of the interval belong to numbers
with an even significand. -/
def readsBack (number : BinaryFloat) (decimal : Decimal) : Bool :=
  let low := 4 * number.significand - if number.nearBelow then 1 else 2
  let high := 4 * number.significand + 2
  let exponent := number.exponent - 2
  let ends := number.significand % 2 = 0
  let aboveLow :=
    match decimal.compareWith low exponent with
    | .gt => true
    | .eq => ends
    | .lt => false
  let belowHigh :=
    match decimal.compareWith high exponent with
    | .lt => true
    | .eq => ends
    | .gt => false
  aboveLow && belowHigh

/-- The largest decimal with a given exponent that is not larger than a number. -/
def floorOn (exponent : Int) (number : BinaryFloat) : Nat :=
  number.significand * power 2 number.exponent * power 10 (-exponent) /
    (power 2 (-number.exponent) * power 10 exponent)

/-- The decimal with a given exponent that is nearest to a number among those that are read
back as it. Of two that are equally near, the one with an even last digit counts. -/
def nearestOn? (number : BinaryFloat) (exponent : Int) : Option Decimal :=
  let below : Decimal := ⟨floorOn exponent number, exponent⟩
  let above : Decimal := ⟨below.digits + 1, exponent⟩
  match below.readsBack number, above.readsBack number with
  | false, false => none
  | true, false => some below
  | false, true => some above
  | true, true =>
      let middle : Decimal := ⟨below.digits + above.digits, exponent⟩
      match middle.compareWith (2 * number.significand) number.exponent with
      | .gt => some below
      | .lt => some above
      | .eq => if below.digits % 2 = 0 then some below else some above

/-- The most digits in which any number has to be written. -/
def mostDigits : Nat := 17

/-- How many digits a positive number has before its point; for one below a tenth, how many
zeros follow its point, as a negative number. -/
def scale (number : BinaryFloat) : Int :=
  let places : Nat := (-number.exponent).toNat
  (Nat.toDigits 10 (floorOn (-places) number)).length - places

/-- A decimal without zeros at its end. -/
def withoutZeros : Nat → Int → Decimal
  | 0, exponent => ⟨0, exponent⟩
  | digits + 1, exponent =>
      if divides : (digits + 1) % 10 = 0 then
        withoutZeros ((digits + 1) / 10) (exponent + 1)
      else ⟨digits + 1, exponent⟩
termination_by digits => digits
decreasing_by omega

/-- The decimal of the fewest digits that is read back as a positive number. -/
def shortest (number : BinaryFloat) : Decimal :=
  let scale := scale number
  let found := (List.range mostDigits).findSome? fun (index : Nat) =>
    nearestOn? number (scale - (index + 1 : Nat))
  let decimal := found.getD ⟨floorOn (scale - mostDigits) number, scale - mostDigits⟩
  withoutZeros decimal.digits decimal.exponent

/-- A positive decimal as text. A number from one ten-thousandth up to sixteen digits before
the point is written with a point and at least one digit on each side of it, any other one
with an exponent of at least two digits. -/
def text (decimal : Decimal) : List Char :=
  let digits := Nat.toDigits 10 decimal.digits
  let point := digits.length + decimal.exponent
  if -4 < point && point ≤ 16 then
    if point ≤ 0 then '0' :: '.' :: List.replicate (-point).toNat '0' ++ digits
    else if digits.length ≤ point then
      digits ++ List.replicate (point - digits.length).toNat '0' ++ ['.', '0']
    else digits.take point.toNat ++ '.' :: digits.drop point.toNat
  else
    let exponent := point - 1
    let exponentDigits := Nat.toDigits 10 exponent.natAbs
    let fraction :=
      match digits.tail with
      | [] => []
      | rest => '.' :: rest
    digits.take 1 ++ fraction ++ 'e' :: (if exponent < 0 then '-' else '+') ::
      (List.replicate (2 - exponentDigits.length) '0' ++ exponentDigits)

end Decimal

/-- A floating-point number as text. -/
def floatText (value : Float) : String :=
  match BinaryFloat.ofFloat? value with
  | none => if value.isNaN then "nan" else if value < 0 then "-inf" else "inf"
  | some number =>
      let magnitude :=
        if number.significand = 0 then ['0', '.', '0'] else (Decimal.shortest number).text
      String.ofList (if number.negative then '-' :: magnitude else magnitude)

/-- The floating-point number nearest to digits times a power of ten. Numbers far beyond the
largest and the smallest one are not worked out. -/
def floatOfDecimal (digits : Nat) (exponent : Int) : Float :=
  let point := (Nat.toDigits 10 digits).length + exponent
  if digits = 0 || point < -400 then 0.0
  else if point > 400 then 1.0 / 0.0
  else Float.ofScientific digits (exponent < 0) exponent.natAbs

end ModMerge.Text
