import ModMerge.Text.FloatText

/-!
# Values of settings

A setting is a scalar or a list of scalars, or one of the other things that a document can hold.
Wherever a text is wanted, any value will do: each one has a text of its own, which can be written
unless one of the integers in it (`numbers`) has too many digits.
-/

namespace ModMerge

/-- A value without parts. -/
inductive Scalar where
  | null
  | truth (value : Bool)
  | integer (value : Int)
  | float (value : Float)
  | text (value : String)
deriving Repr

/-- A value that is neither a scalar nor a list of scalars, such as a date or a mapping, by what can
be asked of it. -/
structure OtherValue where
  text : String
  /-- The integers that stand in the text. -/
  numbers : List Int := []
  /-- Whether it stands for nothing. -/
  isNothing : Bool := false
  /-- The integer that it can be turned into, if integers can be made of values like it. -/
  integer? : Option (Except Text.NumeralError Int) := none
deriving Repr

/-- The value of a setting. -/
inductive SettingValue where
  | scalar (value : Scalar)
  | list (items : List Scalar)
  | other (value : OtherValue)
deriving Repr

namespace Scalar

/-- A scalar as text. -/
def toText : Scalar → String
  | null => "None"
  | truth value => if value then "True" else "False"
  | integer value => Text.decimalString value
  | float value => Text.floatText value
  | text value => value

/-- A scalar as it is shown within a list: texts are quoted there. -/
def toItemText : Scalar → String
  | text value => Text.quotedString value
  | value => value.toText

/-- The integers in the text of a scalar. -/
def numbers : Scalar → List Int
  | integer value => [value]
  | _ => []

/-- Whether a scalar stands for nothing: null, false, zero or an empty text. -/
def isNothing : Scalar → Bool
  | null => true
  | truth value => !value
  | integer value => value = 0
  | float value => value == 0
  | text value => value = ""

end Scalar

namespace SettingValue

/-- A null value. -/
def null : SettingValue := scalar .null

/-- Whether a value is null. -/
def isNull : SettingValue → Bool
  | scalar .null => true
  | _ => false

/-- A value that is a text. -/
def ofText (text : String) : SettingValue := scalar (.text text)

/-- A value that is an integer. -/
def ofInt (value : Int) : SettingValue := scalar (.integer value)

/-- A value as text. -/
def toText : SettingValue → String
  | scalar value => value.toText
  | list items => "[" ++ ", ".intercalate (items.map Scalar.toItemText) ++ "]"
  | other value => value.text

/-- The integers in the text of a value. -/
def numbers : SettingValue → List Int
  | scalar value => value.numbers
  | list items => items.flatMap Scalar.numbers
  | other value => value.numbers

/-- Whether a value stands for nothing. -/
def isNothing : SettingValue → Bool
  | scalar value => value.isNothing
  | list items => items.isEmpty
  | other value => value.isNothing

end SettingValue
end ModMerge
