import ModMerge.Text.DecimalDigit

/-!
# Reading arguments

The arguments of a command are options and operands. An option is named by a short name, a
dash and a letter, or by a long name, two dashes and a word; a long name may be cut short as
long as it stays the name of one option only. Values of options follow their names: as the
next argument, after `=`, or at once after a short name. Short options without values may
share a dash. The argument `--` ends the options.

`readArguments` says in order what has been read. What the options mean is left to the
commands, which are told apart by the type of the options' keys.
-/

namespace ModMerge.CommandLine

/-- An option that a command has. -/
structure OptionForm (Key : Type) where
  names : List String
  key : Key
  takesValue : Bool

/-- How many operands a command takes. -/
inductive Operands where
  /-- One or more, in one row. -/
  | many
  | atMostOne
  /-- The name of a command and all arguments of it. -/
  | command
deriving DecidableEq, Repr

/-- What has been read of arguments. -/
inductive Item (Key : Type) where
  | flag (key : Key)
  | value (key : Key) (text : String)
  | operands (texts : List String)
  /-- An argument that nothing takes. -/
  | unexpected
  /-- Arguments that cannot be read any further. -/
  | refused
deriving Repr

/-- A value that is written together with the name of its option. -/
structure JoinedValue where
  /-- Whether there is an `=` between them. -/
  separated : Bool
  text : List Char

/-- What an argument looks like. -/
inductive Shape (Key : Type) where
  | operand
  /-- The first `--`. -/
  | separator
  | option (form : OptionForm Key) (name : List Char) (joined : Option JoinedValue)
  | unknownOption

/-- An argument and what it looks like. -/
structure ShapedArgument (Key : Type) where
  text : String
  shape : Shape Key

variable {Key : Type}

/-- The options with a name, if the name is as wanted. -/
def formsNamed (forms : List (OptionForm Key)) (wanted : List Char → Bool) :
    List (OptionForm Key × List Char) :=
  forms.flatMap fun form =>
    (form.names.filter fun name => wanted name.toList).map fun name => (form, name.toList)

/-- The option of a name. -/
def formOf? (forms : List (OptionForm Key)) (name : List Char) : Option (OptionForm Key) :=
  (formsNamed forms (· == name)).head?.map (·.1)

/-- An argument up to its first `=`, and what follows that. -/
def splitValue (argument : List Char) : List Char × Option JoinedValue :=
  match argument.span (· != '=') with
  | (name, _ :: text) => (name, some ⟨true, text⟩)
  | (name, []) => (name, none)

/-- The options that an argument may mean which is not the name of one: those with a long
name that begins like it, or the one of its first letter. -/
def candidates (forms : List (OptionForm Key)) (argument : List Char) :
    List (OptionForm Key × List Char × Option JoinedValue) :=
  match argument with
  | '-' :: '-' :: _ =>
      let (start, joined) := splitValue argument
      (formsNamed forms start.isPrefixOf).map fun (form, name) => (form, name, joined)
  | dash :: letter :: rest =>
      (formsNamed forms (· == [dash, letter])).map fun (form, name) =>
        (form, name, some ⟨false, rest⟩)
  | _ => []

/-- Whether an argument is a negative number, which is never an option. A line feed at its end
is let pass. -/
def isNegativeNumber (argument : List Char) : Bool :=
  let argument := if argument.getLast? = some '\n' then argument.dropLast else argument
  match argument with
  | '-' :: magnitude =>
      match magnitude.span Text.isDigit with
      | (whole, []) => !whole.isEmpty
      | (_, '.' :: fraction) => !fraction.isEmpty && fraction.all Text.isDigit
      | _ => false
  | _ => false

/-- What an argument looks like; `none` if it may mean several options. -/
def shapeOf? (forms : List (OptionForm Key)) (argument : List Char) : Option (Shape Key) :=
  match argument with
  | '-' :: _ :: _ =>
      match formOf? forms argument, splitValue argument with
      | some form, _ => some (.option form argument none)
      | none, (name, joined) =>
          match joined.bind fun _ => formOf? forms name, candidates forms argument with
          | some form, _ => some (.option form name joined)
          | none, [(form, name, joined)] => some (.option form name joined)
          | none, _ :: _ :: _ => none
          | none, [] =>
              if isNegativeNumber argument || argument.contains ' ' then some .operand
              else some .unknownOption
  | _ => some .operand

/-- What arguments look like; `none` if one of them may mean several options. -/
def shapes? (forms : List (OptionForm Key)) : List String → Option (List (ShapedArgument Key))
  | [] => some []
  | text :: rest =>
      if text = "--" then
        some (⟨text, .separator⟩ :: rest.map fun text => ⟨text, .operand⟩)
      else do
        let shape ← shapeOf? forms text.toList
        return ⟨text, shape⟩ :: (← shapes? forms rest)

/-- What has been read of one argument that is an option. -/
inductive OptionReading (Key : Type) where
  | complete (items : List (Item Key))
  /-- The next argument has to be the value of an option. -/
  | awaiting (items : List (Item Key)) (key : Key)
  | refused

/-- A reading with an item before it. -/
def OptionReading.after (item : Item Key) : OptionReading Key → OptionReading Key
  | complete items => complete (item :: items)
  | awaiting items key => awaiting (item :: items) key
  | refused => refused

/-- Read an option without a joined value. -/
def readName (form : OptionForm Key) : OptionReading Key :=
  if form.takesValue then .awaiting [] form.key else .complete [.flag form.key]

/-- Read an option with a joined value. If it takes none and its name is short, the value
begins with the letter of another option. -/
def readJoined (forms : List (OptionForm Key)) (form : OptionForm Key)
    (short separated : Bool) : List Char → OptionReading Key
  | [] => if form.takesValue then .complete [.value form.key ""] else .refused
  | letter :: rest =>
      if form.takesValue then .complete [.value form.key (String.ofList (letter :: rest))]
      else if !short || separated || letter == '-' then .refused
      else
        match formOf? forms ['-', letter] with
        | none => .complete [.unexpected, .flag form.key]
        | some next =>
            let reading :=
              match rest with
              | [] => readName next
              | '=' :: text => readJoined forms next true true text
              | text => readJoined forms next true false text
            reading.after (.flag form.key)

/-- Read an option. -/
def readOption (forms : List (OptionForm Key)) (form : OptionForm Key) (name : List Char) :
    Option JoinedValue → OptionReading Key
  | none => readName form
  | some joined =>
      let short := name.tail.head? != some '-'
      readJoined forms form short joined.separated joined.text

/-- Whether an argument is no option. -/
def ShapedArgument.isPlain (argument : ShapedArgument Key) : Bool :=
  match argument.shape with
  | .operand | .separator => true
  | .option .. | .unknownOption => false

/-- Whether an argument is an operand. -/
def ShapedArgument.isOperand (argument : ShapedArgument Key) : Bool :=
  match argument.shape with
  | .operand => true
  | _ => false

/-- How many operands are taken from the start of a row of arguments without options, and
whether that is a good number of them. The separator counts with the operands beside it. -/
def takenFrom (operands : Operands) (row : List (ShapedArgument Key)) : Option Nat :=
  let separators := (row.takeWhile (!·.isOperand)).length
  match operands, row.drop separators with
  | .many, _ :: _ => some row.length
  | .many, [] => none
  | .atMostOne, [] => some separators
  | .atMostOne, _ :: rest =>
      some (separators + 1 + (rest.takeWhile (!·.isOperand)).length)
  | .command, _ :: _ => some row.length
  | .command, [] => none

/-- The items of operands; their first separator is left out. -/
def operandItem (row : List (ShapedArgument Key)) : Item Key :=
  .operands ((row.map (·.text)).erase "--")

/-- Read arguments whose looks are known. `operands` says what operands are still to come, if
any are. -/
def readShaped (forms : List (OptionForm Key)) (operands : Option Operands)
    (arguments : List (ShapedArgument Key)) : List (Item Key) :=
  match arguments with
  | [] => []
  | argument :: rest =>
      match argument.shape with
      | .unknownOption => .unexpected :: readShaped forms operands rest
      | .option form name joined =>
          match readOption forms form name joined with
          | .refused => [.refused]
          | .complete items => items ++ readShaped forms operands rest
          | .awaiting items key =>
              match rest with
              | [] => [.refused]
              | next :: rest =>
                  if next.isOperand then
                    items ++ .value key next.text :: readShaped forms operands rest
                  else [.refused]
      | .operand | .separator =>
          let row := argument :: rest.takeWhile (·.isPlain)
          let afterRow := rest.dropWhile (·.isPlain)
          match operands.bind fun operands => takenFrom operands row with
          | none => .unexpected :: readShaped forms operands afterRow
          | some count =>
              if operands = some .command then
                [.operands (arguments.map (·.text))]
              else
                let extra := if row.length ≤ count then [] else [.unexpected]
                operandItem (row.take count) :: extra ++ readShaped forms none afterRow
termination_by arguments.length
decreasing_by
  all_goals
    have := (rest.dropWhile_sublist (·.isPlain)).length_le
    simp_all only [List.length_cons]
    omega

/-- Read the arguments of a command with the given options and operands. -/
def readArguments (forms : List (OptionForm Key)) (operands : Operands)
    (arguments : List String) : List (Item Key) :=
  match shapes? forms arguments with
  | some arguments => readShaped forms (some operands) arguments
  | none => [.refused]

end ModMerge.CommandLine
