import ModMerge.Settings.Load
import ModMerge.Settings.PlainScalar
import ModMerge.Text.Utf8

/-!
# Plain documents of settings

Documents of settings are read by whatever `SettingsReader` the program is given. The one here,
`PlainDocument.reader`, reads plain documents. A plain document has a line `key: value` for each
setting; instead of these lines it may be one mapping in braces. Keys and values are scalars, with
or without quotes, and a value may also be a list of scalars in brackets. A document that holds a
single value or a sequence of values, each after a `-`, can be read too. Comments begin with `#`.
A scalar may go on over several lines: without quotes, the later lines have to be indented further
than the keys. A line `---` may begin the document and a line `...` may end it. Tabs separate
nothing.
-/

namespace ModMerge

namespace PlainDocument

/-- Whether a character may stand in a document. -/
def isAllowed (character : Char) : Bool :=
  let code := character.toNat
  code == 0x09 || code == 0x0a || code == 0x0d || (0x20 ≤ code && code ≤ 0x7e) ||
    code == 0x85 || (0xa0 ≤ code && code ≤ 0xfffd) || 0x10000 ≤ code

/-- Characters that end a line of a document. -/
def endsLine (character : Char) : Bool :=
  let code := character.toNat
  code == 0x0a || code == 0x0d || code == 0x85 || code == 0x2028 || code == 0x2029

/-- Characters that may stand after a punctuation mark. -/
def isGap (character : Char) : Bool :=
  character == ' ' || character == '\t' || endsLine character

/-- Whether a gap or the end of the document comes next. -/
def startsGap (characters : List Char) : Bool :=
  characters.head?.all isGap

/-- Whether a line that marks the start or the end of a document comes next. -/
def startsMark : List Char → Bool
  | '-' :: '-' :: '-' :: rest => startsGap rest
  | '.' :: '.' :: '.' :: rest => startsGap rest
  | _ => false

/-- A place between two parts of a document. -/
structure Place where
  /-- What follows. -/
  rest : List Char
  /-- How many characters come before it in its line. -/
  column : Nat
  /-- Whether a line ended on the way here. -/
  newLine : Bool

/-- The place where the next part begins, behind spaces, comments and line ends. -/
def skip (column : Nat) (newLine comment : Bool) : List Char → Place
  | [] => ⟨[], column, newLine⟩
  | character :: rest =>
      if endsLine character then skip 0 true false rest
      else if comment || character == '#' then skip column newLine true rest
      else if character == ' ' then skip (column + 1) newLine false rest
      else ⟨character :: rest, column, newLine⟩

/-- The place where the next part begins. -/
def next (characters : List Char) : Place :=
  skip 0 false false characters

/-- What a line end within a scalar contributes. The separators of Unicode stand for
themselves. -/
def lineEnd (character : Char) : Char :=
  if character.toNat == 0x85 || character == '\r' then '\n' else character

/-- What stands between two words of a scalar. -/
inductive WordGap where
  /-- Nothing: the word goes on. -/
  | none
  /-- Blanks, read backwards. -/
  | blanks (characters : List Char)
  /-- A first line end, unless it is an escaped one, and more of them, read backwards. -/
  | lineEnds (first : Option Char) (more : List Char)

/-- A gap as part of a scalar, read backwards: blanks stay, a single line end becomes a space,
and of several ones the first is left out. -/
def WordGap.text : WordGap → List Char
  | none => []
  | blanks characters => characters
  | lineEnds (some '\n') [] => [' ']
  | lineEnds (some '\n') more => more
  | lineEnds first more => more ++ first.toList

/-- A scalar that has been read. -/
structure ReadScalar where
  /-- The scalar's text. -/
  text : List Char
  /-- Whether it was written in quotes. -/
  isQuoted : Bool
  /-- Whether it was written in one line. -/
  oneLine : Bool
  /-- What follows it. -/
  rest : List Char

/-- The punctuation of brackets and braces. -/
def flowIndicators : List Char := [',', '[', ']', '{', '}']

/-- Whether a scalar without quotes ends before the given characters. In brackets and braces
(`inFlow`), their punctuation ends it too. -/
def endsWord (inFlow : Bool) : List Char → Bool
  | [] => true
  | ':' :: rest => startsGap rest || (inFlow && rest.head?.any flowIndicators.contains)
  | character :: _ =>
      isGap character || (inFlow && (character == '?' || flowIndicators.contains character))

/-- Characters that have a meaning of their own where a scalar could begin. -/
def indicators : List Char :=
  ['?', ':', ',', '[', ']', '{', '}', '#', '&', '*', '!', '|', '>', '\'', '"', '%', '@',
    '\x60']

/-- Whether a scalar without quotes can begin with the given characters. -/
def startsPlain (inFlow : Bool) : List Char → Bool
  | [] => false
  | character :: rest =>
      if character == '-' || (!inFlow && (character == '?' || character == ':')) then
        !startsGap rest
      else
        !isGap character && !indicators.contains character

/-- Read a scalar without quotes that has begun with `words`, a scalar up to the end of its
last word, and the given gap since then. Later lines have to have at least `indent`
characters before them, unless the scalar is in brackets or braces. -/
def plainAfter (inFlow : Bool) (indent : Nat) (words : ReadScalar) (gap : WordGap)
    (column : Nat) : List Char → ReadScalar
  | [] => words
  | character :: rest =>
      let afterLineEnd (gap : WordGap) :=
        if startsMark rest then words else plainAfter inFlow indent words gap 0 rest
      match gap with
      | .none =>
          if character == ' ' then plainAfter inFlow indent words (.blanks [' ']) 0 rest
          else if endsLine character then afterLineEnd (.lineEnds (some (lineEnd character)) [])
          else if endsWord inFlow (character :: rest) then words
          else
            plainAfter inFlow indent
              { words with text := character :: words.text, rest := rest } .none 0 rest
      | .blanks blanks =>
          if character == ' ' then
            plainAfter inFlow indent words (.blanks (' ' :: blanks)) 0 rest
          else if endsLine character then afterLineEnd (.lineEnds (some (lineEnd character)) [])
          else if character == '#' || endsWord inFlow (character :: rest) then words
          else
            plainAfter inFlow indent
              { words with text := character :: gap.text ++ words.text, rest := rest }
              .none 0 rest
      | .lineEnds first more =>
          if character == ' ' then plainAfter inFlow indent words gap (column + 1) rest
          else if endsLine character then
            afterLineEnd (.lineEnds first (lineEnd character :: more))
          else if character == '#' || endsWord inFlow (character :: rest) ||
              (!inFlow && column < indent) then words
          else
            plainAfter inFlow indent
              { words with
                text := character :: gap.text ++ words.text, rest := rest, oneLine := false }
              .none 0 rest

/-- Read a scalar without quotes. -/
def readPlain (inFlow : Bool) (indent : Nat) (characters : List Char) : ReadScalar :=
  let scalar := plainAfter inFlow indent ⟨[], false, true, characters⟩ .none 0 characters
  { scalar with text := scalar.text.reverse }

/-- The characters that have an escape of one letter. -/
def escapes : List (Char × Nat) :=
  [('0', 0x00), ('a', 0x07), ('b', 0x08), ('t', 0x09), ('\t', 0x09), ('n', 0x0a), ('v', 0x0b),
    ('f', 0x0c), ('r', 0x0d), ('e', 0x1b), (' ', 0x20), ('"', 0x22), ('\\', 0x5c), ('/', 0x2f),
    ('N', 0x85), ('_', 0xa0), ('L', 0x2028), ('P', 0x2029)]

/-- How many hexadecimal digits follow the letters that escape a code. -/
def escapeWidths : List (Char × Nat) :=
  [('x', 2), ('u', 4), ('U', 8)]

/-- The character that an escape of the given width stands for, and what follows it. -/
def readCode? (width : Nat) (characters : List Char) : Option Char :=
  let digits := characters.take width
  let code := Scalar.valueIn 16 digits
  if digits.length = width && digits.all Scalar.isHexDigit && code.isValidChar then
    some (Char.ofNat code)
  else none

/-- Read a scalar in quotes after its opening quote, if `text` and the gap are what has been
read of it. -/
def quotedAfter (quote : Char) (text : List Char) (gap : WordGap) (oneLine : Bool)
    (characters : List Char) : Option ReadScalar :=
  match characters with
  | [] => none
  | character :: rest =>
      if endsLine character then
        if startsMark rest then none
        else
          let gap :=
            match gap with
            | .lineEnds first more => WordGap.lineEnds first (lineEnd character :: more)
            | _ => .lineEnds (some (lineEnd character)) []
          quotedAfter quote text gap false rest
      else if character == ' ' || character == '\t' then
        let gap :=
          match gap with
          | .none => WordGap.blanks [character]
          | .blanks blanks => .blanks (character :: blanks)
          | .lineEnds first more => .lineEnds first more
        quotedAfter quote text gap oneLine rest
      else
        let text := gap.text ++ text
        if character == quote then
          match quote, rest with
          | '\'', '\'' :: rest => quotedAfter quote ('\'' :: text) .none oneLine rest
          | _, _ => some ⟨text.reverse, true, oneLine, rest⟩
        else if quote == '"' && character == '\\' then
          match rest with
          | [] => none
          | letter :: rest =>
              if endsLine letter then
                if startsMark rest then none
                else quotedAfter quote text (.lineEnds Option.none []) false rest
              else
                match escapes.lookup letter, escapeWidths.lookup letter with
                | some code, _ =>
                    quotedAfter quote (Char.ofNat code :: text) .none oneLine rest
                | none, some width =>
                    match readCode? width rest with
                    | some escaped =>
                        quotedAfter quote (escaped :: text) .none oneLine (rest.drop width)
                    | none => none
                | none, none => none
        else quotedAfter quote (character :: text) .none oneLine rest
termination_by characters.length
decreasing_by all_goals simp only [List.length_cons, List.length_drop]; omega

/-- Read a scalar. -/
def readScalar? (inFlow : Bool) (indent : Nat) (characters : List Char) : Option ReadScalar :=
  match characters with
  | '\'' :: rest => quotedAfter '\'' [] .none true rest
  | '"' :: rest => quotedAfter '"' [] .none true rest
  | _ =>
      if startsPlain inFlow characters then some (readPlain inFlow indent characters)
      else none

/-- The value of a scalar that has been read. In quotes it is always a text. Two signs that
documents give a meaning of their own stand for no value. -/
def ReadScalar.value (scalar : ReadScalar) : Except DocumentError Scalar :=
  if scalar.isQuoted then .ok (.text (String.ofList scalar.text))
  else if scalar.text = ['='] || scalar.text = ['<', '<'] then .error .malformed
  else (Scalar.ofPlain scalar.text).mapError fun error => .invalid error.message

/-- The place of the next part within brackets or braces; no mark may stand there. -/
def nextInFlow (characters : List Char) : Except DocumentError (List Char) :=
  let place := skip 1 false false characters
  if place.column = 0 && startsMark place.rest then .error .malformed else .ok place.rest

/-- Read a scalar within brackets or braces. -/
def readFlowScalar (characters : List Char) : Except DocumentError ReadScalar :=
  match readScalar? true 0 characters with
  | some scalar => .ok scalar
  | none => .error .malformed

/-- Read the rest of a list, of which `items` have been read. -/
def readItems (items : List Scalar) (characters : List Char) :
    Except DocumentError (List Scalar × List Char) := do
  match ← nextInFlow characters with
  | ']' :: rest => return (items, rest)
  | start => do
      let scalar ← readFlowScalar start
      let items := items ++ [← scalar.value]
      match ← nextInFlow scalar.rest with
      | ']' :: rest => return (items, rest)
      | ',' :: rest =>
          if rest.length < characters.length then readItems items rest else throw .malformed
      | _ => throw .malformed
termination_by characters.length

/-- Read the value of a setting within braces. -/
def readFlowValue (characters : List Char) :
    Except DocumentError (SettingValue × List Char) := do
  match ← nextInFlow characters with
  | '[' :: rest =>
      let (items, rest) ← readItems [] rest
      return (.list items, rest)
  | start =>
      if start.head?.any [',', '\x7d'].contains then return (.null, start)
      let scalar ← readFlowScalar start
      return (.scalar (← scalar.value), scalar.rest)

/-- The most characters that may come before the colon after a key. -/
def keyLimit : Nat := 1024

/-- What follows the colon after a key that began with `start`; `none` if there is no colon
for it. -/
def afterColon? (start : List Char) (key : ReadScalar) : Option (List Char) :=
  let place := next key.rest
  match place.rest with
  | ':' :: rest =>
      if key.oneLine && !place.newLine && start.length ≤ rest.length + 1 + keyLimit then
        some rest
      else none
  | _ => none

/-- Read the rest of a mapping in braces. -/
def readFlowEntries (entries : List (Scalar × SettingValue)) (characters : List Char) :
    Except DocumentError (List (Scalar × SettingValue) × List Char) := do
  match ← nextInFlow characters with
  | '\x7d' :: rest => return (entries, rest)
  | start => do
      let key ← readFlowScalar start
      let (value, afterValue) ←
        match afterColon? start key with
        | some rest => readFlowValue rest
        | none => pure (.null, key.rest)
      let entries := entries ++ [(← key.value, value)]
      match ← nextInFlow afterValue with
      | '\x7d' :: rest => return (entries, rest)
      | ',' :: rest =>
          if rest.length < characters.length then readFlowEntries entries rest
          else throw .malformed
      | _ => throw .malformed
termination_by characters.length

/-- Check that a document ends here; after its end mark, only more such marks may come. -/
def expectEnd (place : Place) : Except DocumentError Unit :=
  match place.rest with
  | [] => .ok ()
  | '.' :: '.' :: '.' :: rest =>
      if place.column = 0 && startsGap rest then
        let after := skip 3 false false rest
        if after.rest.length < place.rest.length then expectEnd after else .error .malformed
      else .error .malformed
  | _ => .error .malformed
termination_by place.rest.length

/-- Read the value after a colon. The keys of the mapping have `column` characters before
them. -/
def readValue (column : Nat) (characters : List Char) :
    Except DocumentError (SettingValue × List Char) := do
  let place := next characters
  if place.rest.isEmpty || (place.newLine && place.column ≤ column) then
    return (.null, characters)
  match place.rest with
  | '[' :: rest =>
      let (items, rest) ← readItems [] rest
      return (.list items, rest)
  | start =>
      match readScalar? false (column + 1) start with
      | some scalar => return (.scalar (← scalar.value), scalar.rest)
      | none => throw .malformed

/-- Read the settings from the first key on, which has `column` characters before it. -/
def readEntries (column : Nat) (entries : List (Scalar × SettingValue))
    (characters : List Char) : Except DocumentError (List (Scalar × SettingValue)) := do
  match readScalar? false (column + 1) characters with
  | none => throw .malformed
  | some key =>
      match afterColon? characters key with
      | none => throw .malformed
      | some rest =>
          if !startsGap rest then throw .malformed
          let (value, rest) ← readValue column rest
          let entries := entries ++ [(← key.value, value)]
          let place := next rest
          if place.rest.isEmpty || (place.column = 0 && startsMark place.rest) then
            expectEnd place
            return entries
          else if !(place.newLine && place.column = column) then throw .malformed
          else if place.rest.length < characters.length then
            readEntries column entries place.rest
          else throw .malformed
termination_by characters.length

/-- Read the rest of a sequence, whose items have `column` characters before them. -/
def readSequence (column : Nat) (items : List SettingValue) (characters : List Char) :
    Except DocumentError (List SettingValue) := do
  match characters with
  | '-' :: start =>
      if !startsGap start then throw .malformed
      let (value, rest) ← readValue column start
      let items := items ++ [value]
      let place := next rest
      if place.rest.isEmpty || (place.column = 0 && startsMark place.rest) then
        expectEnd place
        return items
      else if !(place.newLine && place.column = column) then throw .malformed
      else if place.rest.length ≤ start.length then
        readSequence column items place.rest
      else throw .malformed
  | _ => throw .malformed
termination_by characters.length
decreasing_by exact Nat.lt_succ_of_le (by assumption)

/-- The document that holds these entries. -/
def mappingOf (entries : List (Scalar × SettingValue)) : SettingsDocument :=
  .mapping (entries.map fun (key, value) => (.scalar key, value))

/-- Read a value that is the whole document. -/
def readWhole (value : SettingsDocument) (rest : List Char) :
    Except DocumentError SettingsDocument := do
  expectEnd (next rest)
  return value

/-- Read a document from its first part on. Behind a start mark in the same line there can be
neither settings nor a sequence. -/
def readContent (place : Place) (afterMark : Bool) : Except DocumentError SettingsDocument := do
  match place.rest with
  | [] => return .single .null
  | '[' :: rest =>
      let (items, rest) ← readItems [] rest
      readWhole (.single (.list items)) rest
  | '\x7b' :: rest =>
      let (entries, rest) ← readFlowEntries [] rest
      readWhole (mappingOf entries) rest
  | start =>
      if place.column = 0 && startsMark start then
        expectEnd place
        return .single .null
      match readScalar? false 0 start with
      | none =>
          if afterMark then throw .malformed
          let items ← readSequence place.column [] start
          return .single
            (.other { text := "[" ++ ", ".intercalate (items.map SettingValue.toText) ++ "]" })
      | some scalar =>
          if (afterColon? start scalar).any startsGap && !afterMark then
            return mappingOf (← readEntries place.column [] start)
          readWhole (.single (.scalar (← scalar.value))) scalar.rest

/-- Read a document. -/
def read (characters : List Char) : Except DocumentError SettingsDocument := do
  if !characters.all isAllowed then throw .malformed
  let characters :=
    match characters with
    | '\ufeff' :: rest => rest
    | _ => characters
  let place := next characters
  match place.rest with
  | '-' :: '-' :: '-' :: rest =>
      if place.column = 0 && startsGap rest then
        let content := skip 3 false false rest
        readContent content (!content.newLine)
      else readContent place false
  | '.' :: '.' :: '.' :: rest =>
      if place.column = 0 && startsGap rest then throw .malformed
      readContent place false
  | _ => readContent place false

/-- Read a document from the bytes of a file. -/
def reader : SettingsReader := fun bytes => do
  let characters ← (Text.utf8Text bytes).mapError .undecodable
  read (Text.uniformLineEnds characters)

end PlainDocument
end ModMerge
