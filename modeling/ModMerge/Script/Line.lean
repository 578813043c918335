import ModMerge.Directive
import ModMerge.Script.Context
import ModMerge.Text.Lines
import ModMerge.Text.Numeral
import ModMerge.Text.WordChar

/-!
# Lines of a script

A script is read line by line. `scriptLines` numbers the lines and mends what text editors
put into them; `classify` says what a line means where it stands. A line is blank, a
comment, part of the mod's own description, or a directive with an argument; the meaning
of a directive follows from `directiveTable` and from the block it stands in.
-/

namespace ModMerge

/-- The characters of a line, without a line break. -/
abbrev Line := List Char

/-- The byte-order mark that some editors put before a text. -/
def byteOrderMark : Char := '\ufeff'

/-- Typographic quotes become straight ones and a no-break space becomes a space; the game
reads neither. -/
def correctChar (character : Char) : Char :=
  if character == '\u201c' || character == '\u201d' then '"'
  else if character == '\u00a0' then ' '
  else character

/-- A line with its characters corrected, and without a byte-order mark if it is the first
line of its script. -/
def normalizeLine (first : Bool) (line : Line) : Line :=
  let body :=
    match line with
    | character :: rest => if first && character == byteOrderMark then rest else line
    | [] => []
  body.map correctChar

/-- A numbered line of a script. -/
structure ScriptLine where
  /-- The number of the line; the first line has number one. -/
  number : Nat
  /-- The line as it stands in the script. -/
  raw : Line
  /-- The line after correction. -/
  text : Line
deriving DecidableEq, Repr

/-- The lines of a script. -/
def scriptLines (script : List Char) : List ScriptLine :=
  (Text.lines script).mapIdx fun index raw =>
    { number := index + 1, raw, text := normalizeLine (index == 0) raw }

/-- What follows a directive word. -/
inductive Argument where
  | absent
  | number (value : Int)
  | name (text : String)
deriving DecidableEq, Repr

/-- The number of an argument, if it is one. -/
def Argument.number? : Argument → Option Int
  | .number value => some value
  | _ => none

/-- The name of an argument, if it is one. -/
def Argument.name? : Argument → Option String
  | .name text => some text
  | _ => none

/-- The text between quotes at the start of a line. -/
def takeQuoted? : Line → Option Line
  | '"' :: rest =>
      if (rest.dropWhile (· != '"')).isEmpty then none
      else some (rest.takeWhile (· != '"'))
  | _ => none

/-- The argument in what follows a directive word: after at least one blank, a number or a
quoted name. Only a number can fail to be read. -/
def readArgument (rest : Line) : Except Text.NumeralError Argument :=
  if (Text.leadingBlanks rest).isEmpty then
    .ok .absent
  else
    match Text.takeNumeral? (Text.trimLeft rest) with
    | some numeral => numeral.value.map .number
    | none =>
        match takeQuoted? (Text.trimLeft rest) with
        | some name => .ok (.name (String.ofList name))
        | none => .ok .absent

/-- The directives of a spell block that are read together. -/
inductive SpellDirective where
  | effect
  | damage
  | damageMonster
  | copySpell
deriving DecidableEq, Repr

/-- The word of a spell directive. -/
def SpellDirective.word : SpellDirective → String
  | .effect => "effect"
  | .damage => "damage"
  | .damageMonster => "damagemon"
  | .copySpell => "copyspell"

/-- The spell directive of a word. -/
def SpellDirective.ofWord? (word : String) : Option SpellDirective :=
  [effect, damage, damageMonster, copySpell].find? fun directive => directive.word == word

/-- What a line means where it stands. -/
inductive LineMeaning where
  | blank
  | comment
  /-- A line within a description, and whether it holds the closing quote. -/
  | descriptionText (closes : Bool)
  /-- The name under which the mod is shown, if it is not empty. -/
  | modName (name : Option String)
  /-- The first line of a description, and whether it goes on after this line. -/
  | descriptionStart (staysOpen : Bool)
  /-- Any other directive about the mod itself. -/
  | otherMetadata (word : String)
  | blockStart (word : String) (ref : DirectiveRef) (argument : Argument)
  | blockEnd
  /-- A line of a spell block that bears on the meaning of its damage value. -/
  | spellContent (directive : SpellDirective) (ref : Option DirectiveRef)
      (argument : Argument)
  | name (name : Option String)
  /-- Any other directive that names content. -/
  | entity (word : String) (ref : DirectiveRef) (argument : Argument)
  /-- Anything else, and its directive word if it begins with one. -/
  | text (word : Option String)
deriving DecidableEq, Repr

/-- A line without surrounding blanks, and its meaning. -/
structure ClassifiedLine where
  text : Line
  meaning : LineMeaning
deriving DecidableEq, Repr

/-- The part of a line before its first comment mark. -/
def beforeComment : Line → Line
  | '-' :: '-' :: _ => []
  | character :: rest => character :: beforeComment rest
  | [] => []

/-- Whether a line holds an odd number of double quotes. -/
def hasOpenQuote (line : Line) : Bool :=
  line.count '"' % 2 == 1

/-- A directive word in lower case and what follows it. -/
structure DirectiveLine where
  word : String
  rest : Line
deriving DecidableEq, Repr

/-- The directive word that a line begins with; it consists of ASCII letters, digits and
underscores. -/
def directiveLine? : Line → Option DirectiveLine
  | '#' :: body =>
      let word := body.takeWhile Text.isAsciiWordChar
      let rest := body.dropWhile Text.isAsciiWordChar
      if word.isEmpty || rest.contains '\n' then none
      else some ⟨String.ofList (word.map Char.toLower), rest⟩
  | _ => none

/-- The words of directives about the mod itself, other than its name and description. -/
def otherMetadataWords : List String :=
  ["icon", "version", "domversion"]

/-- The meaning of a directive where `context` precedes it. -/
def directiveMeaning (context : ParseContext) (directive : DirectiveLine)
    (argument : Argument) : LineMeaning :=
  let word := directive.word
  let refs := refsOfWord word
  if word == "modname" then
    .modName (argument.name?.filter fun name => !name.isEmpty)
  else if word == "description" then
    .descriptionStart (hasOpenQuote directive.rest)
  else if otherMetadataWords.contains word then
    .otherMetadata word
  else if word == "end" then
    .blockEnd
  else
    match blockStartRef? refs with
    | some ref => .blockStart word ref argument
    | none =>
        match (if context.inSpellBlock then SpellDirective.ofWord? word else none) with
        | some spellDirective =>
            .spellContent spellDirective (pickRef refs context.activeType) argument
        | none =>
            if word == "name" then
              .name argument.name?
            else
              match pickRef refs context.activeType with
              | some ref => .entity word ref argument
              | none => .text (some word)

/-- What a line means where `context` precedes it. A directive with a numeral of too many
digits is refused, whatever the directive is. -/
def classify (context : ParseContext) (line : Line) :
    Except Text.NumeralError ClassifiedLine :=
  let text := Text.trim line
  if context.inDescription then
    .ok ⟨text, .descriptionText (hasOpenQuote (beforeComment text))⟩
  else if text.isEmpty then
    .ok ⟨text, .blank⟩
  else if text.take 2 == ['-', '-'] then
    .ok ⟨text, .comment⟩
  else
    match directiveLine? text with
    | none => .ok ⟨text, .text none⟩
    | some directive =>
        (readArgument directive.rest).map fun argument =>
          ⟨text, directiveMeaning context directive argument⟩

/-- The kinds of lines, as dumps name them. -/
def LineMeaning.kindName : LineMeaning → String
  | .blank => "BLANK"
  | .comment => "COMMENT"
  | .descriptionText _ | .modName _ | .descriptionStart _ | .otherMetadata _ => "METADATA"
  | .blockStart .. => "BLOCK_START"
  | .blockEnd => "BLOCK_END"
  | .spellContent .. => "BLOCK_CONTENT"
  | .name _ => "NAME"
  | .entity .. => "ENTITY"
  | .text _ => "TEXT"

/-- The directive word of a line. -/
def LineMeaning.word? : LineMeaning → Option String
  | .blank | .comment => none
  | .descriptionText _ | .descriptionStart _ => some "description"
  | .modName _ => some "modname"
  | .otherMetadata word | .blockStart word .. | .entity word .. => some word
  | .blockEnd => some "end"
  | .spellContent directive .. => some directive.word
  | .name _ => some "name"
  | .text word => word

/-- The table entry that a directive is read by. -/
def LineMeaning.ref? : LineMeaning → Option DirectiveRef
  | .blockStart _ ref _ | .entity _ ref _ => some ref
  | .spellContent _ ref _ => ref
  | _ => none

/-- The number that bears on the meaning of a line. -/
def LineMeaning.number? : LineMeaning → Option Int
  | .blockStart _ _ argument | .entity _ _ argument | .spellContent _ _ argument =>
      argument.number?
  | _ => none

/-- The name that bears on the meaning of a line. -/
def LineMeaning.name? : LineMeaning → Option String
  | .blockStart _ _ argument | .entity _ _ argument | .spellContent _ _ argument =>
      argument.name?
  | .modName given | .name given => given
  | _ => none

/-- Whether a description goes on after the line that begins it. -/
def LineMeaning.opensDescription : LineMeaning → Bool
  | .descriptionStart staysOpen => staysOpen
  | _ => false

/-- Whether a line ends the description that it stands in. -/
def LineMeaning.closesDescription : LineMeaning → Bool
  | .descriptionText closes => closes
  | _ => false

/-- A one-line description of a classified line. -/
def ClassifiedLine.describe (line : ClassifiedLine) : String :=
  let number := (line.meaning.number?.map fun value => " " ++ Text.decimalString value).getD ""
  let name := (line.meaning.name?.map fun text => " \"" ++ text ++ "\"").getD ""
  "ClassifiedLine(" ++ line.meaning.kindName ++ ", #" ++ line.meaning.word?.getD "" ++
    number ++ name ++ ")"

end ModMerge
