import ModMerge.Mod.Definition
import ModMerge.Script.Line

/-!
# Reading a mod

A survey walks the lines of a script once and collects what the mod defines. A `Survey` is
the state of that walk and `Survey.step` takes it past one line; `ModDefinition.parse` is
the whole walk. A script is refused for a line that the state of the walk does not admit,
for a numeral of too many digits, and for a description that never ends.
-/

namespace ModMerge

/-- What is wrong with a script. -/
inductive ScriptFault where
  | transition (refusal : InvalidTransition)
  | numeral (error : Text.NumeralError)
  | descriptionNeverClosed
deriving DecidableEq, Repr

/-- The wording of what is wrong with a script. -/
def ScriptFault.message : ScriptFault → String
  | .transition refusal => refusal.message
  | .numeral error => error.message
  | .descriptionNeverClosed => "description is never closed"

/-- A script that cannot be read: the line at fault and what is wrong with it. -/
structure ModParseError where
  modName : String
  /-- The number of the line; the first line has number one. -/
  lineNumber : Nat
  /-- The line as it stands in the script. -/
  line : Line
  fault : ScriptFault
deriving DecidableEq, Repr

/-- The wording for an error in a line; an empty reason is not mentioned. -/
def lineErrorMessage (modName : String) (lineNumber : Nat) (line : Line)
    (reason : Option String) : String :=
  "Error in " ++ modName ++ " at line " ++ Text.decimalString lineNumber ++ ": " ++
    String.ofList (Text.trim line) ++
    match reason.filter fun text => !text.isEmpty with
    | some text => " (" ++ text ++ ")"
    | none => ""

/-- The wording for a script that cannot be read. -/
def ModParseError.message (error : ModParseError) : String :=
  lineErrorMessage error.modName error.lineNumber error.line (some error.fault.message)

/-- The state of the walk that reads a mod. -/
structure Survey where
  context : ParseContext := {}
  definition : ModDefinition

namespace ModDefinition

/-- Record an id that a mod defines or, if the base game owns it, edits. -/
def recordId (definition : ModDefinition) (content : EntityId) : ModDefinition :=
  if (defaultRange content.type).isVanilla content.id then
    definition.recordVanilla content.type content.id
  else
    definition.recordDefined content.type content.id

/-- Record the content that a creating or selecting line touches, if it touches any. -/
def recordArgument (definition : ModDefinition) (ref : DirectiveRef) (argument : Argument) :
    ModDefinition :=
  match argument with
  | .number number =>
      match ref.resolve number with
      | some content => definition.recordId content
      | none => definition
  | .name name => definition.recordReference ref.type name
  | .absent =>
      if ref.rule.role = .new then definition.recordImplicit ref.type else definition

/-- What a name in the block that a line opens is bound to: the content of the line's
number, the content that its name already stands for, or the definition without an id
that it creates. -/
def blockBinding (definition : ModDefinition) (ref : DirectiveRef) (argument : Argument) :
    Option NameBinding :=
  match argument with
  | .number number =>
      (ref.resolve number).map fun content => ⟨content.type, .explicit content.id⟩
  | .name name => if name.isEmpty then none else definition.nameBinding? ref.type name
  | .absent =>
      if ref.rule.role = .new then
        some ⟨ref.type, .implicit (definition.nextImplicitIndex ref.type)⟩
      else none

/-- Record the content that the damage value of a spell refers to. -/
def recordDamage (definition : ModDefinition) (spell : SpellBlock) : ModDefinition :=
  match spell.damageTarget with
  | some content => definition.recordId content
  | none => definition

end ModDefinition

/-- The spell that a selecting line names. -/
def SpellReference.ofArgument (argument : Argument) : SpellReference :=
  { id := argument.number?, name := argument.name? }

/-- The context within a block that a line has just opened: a selecting line names the
spell that a spell block edits. -/
def ParseContext.noteSelected (context : ParseContext) (ref : DirectiveRef)
    (argument : Argument) : ParseContext :=
  if context.inSpellBlock && ref.rule.role == .select then
    context.modifySpell fun spell => { spell with selected := .ofArgument argument }
  else
    context

/-- A spell block after a line that bears on the meaning of its damage value. An effect
without a number is no effect; a damage value without a number is ignored. -/
def SpellBlock.read (spell : SpellBlock) (directive : SpellDirective)
    (argument : Argument) : SpellBlock :=
  match directive with
  | .effect => { spell with effect := argument.number? }
  | .damage | .damageMonster =>
      match argument.number? with
      | some damage => { spell with damage := some damage }
      | none => spell
  | .copySpell => { spell with copied := .ofArgument argument }

namespace Survey

/-- Past a line that opens a block. -/
def openBlock (survey : Survey) (lineNumber : Nat) (ref : DirectiveRef)
    (argument : Argument) : Except InvalidTransition Survey := do
  let binding := survey.definition.blockBinding ref argument
  let opened ← survey.context.openBlock ref.type binding lineNumber
  let recorded := survey.definition.recordArgument ref argument
  let definition :=
    match survey.context.blockLine with
    | some unclosed =>
        recorded.recordWarning
          ("Block opened at line " ++ Text.decimalString unclosed ++
            " was not closed before line " ++ Text.decimalString lineNumber)
    | none => recorded
  return { context := opened.noteSelected ref argument, definition }

/-- Past the end of the open block: the damage value of a spell is dealt with now, if it
has not been. -/
def closeBlock (survey : Survey) : Survey :=
  { context := survey.context.closeBlock
    definition :=
      match survey.context.spell with
      | some spell =>
          if spell.resolved then survey.definition else survey.definition.recordDamage spell
      | none => survey.definition }

/-- Past a line of a spell block. The damage value is dealt with once, as soon as there is
an effect to read it by. -/
def readSpellLine (survey : Survey) (directive : SpellDirective) (argument : Argument) :
    Survey :=
  match survey.context.spell with
  | none => survey
  | some before =>
      let spell := before.read directive argument
      if spell.ready then
        let resolved := { spell with resolved := true }
        { context := { survey.context with spell := some resolved }
          definition := survey.definition.recordDamage resolved }
      else
        { survey with context := { survey.context with spell := some spell } }

/-- Past a line of the given meaning. -/
def advance (survey : Survey) (lineNumber : Nat) (meaning : LineMeaning) :
    Except InvalidTransition Survey :=
  match meaning with
  | .descriptionText closes =>
      .ok (if closes then { survey with context := survey.context.leaveDescription }
        else survey)
  | .modName (some name) =>
      .ok { survey with definition := { survey.definition with displayName := some name } }
  | .descriptionStart true => do
      let context ← survey.context.enterDescription lineNumber
      return { survey with context }
  | .blockStart _ ref argument => survey.openBlock lineNumber ref argument
  | .blockEnd => .ok survey.closeBlock
  | .spellContent directive _ argument => .ok (survey.readSpellLine directive argument)
  | .name (some name) =>
      match survey.context.active with
      | some binding =>
          if name.isEmpty then .ok survey
          else .ok { survey with definition := survey.definition.recordName name binding }
      | none => .ok survey
  | .entity _ ref argument =>
      .ok (if ref.rule.role.isDefinition then
          { survey with definition := survey.definition.recordArgument ref argument }
        else survey)
  | .blank | .comment | .modName none | .descriptionStart false | .otherMetadata _
  | .name none | .text _ => .ok survey

/-- Past one line of a script. -/
def step (survey : Survey) (line : ScriptLine) : Except ModParseError Survey :=
  let refuse (fault : ScriptFault) : ModParseError :=
    { modName := survey.definition.modName
      lineNumber := line.number
      line := line.raw
      fault }
  match classify survey.context line.text with
  | .error error => .error (refuse (.numeral error))
  | .ok classified =>
      match survey.advance line.number classified.meaning with
      | .error refusal => .error (refuse (.transition refusal))
      | .ok next => .ok next

/-- Past some lines of a script. -/
def run (survey : Survey) (lines : List ScriptLine) : Except ModParseError Survey :=
  lines.foldlM step survey

/-- What the mod defines once its last line has been passed. A block that is still open is
ended with a warning. -/
def finish (survey : Survey) : ModDefinition :=
  match survey.context.blockLine with
  | some line =>
      let warned :=
        { survey with
          definition := survey.definition.recordWarning
            ("Block opened at line " ++ Text.decimalString line ++ " is never closed") }
      warned.closeBlock.definition
  | none => survey.definition

end Survey

/-- Read what a mod defines from its script. -/
def ModDefinition.parse (modName : String) (script : List Char) :
    Except ModParseError ModDefinition := do
  let lines := scriptLines script
  let survey ← Survey.run { definition := { modName } } lines
  match survey.context.openDescriptionLine? with
  | some number =>
      .error
        { modName
          lineNumber := number
          line := (lines[number - 1]?.map (·.raw)).getD []
          fault := .descriptionNeverClosed }
  | none => .ok survey.finish

end ModMerge
