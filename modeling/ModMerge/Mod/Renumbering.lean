import ModMerge.Mod.Mapping
import ModMerge.Mod.Survey

/-!
# Renumbering a mod

Once ids have been allocated, a second walk over a script writes the mod's part of the
merged file: what the mod says about itself is left out, ids that moved are replaced, and
definitions without an id get theirs. A `Renumbering` is the state of that walk and
`Renumbering.step` takes it past one line. Each line that changes carries the reason
(`LineChange`), which is written as a comment before it; the damage value of a spell is
changed in place once the effect that gives it a meaning has been read. The walk ends at a line
for which a number of too many digits would have to be written.
-/

namespace ModMerge

/-- Why a line was changed. -/
inductive LineChange where
  /-- The line names content that moved. -/
  | remapped (type : EntityType) (old new : Int)
  /-- The line defined content without an id. -/
  | assigned (type : EntityType) (new : Int)
  /-- The line defined content without an id and now selects it. -/
  | converted (word selectWord : String) (new : Int)
  /-- The line is the damage value of a spell and names content that moved. -/
  | damage (type : EntityType) (old new : Int)
deriving DecidableEq, Repr

/-- What every comment about a changed line begins with. -/
def commentMark : String := "-- MOD MERGER:"

/-- "Label old -> new", the wording for content that moved. -/
def remapText (type : EntityType) (old new : Int) : String :=
  "Remapped " ++ type.label ++ " " ++ Text.decimalString old ++ " -> " ++
    Text.decimalString new

/-- The numbers that are written for a changed line. -/
def LineChange.numbers : LineChange → List Int
  | .remapped _ old new | .damage _ old new => [old, new]
  | .assigned _ new | .converted _ _ new => [new]

/-- The comment on a changed line. -/
def LineChange.comment : LineChange → String
  | .remapped type old new => remapText type old new
  | .assigned type new =>
      "Assigned new ID " ++ Text.decimalString new ++ " to implicit " ++ type.label ++
        " definition"
  | .converted word selectWord new =>
      "Converted #" ++ word ++ " to #" ++ selectWord ++ " with assigned ID " ++
        Text.decimalString new
  | .damage type old new =>
      (if type = .enchantment then "Enchantment" else "Summoning") ++ " => " ++
        remapText type old new

/-- A line of the merged file, with the reason if it was changed. -/
structure OutputLine where
  line : Line
  change : Option LineChange := none
deriving DecidableEq, Repr

/-- The numbers that are put into a line and its comment. -/
def OutputLine.numbers (output : OutputLine) : List Int :=
  output.change.elim [] LineChange.numbers

/-- A line as it is written: after a comment with the same indentation if it was changed. -/
def OutputLine.render (output : OutputLine) : List Line :=
  match output.change with
  | some change =>
      [Text.leadingBlanks output.line ++ (commentMark ++ " " ++ change.comment).toList,
        output.line]
  | none => [output.line]

/-- Why a mod cannot be renumbered. -/
inductive RenumberError where
  /-- A definition without an id was given none; `index` counts those of its type. -/
  | noImplicitId (modName : String) (lineNumber : Nat) (type : EntityType) (index : Nat)
  | transition (refusal : InvalidTransition)
  | numeral (error : Text.NumeralError)
deriving DecidableEq, Repr

/-- The wording for a mod that cannot be renumbered. -/
def RenumberError.message : RenumberError → String
  | .noImplicitId modName lineNumber type index =>
      modName ++ " line " ++ Text.decimalString lineNumber ++
        ": no id assigned to implicit " ++ type.label ++ " #" ++
        Text.decimalString (index + 1)
  | .transition refusal => refusal.message
  | .numeral error => error.message

/-- A directive line with its number replaced; any other line is kept. -/
def replaceArgument (line : Line) (number : Int) : Line :=
  match line with
  | '#' :: body =>
      let word := body.takeWhile Text.isWordChar
      let after := body.dropWhile Text.isWordChar
      let blanks := Text.leadingBlanks after
      match Text.takeNumeral? (Text.trimLeft after) with
      | some numeral =>
          if word.isEmpty || blanks.isEmpty then line
          else '#' :: (word ++ blanks ++ Text.decimalText number ++ numeral.rest)
      | none => line
  | _ => line

/-- What follows the word characters at the start of a directive line. -/
def afterDirectiveWord (line : Line) : Line :=
  (line.drop 1).dropWhile Text.isWordChar

/-- A directive word followed by an id and the rest of a line. -/
def directiveWithId (word : String) (id : Int) (rest : Line) : Line :=
  '#' :: (word.toList ++ ' ' :: Text.decimalText id ++ rest)

/-- Whether a line is the directive that ends a block. -/
def isEndLine (line : Line) : Bool :=
  Text.lowerCase (Text.trim line) == "#end".toList

/-- Content that a number names and that moved. -/
structure RemappedArgument where
  type : EntityType
  old : Int
  new : Int
  /-- The number that names the content where it is now. -/
  argument : Int
deriving DecidableEq, Repr

/-- The content that a number names, if it moved; `negative` says how the number was
written. -/
def ModMapping.remapContent (mapping : ModMapping) (content : EntityId) (negative : Bool) :
    Option RemappedArgument :=
  let new := mapping.newId content.type content.id
  if new = content.id then none
  else some ⟨content.type, content.id, new, if negative then -new else new⟩

/-- The content that the number of a directive names, if it moved. -/
def ModMapping.remapArgument (mapping : ModMapping) (ref : DirectiveRef) (number : Int) :
    Option RemappedArgument :=
  (ref.resolve number).bind fun content => mapping.remapContent content (number < 0)

/-- The content that the damage value of a spell names, if it moved. -/
def ModMapping.remapDamage (mapping : ModMapping) (spell : SpellBlock) :
    Option RemappedArgument :=
  spell.damageTarget.bind fun content =>
    mapping.remapContent content (spell.damage.any (· < 0))

/-- The state of the walk that renumbers a mod. -/
structure Renumbering where
  modName : String
  mapping : ModMapping
  context : ParseContext := {}
  output : Array OutputLine := #[]
  /-- How many definitions without an id have been passed, by type. -/
  implicitCounts : EntityTable Nat := .uniform 0
  /-- Where in the output the damage value stands that waits for its effect. -/
  pendingDamage : Option Nat := none

namespace Renumbering

/-- Write a line. A blank line after another is left out, and so is the end of a block
directly after the end of a block. -/
def emit (renumbering : Renumbering) (line : Line) : Renumbering :=
  if Text.isBlankText line then
    if renumbering.output.back?.any fun last => Text.isBlankText last.line then renumbering
    else { renumbering with output := renumbering.output.push { line := [] } }
  else if isEndLine line &&
      (renumbering.output.findRev? fun last => !Text.isBlankText last.line).any
        fun last => isEndLine last.line then
    renumbering
  else
    { renumbering with output := renumbering.output.push { line } }

/-- Write a changed line. -/
def emitChanged (renumbering : Renumbering) (line : Line) (change : LineChange) : Renumbering :=
  { renumbering with output := renumbering.output.push { line, change := some change } }

/-- Write a line whose number names content, at its new id if it moved. -/
def emitEntity (renumbering : Renumbering) (line : Line) (ref : DirectiveRef) (number : Int) :
    Renumbering :=
  match renumbering.mapping.remapArgument ref number with
  | some remap =>
      renumbering.emitChanged
        (Text.leadingBlanks line ++ replaceArgument (Text.trim line) remap.argument)
        (.remapped remap.type remap.old remap.new)
  | none => renumbering.emit line

/-- A damage line with the number that names its content where it is now. -/
def damageLine (line : Line) (remap : RemappedArgument) : OutputLine :=
  { line := Text.leadingBlanks line ++ replaceArgument (Text.trim line) remap.argument
    change := some (.damage remap.type remap.old remap.new) }

/-- Write a damage line whose spell block has its effect. -/
def emitDamage (renumbering : Renumbering) (line : Line) (spell : SpellBlock) : Renumbering :=
  match renumbering.mapping.remapDamage spell with
  | some remap => { renumbering with output := renumbering.output.push (damageLine line remap) }
  | none => renumbering.emit line

/-- Change the damage line that waits for its effect, now that `spell` has one or its block
ends. -/
def resolvePending (renumbering : Renumbering) (spell : SpellBlock) (position : Nat) :
    Renumbering :=
  let resolved : Renumbering :=
    { renumbering with
      context := { renumbering.context with spell := some { spell with resolved := true } }
      pendingDamage := none }
  match renumbering.mapping.remapDamage spell with
  | some remap =>
      { resolved with
        output := resolved.output.modify position fun waiting => damageLine waiting.line remap }
  | none => resolved

/-- Deal with the damage line that still waits when a spell block ends. -/
def finishSpell (renumbering : Renumbering) : Renumbering :=
  match renumbering.context.spell, renumbering.pendingDamage with
  | some spell, some position =>
      if spell.resolved then { renumbering with pendingDamage := none }
      else renumbering.resolvePending spell position
  | _, _ => { renumbering with pendingDamage := none }

/-- Write the line that opens a block. -/
def emitBlockStart (renumbering : Renumbering) (lineNumber : Nat) (line : Line) (word : String)
    (ref : DirectiveRef) (argument : Argument) : Except RenumberError Renumbering :=
  match argument with
  | .number number => .ok (renumbering.emitEntity line ref number)
  | .name _ => .ok (renumbering.emit line)
  | .absent =>
      if ref.rule.role = .new then
        let index := renumbering.implicitCounts.get ref.type
        match renumbering.mapping.implicitId? ref.type index with
        | none => .error (.noImplicitId renumbering.modName lineNumber ref.type index)
        | some id =>
            let counted :=
              { renumbering with
                implicitCounts := renumbering.implicitCounts.set ref.type (index + 1) }
            let indent := Text.leadingBlanks line
            let rest := afterDirectiveWord (Text.trim line)
            .ok <|
              match ref.rule.implicitSelect with
              | some selectWord =>
                  counted.emitChanged (indent ++ directiveWithId selectWord id rest)
                    (.converted word selectWord id)
              | none =>
                  counted.emitChanged (indent ++ directiveWithId word id rest)
                    (.assigned ref.type id)
      else
        .ok (renumbering.emit line)

/-- The lines that have been written or changed since `before`: the new ones, and the damage line
that was waiting then. -/
def touchedSince (renumbering before : Renumbering) : List OutputLine :=
  (before.pendingDamage.bind fun position => renumbering.output[position]?).toList ++
    (renumbering.output.extract before.output.size renumbering.output.size).toList

/-- Refuse what has been written since `before` if a number in it has too many digits. -/
def requireWritten (renumbering before : Renumbering) : Except RenumberError Unit :=
  (Text.requireWritable ((renumbering.touchedSince before).flatMap OutputLine.numbers)).mapError
    .numeral

/-- Past a line that opens a block. That its numbers cannot be written comes before that the block
cannot be opened. -/
def openBlock (renumbering : Renumbering) (lineNumber : Nat) (line : Line) (word : String)
    (ref : DirectiveRef) (argument : Argument) : Except RenumberError Renumbering := do
  let written ← renumbering.emitBlockStart lineNumber line word ref argument
  let opened ← (written.context.openBlock ref.type none lineNumber).mapError fun refusal =>
    match written.requireWritten renumbering with
    | .ok _ => .transition refusal
    | .error unwritten => unwritten
  return { written with context := opened.noteSelected ref argument }

/-- What has been written once the spell block that is open, if there is one, has ended. -/
def leaveSpell (renumbering : Renumbering) : Renumbering :=
  if renumbering.context.inSpellBlock then renumbering.finishSpell else renumbering

/-- Past the end of the open block. -/
def closeBlock (renumbering : Renumbering) (line : Line) : Renumbering :=
  let finished := renumbering.leaveSpell
  { finished with context := finished.context.closeBlock }.emit line

/-- Past a line of a spell block. -/
def spellLine (renumbering : Renumbering) (line : Line) (directive : SpellDirective)
    (ref : Option DirectiveRef) (argument : Argument) : Renumbering :=
  match renumbering.context.spell with
  | none => renumbering.emit line
  | some before =>
      let spell := before.read directive argument
      let noted := { renumbering with context := { renumbering.context with spell := some spell } }
      match directive with
      | .effect =>
          let written := noted.emit line
          match written.pendingDamage with
          | some position =>
              if spell.ready then written.resolvePending spell position else written
          | none => written
      | .damage | .damageMonster =>
          if argument.number?.isNone then
            noted.emit line
          else if spell.ready then
            let resolved := { spell with resolved := true }
            { noted with context := { noted.context with spell := some resolved } }.emitDamage
              line resolved
          else
            { noted with
              output := noted.output.push { line }
              pendingDamage := some noted.output.size }
      | .copySpell =>
          match ref, argument with
          | some ref, .number number => noted.emitEntity line ref number
          | _, _ => noted.emit line

/-- Past a line of the given meaning. -/
def advance (renumbering : Renumbering) (lineNumber : Nat) (line : Line)
    (meaning : LineMeaning) : Except RenumberError Renumbering :=
  match meaning with
  | .descriptionText closes =>
      .ok (if closes then { renumbering with context := renumbering.context.leaveDescription }
        else renumbering)
  | .descriptionStart true => do
      let context ← (renumbering.context.enterDescription lineNumber).mapError .transition
      return { renumbering with context }
  | .modName _ | .descriptionStart false | .otherMetadata _ => .ok renumbering
  | .blockStart word ref argument => renumbering.openBlock lineNumber line word ref argument
  | .blockEnd => .ok (renumbering.closeBlock line)
  | .spellContent directive ref argument => .ok (renumbering.spellLine line directive ref argument)
  | .entity _ ref (.number number) => .ok (renumbering.emitEntity line ref number)
  | .blank | .comment | .name _ | .entity .. | .text _ => .ok (renumbering.emit line)

/-- Past one line of a script, whatever numbers this writes. -/
def pass (renumbering : Renumbering) (line : ScriptLine) : Except RenumberError Renumbering :=
  let text := Text.trimRight line.text
  match classify renumbering.context text with
  | .error error => .error (.numeral error)
  | .ok classified => renumbering.advance line.number text classified.meaning

/-- Past one line of a script. -/
def step (renumbering : Renumbering) (line : ScriptLine) : Except RenumberError Renumbering := do
  let next ← renumbering.pass line
  next.requireWritten renumbering
  return next

/-- Past some lines of a script. -/
def run (renumbering : Renumbering) (lines : List ScriptLine) : Except RenumberError Renumbering :=
  lines.foldlM step renumbering

end Renumbering

/-- Lines without blank lines at the beginning and at the end. -/
def trimBlankLines (output : List OutputLine) : List OutputLine :=
  let isBlankLine := fun written : OutputLine => Text.isBlankText written.line
  ((output.dropWhile isBlankLine).reverse.dropWhile isBlankLine).reverse

/-- A mod's part of a merged file. -/
structure RenumberedMod where
  modName : String
  output : List OutputLine
deriving DecidableEq, Repr

namespace RenumberedMod

/-- The lines as they are written. -/
def lines (renumbered : RenumberedMod) : List Line :=
  renumbered.output.flatMap OutputLine.render

/-- How many lines were changed. -/
def changedLines (renumbered : RenumberedMod) : Nat :=
  renumbered.output.countP fun written => written.change.isSome

/-- The lines as one text. -/
def text (renumbered : RenumberedMod) : List Char :=
  Text.joinLines renumbered.lines

end RenumberedMod

/-- What the walk has written once the last line has been passed. -/
def Renumbering.finish (renumbering : Renumbering) : RenumberedMod :=
  { modName := renumbering.modName
    output := trimBlankLines renumbering.leaveSpell.output.toList }

/-- Renumber a mod's script for the ids that the mod was assigned. -/
def ModMapping.renumber (mapping : ModMapping) (modName : String) (script : List Char) :
    Except RenumberError RenumberedMod := do
  let renumbering ← Renumbering.run { modName, mapping } (scriptLines script)
  renumbering.leaveSpell.requireWritten renumbering
  return renumbering.finish

end ModMerge
