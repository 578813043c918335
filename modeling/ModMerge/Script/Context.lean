import ModMerge.Mod.NameBinding
import ModMerge.SpellEffect
import ModMerge.Text.Numeral

/-!
# Where a walk through a script stands

The meaning of a line depends on the lines before it: a description may run over many
lines, a name belongs to the block that was opened last, and within a spell block the
effect decides what the damage value is. A `ParseContext` is what a walk remembers of the
lines it has passed. Reading a mod and renumbering it walk with the same transitions, and
only two of these can be refused: opening a description anywhere but at rest, and opening
a block inside a spell block.
-/

namespace ModMerge

/-- What surrounds the next line. -/
inductive ParseState where
  /-- Top level, or a block of another type than spell. -/
  | idle
  /-- A description whose closing quote has not come yet. -/
  | inDescription
  /-- A spell block. -/
  | inSpellBlock
deriving DecidableEq, Repr

/-- The name of a state in dumps. -/
def ParseState.name : ParseState → String
  | .idle => "IDLE"
  | .inDescription => "IN_DESCRIPTION"
  | .inSpellBlock => "IN_SPELL_BLOCK"

/-- The name of a state in messages. -/
def ParseState.lowerName : ParseState → String
  | .idle => "idle"
  | .inDescription => "in_description"
  | .inSpellBlock => "in_spell_block"

/-- Another spell that a spell block names by id or by name. -/
structure SpellReference where
  id : Option Int := none
  name : Option String := none
deriving DecidableEq, Repr

/-- The lines of a spell block that give its damage value a meaning. -/
structure SpellBlock where
  /-- The line that opened the block. -/
  startLine : Nat
  /-- The spell that the block edits. -/
  selected : SpellReference := {}
  /-- The spell that the block copies. -/
  copied : SpellReference := {}
  effect : Option Int := none
  damage : Option Int := none
  /-- Whether the damage value has been dealt with. -/
  resolved : Bool := false
deriving DecidableEq, Repr

namespace SpellBlock

/-- Whether the block edits or copies a well-known summoning spell. -/
def isKnownSummon (spell : SpellBlock) : Bool :=
  isKnownSummonSpell spell.selected.id spell.selected.name ||
    isKnownSummonSpell spell.copied.id spell.copied.name

/-- Effect and damage have both been seen and not been dealt with. -/
def ready (spell : SpellBlock) : Bool :=
  !spell.resolved && spell.effect.isSome && spell.damage.isSome

/-- The content that the damage value of the block refers to. -/
def damageTarget (spell : SpellBlock) : Option EntityId :=
  spell.damage.bind fun damage => interpretDamage spell.effect damage spell.isKnownSummon

end SpellBlock

/-- A line that the state of the walk does not admit. -/
inductive InvalidTransition where
  /-- A description that stays open begins inside a description or a spell block. -/
  | descriptionInside (state : ParseState)
  /-- A block begins inside the spell block that this line opened. -/
  | blockInsideSpell (startLine : Nat)
deriving DecidableEq, Repr

/-- The wording of a refused line. -/
def InvalidTransition.message : InvalidTransition → String
  | .descriptionInside state => "#description inside " ++ state.lowerName
  | .blockInsideSpell startLine =>
      "block opened while the spell block from line " ++ Text.decimalString startLine ++
        " is still open"

/-- What a walk remembers of the lines before. -/
structure ParseContext where
  state : ParseState := .idle
  /-- What a name given in the open block is bound to. -/
  active : Option NameBinding := none
  /-- The type of the open block. -/
  activeType : Option EntityType := none
  /-- The spell block that is being collected. -/
  spell : Option SpellBlock := none
  /-- The line that opened the open block. -/
  blockLine : Option Nat := none
  /-- The line that began the open description. -/
  descriptionLine : Option Nat := none
deriving DecidableEq, Repr

namespace ParseContext

def inDescription (context : ParseContext) : Bool :=
  context.state == .inDescription

def inSpellBlock (context : ParseContext) : Bool :=
  context.state == .inSpellBlock

def inBlock (context : ParseContext) : Bool :=
  context.blockLine.isSome

/-- The line that began the description that is still open. -/
def openDescriptionLine? (context : ParseContext) : Option Nat :=
  if context.inDescription then context.descriptionLine else none

/-- Begin a description that stays open at the end of its line. -/
def enterDescription (context : ParseContext) (line : Nat) :
    Except InvalidTransition ParseContext :=
  if context.state = .idle then
    .ok { context with state := .inDescription, descriptionLine := some line }
  else
    .error (.descriptionInside context.state)

/-- End the open description. -/
def leaveDescription (context : ParseContext) : ParseContext :=
  { context with state := .idle, descriptionLine := none }

/-- Open a block. A block of another type than spell may still be open; it is then left
without an end, and `context.blockLine` tells where it began. -/
def openBlock (context : ParseContext) (type : EntityType) (binding : Option NameBinding)
    (line : Nat) : Except InvalidTransition ParseContext :=
  if context.state = .inSpellBlock then
    .error (.blockInsideSpell ((context.spell.map (·.startLine)).getD line))
  else
    let opened : ParseContext :=
      { context with active := binding, activeType := some type, blockLine := some line }
    .ok <| if type = .spell then
        { opened with state := .inSpellBlock, spell := some { startLine := line } }
      else opened

/-- Close whatever block is open; the spell block that this finishes is `context.spell`. -/
def closeBlock (context : ParseContext) : ParseContext :=
  { descriptionLine := context.descriptionLine }

/-- Change the spell block that is being collected. -/
def modifySpell (context : ParseContext) (change : SpellBlock → SpellBlock) : ParseContext :=
  { context with spell := context.spell.map change }

/-- The consistency that every walk keeps: a spell block is present exactly in the state
for it, within an open block of type spell, and a description line exactly while a
description is open. -/
structure Consistent (context : ParseContext) : Prop where
  spell_iff : context.state = .inSpellBlock ↔ context.spell.isSome
  spell_activeType : context.state = .inSpellBlock → context.activeType = some .spell
  spell_blockLine : context.state = .inSpellBlock → context.blockLine.isSome
  description_iff : context.state = .inDescription ↔ context.descriptionLine.isSome

/-- A walk begins consistently. -/
theorem consistent_initial : Consistent {} where
  spell_iff := by simp
  spell_activeType := by simp
  spell_blockLine := by simp
  description_iff := by simp

end ParseContext
end ModMerge
