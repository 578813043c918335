import ModMerge.Proofs.Mod.DamageLines
import ModMerge.Proofs.Mod.MeaningLines

/-!
# The order of lines within a spell block

A spell block may tell its effect, its damage value and the spell that it copies in any order.
Lines that do so can change places within the block: the mod defines the same, and each of the
lines is written as before.
-/

namespace ModMerge

/-! ### Passages -/

/-- The lines of a script around a spell block that is closed. -/
structure SpellPassage where
  before : List MeaningLine
  /-- The line that opens the block. -/
  opening : MeaningLine
  inside : List MeaningLine
  /-- The line that ends the block. -/
  ending : MeaningLine
  after : List MeaningLine

namespace SpellPassage

/-- The lines up to the one that opens the block. -/
def front (passage : SpellPassage) : List MeaningLine :=
  passage.before ++ [passage.opening]

/-- All lines. -/
def lines (passage : SpellPassage) : List MeaningLine :=
  passage.front ++ (passage.inside ++ passage.ending :: passage.after)

/-- The passage is a whole script, with a block in which each part is told once at most. -/
structure IsIn (passage : SpellPassage) (modName : String) (script : List Char) : Prop where
  lines_eq : meaningLines modName script = passage.lines
  opens : passage.opening.meaning.opensSpell = true
  not_end : ∀ line ∈ passage.inside, line.meaning ≠ .blockEnd
  ends : passage.ending.meaning = .blockEnd
  once : LineMeaning.TellOnce (passage.inside.map (·.meaning))

/-- Some lines that tell a spell block something have changed places; all other lines stay. -/
structure Rearranges (inside others : List MeaningLine) : Prop where
  perm : others.Perm inside
  inPlace : List.Forall₂ (fun line other => other = line ∨
    line.meaning.tellsSpell = true ∧ other.meaning.tellsSpell = true) inside others

theorem IsIn.rearranged {passage : SpellPassage} {modName : String}
    {script otherScript : List Char} (isIn : passage.IsIn modName script)
    {inside : List MeaningLine} (rearranges : Rearranges passage.inside inside)
    (lines_eq : meaningLines modName otherScript = ({ passage with inside } : SpellPassage).lines) :
    ({ passage with inside } : SpellPassage).IsIn modName otherScript where
  lines_eq := lines_eq
  opens := isIn.opens
  not_end line member := isIn.not_end line (rearranges.perm.mem_iff.1 member)
  ends := isIn.ends
  once := isIn.once.of_perm (rearranges.perm.map _)

end SpellPassage

/-! ### The block is read alike -/

/-- Lines that tell the block something record nothing, wherever they stand. -/
theorem SpellPassage.Rearranges.foldl_recordInner {inside others : List MeaningLine}
    (rearranges : Rearranges inside others) (active : Option NameBinding)
    (definition : ModDefinition) :
    (others.map (·.meaning)).foldl (·.recordInner active ·) definition =
      (inside.map (·.meaning)).foldl (·.recordInner active ·) definition := by
  obtain ⟨-, inPlace⟩ := rearranges
  induction inPlace generalizing definition with
  | nil => rfl
  | cons here _ inductionHypothesis =>
      rw [List.map_cons, List.map_cons, List.foldl_cons, List.foldl_cons, inductionHypothesis]
      rcases here with rfl | ⟨tells, tellsToo⟩
      · rfl
      · rw [ModDefinition.recordInner_of_tellsSpell tells,
          ModDefinition.recordInner_of_tellsSpell tellsToo]

namespace Survey

variable {survey opened last : Survey} {spell : SpellBlock} {count : Nat}

/-- A spell block that has just been opened has been told nothing. -/
theorem exists_inSpell {front : List MeaningLine} {opening : MeaningLine}
    (consistent : survey.context.Consistent) (opens : opening.meaning.opensSpell = true)
    (reads : survey.Reads count (front ++ [opening]) opened) :
    ∃ spell, opened.context.Consistent ∧ opened.InSpell spell ∧ spell.Waits ∧
      spell.damage = none := by
  obtain ⟨ahead, readsFront, readsOpening⟩ := reads_append.1 reads
  obtain ⟨surveyed, next, ofStep, sameMeaning, readsNone⟩ := exists_reads_cons readsOpening
  obtain rfl : next = opened := Except.ok.inj readsNone.ran
  have consistentNext := consistent_step (consistent_run consistent readsFront.ran) ofStep.stepped
  obtain ⟨spell, inSpell, waits, noDamage⟩ :=
    exists_spell_opened (sameMeaning ▸ opens) ofStep.advanced
  have state : next.context.state = .inSpellBlock := by
    rw [consistentNext.spell_iff, inSpell]
    rfl
  exact ⟨spell, consistentNext, ⟨state, consistentNext.spell_activeType state, inSpell⟩, waits,
    noDamage⟩

/-- Lines within a block that have changed places are read as before. -/
theorem InSpell.exists_reads_rearranged {inside others : List MeaningLine}
    (inSpell : opened.InSpell spell) (waits : spell.Waits) (noDamage : spell.damage = none)
    (once : LineMeaning.TellOnce (inside.map (·.meaning)))
    (notEnd : ∀ line ∈ inside, line.meaning ≠ .blockEnd)
    (rearranges : SpellPassage.Rearranges inside others)
    (reads : opened.Reads (count + 1) inside last) :
    ∃ otherLast, opened.Reads (count + 1) others otherLast ∧ last.Adds none otherLast := by
  have readsInner : ∀ line ∈ inside, ReadsInner (normalizeLine false line.raw) line.meaning := by
    rw [← forall₂_numberedLines_iff count, ← reads.meanings]
    refine inSpell.readsInner_of_run reads.ran fun surveyed member => ?_
    have isMeaning : surveyed.meaning ∈ inside.map (·.meaning) :=
      reads.meanings ▸ List.mem_map_of_mem member
    obtain ⟨line, isInside, same⟩ := List.mem_map.1 isMeaning
    exact same ▸ notEnd line isInside
  have othersReadInner := (forall₂_numberedLines_iff count others).2 fun line member =>
    readsInner line (rearranges.perm.mem_iff.1 member)
  have perm := rearranges.perm.map (·.meaning)
  have nothingDealt := SpellBlock.dealt_of_waits waits
  have nothingFound : spell.dealt.foundTarget = none := by
    rw [nothingDealt, SpellBlock.foundTarget, waits.unresolved, if_neg Bool.false_ne_true]
  have adds : opened.definition.Adds spell.dealt.foundTarget opened.definition :=
    nothingFound ▸ .refl opened.definition
  have inSpellDealt : opened.InSpell spell.dealt := nothingDealt.symm ▸ inSpell
  obtain ⟨same, ran, -, context, addsSame⟩ :=
    inSpellDealt.exists_run_inner ((forall₂_numberedLines_iff count inside).2 readsInner)
      (SpellBlock.toldOnce_of_tellOnce waits noDamage once) adds
  obtain rfl := Except.ok.inj (ran.symm.trans reads.ran)
  obtain ⟨otherLast, otherRan, meanings, otherContext, addsOther⟩ :=
    inSpellDealt.exists_run_inner othersReadInner
      (SpellBlock.toldOnce_of_tellOnce waits noDamage (once.of_perm perm)) adds
  have told := SpellBlock.foldl_told_eq_of_perm perm once spell
  rw [told] at otherContext addsOther
  rw [rearranges.foldl_recordInner] at addsOther
  exact ⟨otherLast, ⟨otherRan, meanings⟩, otherContext.trans context.symm,
    addsSame.of_same addsOther⟩

end Survey

/-! ### The lines are written alike -/

/-- How a damage line is written depends on what its value refers to and on its sign. -/
theorem ModMapping.damageLine_congr {mapping : ModMapping} {settled other : SpellBlock}
    (sameTarget : other.damageTarget = settled.damageTarget)
    (sameDamage : other.damage = settled.damage) (line : Line) :
    mapping.damageLine line (some other) = mapping.damageLine line (some settled) := by
  rw [damageLine, damageLine, Option.bind_some, Option.bind_some, remapDamage, sameTarget,
    sameDamage, remapDamage]

/-- Of a line that tells the block something the same is made, wherever in the block it stands. -/
theorem ModMapping.draft_eq_of_perm {mapping : ModMapping} {survey otherSurvey : Survey}
    {spell : SpellBlock} {text : Line} {meaning : LineMeaning}
    {front back otherFront otherBack : List LineMeaning}
    (perm : (otherFront ++ meaning :: otherBack).Perm (front ++ meaning :: back))
    (waits : spell.Waits) (noDamage : spell.damage = none)
    (once : LineMeaning.TellOnce (front ++ meaning :: back))
    (notEnd : ∀ inner ∈ front ++ meaning :: back, inner ≠ .blockEnd)
    (inSpell : survey.context.spell = some (front.foldl SpellBlock.after spell))
    (otherInSpell : otherSurvey.context.spell = some (otherFront.foldl SpellBlock.after spell))
    (tells : meaning.tellsSpell = true) (later otherLater : List LineMeaning) :
    mapping.draft ⟨otherSurvey, text, meaning⟩ (otherBack ++ .blockEnd :: otherLater) =
      mapping.draft ⟨survey, text, meaning⟩ (back ++ .blockEnd :: later) := by
  cases gives : meaning.damage? with
  | some damage =>
      obtain ⟨directive, ref, isDamage, rfl⟩ := LineMeaning.damage?_eq_some_iff.1 gives
      obtain ⟨settled, settles, settledDamage, target⟩ :=
        SpellBlock.exists_settlement_of_tellOnce waits noDamage isDamage once
          (fun inner member => notEnd inner (by simp [member])) later
      obtain ⟨other, otherSettles, otherDamage, otherTarget⟩ :=
        SpellBlock.exists_settlement_of_tellOnce waits noDamage isDamage (once.of_perm perm)
          (fun inner member => notEnd inner (perm.mem_iff.1 (by simp [member]))) otherLater
      have sameTarget : other.damageTarget = settled.damageTarget := by
        rw [target, otherTarget, SpellBlock.foldl_after_eq_of_perm perm waits noDamage once]
      rw [mapping.draft_damage otherSurvey text isDamage, mapping.draft_damage survey text isDamage,
        inSpell, otherInSpell, Option.bind_some, Option.bind_some, settles, otherSettles,
        damageLine_congr sameTarget (otherDamage.trans settledDamage.symm)]
  | none =>
      cases meaning with
      | spellContent directive ref argument =>
          cases directive with
          | effect => rfl
          | copySpell => cases ref <;> cases argument <;> rfl
          | damage | damageMonster =>
              rw [LineMeaning.tellsSpell, gives] at tells
              cases tells
      | _ => cases tells

namespace SpellPassage

/-- The passage is a whole script; up to the line that opens the block, `opened` has read it. -/
structure IsOpened (passage : SpellPassage) (modName : String) (script : List Char)
    (opened : Survey) (spell : SpellBlock) : Prop where
  isIn : passage.IsIn modName script
  raws : Text.lines script = passage.lines.map (·.raw)
  readsFront : ({ definition := { modName } } : Survey).Reads 0 passage.front opened
  readsRest : ∃ last, opened.Reads passage.front.length
    (passage.inside ++ passage.ending :: passage.after) last
  consistent : opened.context.Consistent
  inSpell : opened.context.spell = some spell

namespace IsOpened

variable {passage : SpellPassage} {modName : String} {script : List Char} {opened : Survey}
  {spell : SpellBlock} {front back : List MeaningLine} {line : MeaningLine}

theorem surveyedLines_eq (isOpened : passage.IsOpened modName script opened spell) :
    surveyedLines modName script =
      ({ definition := { modName } } : Survey).readings
          (numberedLines 0 (passage.front.map (·.raw))) ++
        opened.readings (numberedLines passage.front.length
          ((passage.inside ++ passage.ending :: passage.after).map (·.raw))) := by
  rw [surveyedLines, scriptLines_eq_numberedLines, isOpened.raws, lines, List.map_append,
    numberedLines_append, Survey.readings_append isOpened.readsFront.ran, Nat.zero_add,
    List.length_map]

/-- A line within the block is read where the block has been told what stands before it. -/
theorem exists_surveyed (isOpened : passage.IsOpened modName script opened spell)
    (split : passage.inside = front ++ line :: back) :
    ∃ earlier survey later, surveyedLines modName script = earlier ++
        ⟨survey, Text.trimRight (normalizeLine false line.raw), line.meaning⟩ :: later ∧
      earlier.length = passage.front.length + front.length ∧
      survey.context.spell = some ((front.map (·.meaning)).foldl SpellBlock.after spell) ∧
      later.map (·.meaning) =
        back.map (·.meaning) ++ .blockEnd :: passage.after.map (·.meaning) := by
  obtain ⟨last, readsRest⟩ := isOpened.readsRest
  have readings := isOpened.surveyedLines_eq
  rw [split, List.append_assoc, List.cons_append] at readsRest readings
  obtain ⟨inside, ⟨survey, text, meaning⟩, later, readingsRest, insideMeanings, rfl, rfl,
    laterMeanings⟩ := readsRest.exists_readings_split
  have spellBefore := Survey.spell_before isOpened.consistent isOpened.inSpell readingsRest
    fun earlier member => by
      have isMeaning : earlier.meaning ∈ front.map (·.meaning) :=
        insideMeanings ▸ List.mem_map_of_mem member
      obtain ⟨inner, isInside, same⟩ := List.mem_map.1 isMeaning
      exact same ▸ isOpened.isIn.not_end inner (by simp [split, isInside])
  have notFirst : (passage.front.length + front.length == 0) = false := by
    simp [SpellPassage.front]
  have sameLength : inside.length = front.length := by
    rw [← List.length_map (·.meaning), insideMeanings, List.length_map]
  rw [notFirst] at readingsRest
  rw [insideMeanings] at spellBefore
  rw [List.map_append, List.map_cons, isOpened.isIn.ends] at laterMeanings
  rw [readingsRest, ← List.append_assoc] at readings
  refine ⟨_, survey, later, readings, ?_, spellBefore, laterMeanings⟩
  rw [List.length_append, Survey.length_readings isOpened.readsFront.ran, length_numberedLines,
    List.length_map, sameLength]

/-- A line that tells the block something is written, and as it is drafted. -/
theorem exists_written (isOpened : passage.IsOpened modName script opened spell)
    {mapping : ModMapping} {renumbered : RenumberedMod} {transcript : List RenumberedLine}
    (isTranscript : IsTranscript transcript modName script renumbered)
    (fits : EachFits mapping transcript) (split : passage.inside = front ++ line :: back)
    (tells : line.meaning.tellsSpell = true) :
    ∃ survey written, survey.context.spell =
        some ((front.map (·.meaning)).foldl SpellBlock.after spell) ∧
      (transcript[passage.front.length + front.length]?.bind (·.written)) = some written ∧
      mapping.draft ⟨survey, Text.trimRight (normalizeLine false line.raw), line.meaning⟩
        (back.map (·.meaning) ++ .blockEnd :: passage.after.map (·.meaning)) = some written := by
  obtain ⟨earlier, survey, later, surveyed, place, spellBefore, laterMeanings⟩ :=
    isOpened.exists_surveyed split
  obtain ⟨directive, ref, argument, isContent⟩ := LineMeaning.exists_spellContent tells
  obtain ⟨written, isWritten, drafted⟩ :=
    fits.exists_written (isTranscript.reads.trans surveyed) (by rw [isContent]; rfl)
      (by simp [isContent]) (by simp [isContent])
  exact ⟨survey, written, spellBefore, place ▸ isWritten, laterMeanings ▸ drafted⟩

end IsOpened
end SpellPassage

/-! ### Whole mods -/

/-- Where a value stands in a list, the list can be split. -/
theorem exists_split_of_getElem? {Value : Type} {values : List Value} {place : Nat} {value : Value}
    (stands : values[place]? = some value) :
    ∃ front back, values = front ++ value :: back ∧ front.length = place := by
  obtain ⟨bound, rfl⟩ := List.getElem?_eq_some_iff.1 stands
  refine ⟨values.take place, values.drop (place + 1), ?_, ?_⟩
  · rw [List.getElem_cons_drop, List.take_append_drop]
  · rw [List.length_take, Nat.min_eq_left (Nat.le_of_lt bound)]

/-- A passage whose lines have changed places is read from where the block is opened, and what has
been read in the end is the same. -/
theorem SpellPassage.exists_reads_rearranged {passage : SpellPassage} {start last : Survey}
    (consistent : start.context.Consistent) (opens : passage.opening.meaning.opensSpell = true)
    (notEnd : ∀ line ∈ passage.inside, line.meaning ≠ .blockEnd)
    (once : LineMeaning.TellOnce (passage.inside.map (·.meaning)))
    (reads : start.Reads 0 passage.lines last) {inside : List MeaningLine}
    (rearranges : Rearranges passage.inside inside) :
    ∃ opened spell otherLast, start.Reads 0 passage.front opened ∧
      opened.context.Consistent ∧ opened.context.spell = some spell ∧ spell.Waits ∧
      spell.damage = none ∧
      opened.Reads passage.front.length (passage.inside ++ passage.ending :: passage.after) last ∧
      opened.Reads passage.front.length (inside ++ passage.ending :: passage.after) otherLast ∧
      last.Adds none otherLast := by
  have follows : passage.front.length = passage.before.length + 1 := by
    simp [front]
  obtain ⟨opened, readsFront, readsRest⟩ := Survey.reads_append.1 reads
  obtain ⟨spell, consistentOpened, inSpell, waits, noDamage⟩ :=
    Survey.exists_inSpell consistent opens readsFront
  rw [Nat.zero_add] at readsRest
  obtain ⟨closing, readsInside, readsAfter⟩ := Survey.reads_append.1 readsRest
  rw [follows] at readsInside
  obtain ⟨otherClosing, readsOthers, adds⟩ :=
    inSpell.exists_reads_rearranged waits noDamage once notEnd rearranges readsInside
  obtain ⟨otherLast, ran, addsLast, meanings⟩ := adds.exists_run readsAfter.ran
  rw [← follows] at readsOthers
  refine ⟨opened, spell, otherLast, readsFront, consistentOpened, inSpell.spell, waits, noDamage,
    readsRest, Survey.reads_append.2 ⟨otherClosing, readsOthers, ?_⟩, addsLast⟩
  rw [rearranges.perm.length_eq]
  exact ⟨ran, meanings.trans readsAfter.meanings⟩

/-- Lines that tell a spell block its effect, its damage value and the spell that it copies, at most
one of each, may change places within the block. The mod defines the same, and each of the lines is
written as before. -/
theorem order_within_spell_does_not_matter {modName : String} {script otherScript : List Char}
    {definition : ModDefinition} (parsed : ModDefinition.parse modName script = .ok definition)
    {passage : SpellPassage} (isIn : passage.IsIn modName script) {inside : List MeaningLine}
    (rearranges : SpellPassage.Rearranges passage.inside inside)
    (otherRaws : Text.lines otherScript =
      ({ passage with inside } : SpellPassage).lines.map (·.raw)) :
    (∃ other, ModDefinition.parse modName otherScript = .ok other ∧
      definition.SameRecords other) ∧
    ∀ mapping : ModMapping,
      (∀ type, definition.nextImplicitIndex type ≤ (mapping.implicitIds type).length) →
      ∃ renumbered otherRenumbered transcript otherTranscript,
        mapping.RenumbersTo modName script renumbered ∧
        IsTranscript transcript modName script renumbered ∧
        mapping.RenumbersTo modName otherScript otherRenumbered ∧
        IsTranscript otherTranscript modName otherScript otherRenumbered ∧
        ∀ (place otherPlace : Nat) line, passage.inside[place]? = some line →
          inside[otherPlace]? = some line → line.meaning.tellsSpell = true →
          ∃ written,
            (transcript[passage.front.length + place]?.bind (·.written)) = some written ∧
            (otherTranscript[passage.front.length + otherPlace]?.bind (·.written)) =
              some written := by
  obtain ⟨last, surveyed, outside, rfl⟩ := ModDefinition.parse_eq_ok_iff.1 parsed
  obtain ⟨raws, reads⟩ := meaningLines_eq_iff.1 ⟨surveyed, isIn.lines_eq⟩
  obtain ⟨opened, spell, otherLast, readsFront, consistent, inSpell, waits, noDamage, readsRest,
    otherRest, adds⟩ := SpellPassage.exists_reads_rearranged ParseContext.consistent_initial
      isIn.opens isIn.not_end isIn.once reads rearranges
  have readsOther : ({ definition := { modName } } : Survey).Reads 0
      ({ passage with inside } : SpellPassage).lines otherLast :=
    Survey.reads_append.2 ⟨opened, readsFront, (Nat.zero_add _).symm ▸ otherRest⟩
  obtain ⟨otherSurveyed, otherLines⟩ := meaningLines_eq_iff.2 ⟨otherRaws, readsOther⟩
  have isOpened : passage.IsOpened modName script opened spell :=
    ⟨isIn, raws, readsFront, ⟨last, readsRest⟩, consistent, inSpell⟩
  have isOtherOpened :
      ({ passage with inside } : SpellPassage).IsOpened modName otherScript opened spell :=
    ⟨isIn.rearranged rearranges otherLines, otherRaws, readsFront, ⟨otherLast, otherRest⟩,
      consistent, inSpell⟩
  have otherParsed : ModDefinition.parse modName otherScript = .ok otherLast.finish :=
    ModDefinition.parse_eq_ok_iff.2 ⟨otherLast, otherSurveyed, adds.context ▸ outside, rfl⟩
  refine ⟨⟨otherLast.finish, otherParsed, adds.finish.sameRecords_of_parse parsed otherParsed⟩,
    fun mapping provided => ?_⟩
  obtain ⟨renumbered, transcript, renumbersTo, isTranscript, fits⟩ :=
    exists_transcript parsed provided
  obtain ⟨otherRenumbered, otherTranscript, otherRenumbersTo, isOtherTranscript, otherFits⟩ :=
    exists_transcript otherParsed fun type => (adds.finish.implicitCount type).symm ▸ provided type
  refine ⟨renumbered, otherRenumbered, transcript, otherTranscript, renumbersTo, isTranscript,
    otherRenumbersTo, isOtherTranscript, fun place otherPlace line stands otherStands tells => ?_⟩
  obtain ⟨front, back, split, rfl⟩ := exists_split_of_getElem? stands
  obtain ⟨otherFront, otherBack, otherSplit, rfl⟩ := exists_split_of_getElem? otherStands
  obtain ⟨survey, written, surveySpell, isWritten, drafted⟩ :=
    isOpened.exists_written isTranscript fits split tells
  obtain ⟨otherSurvey, otherWritten, otherSpell, isOtherWritten, otherDrafted⟩ :=
    isOtherOpened.exists_written isOtherTranscript otherFits otherSplit tells
  have perm := rearranges.perm.map (·.meaning)
  have once := isIn.once
  have notEnd : ∀ inner ∈ passage.inside.map (·.meaning), inner ≠ .blockEnd :=
    List.forall_mem_map.2 isIn.not_end
  simp only [split, otherSplit, List.map_append, List.map_cons] at perm once notEnd
  rw [ModMapping.draft_eq_of_perm perm waits noDamage once notEnd surveySpell otherSpell tells
    (passage.after.map (·.meaning)), drafted] at otherDrafted
  obtain rfl := Option.some.inj otherDrafted
  exact ⟨written, isWritten, isOtherWritten⟩

/-- A summoning spell that tells its damage value first. -/
def damageFirstScript : List Char :=
  "#newspell 2000\n#damage 5000\n#name \"Swarm\"\n#copyspell 721\n#effect 1\n#end".toList

/-- The same spell with its effect first. -/
def effectFirstScript : List Char :=
  "#newspell 2000\n#effect 1\n#name \"Swarm\"\n#damage 5000\n#copyspell 721\n#end".toList

def swarmDamage : MeaningLine :=
  ⟨"#damage 5000".toList, .spellContent .damage none (.number 5000)⟩

def swarmName : MeaningLine :=
  ⟨"#name \"Swarm\"".toList, .name (some "Swarm")⟩

def swarmCopy : MeaningLine :=
  ⟨"#copyspell 721".toList, .spellContent .copySpell
    (some ⟨.spell, { role := .usage, words := ["copyspell", "nextspell"] }⟩) (.number 721)⟩

def swarmEffect : MeaningLine :=
  ⟨"#effect 1".toList, .spellContent .effect none (.number 1)⟩

def damageFirstPassage : SpellPassage where
  before := []
  opening := ⟨"#newspell 2000".toList, .blockStart "newspell"
    ⟨.spell,
      { role := .new
        words := ["newspell"]
        opensBlock := true
        implicitSelect := some "selectspell" }⟩ (.number 2000)⟩
  inside := [swarmDamage, swarmName, swarmCopy, swarmEffect]
  ending := ⟨"#end".toList, .blockEnd⟩
  after := []

/-- The spell summons a monster that moves, and its damage line is written alike in both orders. -/
theorem order_within_spell_does_not_matter_damageFirstScript :
    ∃ definition, ModDefinition.parse "Spells" damageFirstScript = .ok definition ∧
      damageFirstPassage.IsIn "Spells" damageFirstScript ∧
      SpellPassage.Rearranges damageFirstPassage.inside
        [swarmEffect, swarmName, swarmDamage, swarmCopy] ∧
      Text.lines effectFirstScript = ({ damageFirstPassage with
        inside := [swarmEffect, swarmName, swarmDamage, swarmCopy] } : SpellPassage).lines.map
          (·.raw) ∧
      (∀ type, definition.nextImplicitIndex type ≤
        (movedMonsterMapping.implicitIds type).length) ∧
      (∃ other, ModDefinition.parse "Spells" effectFirstScript = .ok other ∧
        definition.SameRecords other) ∧
      ∃ renumbered otherRenumbered transcript otherTranscript,
        movedMonsterMapping.renumber "Spells" damageFirstScript = .ok renumbered ∧
        IsTranscript transcript "Spells" damageFirstScript renumbered ∧
        movedMonsterMapping.renumber "Spells" effectFirstScript = .ok otherRenumbered ∧
        IsTranscript otherTranscript "Spells" effectFirstScript otherRenumbered ∧
        ∃ written, (transcript[1]?.bind (·.written)) = some written ∧
          (otherTranscript[3]?.bind (·.written)) = some written := by
  obtain ⟨definition, parsed, provided⟩ : ∃ definition,
      ModDefinition.parse "Spells" damageFirstScript = .ok definition ∧
        ∀ type, definition.nextImplicitIndex type ≤
          (movedMonsterMapping.implicitIds type).length :=
    exists_parse_of_any (by decide +kernel)
  have isIn : damageFirstPassage.IsIn "Spells" damageFirstScript :=
    { lines_eq := by decide +kernel
      opens := by decide
      not_end := by decide
      ends := rfl
      once := ⟨by decide, by decide, by decide⟩ }
  have rearranges : SpellPassage.Rearranges damageFirstPassage.inside
      [swarmEffect, swarmName, swarmDamage, swarmCopy] :=
    { perm := by decide
      inPlace := .cons (.inr ⟨rfl, rfl⟩) <| .cons (.inl rfl) <| .cons (.inr ⟨rfl, rfl⟩) <|
        .cons (.inr ⟨rfl, rfl⟩) .nil }
  have otherRaws : Text.lines effectFirstScript = ({ damageFirstPassage with
      inside := [swarmEffect, swarmName, swarmDamage, swarmCopy] } : SpellPassage).lines.map
        (·.raw) := by
    decide +kernel
  obtain ⟨sameRecords, writes⟩ :=
    order_within_spell_does_not_matter parsed isIn rearranges otherRaws
  obtain ⟨renumbered, otherRenumbered, transcript, otherTranscript, renumbersTo, isTranscript,
    otherRenumbersTo, isOtherTranscript, alike⟩ := writes movedMonsterMapping provided
  exact ⟨definition, parsed, isIn, rearranges, otherRaws, provided, sameRecords, renumbered,
    otherRenumbered, transcript, otherTranscript,
    renumbersTo.eq_ok_of_isOk (by decide +kernel), isTranscript,
    otherRenumbersTo.eq_ok_of_isOk (by decide +kernel), isOtherTranscript,
    alike 0 2 swarmDamage rfl rfl rfl⟩

end ModMerge
