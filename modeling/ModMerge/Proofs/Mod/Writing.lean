import ModMerge.Proofs.Mod.MirroredLines
import ModMerge.Proofs.Mod.Walks

/-!
# What has been written

`Renders` relates what renumbering has written of a mod to the survey of the mod: whoever
reads the written lines mirrors the survey. Each line that is written is one more line that
mirrors a step of the survey; comments and blank lines are passed over.
-/

namespace ModMerge

/-- The words that a comment quotes are plain. -/
def LineChange.PlainWords : LineChange → Prop
  | .converted word selectWord _ => Plain word.toList ∧ Plain selectWord.toList
  | .remapped .. | .assigned .. | .damage .. => True

theorem plain_label : ∀ type : EntityType, Plain type.label.toList := by
  intro type
  cases type <;> decide +kernel

theorem plain_remapText (type : EntityType) (old new : Int) :
    Plain (remapText type old new).toList := by
  have first : Plain "Remapped ".toList := by decide +kernel
  have between : Plain " ".toList := by decide +kernel
  have arrow : Plain " -> ".toList := by decide +kernel
  simp only [remapText, String.toList_append, Text.decimalString, String.toList_ofList]
  exact ((((first.append (plain_label type)).append between).append
    (Plain.decimalText old)).append arrow).append (Plain.decimalText new)

theorem LineChange.plain_comment {change : LineChange} (plainWords : change.PlainWords) :
    Plain change.comment.toList := by
  cases change with
  | remapped type old new =>
      change Plain (remapText type old new).toList
      exact plain_remapText type old new
  | assigned type new =>
      have first : Plain "Assigned new ID ".toList := by decide +kernel
      have between : Plain " to implicit ".toList := by decide +kernel
      have last : Plain " definition".toList := by decide +kernel
      change Plain ("Assigned new ID " ++ Text.decimalString new ++ " to implicit " ++ type.label ++
        " definition").toList
      simp only [String.toList_append, Text.decimalString, String.toList_ofList]
      have numbered := first.append (Plain.decimalText new)
      exact ((numbered.append between).append (plain_label type)).append last
  | converted word selectWord new =>
      have first : Plain "Converted #".toList := by decide +kernel
      have between : Plain " to #".toList := by decide +kernel
      have last : Plain " with assigned ID ".toList := by decide +kernel
      change Plain ("Converted #" ++ word ++ " to #" ++ selectWord ++ " with assigned ID " ++
        Text.decimalString new).toList
      simp only [String.toList_append, Text.decimalString, String.toList_ofList]
      exact ((((first.append plainWords.1).append between).append plainWords.2).append last).append
        (Plain.decimalText new)
  | damage type old new =>
      have first : Plain (if type = .enchantment then "Enchantment" else "Summoning").toList := by
        split <;> decide +kernel
      have between : Plain " => ".toList := by decide +kernel
      change Plain ((if type = .enchantment then "Enchantment" else "Summoning") ++ " => " ++
        remapText type old new).toList
      simp only [String.toList_append]
      exact (first.append between).append (plain_remapText type old new)

/-! ### Readable lines -/

/-- What is written for a line can be read again, line by line. `atStart` says that the line may
be the first of a text, from which a byte-order mark would be taken off. -/
structure OutputLine.Readable (atStart : Prop) (output : OutputLine) : Prop where
  plain : ∀ line ∈ output.render, Plain line
  unmarked : atStart → ∀ line ∈ output.render, Unmarked line
  blank : Text.isBlankText output.line = true → output.change = none

theorem not_isBlank_byteOrderMark : Text.isBlank byteOrderMark = false := by
  decide

/-- A byte-order mark is no blank, so indentation never begins with one. -/
theorem unmarked_append {indent rest : Line} (blank : Text.AllBlank indent)
    (unmarked : Unmarked rest) : Unmarked (indent ++ rest) := by
  cases indent with
  | nil => exact unmarked
  | cons first others =>
      intro same
      have isBlank := blank first List.mem_cons_self
      rw [Option.some.inj same, not_isBlank_byteOrderMark] at isBlank
      cases isBlank

theorem OutputLine.readable_of_unchanged {atStart : Prop} {line : Line} (plain : Plain line)
    (unmarked : atStart → Unmarked line) : OutputLine.Readable atStart { line } where
  plain _ member := by
    rw [List.mem_singleton.1 member]
    exact plain
  unmarked first _ member := by
    rw [List.mem_singleton.1 member]
    exact unmarked first
  blank _ := rfl

theorem toList_commentMark (comment : String) : ∃ rest,
    (commentMark ++ " " ++ comment).toList = '-' :: '-' :: rest := by
  rw [String.toList_append, String.toList_append]
  exact ⟨_, rfl⟩

theorem OutputLine.readable_of_changed {atStart : Prop} {line : Line} {change : LineChange}
    (plain : Plain line) (unmarked : Unmarked line) (notBlank : Text.isBlankText line = false)
    (plainWords : change.PlainWords) :
    OutputLine.Readable atStart { line, change := some change } := by
  have indentPlain : Plain (Text.leadingBlanks line) :=
    plain.of_subset (List.takeWhile_prefix _).subset
  have markPlain : Plain (commentMark ++ " ").toList := by decide +kernel
  refine ⟨fun written member => ?_, fun _ written member => ?_, fun blank => ?_⟩
  · rcases List.mem_pair.1 member with rfl | rfl
    · rw [String.toList_append]
      exact indentPlain.append (markPlain.append (LineChange.plain_comment plainWords))
    · exact plain
  · rcases List.mem_pair.1 member with rfl | rfl
    · obtain ⟨rest, comment⟩ := toList_commentMark change.comment
      rw [comment]
      refine unmarked_append (Text.allBlank_leadingBlanks line) fun same => ?_
      exact absurd (Option.some.inj same) (by decide)
    · exact unmarked
  · rw [notBlank] at blank
    cases blank

/-! ### Written lines -/

/-- Whether the last line that is not blank ends a block. -/
def lastEnds (output : List OutputLine) : Bool :=
  (output.reverse.find? fun last => !Text.isBlankText last.line).any
    fun last => isEndLine last.line

theorem lastEnds_concat (output : List OutputLine) (written : OutputLine) :
    lastEnds (output ++ [written]) =
      if Text.isBlankText written.line then lastEnds output else isEndLine written.line := by
  rw [lastEnds, List.reverse_append, List.reverse_singleton, List.singleton_append,
    List.find?_cons]
  cases Text.isBlankText written.line <;> rfl

/-- No block is open in which content could be named. -/
structure ParseContext.NoBlock (context : ParseContext) : Prop where
  blockLine : context.blockLine = none
  active : context.active = none

/-- What has been written of a mod, where `survey` stands for the mod and `start` for whoever
reads what has been written. -/
structure Renders (atStart : Prop) (mapping : ModMapping) (start : Survey)
    (output : List OutputLine) (survey : Survey) (damage : Option Int) : Prop where
  readable : ∀ written ∈ output, written.Readable atStart
  ends : lastEnds output = true → survey.context.NoBlock
  reaches : start.Reaches (output.flatMap OutputLine.render)
    (survey.Mirrors mapping start damage)

namespace Renders

variable {atStart : Prop} {mapping : ModMapping} {start survey next : Survey}
  {output : List OutputLine} {damage nextDamage : Option Int}

theorem nil (consistent : start.context.Consistent) (outside : start.context.inDescription = false)
    (mirrors : survey.Mirrors mapping start damage start) :
    Renders atStart mapping start [] survey damage where
  readable _ member := absurd member List.not_mem_nil
  ends none := by cases none
  reaches := .nil consistent outside mirrors

/-- What has been written stands for the next survey as well, if that differs only in what the
mirror does not show. -/
theorem of_mirrors (renders : Renders atStart mapping start output survey damage)
    (mirrors : ∀ read, survey.Mirrors mapping start damage read →
      next.Mirrors mapping start nextDamage read)
    (ends : survey.context.NoBlock → next.context.NoBlock) :
    Renders atStart mapping start output next nextDamage where
  readable := renders.readable
  ends isEnd := ends (renders.ends isEnd)
  reaches := renders.reaches.mono mirrors

theorem spell_isSome {read : Survey} (mirrors : survey.Mirrors mapping start damage read) :
    read.context.spell.isSome = survey.context.spell.isSome :=
  isSome_of_rel mirrors.spell

/-- The comment on a changed line is passed over. -/
theorem reaches_comment {lines : List Line} {holds : Survey → Prop} {inSpellBlock : Bool}
    (reaches : start.Reaches lines holds)
    (sameBlock : ∀ read, holds read → read.context.spell.isSome = inSpellBlock)
    {indent rest : Line} (blank : Text.AllBlank indent) :
    start.Reaches (lines ++ [indent ++ '-' :: '-' :: rest]) holds :=
  reaches.concat (reads_comment inSpellBlock blank) sameBlock (by simp)
    fun read _ holdsNow _ => ⟨read, rfl, holdsNow⟩

/-- One more line with a meaning. -/
theorem concat (renders : Renders atStart mapping start output survey damage) {written : OutputLine}
    (readable : written.Readable atStart) {meaning : LineMeaning}
    (reads : Reads survey.context.spell.isSome written.line meaning)
    (notBlank : meaning ≠ .blank) (noDescription : meaning ≠ .descriptionStart true)
    (ends : meaning = .blockEnd → next.context.NoBlock)
    (leads : ∀ read, read.context.inSpellBlock = survey.context.spell.isSome →
      survey.Mirrors mapping start damage read → ∀ lineNumber,
      ∃ nextRead, read.advance lineNumber meaning = .ok nextRead ∧
        next.Mirrors mapping start nextDamage nextRead) :
    Renders atStart mapping start (output ++ [written]) next
      nextDamage where
  readable other member := by
    rcases List.mem_append.1 member with before | isLast
    · exact renders.readable other before
    · rw [List.mem_singleton.1 isLast]
      exact readable
  ends isEnd := by
    rw [lastEnds_concat, isBlankText_of_reads reads notBlank] at isEnd
    apply ends
    by_contra notEnd
    have noEnd := isEndLine_of_reads reads notEnd
    rw [if_neg Bool.false_ne_true, noEnd] at isEnd
    cases isEnd
  reaches := by
    have sameBlock : ∀ read, survey.Mirrors mapping start damage read →
        read.context.spell.isSome = survey.context.spell.isSome := fun _ => spell_isSome
    rw [List.flatMap_append, List.flatMap_singleton, OutputLine.render]
    split
    · next change _ =>
        obtain ⟨rest, comment⟩ := toList_commentMark change.comment
        rw [comment, List.append_cons]
        have commented : start.Reaches (output.flatMap OutputLine.render ++
            [Text.leadingBlanks written.line ++ '-' :: '-' :: rest])
            (survey.Mirrors mapping start damage) :=
          reaches_comment renders.reaches sameBlock (Text.allBlank_leadingBlanks written.line)
        exact commented.concat reads sameBlock noDescription leads
    · exact renders.reaches.concat reads sameBlock noDescription leads

/-- One more blank line. -/
theorem concat_blank (renders : Renders atStart mapping start output survey damage) :
    Renders atStart mapping start (output ++ [{ line := [] }]) survey damage where
  readable other member := by
    rcases List.mem_append.1 member with before | isLast
    · exact renders.readable other before
    · rw [List.mem_singleton.1 isLast]
      exact OutputLine.readable_of_unchanged (fun _ member => absurd member List.not_mem_nil)
        (fun _ same => by cases same)
  ends isEnd := by
    rw [lastEnds_concat] at isEnd
    exact renders.ends isEnd
  reaches := by
    rw [List.flatMap_append, List.flatMap_singleton]
    exact renders.reaches.concat (reads_blank survey.context.spell.isSome rfl)
      (fun _ => spell_isSome) (by simp) fun read _ mirrors _ => ⟨read, rfl, mirrors⟩

end Renders

end ModMerge
