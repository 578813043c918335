import ModMerge.Proofs.Text.LineBreaks
import ModMerge.Proofs.Text.Numerals
import ModMerge.Script.Line

/-!
# Plain lines

The lines of a script contain no line breaks, and none of the characters that reading
corrects. Such lines are called plain; joined into a script they are its lines again, unless
a byte-order mark would be taken off the first of them.
-/

namespace ModMerge

/-- Reading a script leaves the line as it is. -/
def Plain (line : Line) : Prop :=
  ∀ character ∈ line, Text.isLineBreak character = false ∧ correctChar character = character

instance (line : Line) : Decidable (Plain line) :=
  List.decidableBAll _ line

/-- A line that is not taken for the beginning of a text with a byte-order mark. -/
def Unmarked (line : Line) : Prop :=
  byteOrderMark ∉ line.head?

instance (line : Line) : Decidable (Unmarked line) :=
  inferInstanceAs (Decidable (byteOrderMark ∉ line.head?))

theorem plain_of_isDigit {character : Char} (digit : character.isDigit = true) :
    Text.isLineBreak character = false ∧ correctChar character = character := by
  have table : ∀ code < 0x3a, 0x30 ≤ code →
      Text.isLineBreak (Char.ofNat code) = false ∧
        correctChar (Char.ofNat code) = Char.ofNat code := by
    decide
  have bounds : 48 ≤ character.toNat ∧ character.toNat ≤ 57 := by
    simpa [Char.isDigit, UInt32.le_iff_toNat_le] using digit
  rw [← Char.ofNat_toNat character]
  exact table _ (by omega) bounds.1

namespace Plain

variable {first second line : Line}

theorem unbroken (plain : Plain line) : Text.Unbroken line :=
  fun character member => (plain character member).1

theorem map_correctChar (plain : Plain line) : line.map correctChar = line := by
  have same : line.map correctChar = line.map id :=
    List.map_congr_left fun character member => (plain character member).2
  rw [same, List.map_id]

theorem append (plainFirst : Plain first) (plainSecond : Plain second) :
    Plain (first ++ second) := by
  intro character member
  exact (List.mem_append.1 member).elim (plainFirst character) (plainSecond character)

theorem of_subset (plain : Plain line) (inside : first ⊆ line) : Plain first :=
  fun character member => plain character (inside member)

theorem decimalText (number : Int) : Plain (Text.decimalText number) := by
  intro character member
  rcases Text.mem_decimalText member with rfl | digit
  · decide
  · exact plain_of_isDigit digit

end Plain

/-- A corrected character needs no further correction, and it breaks no line that it did not
break before. -/
theorem plain_correctChar {character : Char} (keeps : Text.isLineBreak character = false) :
    Text.isLineBreak (correctChar character) = false ∧
      correctChar (correctChar character) = correctChar character := by
  rw [correctChar]
  split
  · decide
  split
  · decide
  · next notQuote notSpace =>
      refine ⟨keeps, ?_⟩
      rw [correctChar, if_neg notQuote, if_neg notSpace]

theorem normalizeLine_of_unmarked {line : Line} (first : Bool) (unmarked : Unmarked line) :
    normalizeLine first line = line.map correctChar := by
  cases line with
  | nil => rfl
  | cons character rest =>
      have notMark : ¬ (first && character == byteOrderMark) = true := by
        rw [Bool.and_eq_true, beq_iff_eq]
        rintro ⟨-, rfl⟩
        exact unmarked rfl
      simp only [normalizeLine, if_neg notMark]

theorem exists_of_mem_scriptLines {script : List Char} {line : ScriptLine}
    (member : line ∈ scriptLines script) :
    ∃ raw ∈ Text.lines script, ∃ first, line.text = normalizeLine first raw := by
  obtain ⟨index, bound, rfl⟩ := List.mem_mapIdx.1 member
  exact ⟨_, List.getElem_mem bound, _, rfl⟩

/-- The lines of a script are plain. -/
theorem plain_of_mem_scriptLines {script : List Char} {line : ScriptLine}
    (member : line ∈ scriptLines script) : Plain line.text := by
  obtain ⟨raw, isLine, first, textEq⟩ := exists_of_mem_scriptLines member
  intro character inText
  have corrected : ∃ given ∈ raw, correctChar given = character := by
    rw [textEq] at inText
    obtain ⟨given, inBody, rfl⟩ := List.mem_map.1 inText
    refine ⟨given, ?_, rfl⟩
    cases raw with
    | nil => exact inBody
    | cons mark rest =>
        simp only at inBody
        split at inBody
        · exact List.mem_cons_of_mem mark inBody
        · exact inBody
  obtain ⟨given, inRaw, rfl⟩ := corrected
  exact plain_correctChar (Text.isLineBreak_of_mem_lines script raw given isLine inRaw)

/-- A script is read line by line, each line corrected. -/
theorem map_text_scriptLines {script : List Char}
    (unmarked : ∀ line ∈ (Text.lines script).head?, Unmarked line) :
    (scriptLines script).map (·.text) = (Text.lines script).map (·.map correctChar) := by
  rw [scriptLines]
  cases cut : Text.lines script with
  | nil => rfl
  | cons first rest =>
      rw [cut] at unmarked
      rw [List.mapIdx_cons, List.map_cons, List.map_cons,
        normalizeLine_of_unmarked _ (unmarked first rfl)]
      congr 1
      apply List.ext_getElem
      · simp
      · intro index bound _
        have notFirst : (index + 1 == 0) = false := by simp
        have unchanged : ∀ line : Line, normalizeLine false line = line.map correctChar := by
          intro line
          cases line <;> rfl
        simp only [List.getElem_map, List.getElem_mapIdx, notFirst, unchanged]

end ModMerge
