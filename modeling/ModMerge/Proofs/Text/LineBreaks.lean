import Mathlib.Data.List.Basic
import ModMerge.Text.Lines

/-!
# Cutting joined lines

Lines that contain no line breaks are found again when the text that joins them is cut. A
text that ends in a line feed has no further line after it, so a last line that is empty
would be lost; all other lines come back.
-/

namespace ModMerge.Text

/-- The characters of a line do not break it. -/
def Unbroken (line : List Char) : Prop :=
  ∀ character ∈ line, isLineBreak character = false

instance (line : List Char) : Decidable (Unbroken line) :=
  List.decidableBAll (fun character => isLineBreak character = false) line

theorem Unbroken.append {first second : List Char} (unbrokenFirst : Unbroken first)
    (unbrokenSecond : Unbroken second) : Unbroken (first ++ second) := by
  intro character member
  exact (List.mem_append.1 member).elim (unbrokenFirst character) (unbrokenSecond character)

theorem unbroken_append {first second : String} (unbrokenFirst : Unbroken first.toList)
    (unbrokenSecond : Unbroken second.toList) : Unbroken (first ++ second).toList := by
  rw [String.toList_append]
  exact unbrokenFirst.append unbrokenSecond

/-- Characters that do not break a line are collected. -/
theorem linesAfter_append {line : List Char} (unbroken : Unbroken line)
    (current rest : List Char) :
    linesAfter current (line ++ rest) = linesAfter (line.reverse ++ current) rest := by
  induction line generalizing current with
  | nil => rfl
  | cons character line inductionHypothesis =>
      have keeps := unbroken character List.mem_cons_self
      have notReturn : ∀ tail, character :: (line ++ rest) ≠ '\r' :: '\n' :: tail := by
        intro tail same
        rw [(List.cons.inj same).1] at keeps
        revert keeps
        decide
      have later := inductionHypothesis
        (fun other member => unbroken other (List.mem_cons_of_mem _ member)) (character :: current)
      rw [List.cons_append, linesAfter]
      · rw [if_neg (by rw [keeps]; exact Bool.false_ne_true), later]
        simp
      · exact fun tail isReturn lineFeed => notReturn tail (by rw [isReturn, lineFeed])

theorem linesAfter_lineFeed (current rest : List Char) :
    linesAfter current ('\n' :: rest) = current.reverse :: linesAfter [] rest := by
  rw [linesAfter]
  · exact if_pos (by decide)
  · exact fun _ same => absurd same (by decide)

theorem linesAfter_of_isLineBreak {character : Char} {rest : List Char}
    (breaks : isLineBreak character = true) (notPair : character = '\r' → '\n' ∉ rest.head?)
    (current : List Char) :
    linesAfter current (character :: rest) = current.reverse :: linesAfter [] rest := by
  rw [linesAfter, if_pos breaks]
  rintro following rfl rfl
  exact notPair rfl rfl

/-- Lines before a line feed come back. -/
theorem lines_joinLines_append {first : List Char} {others : List (List Char)}
    (unbroken : ∀ line ∈ first :: others, Unbroken line) (rest : List Char) :
    lines (joinLines (first :: others) ++ '\n' :: rest) = first :: others ++ lines rest := by
  induction others generalizing first with
  | nil =>
      rw [joinLines, lines, linesAfter_append (unbroken first List.mem_cons_self),
        linesAfter_lineFeed]
      simp [lines]
  | cons second others inductionHypothesis =>
      have later := inductionHypothesis
        fun line member => unbroken line (List.mem_cons_of_mem first member)
      rw [joinLines, List.append_assoc, List.cons_append, lines,
        linesAfter_append (unbroken first List.mem_cons_self), linesAfter_lineFeed]
      rw [lines] at later
      rw [later]
      simp [lines]

theorem joinLines_concat (first : List Char) (others : List (List Char)) (last : List Char) :
    joinLines (first :: others ++ [last]) = joinLines (first :: others) ++ '\n' :: last := by
  induction others generalizing first with
  | nil => rfl
  | cons second others inductionHypothesis =>
      have later := inductionHypothesis second
      simp only [List.cons_append] at later ⊢
      rw [joinLines, later, joinLines, List.append_assoc, List.cons_append]

/-- Joined lines come back, unless the last of them is empty. -/
theorem lines_joinLines {given : List (List Char)} (unbroken : ∀ line ∈ given, Unbroken line)
    (last : given.getLast? ≠ some []) : lines (joinLines given) = given := by
  rcases List.eq_nil_or_concat' given with rfl | ⟨front, line, rfl⟩
  · rfl
  · have notEmpty : line ≠ [] := by
      rintro rfl
      exact last List.getLast?_concat
    have alone : lines line = [line] := by
      have collected := linesAfter_append (unbroken line (by simp)) [] []
      rw [List.append_nil, List.append_nil, linesAfter] at collected
      simpa [lines, notEmpty] using collected
    cases front with
    | nil => exact alone
    | cons first others =>
        rw [joinLines_concat, lines_joinLines_append
          (fun other member => unbroken other (List.mem_append_left _ member)), alone]

/-! ### Longer lines -/

/-- The text with more characters at the end of the line of an index, before its line break. -/
def appendToLine (more : List Char) : Nat → List Char → List Char
  | 0, [] => more
  | _ + 1, [] => []
  | 0, character :: rest =>
      if isLineBreak character then more ++ character :: rest
      else character :: appendToLine more 0 rest
  | index + 1, '\r' :: '\n' :: rest => '\r' :: '\n' :: appendToLine more index rest
  | index + 1, character :: rest =>
      character :: appendToLine more (if isLineBreak character then index else index + 1) rest

section

variable {more : List Char}

theorem appendToLine_of_keeps {character : Char} (keeps : isLineBreak character = false)
    (index : Nat) (rest : List Char) :
    appendToLine more index (character :: rest) = character :: appendToLine more index rest := by
  cases index with
  | zero => simp [appendToLine, keeps]
  | succ index =>
      rw [appendToLine, if_neg (by simp [keeps])]
      rintro following rfl
      exact absurd keeps (by decide)

theorem lineFeed_not_mem_head?_appendToLine (unbroken : Unbroken more) {text : List Char}
    (notFirst : '\n' ∉ text.head?) (index : Nat) :
    '\n' ∉ (appendToLine more index text).head? := by
  have notMore : '\n' ∉ more := fun member => absurd (unbroken _ member) (by decide)
  fun_cases appendToLine more index text with
  | case1 => exact fun isFirst => notMore (List.mem_of_mem_head? isFirst)
  | case2 => exact notFirst
  | case3 character rest breaks =>
      cases more with
      | nil => exact notFirst
      | cons first others => exact fun isFirst => notMore (List.mem_of_mem_head? isFirst)
  | case4 => exact notFirst
  | case5 => exact notFirst
  | case6 => exact notFirst

/-- Of the lines of a text only the one that is made longer changes. -/
theorem linesAfter_appendToLine (unbroken : Unbroken more) {current text : List Char} {index : Nat}
    (isLine : index < (linesAfter current text).length) :
    linesAfter current (appendToLine more index text) =
      (linesAfter current text).modify index (· ++ more) := by
  fun_induction linesAfter current text generalizing index with
  | case1 => exact absurd isLine (Nat.not_lt_zero _)
  | case2 current notEmpty =>
      obtain rfl : index = 0 := by simpa using isLine
      have collected := linesAfter_append unbroken current []
      rw [List.append_nil] at collected
      rw [appendToLine, collected, linesAfter, if_neg (by simpa using fun _ => notEmpty)]
      simp
  | case3 current rest inductionHypothesis =>
      cases index with
      | zero =>
          rw [appendToLine, if_pos (by decide), linesAfter_append unbroken, linesAfter]
          simp
      | succ index =>
          rw [appendToLine, linesAfter, inductionHypothesis (Nat.lt_of_succ_lt_succ isLine)]
          rfl
  | case4 current character rest notPair breaks inductionHypothesis =>
      have notLineFeed : character = '\r' → '\n' ∉ rest.head? := by
        rintro rfl isFirst
        obtain ⟨others, rfl⟩ := List.head?_eq_some_iff.1 isFirst
        exact notPair others rfl rfl
      cases index with
      | zero =>
          rw [appendToLine, if_pos breaks, linesAfter_append unbroken,
            linesAfter_of_isLineBreak breaks notLineFeed]
          simp
      | succ index =>
          rw [appendToLine, if_pos breaks, linesAfter_of_isLineBreak breaks,
            inductionHypothesis (Nat.lt_of_succ_lt_succ isLine)]
          · rfl
          · exact fun same =>
              lineFeed_not_mem_head?_appendToLine unbroken (notLineFeed same) index
          · exact fun following => notPair following
  | case5 current character rest notPair notBreak inductionHypothesis =>
      have keeps : isLineBreak character = false := by simpa using notBreak
      have alone : Unbroken [character] := by simp [Unbroken, keeps]
      have collect : ∀ rest, linesAfter current (character :: rest) =
          linesAfter (character :: current) rest :=
        fun rest => linesAfter_append alone current rest
      rw [appendToLine_of_keeps keeps, collect, inductionHypothesis isLine]

theorem lines_appendToLine (unbroken : Unbroken more) {text : List Char} {index : Nat}
    (isLine : index < (lines text).length) :
    lines (appendToLine more index text) = (lines text).modify index (· ++ more) :=
  linesAfter_appendToLine unbroken isLine

end

end ModMerge.Text
