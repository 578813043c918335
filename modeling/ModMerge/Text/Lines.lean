/-!
# Lines of a text

A text is cut at every line break of Unicode: line feed, carriage return (with a line
feed that follows it), vertical tab, form feed, the information separators `1c` to `1e`,
next line, and the line and paragraph separators. A break at the very end of the text
does not start another line.
-/

namespace ModMerge.Text

/-- Characters that end a line. -/
def isLineBreak (character : Char) : Bool :=
  let code := character.toNat
  (0x0a ≤ code && code ≤ 0x0d) || (0x1c ≤ code && code ≤ 0x1e) || code == 0x85 ||
    code == 0x2028 || code == 0x2029

/-- The lines of a text whose first line begins with `current`, read backwards. -/
def linesAfter (current : List Char) : List Char → List (List Char)
  | [] => if current.isEmpty then [] else [current.reverse]
  | '\r' :: '\n' :: rest => current.reverse :: linesAfter [] rest
  | character :: rest =>
      if isLineBreak character then
        current.reverse :: linesAfter [] rest
      else
        linesAfter (character :: current) rest

/-- The lines of a text, without their line breaks. -/
def lines (text : List Char) : List (List Char) :=
  linesAfter [] text

/-- Lines joined by line feeds; there is none after the last line. -/
def joinLines : List (List Char) → List Char
  | [] => []
  | [line] => line
  | line :: next :: rest => line ++ '\n' :: joinLines (next :: rest)

/-- No line of a text contains a line break. -/
theorem isLineBreak_of_mem_linesAfter (text current line : List Char) (character : Char)
    (clean : ∀ kept ∈ current, isLineBreak kept = false)
    (isLine : line ∈ linesAfter current text) (inLine : character ∈ line) :
    isLineBreak character = false := by
  fun_induction linesAfter current text with
  | case1 current empty => simp at isLine
  | case2 current empty =>
    simp only [List.mem_singleton] at isLine
    subst isLine
    exact clean _ (by simpa using inLine)
  | case3 current rest inductionHypothesis =>
    rcases List.mem_cons.1 isLine with rfl | isLine
    · exact clean _ (by simpa using inLine)
    · exact inductionHypothesis (by simp) isLine
  | case4 current first rest notCrLf isBreak inductionHypothesis =>
    rcases List.mem_cons.1 isLine with rfl | isLine
    · exact clean _ (by simpa using inLine)
    · exact inductionHypothesis (by simp) isLine
  | case5 current first rest notCrLf isBreak inductionHypothesis =>
    refine inductionHypothesis ?_ isLine
    intro kept member
    rcases List.mem_cons.1 member with rfl | member
    · simpa using isBreak
    · exact clean kept member

/-- The lines of a text contain no line breaks. -/
theorem isLineBreak_of_mem_lines (text line : List Char) (character : Char)
    (isLine : line ∈ lines text) (inLine : character ∈ line) :
    isLineBreak character = false :=
  isLineBreak_of_mem_linesAfter text [] line character (by simp) isLine inLine

end ModMerge.Text
