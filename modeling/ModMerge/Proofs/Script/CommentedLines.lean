import ModMerge.Proofs.Script.StateWalk

/-!
# Lines with a comment behind them

What a line means is decided by what stands before the two hyphens of a comment behind it, with
one exception: a line that begins a description has its quotes counted to its end, the comment
included. `classify_append_trailingComment` says this for every line whose own quotes are even, and
`opensDescription_append_trailingComment` what becomes of the exception.
-/

namespace ModMerge

/-- A comment as it is put behind a line. -/
def trailingComment (comment : Line) : Line :=
  " -- ".toList ++ comment

/-- Whether a line begins a description, of one line or of several. -/
def beginsDescription (line : Line) : Bool :=
  (directiveOf? line).any (·.word == "description")

/-! ### Quotes -/

theorem hasOpenQuote_append (first second : Line) :
    hasOpenQuote (first ++ second) = (hasOpenQuote first ^^ hasOpenQuote second) := by
  simp only [hasOpenQuote, List.count_append]
  rcases Nat.mod_two_eq_zero_or_one (first.count '"') with firstEq | firstEq <;>
    rcases Nat.mod_two_eq_zero_or_one (second.count '"') with secondEq | secondEq <;>
    simp [Nat.add_mod, firstEq, secondEq]

theorem hasOpenQuote_of_quote_not_mem {line : Line} (noQuote : '"' ∉ line) :
    hasOpenQuote line = false := by
  rw [hasOpenQuote, List.count_eq_zero.2 noQuote]
  rfl

theorem hasOpenQuote_of_allBlank {blanks : Line} (areBlank : Text.AllBlank blanks) :
    hasOpenQuote blanks = false :=
  hasOpenQuote_of_quote_not_mem fun member => absurd (areBlank _ member) (by decide)

theorem hasOpenQuote_trim (line : Line) : hasOpenQuote (Text.trim line) = hasOpenQuote line := by
  obtain ⟨after, areBlank, whole⟩ := Text.exists_eq_leadingBlanks_append_trim line
  conv_rhs => rw [whole]
  rw [hasOpenQuote_append, hasOpenQuote_append, hasOpenQuote_of_allBlank areBlank,
    hasOpenQuote_of_allBlank (Text.allBlank_leadingBlanks line), Bool.false_xor, Bool.xor_false]

theorem hasOpenQuote_trimRight (line : Line) :
    hasOpenQuote (Text.trimRight line) = hasOpenQuote line := by
  rw [← hasOpenQuote_trim, Text.trim_trimRight, hasOpenQuote_trim]

/-- A directive word holds no quotes. -/
theorem hasOpenQuote_of_spelt {text wordChars rest : Line} (spelt : Spelt text wordChars rest) :
    hasOpenQuote text = hasOpenQuote rest := by
  have noQuote : '"' ∉ '#' :: wordChars := by
    intro member
    rcases List.mem_cons.1 member with same | inWord
    · exact absurd same (by decide)
    · exact absurd (spelt.isWord _ inWord) (by decide)
  rw [spelt.text_eq, ← List.cons_append, hasOpenQuote_append,
    hasOpenQuote_of_quote_not_mem noQuote, Bool.false_xor]

/-! ### What stands behind a text -/

theorem beforeComment_append {first : Line} (noHyphen : '-' ∉ first) (rest : Line) :
    beforeComment (first ++ rest) = first ++ beforeComment rest := by
  induction first with
  | nil => rfl
  | cons character others inductionHypothesis =>
      rw [List.mem_cons, not_or] at noHyphen
      rw [List.cons_append, beforeComment, inductionHypothesis noHyphen.2, List.cons_append]
      rintro following rfl
      exact absurd rfl noHyphen.1

theorem beforeComment_eq_self {line : Line} (noHyphen : '-' ∉ line) :
    beforeComment line = line := by
  have whole := beforeComment_append noHyphen []
  rwa [beforeComment, List.append_nil] at whole

/-- A name that is closed ends where its quotes do. -/
theorem takeQuoted?_append {text : Line} (notEmpty : text ≠ []) (closed : hasOpenQuote text = false)
    (tail : Line) : takeQuoted? (text ++ tail) = takeQuoted? text := by
  obtain ⟨first, rest, rfl⟩ := List.exists_cons_of_ne_nil notEmpty
  by_cases isQuote : first = '"'
  · subst isQuote
    have inRest : '"' ∈ rest := by
      by_contra noQuote
      rw [← List.singleton_append, hasOpenQuote_append, hasOpenQuote_of_quote_not_mem noQuote]
        at closed
      exact absurd closed (by decide)
    obtain ⟨front, back, rfl, notInFront⟩ := List.eq_append_cons_of_mem inRest
    have split : ∀ rest : Line, (front ++ '"' :: rest).takeWhile (· != '"') = front ∧
        (front ++ '"' :: rest).dropWhile (· != '"') = '"' :: rest := by
      refine fun rest => takeWhile_dropWhile_append (fun character inFront => ?_) (by simp)
      rw [bne_iff_ne]
      rintro rfl
      exact notInFront inFront
    simp only [List.cons_append, List.append_assoc, takeQuoted?, split]
    rfl
  · rw [List.cons_append, takeQuoted?, takeQuoted?]
    · exact fun rest same => isQuote (List.cons.inj same).1
    · exact fun rest same => isQuote (List.cons.inj same).1

/-- Blanks behind a text begin no comment with it. -/
theorem beforeComment_append_of_blank {tail : Line}
    (blankHead : ∀ character ∈ tail.head?, Text.isBlank character = true)
    (restBlank : Text.AllBlank (beforeComment tail)) (text : Line) :
    ∃ blanks, Text.AllBlank blanks ∧
      beforeComment (text ++ tail) = beforeComment text ++ blanks := by
  fun_induction beforeComment text with
  | case1 rest => exact ⟨[], by simp [Text.AllBlank], rfl⟩
  | case2 first rest notMark inductionHypothesis =>
      obtain ⟨blanks, areBlank, same⟩ := inductionHypothesis
      refine ⟨blanks, areBlank, ?_⟩
      rw [List.cons_append, beforeComment, same, List.cons_append]
      rintro following rfl isHyphen
      cases rest with
      | nil =>
          rw [List.nil_append] at isHyphen
          rw [isHyphen] at blankHead
          exact absurd (blankHead '-' rfl) (by decide)
      | cons second others =>
          obtain ⟨rfl, -⟩ := List.cons.inj isHyphen
          exact notMark others rfl rfl
  | case3 => exact ⟨beforeComment tail, restBlank, rfl⟩

/-- The blanks at the end of a line of a description do not bear on its quotes. -/
theorem closesDescription_eq (line : Line) :
    closesDescription line = hasOpenQuote (beforeComment (Text.trimLeft line)) := by
  obtain ⟨after, areBlank, whole⟩ := Text.exists_eq_trimRight_append (Text.trimLeft line)
  have noHyphen : '-' ∉ after := fun member => absurd (areBlank _ member) (by decide)
  obtain ⟨blanks, blanksBlank, before⟩ := beforeComment_append_of_blank
    (fun character isHead => areBlank character (List.mem_of_mem_head? isHead))
    ((beforeComment_eq_self noHyphen).symm ▸ areBlank) (Text.trim line)
  rw [closesDescription, whole, ← Text.trim, before, hasOpenQuote_append,
    hasOpenQuote_of_allBlank blanksBlank, Bool.xor_false]

/-- Blanks and a comment, as they stand behind the text of a line. -/
structure IsCommentTail (comment tail : Line) : Prop where
  split : ∃ blanks rest, blanks ≠ [] ∧ Text.AllBlank blanks ∧ tail = blanks ++ '-' :: '-' :: rest
  noLineFeed : '\n' ∉ tail
  hasOpenQuote_eq : hasOpenQuote tail = hasOpenQuote comment

/-- A comment behind a line is a line of its own if there is nothing else, and it otherwise leaves
the text of the line where it is. -/
theorem trim_append_trailingComment {line comment : Line} (noLineFeed : '\n' ∉ line ++ comment) :
    (Text.trim line = [] ∧
      ∃ rest, Text.trim (line ++ trailingComment comment) = '-' :: '-' :: rest) ∨
    (Text.trim line ≠ [] ∧ ∃ tail, IsCommentTail comment tail ∧
      Text.trim (line ++ trailingComment comment) = Text.trim line ++ tail) := by
  obtain ⟨after, afterBlank, whole⟩ := Text.exists_eq_leadingBlanks_append_trim line
  have spaceBlank : Text.AllBlank [' '] := by simp [Text.AllBlank, Text.isBlank]
  by_cases nothing : Text.trim line = []
  · refine .inl ⟨nothing, Text.trimRight (' ' :: comment), ?_⟩
    have isBlank := Text.isBlankText_iff.1 (Text.trim_eq_nil_iff.1 nothing)
    have split : line ++ trailingComment comment =
        (line ++ [' ']) ++ (['-'] ++ '-' :: (' ' :: comment)) := by
      simp [trailingComment]
    rw [split, Text.trim_append_cons (isBlank.append spaceBlank) (by simp; decide) (by decide)]
    rfl
  · refine .inr ⟨nothing, after ++ [' '] ++ '-' :: '-' :: Text.trimRight (' ' :: comment),
      ⟨⟨_, _, by simp, afterBlank.append spaceBlank, rfl⟩, ?_, ?_⟩, ?_⟩
    · rw [List.mem_append, not_or] at noLineFeed
      have notAfter : '\n' ∉ after := by
        intro member
        rw [whole] at noLineFeed
        exact noLineFeed.1 (List.mem_append_right _ member)
      have notComment : '\n' ∉ Text.trimRight (' ' :: comment) := by
        intro member
        rcases List.mem_cons.1 (Text.mem_of_mem_trimRight member) with same | inComment
        · exact absurd same (by decide)
        · exact noLineFeed.2 inComment
      simp [notAfter, notComment]
    · have hyphens : ∀ rest : Line, hasOpenQuote ('-' :: '-' :: rest) = hasOpenQuote rest :=
        fun rest => (hasOpenQuote_append ['-', '-'] rest).trans (Bool.false_xor _)
      rw [hasOpenQuote_append, hasOpenQuote_of_allBlank (afterBlank.append spaceBlank), hyphens,
        hasOpenQuote_trimRight, ← List.singleton_append, hasOpenQuote_append,
        hasOpenQuote_of_allBlank spaceBlank, Bool.false_xor, Bool.false_xor]
    · have split : line ++ trailingComment comment = Text.leadingBlanks line ++
          ((Text.trim line ++ (after ++ [' ', '-'])) ++ '-' :: (' ' :: comment)) := by
        conv_lhs => rw [whole]
        simp [trailingComment]
      rw [split, Text.trim_append_cons (Text.allBlank_leadingBlanks line) ?_ (by decide)]
      · simp
      · intro character isHead
        rw [List.append_assoc, List.head?_append_of_ne_nil _ nothing] at isHead
        exact (Text.isTrimmed_trim line).head character isHead

namespace IsCommentTail

variable {comment tail : Line}

theorem head_isBlank (isTail : IsCommentTail comment tail) :
    ∀ character ∈ tail.head?, Text.isBlank character = true := by
  obtain ⟨blanks, rest, notEmpty, areBlank, rfl⟩ := isTail.split
  intro character isHead
  rw [List.head?_append_of_ne_nil _ notEmpty] at isHead
  exact areBlank character (List.mem_of_mem_head? isHead)

/-- Where no blanks belong, what is read stops at a comment. -/
theorem ends (isTail : IsCommentTail comment tail) {isMember : Char → Bool}
    (notBlank : ∀ character, Text.isBlank character = true → isMember character = false) :
    ∀ character ∈ tail.head?, isMember character = false :=
  fun character isHead => notBlank character (isTail.head_isBlank character isHead)

theorem allBlank_beforeComment (isTail : IsCommentTail comment tail) :
    Text.AllBlank (beforeComment tail) := by
  obtain ⟨blanks, rest, -, areBlank, rfl⟩ := isTail.split
  have noHyphen : '-' ∉ blanks := fun member => absurd (areBlank _ member) (by decide)
  rw [beforeComment_append noHyphen, beforeComment, List.append_nil]
  exact areBlank

theorem directiveLine?_append (isTail : IsCommentTail comment tail) {text : Line}
    (notEmpty : text ≠ []) :
    directiveLine? (text ++ tail) =
      (directiveLine? text).map fun directive => ⟨directive.word, directive.rest ++ tail⟩ := by
  cases text with
  | nil => exact absurd rfl notEmpty
  | cons mark body =>
      by_cases isMark : mark = '#'
      · subst isMark
        obtain ⟨taken, dropped⟩ := takeWhile_dropWhile_append_of_ends
          (isTail.ends fun _ => Text.not_isAsciiWordChar_of_isBlank) body
        have noLineFeed : ∀ rest : Line, (rest ++ tail).contains '\n' = rest.contains '\n' := by
          intro rest
          simp [isTail.noLineFeed]
        rw [List.cons_append]
        simp only [directiveLine?, taken, dropped, noLineFeed]
        split <;> rfl
      · rw [directiveLine?, directiveLine?]
        · rfl
        · exact fun body same => isMark (List.cons.inj same).1
        · exact fun body same => isMark (List.cons.inj same).1

/-- A numeral ends before a comment. -/
theorem takeNumeral?_append (isTail : IsCommentTail comment tail) {text : Line}
    (notEmpty : text ≠ []) :
    Text.takeNumeral? (text ++ tail) =
      (Text.takeNumeral? text).map fun numeral =>
        { numeral with rest := numeral.rest ++ tail } := by
  have split : ∀ unsigned : Line, (unsigned ++ tail).takeWhile Text.isDigit =
      unsigned.takeWhile Text.isDigit ∧ (unsigned ++ tail).dropWhile Text.isDigit =
        unsigned.dropWhile Text.isDigit ++ tail :=
    takeWhile_dropWhile_append_of_ends (isTail.ends fun _ => Text.not_isDigit_of_isBlank)
  obtain ⟨first, rest, rfl⟩ := List.exists_cons_of_ne_nil notEmpty
  by_cases negative : first = '-'
  · subst negative
    simp only [List.cons_append, Text.takeNumeral?, split]
    cases (rest.takeWhile Text.isDigit).isEmpty <;> rfl
  · have reads : ∀ others : Line, Text.takeNumeral? (first :: others) =
        if ((first :: others).takeWhile Text.isDigit).isEmpty then none
        else some ⟨false, (first :: others).takeWhile Text.isDigit,
          (first :: others).dropWhile Text.isDigit⟩ := by
      intro others
      rw [Text.takeNumeral?]
      exact fun _ same => negative (List.cons.inj same).1
    have whole := split (first :: rest)
    rw [List.cons_append] at whole
    rw [List.cons_append, reads, reads, whole.1, whole.2]
    cases ((first :: rest).takeWhile Text.isDigit).isEmpty <;> rfl

/-- An argument ends before a comment. -/
theorem readArgument_append (isTail : IsCommentTail comment tail) {rest : Line}
    (closed : hasOpenQuote rest = false) : readArgument (rest ++ tail) = readArgument rest := by
  by_cases nothing : Text.trimLeft rest = []
  · obtain ⟨blanks, others, -, areBlank, rfl⟩ := isTail.split
    have restBlank : Text.AllBlank rest := List.dropWhile_eq_nil_iff.1 nothing
    have dropped :
        Text.trimLeft (rest ++ (blanks ++ '-' :: '-' :: others)) = '-' :: '-' :: others := by
      rw [Text.trimLeft_append restBlank, Text.trimLeft_append areBlank,
        Text.trimLeft_eq_self (by simp; decide)]
    have noNumeral : Text.takeNumeral? ('-' :: '-' :: others) = none := by
      simp [Text.takeNumeral?, show Text.isDigit '-' = false by decide]
    have absent : readArgument rest = .ok .absent := by
      rw [readArgument, nothing]
      split <;> rfl
    rw [absent, readArgument, dropped, noNumeral]
    split <;> rfl
  · have headEnds : ∀ character ∈ (Text.trimLeft rest ++ tail).head?,
        Text.isBlank character = false := by
      intro character isHead
      rw [List.head?_append_of_ne_nil _ nothing] at isHead
      exact Text.head_trimLeft rest character isHead
    obtain ⟨taken, dropped⟩ :=
      takeWhile_dropWhile_append (Text.allBlank_leadingBlanks rest) headEnds
    rw [← List.append_assoc, Text.leadingBlanks_append_trimLeft] at taken dropped
    have stillClosed : hasOpenQuote (Text.trimLeft rest) = false := by
      rw [← Text.leadingBlanks_append_trimLeft rest, hasOpenQuote_append,
        hasOpenQuote_of_allBlank (Text.allBlank_leadingBlanks rest), Bool.false_xor] at closed
      exact closed
    rw [readArgument, readArgument, Text.leadingBlanks, taken, Text.trimLeft, dropped,
      isTail.takeNumeral?_append nothing, takeQuoted?_append nothing stillClosed]
    cases Text.takeNumeral? (Text.trimLeft rest) <;> rfl

theorem take_two_append (isTail : IsCommentTail comment tail) {text : Line} (notEmpty : text ≠ []) :
    ((text ++ tail).take 2 == ['-', '-']) = (text.take 2 == ['-', '-']) := by
  obtain ⟨first, rest, rfl⟩ := List.exists_cons_of_ne_nil notEmpty
  cases rest with
  | cons second others => rfl
  | nil =>
      obtain ⟨blanks, others, notNil, areBlank, rfl⟩ := isTail.split
      obtain ⟨blank, more, rfl⟩ := List.exists_cons_of_ne_nil notNil
      have notHyphen : blank ≠ '-' := by
        rintro rfl
        exact absurd (areBlank '-' List.mem_cons_self) (by decide)
      simp [notHyphen]

end IsCommentTail

/-! ### What lines are read as -/

/-- What stands behind its word matters to the meaning of a directive by its argument and, if the
word begins a description, by its quotes. -/
theorem directiveMeaning_congr_rest (context : ParseContext) {word : String} {rest other : Line}
    (same : word = "description" → hasOpenQuote other = hasOpenQuote rest) (argument : Argument) :
    directiveMeaning context ⟨word, other⟩ argument =
      directiveMeaning context ⟨word, rest⟩ argument := by
  simp only [directiveMeaning]
  split
  · rfl
  split
  · next isDescription => rw [same (beq_iff_eq.1 isDescription)]
  · rfl

section

variable {context : ParseContext} {line comment : Line}

/-- A comment behind a line of a description does not close it. -/
theorem closesDescription_append_trailingComment (noLineFeed : '\n' ∉ line ++ comment) :
    closesDescription (line ++ trailingComment comment) = closesDescription line := by
  obtain ⟨nothing, rest, trimEq⟩ | ⟨-, tail, isTail, trimEq⟩ :=
    trim_append_trailingComment noLineFeed
  · rw [closesDescription, closesDescription, nothing, trimEq]
    rfl
  · obtain ⟨blanks, areBlank, before⟩ := beforeComment_append_of_blank isTail.head_isBlank
      isTail.allBlank_beforeComment (Text.trim line)
    rw [closesDescription, closesDescription, trimEq, before, hasOpenQuote_append,
      hasOpenQuote_of_allBlank areBlank, Bool.xor_false]

/-- A comment behind a line that begins a description leaves it open if the quotes of the comment
are odd. -/
theorem opensDescription_append_trailingComment (closed : hasOpenQuote line = false)
    (noLineFeed : '\n' ∉ line ++ comment) (begins : beginsDescription line = true) :
    opensDescription (line ++ trailingComment comment) = hasOpenQuote comment := by
  obtain ⟨directive, isDirective, isDescription⟩ := (Option.any_eq_true _ _).1 begins
  obtain ⟨wordChars, spelt, -⟩ := directiveLine?_eq_some_iff.1 isDirective
  rw [← hasOpenQuote_trim, hasOpenQuote_of_spelt spelt] at closed
  obtain ⟨nothing, -⟩ | ⟨notEmpty, tail, isTail, trimEq⟩ := trim_append_trailingComment noLineFeed
  · rw [directiveOf?, nothing] at isDirective
    cases isDirective
  · rw [directiveOf?] at isDirective
    simp only [opensDescription, directiveOf?, trimEq, isTail.directiveLine?_append notEmpty,
      isDirective, Option.map_some, Option.any_some, isDescription, Bool.true_and,
      hasOpenQuote_append, closed, Bool.false_xor, isTail.hasOpenQuote_eq]

/-- A line whose quotes are even is read alike with a comment behind it, unless it begins a
description and the quotes of the comment are odd. A blank line becomes a comment. -/
theorem classify_append_trailingComment {classified : ClassifiedLine}
    (closed : hasOpenQuote line = false) (noLineFeed : '\n' ∉ line ++ comment)
    (inert : context.inDescription = true ∨ beginsDescription line = false ∨
      hasOpenQuote comment = false)
    (read : classify context line = .ok classified) :
    ∃ commented, classify context (line ++ trailingComment comment) = .ok commented ∧
      (commented.meaning = classified.meaning ∨
        classified.meaning = .blank ∧ commented.meaning = .comment) := by
  cases inside : context.inDescription with
  | true =>
      have closes := closesDescription_append_trailingComment noLineFeed
      rw [closesDescription, closesDescription] at closes
      rw [classify_inDescription inside] at read ⊢
      obtain rfl := Except.ok.inj read
      exact ⟨_, rfl, .inl (congrArg LineMeaning.descriptionText closes)⟩
  | false =>
      rw [classify_eq _ inside] at read ⊢
      obtain ⟨nothing, rest, trimEq⟩ | ⟨notEmpty, tail, isTail, trimEq⟩ :=
        trim_append_trailingComment noLineFeed
      · rw [nothing] at read
        obtain rfl := Except.ok.inj read
        rw [trimEq]
        exact ⟨_, rfl, .inr ⟨rfl, rfl⟩⟩
      rw [if_neg (by simpa using notEmpty)] at read
      rw [trimEq, if_neg (by simp [notEmpty]), isTail.take_two_append notEmpty]
      split at read
      · next isComment =>
          obtain rfl := Except.ok.inj read
          exact ⟨_, if_pos isComment, .inl rfl⟩
      next notComment =>
      rw [if_neg notComment, isTail.directiveLine?_append notEmpty]
      cases isDirective : directiveLine? (Text.trim line) with
      | none =>
          rw [isDirective] at read
          obtain rfl := Except.ok.inj read
          exact ⟨_, rfl, .inl rfl⟩
      | some directive =>
          rw [isDirective] at read
          obtain ⟨argument, hasArgument, rfl⟩ := map_eq_ok.1 read
          obtain ⟨wordChars, spelt, -⟩ := directiveLine?_eq_some_iff.1 isDirective
          rw [← hasOpenQuote_trim, hasOpenQuote_of_spelt spelt] at closed
          refine ⟨_, map_eq_ok.2 ⟨argument, ?_, rfl⟩, .inl ?_⟩
          · rw [isTail.readArgument_append closed, hasArgument]
          refine directiveMeaning_congr_rest context (fun isDescription => ?_) argument
          rw [hasOpenQuote_append, isTail.hasOpenQuote_eq]
          rcases inert with inDescription | notBegun | even
          · cases inside.symm.trans inDescription
          · rw [beginsDescription, directiveOf?, isDirective, Option.any_some, isDescription]
              at notBegun
            cases notBegun
          · rw [even, Bool.xor_false]

end

end ModMerge
