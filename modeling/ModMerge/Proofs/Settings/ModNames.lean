import Mathlib.Data.List.DropRight
import Mathlib.Data.List.Infix
import ModMerge.Proofs.Fold
import ModMerge.Proofs.Text.CharClasses
import ModMerge.Proofs.Text.Trimming
import ModMerge.Settings.Basic

/-!
# Names of merged mods

A name that is made of a display name is tidy (`IsTidyName`): it has only characters that a name
may have, and its underscores part other characters, one at a time. Each pass over the display
name adds a part of this and keeps the parts that were there, and none of them touches the
characters that make up the name. So a tidy name comes out as it is.

Settings let a name pass if it has only such characters, but for a line feed that may end it.
-/

namespace ModMerge

/-! ### Characters of names -/

section Characters

variable {character : Char}

/-- Whether a character makes up names, rather than part what makes them up. -/
def isNameMark (character : Char) : Bool :=
  isModNameChar character && character != '_'

/-- Names are made of ASCII letters, digits, underscores and hyphens. -/
theorem isModNameChar_iff :
    isModNameChar character = true ↔
      character.isAlphanum = true ∨ character = '_' ∨ character = '-' := by
  have upper : ('A' ≤ character && character ≤ 'Z') = character.isUpper :=
    (Bool.decide_and ..).symm
  have lower : ('a' ≤ character && character ≤ 'z') = character.isLower := rfl
  have digit : ('0' ≤ character && character ≤ '9') = character.isDigit := rfl
  have alphanum : character.isAlphanum =
      (character.isUpper || character.isLower || character.isDigit) := rfl
  rw [isModNameChar, upper, lower, digit, ← alphanum, Bool.or_eq_true, Bool.or_eq_true,
    beq_iff_eq, beq_iff_eq, or_assoc]

theorem isNameMark_iff :
    isNameMark character = true ↔ isModNameChar character = true ∧ character ≠ '_' := by
  rw [isNameMark, Bool.and_eq_true, bne_iff_ne]

theorem not_isBlank_of_isModNameChar (isNameChar : isModNameChar character = true) :
    Text.isBlank character = false := by
  have table : ∀ code ∈ Text.blankCodes, isModNameChar (Char.ofNat code) = false := by
    decide
  rw [← Bool.not_eq_true]
  intro blank
  have refused := table _ (Text.toNat_mem_blankCodes blank)
  rw [Char.ofNat_toNat, isNameChar] at refused
  cases refused

end Characters

/-! ### Runs that become underscores -/

section Underscores

variable {isReplaced isMark : Char → Bool} {inRun : Bool} {character : Char} {text : List Char}

/-- No underscore stands next to another one. -/
def SingleUnderscores (text : List Char) : Prop :=
  ¬ ['_', '_'] <:+: text

instance (text : List Char) : Decidable (SingleUnderscores text) :=
  inferInstanceAs (Decidable (¬ ['_', '_'] <:+: text))

theorem singleUnderscores_cons_iff {rest : List Char} :
    SingleUnderscores (character :: rest) ↔
      ¬ (character = '_' ∧ rest.head? = some '_') ∧ SingleUnderscores rest := by
  rw [SingleUnderscores, SingleUnderscores, List.infix_cons_iff, not_or, List.cons_prefix_cons,
    @eq_comm _ '_' character]
  cases rest with
  | nil => simp
  | cons second rest => simp [List.cons_prefix_cons, @eq_comm _ '_' second]

theorem mem_underscoreRuns (member : character ∈ underscoreRuns isReplaced inRun text) :
    character = '_' ∨ isReplaced character = false ∧ character ∈ text := by
  induction text generalizing inRun with
  | nil => cases member
  | cons first rest inductionHypothesis =>
      have later : ∀ {inRun}, character ∈ underscoreRuns isReplaced inRun rest →
          character = '_' ∨ isReplaced character = false ∧ character ∈ first :: rest :=
        fun inRest => (inductionHypothesis inRest).imp_right fun ⟨kept, isIn⟩ =>
          ⟨kept, List.mem_cons_of_mem first isIn⟩
      rw [underscoreRuns] at member
      split at member
      · split at member
        · exact later member
        · exact (List.mem_cons.1 member).elim .inl later
      · rename_i notReplaced
        rcases List.mem_cons.1 member with rfl | inRest
        · exact .inr ⟨Bool.eq_false_iff.2 notReplaced, List.mem_cons_self⟩
        · exact later inRest

/-- Replacing runs leaves alone what is not replaced. -/
theorem filter_underscoreRuns (marksStay : ∀ other, isReplaced other = true → isMark other = false)
    (noMark : isMark '_' = false) :
    (underscoreRuns isReplaced inRun text).filter isMark = text.filter isMark := by
  induction text generalizing inRun with
  | nil => rfl
  | cons first rest inductionHypothesis =>
      rw [underscoreRuns]
      split
      · rename_i replaced
        rw [List.filter_cons_of_neg (a := first) (by simp [marksStay first replaced])]
        split
        · exact inductionHypothesis
        · rw [List.filter_cons_of_neg (by simp [noMark]), inductionHypothesis]
      · rw [List.filter_cons, List.filter_cons, inductionHypothesis]

theorem underscoreRuns_of_none (none : ∀ other ∈ text, isReplaced other = false) :
    underscoreRuns isReplaced inRun text = text := by
  induction text generalizing inRun with
  | nil => rfl
  | cons first rest inductionHypothesis =>
      rw [underscoreRuns, if_neg (by simp [none first List.mem_cons_self]),
        inductionHypothesis fun other member => none other (List.mem_cons_of_mem first member)]

/-- Where each run of underscores has become one, no two are left in a row. -/
theorem singleUnderscores_underscoreRuns :
    SingleUnderscores (underscoreRuns (· == '_') inRun text) ∧
      (inRun = true → (underscoreRuns (· == '_') inRun text).head? ≠ some '_') := by
  induction text generalizing inRun with
  | nil => simp [underscoreRuns, SingleUnderscores]
  | cons first rest inductionHypothesis =>
      rw [underscoreRuns]
      split
      · split
        · exact ⟨inductionHypothesis.1, fun _ => inductionHypothesis.2 rfl⟩
        · rename_i notInRun
          refine ⟨singleUnderscores_cons_iff.2 ⟨?_, inductionHypothesis.1⟩, fun isInRun =>
            absurd isInRun notInRun⟩
          exact fun both => inductionHypothesis.2 rfl both.2
      · rename_i notUnderscore
        rw [beq_iff_eq] at notUnderscore
        refine ⟨singleUnderscores_cons_iff.2 ⟨fun both => notUnderscore both.1,
          inductionHypothesis.1⟩, fun _ isFirst => ?_⟩
        exact notUnderscore (Option.some.inj isFirst)

/-- Underscores that stand alone are left as they are. -/
theorem underscoreRuns_of_single (single : SingleUnderscores text)
    (begins : inRun = true → text.head? ≠ some '_') :
    underscoreRuns (· == '_') inRun text = text := by
  induction text generalizing inRun with
  | nil => rfl
  | cons first rest inductionHypothesis =>
      obtain ⟨alone, singleRest⟩ := singleUnderscores_cons_iff.1 single
      rw [underscoreRuns]
      split
      · rename_i isUnderscore
        obtain rfl := beq_iff_eq.1 isUnderscore
        rw [if_neg fun isInRun => begins isInRun rfl,
          inductionHypothesis singleRest fun _ isFirst => alone ⟨rfl, isFirst⟩]
      · rw [inductionHypothesis singleRest fun isInRun => by cases isInRun]

theorem trimUnderscores_eq_rdropWhile (text : List Char) :
    trimUnderscores text = (text.dropWhile (· == '_')).rdropWhile (· == '_') :=
  rfl

theorem trimUnderscores_isInfix (text : List Char) : trimUnderscores text <:+: text :=
  (List.rdropWhile_prefix ..).isInfix.trans (List.dropWhile_suffix _).isInfix

theorem head?_trimUnderscores (text : List Char) : (trimUnderscores text).head? ≠ some '_' := by
  intro isFirst
  obtain ⟨removed, whole⟩ := List.rdropWhile_prefix (· == '_') (text.dropWhile (· == '_'))
  have notUnderscore := List.head?_dropWhile_not (· == '_') text
  rw [← whole, List.head?_append, ← trimUnderscores_eq_rdropWhile, isFirst] at notUnderscore
  simp at notUnderscore

theorem getLast?_trimUnderscores (text : List Char) :
    (trimUnderscores text).getLast? ≠ some '_' := by
  intro isLast
  have notEmpty : trimUnderscores text ≠ [] := by
    rintro empty
    rw [empty] at isLast
    cases isLast
  have notUnderscore := List.rdropWhile_last_not (· == '_') (text.dropWhile (· == '_')) notEmpty
  rw [List.getLast?_eq_some_getLast notEmpty] at isLast
  exact notUnderscore (beq_iff_eq.2 (Option.some.inj isLast))

theorem trimUnderscores_eq_self (begins : text.head? ≠ some '_')
    (ends : text.getLast? ≠ some '_') : trimUnderscores text = text := by
  have kept : text.dropWhile (· == '_') = text := by
    cases text with
    | nil => rfl
    | cons first rest =>
        exact List.dropWhile_cons_of_neg fun isUnderscore =>
          begins (congrArg some (beq_iff_eq.1 isUnderscore))
  rw [trimUnderscores_eq_rdropWhile, kept, List.rdropWhile_eq_self_iff]
  intro notEmpty isUnderscore
  rw [List.getLast?_eq_some_getLast notEmpty, beq_iff_eq.1 isUnderscore] at ends
  exact ends rfl

theorem filter_eq_nil_of_underscores {removed : List Char} (noMark : isMark '_' = false)
    (areUnderscores : ∀ other ∈ removed, (other == '_') = true) :
    removed.filter isMark = [] := by
  rw [List.filter_eq_nil_iff]
  intro other member
  rw [beq_iff_eq.1 (areUnderscores other member), noMark]
  exact Bool.false_ne_true

theorem filter_trimUnderscores (noMark : isMark '_' = false) (text : List Char) :
    (trimUnderscores text).filter isMark = text.filter isMark := by
  have front := filter_eq_nil_of_underscores noMark fun other =>
    List.mem_takeWhile_imp (p := (· == '_')) (l := text)
  have back := filter_eq_nil_of_underscores noMark fun other =>
    List.mem_rtakeWhile_imp (p := (· == '_')) (l := text.dropWhile (· == '_'))
  conv_rhs => rw [← List.takeWhile_append_dropWhile (p := (· == '_')) (l := text),
    ← List.rdropWhile_append_rtakeWhile (p := (· == '_')) (l := text.dropWhile (· == '_'))]
  rw [List.filter_append, List.filter_append, front, back, List.nil_append, List.append_nil,
    trimUnderscores_eq_rdropWhile]

end Underscores

/-! ### Tidy names -/

section Tidy

variable {name text : List Char}

/-- A name of ASCII letters, digits, hyphens and underscores, in which each underscore stands
alone between two other characters. -/
structure IsTidyName (name : List Char) : Prop where
  notEmpty : name ≠ []
  allowed : ∀ character ∈ name,
    character.isAlphanum = true ∨ character = '_' ∨ character = '-'
  single : SingleUnderscores name
  begins : name.head? ≠ some '_'
  ends : name.getLast? ≠ some '_'

theorem IsTidyName.isModNameChar (tidy : IsTidyName name) {character : Char}
    (member : character ∈ name) : isModNameChar character = true :=
  isModNameChar_iff.2 (tidy.allowed character member)

theorem isModNameChar_of_mem_cleanedName {character : Char}
    (member : character ∈ cleanedName text) : isModNameChar character = true := by
  rcases mem_underscoreRuns ((trimUnderscores_isInfix _).subset member) with rfl | ⟨-, inAllowed⟩
  · decide
  · rcases mem_underscoreRuns inAllowed with rfl | ⟨kept, -⟩
    · decide
    · simpa using kept

theorem isTidyName_cleanedName (notEmpty : cleanedName text ≠ []) :
    IsTidyName (cleanedName text) where
  notEmpty := notEmpty
  allowed _ member := isModNameChar_iff.1 (isModNameChar_of_mem_cleanedName member)
  single inside := singleUnderscores_underscoreRuns.1 (inside.trans (trimUnderscores_isInfix _))
  begins := head?_trimUnderscores _
  ends := getLast?_trimUnderscores _

/-- A text as a name has the marks of the text, in the same order. -/
theorem filter_isNameMark_cleanedName (text : List Char) :
    (cleanedName text).filter isNameMark = text.filter isNameMark := by
  have noMark : isNameMark '_' = false := by decide
  have blanksGo : (Text.trim text).filter isNameMark = text.filter isNameMark := by
    have noMarks : ∀ {blanks : List Char}, Text.AllBlank blanks →
        blanks.filter isNameMark = [] := by
      intro blanks areBlank
      rw [List.filter_eq_nil_iff]
      intro character member mark
      have notBlank := not_isBlank_of_isModNameChar (isNameMark_iff.1 mark).1
      rw [areBlank character member] at notBlank
      cases notBlank
    obtain ⟨tail, areBlank, whole⟩ := Text.exists_eq_leadingBlanks_append_trim text
    conv_rhs => rw [whole]
    rw [List.filter_append, List.filter_append, noMarks (Text.allBlank_leadingBlanks text),
      noMarks areBlank, List.nil_append, List.append_nil]
  rw [cleanedName, filter_trimUnderscores noMark, filter_underscoreRuns _ noMark,
    filter_underscoreRuns _ noMark, blanksGo]
  · intro other replaced
    have notNameChar : isModNameChar other = false := by simpa using replaced
    rw [isNameMark, notNameChar, Bool.false_and]
  · intro other replaced
    rw [beq_iff_eq.1 replaced, noMark]

/-- Nothing is left of a text exactly if nothing in it makes up names. -/
theorem cleanedName_eq_nil_iff : cleanedName text = [] ↔ text.filter isNameMark = [] := by
  rw [← filter_isNameMark_cleanedName]
  constructor
  · intro empty
    rw [empty, List.filter_nil]
  · intro noMarks
    by_contra notEmpty
    obtain ⟨first, rest, split⟩ := List.exists_cons_of_ne_nil notEmpty
    have tidy := isTidyName_cleanedName notEmpty
    rw [split] at tidy noMarks
    refine List.filter_eq_nil_iff.1 noMarks first List.mem_cons_self (isNameMark_iff.2
      ⟨tidy.isModNameChar List.mem_cons_self, ?_⟩)
    rintro rfl
    exact tidy.begins rfl

theorem cleanedName_of_isTidyName (tidy : IsTidyName name) : cleanedName name = name := by
  have trimmed : Text.trim name = name :=
    Text.trim_eq_of_isTrimmed
      ⟨fun character isFirst => not_isBlank_of_isModNameChar
        (tidy.isModNameChar (List.mem_of_mem_head? isFirst)),
      fun character isLast => not_isBlank_of_isModNameChar
        (tidy.isModNameChar (List.mem_of_getLast? isLast))⟩
  have allowed : underscoreRuns (!isModNameChar ·) false name = name :=
    underscoreRuns_of_none fun character member => by simp [tidy.isModNameChar member]
  rw [cleanedName, trimmed, allowed,
    underscoreRuns_of_single tidy.single (fun isInRun => by cases isInRun),
    trimUnderscores_eq_self tidy.begins tidy.ends]

theorem isTidyName_defaultModName : IsTidyName defaultModName.toList where
  notEmpty := by decide
  allowed character member :=
    have allAllowed : defaultModName.toList.all isModNameChar = true := by decide
    isModNameChar_iff.1 (List.all_eq_true.1 allAllowed character member)
  single := by decide
  begins := by decide
  ends := by decide

theorem modNameOf_of_noMarks {displayName : String}
    (noMarks : displayName.toList.filter isNameMark = []) :
    modNameOf displayName = defaultModName := by
  rw [modNameOf, cleanedName_eq_nil_iff.2 noMarks]

theorem toList_modNameOf_of_marks {displayName : String}
    (someMark : displayName.toList.filter isNameMark ≠ []) :
    (modNameOf displayName).toList = cleanedName displayName.toList := by
  rw [modNameOf]
  split
  · rename_i empty
    exact absurd (cleanedName_eq_nil_iff.1 empty) someMark
  · exact String.toList_ofList

theorem isTidyName_modNameOf (displayName : String) :
    IsTidyName (modNameOf displayName).toList := by
  by_cases noMarks : displayName.toList.filter isNameMark = []
  · rw [modNameOf_of_noMarks noMarks]
    exact isTidyName_defaultModName
  · rw [toList_modNameOf_of_marks noMarks]
    exact isTidyName_cleanedName (mt cleanedName_eq_nil_iff.1 noMarks)

/-- A tidy name is the name of a mod that is displayed by this name. -/
theorem modNameOf_of_isTidyName {name : String} (tidy : IsTidyName name.toList) :
    modNameOf name = name := by
  rw [modNameOf, cleanedName_of_isTidyName tidy]
  split
  · rename_i empty
    exact absurd empty tidy.notEmpty
  · exact String.ofList_toList

end Tidy

/-! ### Names that settings let pass -/

section Accepted

variable {settings : MergeSettings} {problems : List SettingsProblem} {text : List Char}

theorem modNameText_ofText (settings : MergeSettings) (name : String) :
    ({ settings with modName := .ofText name } : MergeSettings).modNameText = name :=
  rfl

/-- A name passes if it is made of characters that a name may have; a line feed may follow. -/
theorem isModName_iff :
    isModName text = true ↔
      ∃ name, name ≠ [] ∧ (∀ character ∈ name, isModNameChar character = true) ∧
        (text = name ∨ text = name ++ ['\n']) := by
  constructor
  · intro accepted
    have accepts : ∀ name : List Char, (!name.isEmpty && name.all isModNameChar) = true →
        name ≠ [] ∧ ∀ character ∈ name, isModNameChar character = true := by
      simp
    rw [isModName] at accepted
    split at accepted
    · rename_i lineFeed
      obtain ⟨notEmpty, allowed⟩ := accepts _ accepted
      exact ⟨text.dropLast, notEmpty, allowed,
        .inr (List.dropLast_append_getLast? _ lineFeed).symm⟩
    · obtain ⟨notEmpty, allowed⟩ := accepts _ accepted
      exact ⟨text, notEmpty, allowed, .inl rfl⟩
  · rintro ⟨name, notEmpty, allowed, rfl | rfl⟩
    · have noLineFeed : text.getLast? ≠ some '\n' := by
        intro isLast
        exact absurd (allowed _ (List.mem_of_getLast? isLast)) (by decide)
      rw [isModName, if_neg noLineFeed]
      simpa [notEmpty] using allowed
    · rw [isModName, if_pos List.getLast?_concat, List.dropLast_concat]
      simpa [notEmpty] using allowed

theorem IsTidyName.isModName (tidy : IsTidyName text) : isModName text = true :=
  isModName_iff.2 ⟨text, tidy.notEmpty, fun _ => tidy.isModNameChar, .inl rfl⟩

/-- What can be wrong with the number of workers is not the name. -/
theorem modName_not_mem_workerProblems (found : settings.workerProblems = .ok problems)
    (name : String) : .modName name ∉ problems := by
  rw [MergeSettings.workerProblems] at found
  split at found
  · obtain rfl := Except.ok.inj found
    split <;> simp
  · cases found
  · obtain rfl := Except.ok.inj found
    simp

/-- Something is wrong with the name of the merged mod exactly if it does not pass. -/
theorem modName_mem_problems_iff (found : settings.problems = .ok problems) :
    (∃ name, .modName name ∈ problems) ↔ isModName settings.modNameText.toList = false := by
  obtain ⟨⟨⟩, -, checked⟩ := bind_eq_ok.1 found
  obtain ⟨others, ofWorkers, returned⟩ := bind_eq_ok.1 checked
  obtain rfl := Except.ok.inj returned
  have notOther := modName_not_mem_workerProblems ofWorkers
  by_cases accepted : isModName settings.modNameText.toList = true <;>
    simp [accepted, notOther]

end Accepted

/-- A name that is made of a display name is never empty, and tidy; settings with this name have
nothing wrong with their name, and it is the name that is made of itself. It has what makes up
names in the display name, in the same order, or is the usual name if that is nothing. -/
theorem modNameOf_isUsable (displayName : String) :
    IsTidyName (modNameOf displayName).toList ∧
    (∀ (settings : MergeSettings) (problems : List SettingsProblem) (name : String),
      ({ settings with modName := .ofText (modNameOf displayName) } : MergeSettings).problems =
        .ok problems → .modName name ∉ problems) ∧
    modNameOf (modNameOf displayName) = modNameOf displayName ∧
    (if displayName.toList.filter isNameMark = [] then modNameOf displayName = defaultModName
    else (modNameOf displayName).toList.filter isNameMark =
      displayName.toList.filter isNameMark) := by
  have tidy := isTidyName_modNameOf displayName
  refine ⟨tidy, fun settings problems name found isProblem => ?_, modNameOf_of_isTidyName tidy, ?_⟩
  · have refused := (modName_mem_problems_iff found).1 ⟨name, isProblem⟩
    rw [modNameText_ofText, tidy.isModName] at refused
    cases refused
  · split
    · rename_i noMarks
      exact modNameOf_of_noMarks noMarks
    · rename_i someMark
      rw [toList_modNameOf_of_marks someMark, filter_isNameMark_cleanedName]

example : modNameOf "  My -- Big__Merge! " = "My_--_Big_Merge" := by decide +kernel

end ModMerge
