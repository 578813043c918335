import ModMerge.Proofs.Text.CharClasses
import ModMerge.Proofs.Text.Trimming

/-!
# Lower case is stable

Lower case has no lower case of its own, so mapping a text twice is mapping it once. For the
letters beyond ASCII this is a fact about a table: no image of a run lies in a run. Sets of
codes are compared as bit masks, which takes one operation instead of one for each pair.
-/

namespace ModMerge.Text

/-- A set of codes as a number: the bits of the codes are set. -/
def maskOf (codes : List Nat) : Nat :=
  codes.foldl (fun mask code => mask ||| 1 <<< code) 0

theorem testBit_maskOf {codes : List Nat} {code : Nat} (member : code ∈ codes) :
    (maskOf codes).testBit code = true := by
  have general : ∀ mask : Nat, mask.testBit code = true ∨ code ∈ codes →
      (codes.foldl (fun mask code => mask ||| 1 <<< code) mask).testBit code = true := by
    clear member
    induction codes with
    | nil => simp
    | cons first rest inductionHypothesis =>
        intro mask set
        apply inductionHypothesis
        rcases set with already | member
        · exact .inl (by simp [Nat.testBit_or, already])
        · rcases List.mem_cons.1 member with rfl | later
          · exact .inl (by simp [Nat.testBit_or, Nat.testBit_shiftLeft])
          · exact .inr later
  exact general 0 (.inr member)

/-- Masks that share no bit belong to sets that share no code. -/
theorem not_mem_of_land_eq_zero {first second : List Nat}
    (apart : maskOf first &&& maskOf second = 0) {code : Nat} (member : code ∈ first) :
    code ∉ second := by
  intro also
  have both : (maskOf first &&& maskOf second).testBit code = true := by
    rw [Nat.testBit_and, testBit_maskOf member, testBit_maskOf also, Bool.and_self]
  rw [apart, Nat.zero_testBit] at both
  cases both

namespace CaseRun

/-- The codes that a run covers. -/
def codes (run : CaseRun) : List Nat :=
  (List.range ((run.last - run.first) / run.stride + 1)).map fun place =>
    run.first + place * run.stride

/-- The codes of their images. -/
def images (run : CaseRun) : List Nat :=
  (List.range ((run.last - run.first) / run.stride + 1)).map fun place =>
    run.imageOfFirst + place * run.stride

theorem exists_place_of_covers {run : CaseRun} {code : Nat} (covers : run.covers code = true) :
    ∃ place < (run.last - run.first) / run.stride + 1,
      code = run.first + place * run.stride := by
  simp only [CaseRun.covers, Bool.and_eq_true, decide_eq_true_eq, beq_iff_eq] at covers
  obtain ⟨⟨above, below⟩, multiple⟩ := covers
  refine ⟨(code - run.first) / run.stride, ?_, ?_⟩
  · exact Nat.lt_succ_of_le (Nat.div_le_div_right (by omega))
  · rw [Nat.div_mul_cancel (Nat.dvd_of_mod_eq_zero multiple)]
    omega

end CaseRun

/-- Codes that no letter beyond ASCII may become: those that have a lower case themselves, the
blanks, and the characters of the directive that ends a block. -/
def unreachedCodes : List Nat :=
  lowerCaseRuns.flatMap (·.codes) ++ List.range' 0x41 26 ++ blankCodes ++
    [0x23, 0x64, 0x65, 0x6e, 0x130, 0x3a3]

theorem images_avoid_unreachedCodes :
    maskOf (lowerCaseRuns.flatMap (·.images)) &&& maskOf unreachedCodes = 0 := by
  decide +kernel

theorem images_isValidChar : (lowerCaseRuns.flatMap (·.images)).all (fun code =>
    Nat.blt code 0xd800 || (Nat.blt 0xdfff code && Nat.blt code 0x110000)) = true := by
  decide +kernel

theorem toNat_ofNat_of_isValidChar {code : Nat} (valid : code.isValidChar) :
    (Char.ofNat code).toNat = code := by
  rw [Char.ofNat, dif_pos valid]
  rfl

/-- A character either keeps its place or takes that of an image. -/
theorem image_eq_self_or_mem_images (character : Char) :
    (CaseRun.image lowerCaseRuns character = character ∧
      ∀ run ∈ lowerCaseRuns, run.covers character.toNat = false) ∨
    (CaseRun.image lowerCaseRuns character).toNat ∈ lowerCaseRuns.flatMap (·.images) := by
  rw [CaseRun.image]
  cases found : lowerCaseRuns.find? (·.covers character.toNat) with
  | none => exact .inl ⟨rfl, fun run member => by simpa using List.find?_eq_none.1 found run member⟩
  | some run =>
      right
      have inTable := List.mem_of_find?_eq_some found
      have covers := List.find?_some found
      obtain ⟨place, bound, code⟩ := CaseRun.exists_place_of_covers covers
      have imageCode : run.imageOfFirst + (character.toNat - run.first) =
          run.imageOfFirst + place * run.stride := by omega
      have isImage : run.imageOfFirst + (character.toNat - run.first) ∈
          lowerCaseRuns.flatMap (·.images) := by
        refine List.mem_flatMap.2 ⟨run, inTable, List.mem_map.2 ⟨place, ?_, imageCode.symm⟩⟩
        exact List.mem_range.2 bound
      have valid := List.all_eq_true.1 images_isValidChar _ isImage
      simp only [Bool.or_eq_true, Bool.and_eq_true, Nat.blt_eq] at valid
      rw [toNat_ofNat_of_isValidChar valid]
      exact isImage

/-- The character is its own lower case wherever it stands. -/
structure LowerStable (character : Char) : Prop where
  notSigma : character ≠ 'Σ'
  lowerChar_eq : lowerChar character = [character]

theorem not_mem_unreachedCodes {character : Char}
    (isImage : character.toNat ∈ lowerCaseRuns.flatMap (·.images)) :
    character.toNat ∉ unreachedCodes :=
  not_mem_of_land_eq_zero images_avoid_unreachedCodes isImage

/-- A letter that no run covers is its own lower case. -/
theorem image_eq_self_of_not_mem {character : Char}
    (notCovered : character.toNat ∉ lowerCaseRuns.flatMap (·.codes)) :
    CaseRun.image lowerCaseRuns character = character := by
  rw [CaseRun.image]
  cases found : lowerCaseRuns.find? (·.covers character.toNat) with
  | none => rfl
  | some run =>
      exfalso
      apply notCovered
      have covers := List.find?_some found
      obtain ⟨place, bound, code⟩ := CaseRun.exists_place_of_covers covers
      exact List.mem_flatMap.2 ⟨run, List.mem_of_find?_eq_some found,
        List.mem_map.2 ⟨place, List.mem_range.2 bound, code.symm⟩⟩

theorem toLower_eq_self_of_not_mem {character : Char}
    (notUpper : character.toNat ∉ List.range' 0x41 26) : character.toLower = character := by
  refine dif_neg ?_
  rintro ⟨above, below⟩
  rw [ge_iff_le, UInt32.le_iff_toNat_le] at above
  rw [UInt32.le_iff_toNat_le] at below
  apply notUpper
  rw [List.mem_range'_1]
  exact ⟨above, Nat.lt_succ_of_le below⟩

/-- Images of runs are lower case for good. -/
theorem lowerStable_of_isImage {character : Char}
    (isImage : character.toNat ∈ lowerCaseRuns.flatMap (·.images)) : LowerStable character := by
  have unreached := not_mem_unreachedCodes isImage
  simp only [unreachedCodes, List.mem_append, not_or] at unreached
  obtain ⟨⟨⟨notCovered, notUpper⟩, -⟩, notSpecial⟩ := unreached
  constructor
  case notSigma =>
    rintro rfl
    revert notSpecial
    decide
  case lowerChar_eq =>
    have notDotted : (character == '\u0130') = false := by
      rw [beq_eq_false_iff_ne]
      rintro rfl
      revert notSpecial
      decide
    rw [lowerChar, notDotted, image_eq_self_of_not_mem notCovered,
      toLower_eq_self_of_not_mem notUpper]
    simp

theorem lowerStable_of_ascii {character : Char} (ascii : character.toNat < 0x80) :
    LowerStable character.toLower := by
  have table : ∀ code < 0x80, (Char.ofNat code).toLower ≠ 'Σ' ∧
      lowerChar (Char.ofNat code).toLower = [(Char.ofNat code).toLower] := by decide +kernel
  have here := table _ ascii
  rw [Char.ofNat_toNat] at here
  exact ⟨here.1, here.2⟩

/-- The lower case of one character of a text. -/
def lowerPiece (before : List Char) (character : Char) (rest : List Char) : List Char :=
  if character == 'Σ' then [if sigmaEndsWord before rest then 'ς' else 'σ']
  else lowerChar character

theorem lowerCaseAfter_cons (before : List Char) (character : Char) (rest : List Char) :
    lowerCaseAfter before (character :: rest) =
      lowerPiece before character rest ++ lowerCaseAfter (character :: before) rest :=
  rfl

/-- What the lower case of a character can be. -/
theorem lowerPiece_cases (before : List Char) (character : Char) (rest : List Char) :
    (character = 'Σ' ∧ (lowerPiece before character rest = ['ς'] ∨
      lowerPiece before character rest = ['σ'])) ∨
    (character.toNat < 0x80 ∧ lowerPiece before character rest = [character.toLower]) ∨
    (character = '\u0130' ∧ lowerPiece before character rest = ['i', '\u0307']) ∨
    (0x80 ≤ character.toNat ∧ character ≠ 'Σ' ∧ lowerPiece before character rest = [character] ∧
      lowerChar character = [character]) ∨
    ∃ image, lowerPiece before character rest = [image] ∧
      image.toNat ∈ lowerCaseRuns.flatMap (·.images) := by
  by_cases sigma : character = 'Σ'
  · left
    subst sigma
    refine ⟨rfl, ?_⟩
    cases ends : sigmaEndsWord before rest
    · exact .inr (by simp [lowerPiece, ends])
    · exact .inl (by simp [lowerPiece, ends])
  right
  have piece : lowerPiece before character rest = lowerChar character := by
    simp [lowerPiece, sigma]
  rw [piece]
  by_cases ascii : character.toNat < 0x80
  · exact .inl ⟨ascii, if_pos ascii⟩
  right
  by_cases dotted : character = '\u0130'
  · left
    subst dotted
    exact ⟨rfl, by decide +kernel⟩
  right
  have lower : lowerChar character = [CaseRun.image lowerCaseRuns character] := by
    simp [lowerChar, ascii, dotted]
  rcases image_eq_self_or_mem_images character with ⟨same, -⟩ | isImage
  · left
    rw [same] at lower
    exact ⟨by omega, sigma, lower, lower⟩
  · exact .inr ⟨_, lower, isImage⟩

theorem lowerPiece_ne_nil (before : List Char) (character : Char) (rest : List Char) :
    lowerPiece before character rest ≠ [] := by
  obtain ⟨-, piece | piece⟩ | ⟨-, piece⟩ | ⟨-, piece⟩ | ⟨-, -, piece, -⟩ | ⟨_, piece, -⟩ :=
    lowerPiece_cases before character rest <;> simp [piece]

theorem lowerStable_of_mem_lowerPiece {before rest : List Char} {character lower : Char}
    (member : lower ∈ lowerPiece before character rest) : LowerStable lower := by
  obtain ⟨-, piece | piece⟩ | ⟨ascii, piece⟩ | ⟨-, piece⟩ | ⟨-, notSigma, piece, stable⟩ |
    ⟨image, piece, isImage⟩ := lowerPiece_cases before character rest
  all_goals rw [piece] at member
  · obtain rfl := List.mem_singleton.1 member
    exact ⟨by decide, by decide +kernel⟩
  · obtain rfl := List.mem_singleton.1 member
    exact ⟨by decide, by decide +kernel⟩
  · obtain rfl := List.mem_singleton.1 member
    exact lowerStable_of_ascii ascii
  · rcases List.mem_cons.1 member with rfl | member
    · exact ⟨by decide, by decide +kernel⟩
    · obtain rfl := List.mem_singleton.1 member
      exact ⟨by decide, by decide +kernel⟩
  · obtain rfl := List.mem_singleton.1 member
    exact ⟨notSigma, stable⟩
  · obtain rfl := List.mem_singleton.1 member
    exact lowerStable_of_isImage isImage

theorem lowerStable_of_mem_lowerCaseAfter {before text : List Char} {lower : Char}
    (member : lower ∈ lowerCaseAfter before text) : LowerStable lower := by
  induction text generalizing before with
  | nil => cases member
  | cons character rest inductionHypothesis =>
      rw [lowerCaseAfter_cons] at member
      rcases List.mem_append.1 member with here | later
      · exact lowerStable_of_mem_lowerPiece here
      · exact inductionHypothesis later

/-- A text of lower-case characters is kept. -/
theorem lowerCaseAfter_of_lowerStable {before text : List Char}
    (stable : ∀ character ∈ text, LowerStable character) :
    lowerCaseAfter before text = text := by
  induction text generalizing before with
  | nil => rfl
  | cons character rest inductionHypothesis =>
      have here := stable character List.mem_cons_self
      have piece : lowerPiece before character rest = [character] := by
        simp [lowerPiece, here.notSigma, here.lowerChar_eq]
      rw [lowerCaseAfter_cons, piece,
        inductionHypothesis fun other member => stable other (List.mem_cons_of_mem _ member)]
      rfl

/-- Mapping a text to lower case twice is mapping it once. -/
theorem lowerCase_lowerCase (text : List Char) : lowerCase (lowerCase text) = lowerCase text :=
  lowerCaseAfter_of_lowerStable fun _ => lowerStable_of_mem_lowerCaseAfter

/-! ### Blanks -/

theorem not_isBlank_of_mem_lowerPiece {before rest : List Char} {character lower : Char}
    (notBlank : isBlank character = false) (member : lower ∈ lowerPiece before character rest) :
    isBlank lower = false := by
  obtain ⟨-, piece | piece⟩ | ⟨ascii, piece⟩ | ⟨-, piece⟩ | ⟨-, -, piece, -⟩ |
    ⟨image, piece, isImage⟩ := lowerPiece_cases before character rest
  all_goals rw [piece] at member
  · obtain rfl := List.mem_singleton.1 member
    decide
  · obtain rfl := List.mem_singleton.1 member
    decide
  · obtain rfl := List.mem_singleton.1 member
    have table : ∀ code < 0x80, isBlank (Char.ofNat code) = false →
        isBlank (Char.ofNat code).toLower = false := by decide +kernel
    have here := table _ ascii
    rw [Char.ofNat_toNat] at here
    exact here notBlank
  · rcases List.mem_cons.1 member with rfl | member
    · decide
    · obtain rfl := List.mem_singleton.1 member
      decide
  · obtain rfl := List.mem_singleton.1 member
    exact notBlank
  · obtain rfl := List.mem_singleton.1 member
    have unreached := not_mem_unreachedCodes isImage
    simp only [unreachedCodes, List.mem_append, not_or] at unreached
    rw [← Bool.not_eq_true]
    exact fun blank => unreached.1.2 (toNat_mem_blankCodes blank)

/-- The last character of a text is mapped to the last characters of its lower case. -/
theorem exists_lowerCaseAfter_concat (before text : List Char) (last : Char) :
    ∃ front context, lowerCaseAfter before (text ++ [last]) =
      front ++ lowerPiece context last [] := by
  induction text generalizing before with
  | nil => exact ⟨[], before, by simp [lowerCaseAfter_cons, lowerCaseAfter]⟩
  | cons character rest inductionHypothesis =>
      obtain ⟨front, context, split⟩ := inductionHypothesis (character :: before)
      refine ⟨lowerPiece before character (rest ++ [last]) ++ front, context, ?_⟩
      rw [List.cons_append, lowerCaseAfter_cons, split, List.append_assoc]

theorem isTrimmed_lowerCase {text : List Char} (trimmed : IsTrimmed text) :
    IsTrimmed (lowerCase text) where
  head := by
    intro lower isHead
    cases text with
    | nil => cases isHead
    | cons character rest =>
        rw [lowerCase, lowerCaseAfter_cons,
          List.head?_append_of_ne_nil _ (lowerPiece_ne_nil _ _ _)] at isHead
        exact not_isBlank_of_mem_lowerPiece (trimmed.head character rfl)
          (List.mem_of_mem_head? isHead)
  last := by
    intro lower isLast
    rcases List.eq_nil_or_concat' text with rfl | ⟨front, character, rfl⟩
    · cases isLast
    · obtain ⟨start, context, split⟩ := exists_lowerCaseAfter_concat [] front character
      rw [lowerCase, split,
        List.getLast?_append_of_ne_nil _ (lowerPiece_ne_nil _ _ _)] at isLast
      exact not_isBlank_of_mem_lowerPiece (trimmed.last character List.getLast?_concat)
        (List.mem_of_getLast? isLast)

end ModMerge.Text

namespace ModMerge

open Text

/-- A name that has been brought into the form for looking it up stays in it. -/
theorem nameKey_nameKey (name : String) : nameKey (nameKey name) = nameKey name := by
  simp only [nameKey, String.toList_ofList]
  rw [trim_eq_of_isTrimmed (isTrimmed_lowerCase (isTrimmed_trim _)), lowerCase_lowerCase]

end ModMerge

namespace ModMerge.Text

/-! ### The line that ends a block -/

/-- Only ASCII characters have those of the end line as their lower case. -/
theorem exists_of_lowerCaseAfter_eq_cons {before text rest : List Char} {lower : Char}
    (isEnd : lower ∈ ['#', 'e', 'n', 'd'])
    (whole : lowerCaseAfter before text = lower :: rest) :
    ∃ character tail, text = character :: tail ∧ character.toNat < 0x80 ∧
      character.toLower = lower ∧ lowerCaseAfter (character :: before) tail = rest := by
  cases text with
  | nil => cases whole
  | cons character tail =>
      have table : ∀ lower ∈ ['#', 'e', 'n', 'd'], lower.toNat < 0x80 ∧
          lower.toNat ∈ [0x23, 0x64, 0x65, 0x6e, 0x130, 0x3a3] ∧ lower ≠ 'i' := by
        simp only [List.forall_mem_cons, List.not_mem_nil, false_imp_iff, implies_true, and_true]
        decide
      obtain ⟨isAscii, isSpecial, notI⟩ := table lower isEnd
      rw [lowerCaseAfter_cons] at whole
      obtain ⟨-, piece | piece⟩ | ⟨ascii, piece⟩ | ⟨-, piece⟩ | ⟨large, -, piece, -⟩ |
        ⟨image, piece, isImage⟩ := lowerPiece_cases before character tail
      all_goals
        rw [piece, List.cons_append] at whole
        obtain ⟨rfl, rest⟩ := List.cons.inj whole
      · exact absurd isAscii (by decide)
      · exact absurd isAscii (by decide)
      · exact ⟨character, tail, rfl, ascii, rfl, rest⟩
      · exact absurd rfl notI
      · omega
      · have unreached := not_mem_unreachedCodes isImage
        exact absurd (List.mem_append_right _ isSpecial) unreached

/-- What has the end line as its lower case is that line but for the case of its letters. -/
theorem exists_of_lowerCase_eq_end {text : List Char} (same : lowerCase text = "#end".toList) :
    ∃ first second third, text = ['#', first, second, third] ∧ first.toLower = 'e' ∧
      second.toLower = 'n' ∧ third.toLower = 'd' ∧ first.toNat < 0x80 ∧
      second.toNat < 0x80 ∧ third.toNat < 0x80 := by
  obtain ⟨mark, tail, rfl, markAscii, isMark, same⟩ :=
    exists_of_lowerCaseAfter_eq_cons (by decide) same
  obtain ⟨first, tail, rfl, firstAscii, isFirst, same⟩ :=
    exists_of_lowerCaseAfter_eq_cons (by decide) same
  obtain ⟨second, tail, rfl, secondAscii, isSecond, same⟩ :=
    exists_of_lowerCaseAfter_eq_cons (by decide) same
  obtain ⟨third, tail, rfl, thirdAscii, isThird, same⟩ :=
    exists_of_lowerCaseAfter_eq_cons (by decide) same
  cases tail with
  | cons further rest =>
      rw [lowerCaseAfter_cons] at same
      exact absurd (List.append_eq_nil_iff.1 same).1 (lowerPiece_ne_nil _ _ _)
  | nil =>
      have table : ∀ code < 0x80, (Char.ofNat code).toLower = '#' → Char.ofNat code = '#' := by
        decide +kernel
      have here := table _ markAscii
      rw [Char.ofNat_toNat] at here
      exact ⟨first, second, third, by rw [here isMark], isFirst, isSecond, isThird, firstAscii,
        secondAscii, thirdAscii⟩

end ModMerge.Text
