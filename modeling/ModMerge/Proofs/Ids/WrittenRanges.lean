import Mathlib.Data.List.Sort
import ModMerge.Proofs.Fold
import ModMerge.Proofs.Ids.MaximalRuns
import ModMerge.Proofs.Text.Numerals

/-!
# Ranges of ids in writing

The spans that a text of ranges shows are the maximal runs of its ids, one span for each run. The
text is read back without loss (`spansOfText_rangesText`): digits and the two marks between them
cannot be mistaken for each other as long as no id is negative. A text is made only of numbers that
have few enough digits; since the ends of the spans are ids and all others lie between them, that is
so exactly if no id has too many (`forall_short_ends_iff`).
-/

namespace ModMerge

/-! ### Spans are runs -/

section Spans

variable {first last : Int} {count : Nat} {rest ids : List Int} {span : IdSpan}

/-- Consecutive ids that nothing continues are a run. -/
theorem splitRuns_idsFrom_append (apart : rest.head? ≠ some (first + count + 1)) :
    splitRuns (idsFrom first (count + 1) ++ rest) =
      idsFrom first (count + 1) :: splitRuns rest := by
  induction count generalizing first with
  | zero =>
      rw [idsFrom_one, List.singleton_append]
      change consRun first (splitRuns rest) = _
      cases pieces : splitRuns rest with
      | nil => rfl
      | cons run others =>
          rw [consRun, if_neg]
          rw [head?_of_splitRuns_eq_cons pieces]
          simpa using apart
  | succ count inductionHypothesis =>
      have apartRest : rest.head? ≠ some (first + 1 + count + 1) := by
        have same : first + 1 + (count : Int) + 1 = first + (count + 1 : Nat) + 1 := by omega
        rwa [same]
      rw [idsFrom_succ, List.cons_append]
      change consRun first (splitRuns (idsFrom (first + 1) (count + 1) ++ rest)) = _
      rw [inductionHypothesis apartRest, consRun, if_pos (by rw [idsFrom_succ, List.head?_cons])]

theorem splitRuns_ids_append (filled : first ≤ last) (apart : rest.head? ≠ some (last + 1)) :
    splitRuns (IdSpan.ids ⟨first, last⟩ ++ rest) =
      IdSpan.ids ⟨first, last⟩ :: splitRuns rest := by
  have size : (last + 1 - first).toNat = (last - first).toNat + 1 := by omega
  have next : first + ((last - first).toNat : Int) + 1 = last + 1 := by omega
  rw [IdSpan.ids, size, splitRuns_idsFrom_append (by rwa [next])]

theorem ids_self (id : Int) : IdSpan.ids ⟨id, id⟩ = [id] := by
  have one : (id + 1 - id).toNat = 1 := by omega
  rw [IdSpan.ids, one, idsFrom_one]

theorem ids_succ (filled : first ≤ last) :
    IdSpan.ids ⟨first, last + 1⟩ = IdSpan.ids ⟨first, last⟩ ++ [last + 1] := by
  have parted := idsFrom_eq_append (show first ≤ last + 1 by omega)
    (show last + 1 ≤ last + 1 + 1 by omega)
  have one : (last + 1 + 1 - (last + 1)).toNat = 1 := by omega
  rwa [one, idsFrom_one] at parted

/-- The spans from one on that is filled up to now are the runs of its ids and the others. -/
theorem map_ids_spansAfter (filled : first ≤ last) :
    (spansAfter first last rest).map IdSpan.ids =
      splitRuns (IdSpan.ids ⟨first, last⟩ ++ rest) := by
  induction rest generalizing first last with
  | nil =>
      rw [splitRuns_ids_append filled (by simp)]
      rfl
  | cons id rest inductionHypothesis =>
      rw [spansAfter]
      split
      · rename_i continues
        subst continues
        rw [inductionHypothesis (by omega), ids_succ filled, List.append_assoc,
          List.singleton_append]
      · rename_i apart
        rw [splitRuns_ids_append filled (by simpa using apart), List.map_cons,
          inductionHypothesis (Int.le_refl id), ids_self, List.singleton_append]

/-- Each span is filled, and there is a gap before the next one. -/
theorem spaced_spansAfter (filled : first ≤ last) (ascending : (last :: rest).Pairwise (· < ·)) :
    (spansAfter first last rest).Pairwise (fun before after => before.last + 1 < after.first) ∧
      ∀ span ∈ spansAfter first last rest, first ≤ span.first ∧ span.first ≤ span.last := by
  induction rest generalizing first last with
  | nil =>
      refine ⟨List.pairwise_singleton _ _, fun span member => ?_⟩
      obtain rfl := List.mem_singleton.1 member
      exact ⟨Int.le_refl first, filled⟩
  | cons id rest inductionHypothesis =>
      obtain ⟨above, ascendingRest⟩ := List.pairwise_cons.1 ascending
      have isAbove := above id List.mem_cons_self
      rw [spansAfter]
      split
      · exact inductionHypothesis (by omega) ascendingRest
      · obtain ⟨spaced, later⟩ := inductionHypothesis (Int.le_refl id) ascendingRest
        refine ⟨List.pairwise_cons.2 ⟨fun span member => ?_, spaced⟩, fun span member => ?_⟩
        · have isLater := (later span member).1
          change last + 1 < span.first
          omega
        · rcases List.mem_cons.1 member with rfl | isLater
          · exact ⟨Int.le_refl first, filled⟩
          · obtain ⟨bound, isFilled⟩ := later span isLater
            exact ⟨by omega, isFilled⟩

/-- The members of a set of ids that is listed in any way, in ascending order. -/
def orderedIds (ids : List Int) : List Int :=
  (IdSet.insertAll ∅ ids).ids

theorem mem_orderedIds {id : Int} : id ∈ orderedIds ids ↔ id ∈ ids := by
  simp [orderedIds, IdSet.mem_insertAll]

theorem pairwise_orderedIds (ids : List Int) : (orderedIds ids).Pairwise (· < ·) :=
  IdSet.ids_pairwise_lt _

theorem orderedIds_congr {others : List Int} (same : ∀ id, id ∈ ids ↔ id ∈ others) :
    orderedIds ids = orderedIds others :=
  (pairwise_orderedIds ids).sortedLT.eq_of_mem_iff (pairwise_orderedIds others).sortedLT
    fun id => by rw [mem_orderedIds, mem_orderedIds, same]

theorem contiguousRuns_eq_splitRuns {distinct : List Int} (nodup : distinct.Nodup)
    (same : ∀ id, id ∈ distinct ↔ id ∈ ids) :
    contiguousRuns distinct = splitRuns (orderedIds ids) := by
  rw [contiguousRuns]
  refine congrArg splitRuns ((pairwise_lt_mergeSort nodup).sortedLT.eq_of_mem_iff
    (pairwise_orderedIds ids).sortedLT fun id => ?_)
  rw [List.mem_mergeSort, same, mem_orderedIds]

theorem map_ids_idSpans (ids : List Int) :
    (idSpans ids).map IdSpan.ids = splitRuns (orderedIds ids) := by
  rw [idSpans, ← orderedIds]
  split
  · rename_i empty
    rw [empty]
    rfl
  · rename_i first rest ordered
    rw [map_ids_spansAfter (Int.le_refl first), ordered, ids_self, List.singleton_append]

theorem spaced_idSpans (ids : List Int) :
    (idSpans ids).Pairwise (fun before after => before.last + 1 < after.first) ∧
      ∀ span ∈ idSpans ids, span.first ≤ span.last := by
  have ascending := pairwise_orderedIds ids
  rw [idSpans, ← orderedIds]
  split
  · exact ⟨.nil, fun span member => by cases member⟩
  · rename_i first rest ordered
    rw [ordered] at ascending
    obtain ⟨spaced, filled⟩ := spaced_spansAfter (Int.le_refl first) ascending
    exact ⟨spaced, fun span member => (filled span member).2⟩

/-- The spans of ids cover exactly these ids. -/
theorem flatMap_ids_idSpans (ids : List Int) :
    (idSpans ids).flatMap IdSpan.ids = orderedIds ids := by
  rw [List.flatMap_def, map_ids_idSpans, flatten_splitRuns]

end Spans

/-! ### The text of a run -/

/-- A run as text: its only number, or its first and last one. -/
def runText : List Int → String
  | [] => ""
  | [id] => Text.decimalString id
  | first :: second :: rest =>
      Text.decimalString first ++ "-" ++
        Text.decimalString ((second :: rest).getLast (List.cons_ne_nil second rest))

/-- A span is written as the run of its ids. -/
theorem runText_ids {span : IdSpan} (filled : span.first ≤ span.last) :
    runText span.ids = span.text := by
  obtain ⟨first, last⟩ := span
  rw [IdSpan.text]
  split
  · rename_i same
    obtain rfl : first = last := same
    rw [ids_self]
    rfl
  · rename_i different
    have below : first < last := lt_of_le_of_ne filled different
    have size : (last + 1 - first).toNat = (last - first - 1).toNat + 1 + 1 := by omega
    have isLast : ((first + 1) :: idsFrom (first + 1 + 1) (last - first - 1).toNat).getLast? =
        some last := by
      rw [← idsFrom_succ, getLast?_idsFrom]
      congr 1
      omega
    rw [IdSpan.ids, size, idsFrom_succ, idsFrom_succ, runText,
      (List.getLast_eq_iff_getLast?_eq_some _).2 isLast]

theorem rangesText_eq (ids : List Int) :
    rangesText ids = ", ".intercalate ((splitRuns (orderedIds ids)).map runText) := by
  rw [rangesText, ← map_ids_idSpans, List.map_map]
  refine congrArg (", ".intercalate ·) (List.map_congr_left fun span member => ?_)
  exact (runText_ids ((spaced_idSpans ids).2 span member)).symm

/-! ### Reading ranges -/

/-- The span that a text shows. -/
def spanOfText? (characters : List Char) : Option IdSpan :=
  match characters.splitOn '-' with
  | [only] =>
      if only.isEmpty then none else some ⟨Text.digitsValue only, Text.digitsValue only⟩
  | [first, last] => some ⟨Text.digitsValue first, Text.digitsValue last⟩
  | _ => none

/-- The spans that a text of ranges shows. -/
def spansOfText (text : String) : List IdSpan :=
  ((text.toList.filter (· != ' ')).splitOn ',').filterMap spanOfText?

section Reading

variable {id : Int} {span : IdSpan} {ids : List Int}

theorem decimalText_of_nonneg (notNegative : 0 ≤ id) :
    Text.decimalText id = Nat.toDigits 10 id.natAbs := by
  rw [Text.decimalText, if_neg (Int.not_lt.2 notNegative)]

theorem isDigit_of_mem_decimalText (notNegative : 0 ≤ id) {character : Char}
    (member : character ∈ Text.decimalText id) : character.isDigit = true := by
  rw [decimalText_of_nonneg notNegative] at member
  exact Nat.isDigit_of_mem_toDigits (by decide) (by decide) member

theorem digitsValue_decimalText (notNegative : 0 ≤ id) :
    (Text.digitsValue (Text.decimalText id) : Int) = id := by
  rw [decimalText_of_nonneg notNegative, Text.digitsValue_toDigits]
  omega

theorem toList_text (span : IdSpan) :
    span.text.toList =
      if span.first = span.last then Text.decimalText span.first
      else Text.decimalText span.first ++ '-' :: Text.decimalText span.last := by
  rw [IdSpan.text]
  split
  · exact String.toList_ofList
  · simp [Text.decimalString]

/-- A span without negative ids is written in digits and at most a mark between them. -/
theorem mem_text (notNegative : 0 ≤ span.first) (filled : span.first ≤ span.last)
    {character : Char} (member : character ∈ span.text.toList) :
    character = '-' ∨ character.isDigit = true := by
  rw [toList_text] at member
  split at member
  · exact .inr (isDigit_of_mem_decimalText notNegative member)
  · rcases List.mem_append.1 member with inFirst | inRest
    · exact .inr (isDigit_of_mem_decimalText notNegative inFirst)
    · exact (List.mem_cons.1 inRest).imp_right
        (isDigit_of_mem_decimalText (Int.le_trans notNegative filled))

/-- A span without negative ids is read back. -/
theorem spanOfText?_text (notNegative : 0 ≤ span.first) (filled : span.first ≤ span.last) :
    spanOfText? span.text.toList = some span := by
  have noMark : ∀ {id : Int}, 0 ≤ id → '-' ∉ Text.decimalText id := by
    intro id notNegative member
    exact absurd (isDigit_of_mem_decimalText notNegative member) (by decide)
  have notNegativeLast : 0 ≤ span.last := Int.le_trans notNegative filled
  obtain ⟨first, last⟩ := span
  rw [toList_text]
  dsimp only at notNegative notNegativeLast ⊢
  split
  · rename_i same
    subst same
    rw [spanOfText?, List.splitOn_eq_singleton (noMark notNegative)]
    simp [Text.decimalText_ne_nil, digitsValue_decimalText notNegative]
  · have noMarks : ∀ digits ∈ [Text.decimalText first, Text.decimalText last], '-' ∉ digits := by
      simp [noMark notNegative, noMark notNegativeLast]
    have parts := List.splitOn_intercalate '-' noMarks (by simp)
    have joined : Text.decimalText first ++ '-' :: Text.decimalText last =
        ['-'].intercalate [Text.decimalText first, Text.decimalText last] := by
      simp [List.intercalate]
    rw [spanOfText?, joined, parts]
    simp [digitsValue_decimalText notNegative, digitsValue_decimalText notNegativeLast]

/-- The marks between parts that contain no blank are commas, once the blanks are gone. -/
theorem filter_intercalate {parts : List (List Char)} (noBlank : ∀ part ∈ parts, ' ' ∉ part) :
    ([',', ' '].intercalate parts).filter (· != ' ') = [','].intercalate parts := by
  have kept : ∀ part ∈ parts, part.filter (· != ' ') = part := by
    intro part member
    rw [List.filter_eq_self]
    rintro character isIn
    rw [bne_iff_ne]
    rintro rfl
    exact noBlank part member isIn
  induction parts with
  | nil => rfl
  | cons first rest inductionHypothesis =>
      have later := inductionHypothesis
        (fun part member => noBlank part (List.mem_cons_of_mem first member))
        (fun part member => kept part (List.mem_cons_of_mem first member))
      have keptFirst := kept first List.mem_cons_self
      cases rest with
      | nil => simpa [List.intercalate] using keptFirst
      | cons second rest =>
          rw [List.intercalate_cons_cons, List.intercalate_cons_cons, List.filter_append,
            List.filter_append, keptFirst, later]
          rfl

/-- Ranges of ids that are not negative are read back from their text. -/
theorem spansOfText_rangesText (notNegative : ∀ id ∈ ids, 0 ≤ id) :
    spansOfText (rangesText ids) = idSpans ids := by
  have filled := (spaced_idSpans ids).2
  have notNegativeSpan : ∀ span ∈ idSpans ids, 0 ≤ span.first := by
    intro span member
    have covered : span.first ∈ (idSpans ids).flatMap IdSpan.ids :=
      List.mem_flatMap.2 ⟨span, member, mem_idsFrom.2 ⟨Int.le_refl _, by
        have := filled span member
        omega⟩⟩
    rw [flatMap_ids_idSpans, mem_orderedIds] at covered
    exact notNegative _ covered
  have clear : ∀ part ∈ (idSpans ids).map fun span => span.text.toList,
      ' ' ∉ part ∧ ',' ∉ part := by
    intro part member
    obtain ⟨span, isSpan, rfl⟩ := List.mem_map.1 member
    have written {character : Char} (isIn : character ∈ span.text.toList) :=
      mem_text (notNegativeSpan span isSpan) (filled span isSpan) isIn
    exact ⟨fun isIn => absurd (written isIn) (by decide),
      fun isIn => absurd (written isIn) (by decide)⟩
  rw [spansOfText, rangesText, String.toList_intercalate, List.map_map]
  change (List.splitOn ',' ((List.intercalate [',', ' ']
    ((idSpans ids).map fun span => span.text.toList)).filter (· != ' '))).filterMap spanOfText? = _
  rw [filter_intercalate fun part member => (clear part member).1]
  by_cases empty : idSpans ids = []
  · rw [empty]
    rfl
  · rw [List.splitOn_intercalate ',' (fun part member => (clear part member).2)
      (by simpa using empty), List.filterMap_map]
    have each : (idSpans ids).filterMap (spanOfText? ∘ fun span => span.text.toList) =
        (idSpans ids).filterMap some :=
      List.filterMap_congr fun span member =>
        spanOfText?_text (notNegativeSpan span member) (filled span member)
    rw [each, List.filterMap_some]

end Reading

/-! ### Writing ranges -/

section Writing

variable {ids : List Int}

/-- What stands in the text of ids are some of them, and the others lie between those. -/
theorem forall_short_ends_iff (ids : List Int) :
    (∀ number ∈ (idSpans ids).flatMap IdSpan.ends, Text.Short number) ↔
      ∀ id ∈ ids, Text.Short id := by
  have covers : ∀ id, id ∈ (idSpans ids).flatMap IdSpan.ids ↔ id ∈ ids := by
    intro id
    rw [flatMap_ids_idSpans, mem_orderedIds]
  have filled := (spaced_idSpans ids).2
  simp only [List.mem_flatMap, IdSpan.ids, mem_idsFrom] at covers
  constructor
  · intro short id member
    obtain ⟨span, isSpan, above, below⟩ := (covers id).2 member
    have shortEnd : ∀ number ∈ span.ends, Text.Short number := fun number isEnd =>
      short number (List.mem_flatMap.2 ⟨span, isSpan, isEnd⟩)
    exact (shortEnd span.first (by simp [IdSpan.ends])).of_between
      (shortEnd span.last (by simp [IdSpan.ends])) above (by omega)
  · intro short number member
    obtain ⟨span, isSpan, isEnd⟩ := List.mem_flatMap.1 member
    have isFilled := filled span isSpan
    have within : span.first ≤ number ∧ number ≤ span.last := by
      rw [IdSpan.ends, List.mem_cons, List.mem_singleton] at isEnd
      omega
    exact short number ((covers number).1 ⟨span, isSpan, within.1, by omega⟩)

/-- Sets of ids can be written if no id has too many digits. -/
theorem requireRanges_eq_ok_iff {sets : List (List Int)} :
    requireRanges sets = .ok () ↔ ∀ ids ∈ sets, ∀ id ∈ ids, Text.Short id := by
  rw [requireRanges, Text.requireWritable_eq_ok_iff, List.forall_mem_flatMap]
  exact forall₂_congr fun ids _ => forall_short_ends_iff ids

theorem requireRanges_eq_ok_or (sets : List (List Int)) :
    requireRanges sets = .ok () ∨ requireRanges sets = .error .tooLong :=
  Text.requireWritable_eq_ok_or _

theorem writeRanges_of_short (short : ∀ id ∈ ids, Text.Short id) :
    writeRanges ids = .ok (rangesText ids) := by
  rw [writeRanges, requireRanges_eq_ok_iff.2 (by simpa using short)]
  rfl

theorem writeRanges_of_long {id : Int} (member : id ∈ ids) (long : ¬ Text.Short id) :
    writeRanges ids = .error .tooLong := by
  rcases requireRanges_eq_ok_or [ids] with written | refused
  · exact absurd (requireRanges_eq_ok_iff.1 written ids List.mem_cons_self id member) long
  · rw [writeRanges, refused]
    rfl

end Writing

/-! ### Ranges whose bounds can be written -/

/-- The bounds of a range have few enough digits to be written. -/
def EntityRange.Short (range : EntityRange) : Prop :=
  ∀ bound ∈ range.bounds, Text.Short bound

/-- If the bounds of a range can be written, so can every id between them. -/
theorem EntityRange.Short.of_isModding {range : EntityRange} (short : range.Short) {id : Int}
    (modding : range.isModding id = true) : Text.Short id := by
  simp only [isModding, Bool.and_eq_true, decide_eq_true_eq] at modding
  exact (short range.moddingStart (by simp [bounds])).of_between
    (short range.moddingEnd (by simp [bounds])) modding.1 modding.2

theorem EntityRange.short_of_lt_million {range : EntityRange}
    (small : ∀ bound ∈ range.bounds, bound.natAbs < 10 ^ 6) : range.Short := fun bound member =>
  Nat.lt_of_lt_of_le (small bound member) (Nat.pow_le_pow_right (by decide) (by decide))

/-- The bounds of the game's own ranges can be written. -/
theorem short_defaultRanges (type : EntityType) : (defaultRanges.get type).Short := by
  rw [defaultRanges, EntityTable.get_ofFunction]
  exact EntityRange.short_of_lt_million (by cases type <;> decide)

/-- Ranges are written unless an id has more digits than a text may show, and they show the ids
without loss. Their spans ascend, with a gap between any two of them, and are the maximal runs into
which the distinct ids are cut. In the text each stands as one number or by its first and last one;
reading the text gives these spans back, and they cover exactly the ids. So what is written for two
lists is the same exactly if they hold the same ids. -/
theorem writeRanges_isLossless (ids : List Int) (notNegative : ∀ id ∈ ids, 0 ≤ id) :
    (idSpans ids).Pairwise (fun before after => before.last + 1 < after.first) ∧
    (∀ distinct : List Int, distinct.Nodup → (∀ id, id ∈ distinct ↔ id ∈ ids) →
      (idSpans ids).map IdSpan.ids = contiguousRuns distinct) ∧
    ((∃ id ∈ ids, ¬ Text.Short id) → writeRanges ids = .error .tooLong) ∧
    ((∀ id ∈ ids, Text.Short id) → ∃ text, writeRanges ids = .ok text ∧
      (∀ distinct : List Int, distinct.Nodup → (∀ id, id ∈ distinct ↔ id ∈ ids) →
        text = ", ".intercalate ((contiguousRuns distinct).map runText)) ∧
      spansOfText text = idSpans ids ∧
      (∀ id, id ∈ (spansOfText text).flatMap IdSpan.ids ↔ id ∈ ids) ∧
      ∀ others : List Int, (∀ id ∈ others, 0 ≤ id) →
        (writeRanges others = .ok text ↔ ∀ id, id ∈ ids ↔ id ∈ others)) := by
  have covered : ∀ {ids : List Int}, (∀ id ∈ ids, 0 ≤ id) → ∀ id,
      id ∈ (spansOfText (rangesText ids)).flatMap IdSpan.ids ↔ id ∈ ids := by
    intro ids notNegative id
    rw [spansOfText_rangesText notNegative, flatMap_ids_idSpans, mem_orderedIds]
  refine ⟨(spaced_idSpans ids).1, fun distinct nodup same => ?_, ?_, fun short => ?_⟩
  · rw [contiguousRuns_eq_splitRuns nodup same]
    exact map_ids_idSpans ids
  · rintro ⟨id, member, long⟩
    exact writeRanges_of_long member long
  · refine ⟨rangesText ids, writeRanges_of_short short, fun distinct nodup same => ?_,
      spansOfText_rangesText notNegative, covered notNegative, fun others notNegativeOthers =>
      ⟨fun sameText id => ?_, fun same => ?_⟩⟩
    · rw [contiguousRuns_eq_splitRuns nodup same]
      exact rangesText_eq ids
    · obtain ⟨-, -, finished⟩ := bind_eq_ok.1 sameText
      rw [← covered notNegative, ← covered notNegativeOthers, Except.ok.inj finished]
    · rw [writeRanges_of_short fun id member => short id ((same id).2 member), rangesText_eq,
        rangesText_eq, orderedIds_congr same]

theorem writeRanges_isLossless_mixedIds :
    (∀ id ∈ [9, 2, 10, 1, 7, 2, 3], (0 : Int) ≤ id) ∧
    writeRanges [9, 2, 10, 1, 7, 2, 3] = .ok "1-3, 7, 9-10" ∧
    spansOfText "1-3, 7, 9-10" = [⟨1, 3⟩, ⟨7, 7⟩, ⟨9, 10⟩] ∧
    (writeRanges [10, 9, 7, 3, 2, 1] = .ok "1-3, 7, 9-10" ↔
      ∀ id : Int, id ∈ [9, 2, 10, 1, 7, 2, 3] ↔ id ∈ [10, 9, 7, 3, 2, 1]) := by
  have notNegative : ∀ id ∈ [9, 2, 10, 1, 7, 2, 3], (0 : Int) ≤ id := by decide
  have short : ∀ id ∈ [9, 2, 10, 1, 7, 2, 3], Text.Short id := by
    simp only [← Text.isWritable_iff]
    decide +kernel
  obtain ⟨-, -, -, written⟩ := writeRanges_isLossless _ notNegative
  obtain ⟨text, isWritten, -, readBack, -, sameIff⟩ := written short
  obtain rfl : "1-3, 7, 9-10" = text := by
    have computed : writeRanges [9, 2, 10, 1, 7, 2, 3] = .ok "1-3, 7, 9-10" := by decide +kernel
    exact Except.ok.inj (computed.symm.trans isWritten)
  refine ⟨notNegative, isWritten, readBack.trans ?_, sameIff _ (by decide)⟩
  decide +kernel

end ModMerge
