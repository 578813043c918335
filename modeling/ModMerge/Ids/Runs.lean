import ModMerge.Ids.IdSet
import ModMerge.Text.Numeral

/-!
# Runs of ids

Consecutive ids belong together: a mod that numbers its monsters 5000, 5001, 5002 may
count on their order. `contiguousRuns` cuts a list of ids into its runs, and `rangesText`
shows a set of ids by the spans that they fill.
-/

namespace ModMerge

/-- The runs of a list that begins with an id and goes on with the given runs: the id
joins the first of them if that begins with its successor. -/
def consRun (id : Int) : List (List Int) → List (List Int)
  | [] => [[id]]
  | run :: others =>
      if run.head? = some (id + 1) then (id :: run) :: others else [id] :: run :: others

/-- The runs of a list of ids: it is cut wherever an id is not followed by its
successor. -/
def splitRuns (ids : List Int) : List (List Int) :=
  ids.foldr consRun []

/-- The runs of ids in ascending order; a repeated id begins a run of its own. -/
def contiguousRuns (ids : List Int) : List (List Int) :=
  splitRuns ids.mergeSort

/-- The given number of consecutive ids. -/
def idsFrom (first : Int) (count : Nat) : List Int :=
  (List.range count).map fun offset : Nat => first + offset

/-- All ids from `first` up to `last`. -/
structure IdSpan where
  first : Int
  last : Int
deriving DecidableEq, Repr

namespace IdSpan

/-- A span as text: one number, or its first and last number. -/
def text (span : IdSpan) : String :=
  if span.first = span.last then
    Text.decimalString span.first
  else
    Text.decimalString span.first ++ "-" ++ Text.decimalString span.last

/-- The numbers that stand in the text of a span. -/
def ends (span : IdSpan) : List Int :=
  [span.first, span.last]

/-- The ids that a span covers. -/
def ids (span : IdSpan) : List Int :=
  idsFrom span.first (span.last + 1 - span.first).toNat

end IdSpan

/-- The spans of ascending ids after a span that is filled from `first` to `last`. -/
def spansAfter (first last : Int) : List Int → List IdSpan
  | [] => [⟨first, last⟩]
  | id :: rest =>
      if id = last + 1 then spansAfter first id rest
      else ⟨first, last⟩ :: spansAfter id id rest

/-- The spans that a list of ids fills, in ascending order. -/
def idSpans (ids : List Int) : List IdSpan :=
  match (IdSet.insertAll ∅ ids).ids with
  | [] => []
  | first :: rest => spansAfter first first rest

/-- A set of ids as text. -/
def rangesText (ids : List Int) : String :=
  ", ".intercalate ((idSpans ids).map IdSpan.text)

/-- Refuse to write sets of ids if a number that stands in their texts has too many digits. -/
def requireRanges (sets : List (List Int)) : Except Text.NumeralError Unit :=
  Text.requireWritable (sets.flatMap fun ids => (idSpans ids).flatMap IdSpan.ends)

/-- Write a set of ids. -/
def writeRanges (ids : List Int) : Except Text.NumeralError String := do
  requireRanges [ids]
  return rangesText ids

/-- Joining an id to runs puts it before their ids. -/
theorem flatten_consRun (id : Int) (runs : List (List Int)) :
    (consRun id runs).flatten = id :: runs.flatten := by
  cases runs with
  | nil => rfl
  | cons run others =>
      simp only [consRun]
      split <;> simp

/-- Cutting into runs loses and adds nothing. -/
theorem flatten_splitRuns (ids : List Int) : (splitRuns ids).flatten = ids := by
  induction ids with
  | nil => rfl
  | cons id rest inductionHypothesis =>
      simp only [splitRuns, List.foldr_cons, flatten_consRun] at inductionHypothesis ⊢
      rw [inductionHypothesis]

/-- No run is empty. -/
theorem ne_nil_of_mem_splitRuns (ids run : List Int) (member : run ∈ splitRuns ids) :
    run ≠ [] := by
  induction ids generalizing run with
  | nil => simp [splitRuns] at member
  | cons id rest inductionHypothesis =>
      simp only [splitRuns, List.foldr_cons] at member inductionHypothesis
      generalize List.foldr consRun [] rest = runs at member inductionHypothesis
      cases runs with
      | nil => simp_all [consRun]
      | cons first others =>
          simp only [consRun] at member
          split at member
          · rcases List.mem_cons.1 member with rfl | member
            · simp
            · exact inductionHypothesis run (by simp [member])
          · rcases List.mem_cons.1 member with rfl | member
            · simp
            · exact inductionHypothesis run member

end ModMerge
