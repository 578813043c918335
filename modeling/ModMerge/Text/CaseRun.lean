import ModMerge.Text.CodeRanges

/-!
# Case mapping by runs

Letters that change case come in runs: consecutive letters, or every second one, whose
images are equally far away. A table of `CaseRun`s and `CaseRun.image` give the case
mapping of single characters.
-/

namespace ModMerge.Text

/-- The characters `first`, `first + stride`, … up to `last`; the first of them has the
image `imageOfFirst` and the others follow at the same distance. -/
structure CaseRun where
  first : Nat
  last : Nat
  stride : Nat
  imageOfFirst : Nat

/-- Whether a code point belongs to the run. -/
def CaseRun.covers (run : CaseRun) (code : Nat) : Bool :=
  run.first ≤ code && code ≤ run.last && (code - run.first) % run.stride == 0

/-- The image of a character under a table of runs; a character of no run is kept. -/
def CaseRun.image (runs : List CaseRun) (character : Char) : Char :=
  match runs.find? (·.covers character.toNat) with
  | some run => Char.ofNat (run.imageOfFirst + (character.toNat - run.first))
  | none => character

end ModMerge.Text
