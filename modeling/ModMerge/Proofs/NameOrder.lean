import Mathlib.Data.List.Nodup
import Mathlib.Data.String.Basic

/-!
# The order of names

Values that have names are sorted by them. The names of the sorted values are the same however the
values were arranged before, and so are the values themselves unless two of them have the same
name.
-/

namespace ModMerge

variable {Value : Type} (nameOf : Value → String)

theorem pairwise_mergeSort_byName (values : List Value) :
    (values.mergeSort fun first second => nameOf first ≤ nameOf second).Pairwise
      fun first second => nameOf first ≤ nameOf second := by
  have pairwise : (values.mergeSort fun first second => nameOf first ≤ nameOf second).Pairwise
      fun first second => decide (nameOf first ≤ nameOf second) = true :=
    List.pairwise_mergeSort
      (fun first second third => by simpa using fun earlier later => le_trans earlier later)
      (fun first second => by simpa using le_total (nameOf first) (nameOf second)) values
  exact pairwise.imp of_decide_eq_true

/-- Values that are arranged differently have the same names after sorting. -/
theorem map_mergeSort_byName_eq_of_perm {values arranged : List Value}
    (sameNames : (values.map nameOf).Perm (arranged.map nameOf)) :
    (values.mergeSort fun first second => nameOf first ≤ nameOf second).map nameOf =
      (arranged.mergeSort fun first second => nameOf first ≤ nameOf second).map nameOf := by
  refine List.Perm.eq_of_pairwise (fun _ _ _ _ => le_antisymm)
    (List.pairwise_map.2 (pairwise_mergeSort_byName nameOf values))
    (List.pairwise_map.2 (pairwise_mergeSort_byName nameOf arranged)) ?_
  exact ((List.mergeSort_perm values _).map nameOf).trans
    (sameNames.trans ((List.mergeSort_perm arranged _).map nameOf).symm)

/-- Sorting leaves no choice when no two values have the same name. -/
theorem mergeSort_byName_eq_of_perm {values arranged : List Value}
    (distinct : (values.map nameOf).Nodup) (perm : values.Perm arranged) :
    values.mergeSort (fun first second => nameOf first ≤ nameOf second) =
      arranged.mergeSort fun first second => nameOf first ≤ nameOf second := by
  refine List.Perm.eq_of_pairwise ?_ (pairwise_mergeSort_byName nameOf values)
    (pairwise_mergeSort_byName nameOf arranged)
    ((List.mergeSort_perm values _).trans (perm.trans (List.mergeSort_perm arranged _).symm))
  intro first second inFirst inSecond below above
  exact List.inj_on_of_nodup_map distinct (List.mem_mergeSort.1 inFirst)
    (perm.mem_iff.2 (List.mem_mergeSort.1 inSecond)) (le_antisymm below above)

end ModMerge
