import Mathlib.Data.List.Sort
import ModMerge.Ids.Runs
import ModMerge.Proofs.Ids.FreshIds

/-!
# Runs are maximal

Two ids belong to the same run of a set exactly if no id between them is missing
(`SameRun`), which says nothing about how runs are found. Cutting ascending ids into runs
finds these classes: each piece is made of consecutive ids, and an id and its successor are
never parted.
-/

namespace ModMerge

/-- No id between two ids is missing. -/
def SameRun (ids : List Int) (first second : Int) : Prop :=
  ∀ id, min first second ≤ id → id ≤ max first second → id ∈ ids

/-- Joining an id to runs leaves each run as it was or puts the id before its ids. -/
theorem mem_consRun {id : Int} {runs : List (List Int)} {run : List Int}
    (member : run ∈ consRun id runs) :
    run = [id] ∨ run ∈ runs ∨ ∃ first ∈ runs, first.head? = some (id + 1) ∧ run = id :: first := by
  cases runs with
  | nil => exact .inl (List.mem_singleton.1 member)
  | cons first others =>
      simp only [consRun] at member
      split at member
      · next joins =>
          rcases List.mem_cons.1 member with rfl | later
          · exact .inr (.inr ⟨first, List.mem_cons_self, joins, rfl⟩)
          · exact .inr (.inl (List.mem_cons_of_mem first later))
      · rcases List.mem_cons.1 member with rfl | later
        · exact .inl rfl
        · exact .inr (.inl later)

/-- A run consists of consecutive ids. -/
theorem exists_eq_idsFrom_of_mem_splitRuns {ids run : List Int} (member : run ∈ splitRuns ids) :
    ∃ first count, run = idsFrom first count := by
  induction ids generalizing run with
  | nil => cases member
  | cons id rest inductionHypothesis =>
      change run ∈ consRun id (splitRuns rest) at member
      obtain rfl | inRest | ⟨first, inRest, joins, rfl⟩ := mem_consRun member
      · exact ⟨id, 1, by simp [idsFrom]⟩
      · exact inductionHypothesis inRest
      · obtain ⟨start, count, rfl⟩ := inductionHypothesis inRest
        cases count with
        | zero => cases joins
        | succ count =>
            rw [idsFrom_succ, List.head?_cons, Option.some.injEq] at joins
            subst joins
            exact ⟨id, count + 2, (idsFrom_succ ..).symm⟩

/-- The first run begins with the first id. -/
theorem head?_of_splitRuns_eq_cons {ids run : List Int} {others : List (List Int)}
    (pieces : splitRuns ids = run :: others) : run.head? = ids.head? := by
  have notEmpty := ne_nil_of_mem_splitRuns ids run (pieces ▸ List.mem_cons_self)
  rw [← flatten_splitRuns ids, pieces, List.flatten_cons, List.head?_append_of_ne_nil _ notEmpty]

theorem mem_of_mem_splitRuns {ids run : List Int} (member : run ∈ splitRuns ids) {id : Int}
    (inRun : id ∈ run) : id ∈ ids := by
  rw [← flatten_splitRuns ids]
  exact List.mem_flatten_of_mem member inRun

theorem exists_mem_splitRuns {ids : List Int} {id : Int} (member : id ∈ ids) :
    ∃ run ∈ splitRuns ids, id ∈ run := by
  rw [← flatten_splitRuns ids] at member
  exact List.mem_flatten.1 member

/-- If the successor of an id follows, the id joins the run that begins there. -/
theorem splitRuns_cons_of_succ_mem {id : Int} {rest : List Int}
    (ascending : (id :: rest).Pairwise (· < ·)) (nextInRest : id + 1 ∈ rest) :
    ∃ first others, splitRuns rest = first :: others ∧ id + 1 ∈ first ∧
      splitRuns (id :: rest) = (id :: first) :: others := by
  rw [List.pairwise_cons] at ascending
  have headEq : rest.head? = some (id + 1) := by
    cases rest with
    | nil => cases nextInRest
    | cons head tail =>
        rcases List.mem_cons.1 nextInRest with isHead | inTail
        · rw [isHead, List.head?_cons]
        · have above := ascending.1 head List.mem_cons_self
          have below := (List.pairwise_cons.1 ascending.2).1 _ inTail
          omega
  cases pieces : splitRuns rest with
  | nil =>
      have nothing := flatten_splitRuns rest
      rw [pieces] at nothing
      rw [← nothing] at nextInRest
      cases nextInRest
  | cons first others =>
      have begins := (head?_of_splitRuns_eq_cons pieces).trans headEq
      refine ⟨first, others, rfl, List.mem_of_mem_head? begins, ?_⟩
      change consRun id (splitRuns rest) = _
      rw [pieces, consRun, if_pos begins]

/-- An id and its successor are never parted. -/
theorem mem_iff_succ_mem_of_mem_splitRuns {ids : List Int} (ascending : ids.Pairwise (· < ·))
    {run : List Int} (member : run ∈ splitRuns ids) {id : Int} (inIds : id ∈ ids)
    (nextInIds : id + 1 ∈ ids) : id ∈ run ↔ id + 1 ∈ run := by
  induction ids generalizing run with
  | nil => cases inIds
  | cons first rest inductionHypothesis =>
      have above := (List.pairwise_cons.1 ascending).1
      have nextInRest : id + 1 ∈ rest := by
        rcases List.mem_cons.1 nextInIds with isFirst | inRest
        · rcases List.mem_cons.1 inIds with same | inRest
          · omega
          · have := above id inRest
            omega
        · exact inRest
      rcases List.mem_cons.1 inIds with rfl | inRest
      · obtain ⟨joined, others, pieces, nextInJoined, whole⟩ :=
          splitRuns_cons_of_succ_mem ascending nextInRest
        rw [whole] at member
        rcases List.mem_cons.1 member with rfl | later
        · simp [nextInJoined]
        · have inOthers : ∀ other ∈ run, other ∈ rest ∧ other ∉ joined := by
            intro other inRun
            have nodup := (List.pairwise_cons.1 ascending).2.imp Int.ne_of_lt
            rw [← flatten_splitRuns rest, pieces, List.flatten_cons] at nodup
            have later' := List.mem_flatten_of_mem later inRun
            refine ⟨?_, fun inJoined => (List.nodup_append'.1 nodup).2.2 inJoined later'⟩
            exact mem_of_mem_splitRuns (pieces ▸ List.mem_cons_of_mem _ later) inRun
          constructor
          · intro inRun
            have := above id (inOthers id inRun).1
            omega
          · exact fun inRun => absurd nextInJoined (inOthers _ inRun).2
      · have idAbove := above id inRest
        have unparted : ∀ {run}, run ∈ splitRuns rest → (id ∈ run ↔ id + 1 ∈ run) :=
          fun member => inductionHypothesis (List.pairwise_cons.1 ascending).2 member inRest
            nextInRest
        obtain rfl | inRuns | ⟨joined, inRuns, -, rfl⟩ := mem_consRun member
        · simp only [List.mem_singleton]
          omega
        · exact unparted inRuns
        · rw [List.mem_cons, List.mem_cons, unparted inRuns, or_iff_right (by omega),
            or_iff_right (by omega)]

/-- A run holds all ids between two of its own. -/
theorem mem_of_mem_idsFrom {first second third start : Int} {count : Nat}
    (inFirst : first ∈ idsFrom start count) (inSecond : second ∈ idsFrom start count)
    (above : min first second ≤ third) (below : third ≤ max first second) :
    third ∈ idsFrom start count := by
  rw [mem_idsFrom] at inFirst inSecond ⊢
  omega

/-- The run of an id holds all ids up to which none is missing. -/
theorem mem_run_of_forall_mem {ids : List Int} (ascending : ids.Pairwise (· < ·))
    {run : List Int} (member : run ∈ splitRuns ids) {id : Int} (count : Nat)
    (complete : ∀ offset : Nat, offset ≤ count → id + offset ∈ ids) :
    id ∈ run ↔ id + count ∈ run := by
  induction count with
  | zero => simp
  | succ count inductionHypothesis =>
      have here := complete count (Nat.le_succ count)
      have next := complete (count + 1) (Nat.le_refl _)
      rw [Int.natCast_add, Int.natCast_one, ← Int.add_assoc] at next ⊢
      rw [inductionHypothesis fun offset bound => complete offset (Nat.le_succ_of_le bound)]
      exact mem_iff_succ_mem_of_mem_splitRuns ascending member here next

/-- The ids in the run of an id are those in its class. -/
theorem mem_run_iff_sameRun {ids : List Int} (ascending : ids.Pairwise (· < ·))
    {run : List Int} (member : run ∈ splitRuns ids) {id other : Int} (inRun : id ∈ run) :
    other ∈ run ↔ SameRun ids id other := by
  constructor
  · intro otherInRun between above below
    obtain ⟨start, count, rfl⟩ := exists_eq_idsFrom_of_mem_splitRuns member
    exact mem_of_mem_splitRuns member (mem_of_mem_idsFrom inRun otherInRun above below)
  · intro same
    rcases Int.le_total id other with below | above
    · have complete : ∀ offset : Nat, offset ≤ (other - id).toNat → id + offset ∈ ids := by
        intro offset bound
        apply same <;> omega
      have reached := (mem_run_of_forall_mem ascending member _ complete).1 inRun
      have atOther : id + ((other - id).toNat : Int) = other := by omega
      rwa [atOther] at reached
    · have complete : ∀ offset : Nat, offset ≤ (id - other).toNat → other + offset ∈ ids := by
        intro offset bound
        apply same <;> omega
      apply (mem_run_of_forall_mem ascending member _ complete).2
      have atId : other + ((id - other).toNat : Int) = id := by omega
      rwa [atId]

theorem pairwise_lt_mergeSort {ids : List Int} (nodup : ids.Nodup) :
    ids.mergeSort.Pairwise (· < ·) := by
  have sorted : ids.mergeSort.Pairwise fun first second => decide (first ≤ second) = true :=
    List.pairwise_mergeSort (by simpa using fun _ _ _ => Int.le_trans)
      (by simpa using Int.le_total) ids
  have distinct : ids.mergeSort.Pairwise (· ≠ ·) := (List.mergeSort_perm ids _).nodup_iff.2 nodup
  exact (sorted.and distinct).imp fun both => lt_of_le_of_ne (of_decide_eq_true both.1) both.2

/-- Consecutive ids of a set that no further id of the set continues. -/
structure IsMaximalRun (ids run : List Int) : Prop where
  notEmpty : run ≠ []
  subset : ∀ id ∈ run, id ∈ ids
  bounded : ∃ first, run = idsFrom first run.length ∧ first - 1 ∉ ids ∧
    first + run.length ∉ ids

theorem IsMaximalRun.mem_iff_sameRun {ids run : List Int} (maximal : IsMaximalRun ids run)
    {id other : Int} (inRun : id ∈ run) : other ∈ run ↔ SameRun ids id other := by
  obtain ⟨first, isRun, notBefore, notAfter⟩ := maximal.bounded
  rw [isRun, mem_idsFrom] at inRun
  constructor
  · intro otherInRun between above below
    rw [isRun, mem_idsFrom] at otherInRun
    refine maximal.subset between ?_
    rw [isRun, mem_idsFrom]
    omega
  · intro same
    by_contra notInRun
    rw [isRun, mem_idsFrom] at notInRun
    by_cases before : other < first
    · exact notBefore (same (first - 1) (by omega) (by omega))
    · exact notAfter (same (first + run.length) (by omega) (by omega))

/-- The runs that ascending ids are cut into are the maximal ones. -/
theorem mem_splitRuns_of_isMaximalRun {ids run : List Int} (ascending : ids.Pairwise (· < ·))
    (maximal : IsMaximalRun ids run) : run ∈ splitRuns ids := by
  obtain ⟨id, inRun⟩ := List.exists_mem_of_ne_nil run maximal.notEmpty
  obtain ⟨piece, isPiece, inPiece⟩ := exists_mem_splitRuns (maximal.subset id inRun)
  obtain ⟨start, count, pieceEq⟩ := exists_eq_idsFrom_of_mem_splitRuns isPiece
  obtain ⟨first, isRun, -, -⟩ := maximal.bounded
  have runAscends : run.Pairwise (· < ·) := by
    rw [isRun]
    exact pairwise_idsFrom first run.length
  have pieceAscends : piece.Pairwise (· < ·) := by
    rw [pieceEq]
    exact pairwise_idsFrom start count
  have same : run = piece :=
    runAscends.sortedLT.eq_of_mem_iff pieceAscends.sortedLT fun other =>
      (maximal.mem_iff_sameRun inRun).trans
        (mem_run_iff_sameRun ascending isPiece inPiece).symm
  rw [same]
  exact isPiece

end ModMerge
