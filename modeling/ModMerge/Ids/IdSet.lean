import Std.Data.TreeSet

/-!
# Sets of ids

Ids are collected in ordered sets: `ids` lists the members in strictly ascending order,
each once, however often and in whatever order they were added.
-/

namespace ModMerge

/-- A set of ids. -/
abbrev IdSet := Std.TreeSet Int

namespace IdSet

/-- The members in ascending order. -/
def ids (set : IdSet) : List Int :=
  set.toList

/-- The set with further members. -/
def insertAll (set : IdSet) (more : List Int) : IdSet :=
  more.foldl (·.insert ·) set

/-- The set without some members. -/
def eraseAll (set : IdSet) (fewer : List Int) : IdSet :=
  fewer.foldl (·.erase ·) set

/-- The number of ids that belong to at least one of two sets. -/
def unionSize (first second : IdSet) : Nat :=
  (insertAll first second.ids).size

@[simp]
theorem mem_ids (set : IdSet) (id : Int) : id ∈ set.ids ↔ id ∈ set :=
  Std.TreeSet.mem_toList

theorem mem_insert {set : IdSet} {id other : Int} :
    id ∈ set.insert other ↔ other = id ∨ id ∈ set := by
  rw [Std.TreeSet.mem_insert, Std.LawfulEqCmp.compare_eq_iff_eq]

theorem mem_insertAll (set : IdSet) (more : List Int) (id : Int) :
    id ∈ insertAll set more ↔ id ∈ more ∨ id ∈ set := by
  unfold insertAll
  induction more generalizing set with
  | nil => simp
  | cons first rest inductionHypothesis =>
      simp only [List.foldl_cons, inductionHypothesis, mem_insert, List.mem_cons]
      constructor
      · rintro (later | rfl | before) <;> simp_all
      · rintro ((rfl | later) | before) <;> simp_all

theorem mem_eraseAll (set : IdSet) (fewer : List Int) (id : Int) :
    id ∈ eraseAll set fewer ↔ id ∉ fewer ∧ id ∈ set := by
  unfold eraseAll
  induction fewer generalizing set with
  | nil => simp
  | cons first rest inductionHypothesis =>
      simp only [List.foldl_cons, inductionHypothesis, Std.TreeSet.mem_erase, ne_eq,
        Std.LawfulEqCmp.compare_eq_iff_eq, List.mem_cons, not_or]
      constructor
      · rintro ⟨later, different, before⟩
        exact ⟨⟨fun same => different same.symm, later⟩, before⟩
      · rintro ⟨⟨different, later⟩, before⟩
        exact ⟨later, fun same => different same.symm, before⟩

/-- The listed members ascend strictly. -/
theorem ids_pairwise_lt (set : IdSet) : set.ids.Pairwise (· < ·) := by
  have ordered := Std.TreeSet.ordered_toList (t := set)
  exact ordered.imp fun {first second} before => by
    simpa [Std.compare_eq_lt] using before

/-- Sets with the same members list the same ids. -/
theorem ids_eq_of_mem_iff {first second : IdSet} (same : ∀ id, id ∈ first ↔ id ∈ second) :
    first.ids = second.ids :=
  (Std.TreeSet.Equiv.of_forall_mem_iff same).toList_eq

end IdSet
end ModMerge
