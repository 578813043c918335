import Mathlib.Data.List.Induction
import ModMerge.Files.Store
import ModMerge.Proofs.Files.Trees

/-!
# The last names of paths

Paths that end in different names mean different places. So nothing that is written under a
temporary name gets in the way of a file whose name ends otherwise, or of the file itself. A path
that does not go back leads only through places above the one that it means.
-/

namespace ModMerge

/-- The last part of a text that is taken apart ends as the text does. -/
theorem exists_splitOn_append {separator : Char} {ending : List Char}
    (absent : separator ∉ ending) (text : List Char) :
    ∃ front last, (text ++ ending).splitOn separator = front ++ [last ++ ending] ∧
      separator ∉ last ++ ending := by
  induction text with
  | nil => exact ⟨[], [], by simp [List.splitOn_eq_singleton absent], by simpa using absent⟩
  | cons character rest inductionHypothesis =>
      obtain ⟨front, last, split, clear⟩ := inductionHypothesis
      rw [List.cons_append, List.splitOn_cons_eq_if_modifyHead, split]
      by_cases separates : character = separator
      · exact ⟨[] :: front, last, by simp [separates], clear⟩
      · cases front with
        | nil =>
            refine ⟨[], character :: last, by simp [separates], ?_⟩
            simpa [Ne.symm separates] using clear
        | cons head others =>
            exact ⟨(character :: head) :: others, last, by simp [separates], clear⟩

namespace FilePath

/-- The last name of a path ends in a text. -/
def EndsIn (path : FilePath) (ending : String) : Prop :=
  ∃ front name, path.names = front ++ [name] ∧ ending.toList <:+ name.toList

variable {path first second : FilePath} {ending : String}

/-- A text that ends in more than one character of a name is a path that ends so. -/
theorem endsIn_ofText (text : String) (absent : '/' ∉ ending.toList)
    (long : 1 < ending.toList.length) : (ofText (text ++ ending)).EndsIn ending := by
  obtain ⟨front, last, split, clear⟩ := exists_splitOn_append absent text.toList
  have characters : (String.ofList last ++ ending).toList = last ++ ending.toList := by
    rw [String.toList_append, String.toList_ofList]
  have longer : 1 < (last ++ ending.toList).length := by
    rw [List.length_append]
    omega
  have ofLength : ∀ short : String, short.toList.length ≤ 1 →
      String.ofList last ++ ending ≠ short := by
    rintro short isShort rfl
    rw [characters] at isShort
    omega
  have isName : isPathName (String.ofList last ++ ending) = true := by
    simp only [isPathName, Bool.and_eq_true, bne_iff_ne, Bool.not_eq_true', List.contains_eq_mem,
      decide_eq_false_iff_not, characters]
    exact ⟨⟨ofLength "" (by decide), ofLength "." (by decide)⟩, clear⟩
  refine ⟨(front.map String.ofList).filter isPathName, String.ofList last ++ ending, ?_, ?_⟩
  · simp [ofText, String.toList_append, split, isName]
  · rw [characters]
    exact List.suffix_append _ _

theorem EndsIn.div (endsIn : second.EndsIn ending) : (first / second).EndsIn ending := by
  obtain ⟨front, name, names, isSuffix⟩ := endsIn
  change (join first second).EndsIn ending
  unfold join
  split
  · exact ⟨first.names ++ front, name, by simp [names], isSuffix⟩
  · exact ⟨front, name, names, isSuffix⟩

/-- The temporary name of a file ends in its own way. -/
theorem endsIn_of_temporaryPath? {temporary : FilePath}
    (isTemporary : FileStore.temporaryPath? path = some temporary) :
    temporary.EndsIn ".tmp" := by
  obtain ⟨name, -, rfl⟩ := Option.map_eq_some_iff.1 isTemporary
  exact (endsIn_ofText name (by decide) (by decide)).div

/-! ### Paths of one name -/

theorem isPathName_iff {text : String} :
    isPathName text = true ↔ text ≠ "" ∧ text ≠ "." ∧ '/' ∉ text.toList := by
  simp [isPathName, and_assoc]

/-- A name may go on. -/
theorem isPathName_append {text ending : String} (isName : isPathName text = true)
    (absent : '/' ∉ ending.toList) : isPathName (text ++ ending) = true := by
  obtain ⟨notEmpty, notHere, noSeparator⟩ := isPathName_iff.1 isName
  refine isPathName_iff.2 ⟨fun same => ?_, fun same => ?_, ?_⟩
  · exact notEmpty (String.append_eq_empty_iff.1 same).1
  · have characters : text.toList ++ ending.toList = ['.'] := by
      rw [← String.toList_append, same]
      rfl
    rcases List.append_eq_singleton_iff.1 characters with ⟨empty, -⟩ | ⟨dot, -⟩
    · exact notEmpty (String.toList_eq_nil_iff.1 empty)
    · exact notHere (String.toList_inj.1 dot)
  · simpa [String.toList_append] using ⟨noSeparator, absent⟩

/-- A name is the path of this name. -/
theorem ofText_of_isPathName {text : String} (isName : isPathName text = true) :
    (ofText text).root = .relative ∧ (ofText text).names = [text] := by
  obtain ⟨-, -, noSeparator⟩ := isPathName_iff.1 isName
  constructor
  · change rootOf text.toList = .relative
    rw [rootOf.eq_def]
    split
    · rename_i separators
      exact absurd (separators ▸ List.mem_cons_self) noSeparator
    · rename_i separators
      exact absurd (separators ▸ List.mem_cons_self) noSeparator
    · rename_i separators
      exact absurd (separators ▸ List.mem_cons_self) noSeparator
    · rfl
  · simp [ofText, List.splitOn_eq_singleton noSeparator, isName]

theorem names_div (first : FilePath) (relative : second.root = .relative) :
    (first / second).root = first.root ∧ (first / second).names = first.names ++ second.names := by
  change (join first second).root = _ ∧ (join first second).names = _
  rw [join, if_pos relative]
  exact ⟨rfl, rfl⟩

/-- The temporary name of a file is beside its own name, and goes on from it. -/
theorem names_of_temporaryPath? {temporary : FilePath}
    (isTemporary : FileStore.temporaryPath? path = some temporary) :
    ∃ name, path.names = path.parent.names ++ [name] ∧ temporary.root = path.root ∧
      temporary.names = path.parent.names ++ [name ++ ".tmp"] := by
  obtain ⟨name, isLast, rfl⟩ := Option.map_eq_some_iff.1 isTemporary
  have split : path.names = path.parent.names ++ [name] :=
    (List.dropLast_append_getLast? name isLast).symm
  have longer : isPathName (name ++ ".tmp") = true :=
    isPathName_append (path.isPathName_of_mem name (split ▸ List.mem_concat_self)) (by decide)
  obtain ⟨relative, names⟩ := ofText_of_isPathName longer
  obtain ⟨sameRoot, allNames⟩ := names_div path.parent relative
  rw [names] at allNames
  exact ⟨name, split, sameRoot, allNames⟩

/-! ### Places that paths mean -/

theorem spell_concat (start : Place) (names : List String) (name : String) :
    FileTree.spell start (names ++ [name]) =
      if name = ".." then (FileTree.spell start names).dropLast
      else FileTree.spell start names ++ [name] := by
  rw [FileTree.spell, List.foldl_append]
  rfl

theorem spell_of_forward {names : List String} (forward : ".." ∉ names) (start : Place) :
    FileTree.spell start names = start ++ names := by
  induction names using List.reverseRecOn with
  | nil => rw [List.append_nil]; rfl
  | append_singleton names name inductionHypothesis =>
      rw [List.mem_append, List.mem_singleton, not_or] at forward
      rw [spell_concat, if_neg (Ne.symm forward.2), inductionHypothesis forward.1,
        List.append_assoc]

/-- A path whose last name cannot go back means a place of that name. -/
theorem exists_goal_of_endsIn (tree : FileTree) (endsIn : path.EndsIn ending)
    (forward : ¬ ending.toList <:+ "..".toList) :
    ∃ front name, tree.goal path = front ++ [name] ∧ ending.toList <:+ name.toList := by
  obtain ⟨front, name, names, isSuffix⟩ := endsIn
  have notBack : name ≠ ".." := by
    rintro rfl
    exact forward isSuffix
  refine ⟨FileTree.spell (if path.root = .relative then tree.workingDirectory else []) front,
    name, ?_, isSuffix⟩
  rw [FileTree.goal, names, spell_concat, if_neg notBack]

/-- A temporary name means another place than the name of a mod file. -/
theorem goal_ne_of_endsIn (tree : FileTree) (isMod : first.EndsIn ".dm")
    (isTemporary : second.EndsIn ".tmp") : tree.goal first ≠ tree.goal second := by
  obtain ⟨front, name, goal, isSuffix⟩ := exists_goal_of_endsIn tree isMod (by decide)
  obtain ⟨front', name', goal', isSuffix'⟩ := exists_goal_of_endsIn tree isTemporary (by decide)
  intro same
  rw [goal, goal'] at same
  obtain rfl : name = name' := by simpa using congrArg List.getLast? same
  have inside := List.suffix_of_suffix_length_le isSuffix isSuffix' (by decide)
  exact absurd inside (by decide)

/-- The places of a file and of its temporary name, told from where the file lies. -/
theorem goals_of_temporaryPath? (tree : FileTree) {temporary : FilePath}
    (isTemporary : FileStore.temporaryPath? path = some temporary) :
    ∃ name ∈ path.names, tree.goal temporary = tree.goal path.parent ++ [name ++ ".tmp"] ∧
      tree.goal path = if name = ".." then (tree.goal path.parent).dropLast
        else tree.goal path.parent ++ [name] := by
  obtain ⟨name, names, sameRoot, temporaryNames⟩ := names_of_temporaryPath? isTemporary
  have notBack : name ++ ".tmp" ≠ ".." := by
    intro same
    have lengths := congrArg String.length same
    have endingLonger : "..".length < ".tmp".length := by decide
    rw [String.length_append] at lengths
    omega
  refine ⟨name, names ▸ List.mem_concat_self, ?_, ?_⟩
  · rw [FileTree.goal, temporaryNames, spell_concat, if_neg notBack, sameRoot]
    rfl
  · rw [FileTree.goal, names, spell_concat]
    rfl

/-- A temporary name means another place than the file itself. -/
theorem goal_ne_of_temporaryPath? (tree : FileTree) {temporary : FilePath}
    (isTemporary : FileStore.temporaryPath? path = some temporary) :
    tree.goal temporary ≠ tree.goal path := by
  obtain ⟨name, -, goal, goal'⟩ := goals_of_temporaryPath? tree isTemporary
  rw [goal, goal']
  intro same
  split at same
  · have lengths := congrArg List.length same
    rw [List.length_append, List.length_dropLast, List.length_singleton] at lengths
    omega
  · obtain ⟨-, sameName⟩ := List.append_inj' same rfl
    have lengths := congrArg String.length (List.singleton_inj.1 sameName)
    have someEnding : 0 < ".tmp".length := by decide
    rw [String.length_append] at lengths
    omega

/-- Without going back, a path leads through no place deeper than the one that it means. -/
theorem length_le_of_passes {tree : FileTree} {place : Place} (forward : ".." ∉ path.names)
    (passes : tree.Passes path place) : place.length ≤ (tree.goal path).length := by
  obtain ⟨passed, sameRoot, isPrefix, rfl⟩ := passes
  rw [FileTree.goal, FileTree.goal, sameRoot, spell_of_forward forward,
    spell_of_forward fun back => forward (isPrefix.subset back), List.length_append,
    List.length_append]
  exact Nat.add_le_add_left isPrefix.length_le _

/-- Without going back, the way to a file leads neither through the file itself nor through what
is under its temporary name. -/
theorem not_passes_of_forward {tree : FileTree} {temporary : FilePath}
    (isTemporary : FileStore.temporaryPath? path = some temporary)
    (forward : ".." ∉ path.names) :
    ¬ tree.Passes path.parent (tree.goal path) ∧
      ¬ tree.Passes path.parent (tree.goal temporary) := by
  obtain ⟨name, member, goal, goal'⟩ := goals_of_temporaryPath? tree isTemporary
  have notBack : name ≠ ".." := by
    rintro rfl
    exact forward member
  have forwardParent : ".." ∉ path.parent.names := fun back =>
    forward (List.dropLast_subset _ back)
  have deeper : ∀ last, ¬ tree.Passes path.parent (tree.goal path.parent ++ [last]) := by
    intro last passes
    have bound := length_le_of_passes forwardParent passes
    rw [List.length_append, List.length_singleton] at bound
    omega
  rw [goal, goal', if_neg notBack]
  exact ⟨deeper name, deeper (name ++ ".tmp")⟩

end FilePath
end ModMerge
