import Mathlib.Data.List.Basic
import ModMerge.Files.Tree
import ModMerge.Proofs.Fold

/-!
# What operations do to the files of a tree

A file is where its path means it to be: without links, a path that leads somewhere leads to the
place that its names spell. Making directories on the way to a file (`GrownAlong`) changes no file,
and a file that is written under a temporary name and renamed takes the place of what was there
(`Replaced`). Whether this can be done depends on where there are files and directories, and not
on what the files hold.
-/

namespace ModMerge

namespace FileTree

/-- The bytes of the file at a place. -/
def file? (tree : FileTree) (place : Place) : Option (List UInt8) :=
  match tree.node? place with
  | some (.file bytes) => some bytes
  | _ => none

/-- The place that names spell from a place, whatever is there. -/
def spell (start : Place) (names : List String) : Place :=
  names.foldl (fun place name => if name = ".." then place.dropLast else place ++ [name]) start

/-- The place that a path means. -/
def goal (tree : FileTree) (path : FilePath) : Place :=
  spell (if path.root = .relative then tree.workingDirectory else []) path.names

/-- The second tree has the files of the first one. -/
structure SameFiles (before after : FileTree) : Prop where
  workingDirectory : after.workingDirectory = before.workingDirectory
  file? : ∀ place, after.file? place = before.file? place

/-- The second tree has files and directories where the first one has them. -/
structure SameKinds (before after : FileTree) : Prop where
  workingDirectory : after.workingDirectory = before.workingDirectory
  kind : ∀ place,
    (after.node? place).map FileNode.kind = (before.node? place).map FileNode.kind

/-- The second tree has at every place what the first one has there. -/
structure SameNodes (before after : FileTree) : Prop where
  workingDirectory : after.workingDirectory = before.workingDirectory
  node? : ∀ place, after.node? place = before.node? place

/-- A path leads to a place or through it. -/
def Passes (tree : FileTree) (path : FilePath) (place : Place) : Prop :=
  ∃ passed : FilePath, passed.root = path.root ∧ passed.names <+: path.names ∧
    tree.goal passed = place

/-- The second tree has what the first one has and, where there was nothing, perhaps directories
that a path leads to or through. -/
structure GrownAlong (path : FilePath) (before after : FileTree) : Prop where
  workingDirectory : after.workingDirectory = before.workingDirectory
  node? : ∀ place, after.node? place = before.node? place ∨
    before.node? place = none ∧ after.node? place = some .directory ∧ before.Passes path place

/-- The second tree has the files of the first one, but for the file that was saved at a place. -/
structure Saved (place : Place) (bytes : List UInt8) (before after : FileTree) : Prop where
  workingDirectory : after.workingDirectory = before.workingDirectory
  saved : after.file? place = some bytes
  others : ∀ other, other ≠ place → after.file? other = before.file? other

/-- The second tree has what the first one has, but for the file that was saved under a path and
for what was under the name that it had while it was being written. -/
structure Replaced (path temporary : FilePath) (bytes : List UInt8) (before after : FileTree) :
    Prop where
  workingDirectory : after.workingDirectory = before.workingDirectory
  place : after.place path = .ok (before.goal path)
  saved : after.node? (before.goal path) = some (.file bytes)
  cleared : before.goal temporary ≠ before.goal path →
    after.node? (before.goal temporary) = none
  others : ∀ other, other ≠ before.goal path → other ≠ before.goal temporary →
    after.node? other = before.node? other

/-- There is no file under the name that a file has while it is being written. -/
def FreeToSave (tree : FileTree) (path : FilePath) : Prop :=
  ∀ temporary, FileStore.temporaryPath? path = some temporary →
    tree.file? (tree.goal temporary) = none

variable {tree before between after : FileTree} {path temporary : FilePath} {start place : Place}
  {node : FileNode} {bytes : List UInt8}

theorem SameFiles.refl (tree : FileTree) : SameFiles tree tree :=
  ⟨rfl, fun _ => rfl⟩

theorem goal_congr (sameDirectory : after.workingDirectory = before.workingDirectory)
    (path : FilePath) : after.goal path = before.goal path := by
  rw [FileTree.goal, FileTree.goal, sameDirectory]

theorem Saved.goal (saved : Saved place bytes before after) (path : FilePath) :
    after.goal path = before.goal path :=
  goal_congr saved.workingDirectory path

theorem Saved.ofSameFiles (same : SameFiles before between)
    (saved : Saved place bytes between after) : Saved place bytes before after where
  workingDirectory := saved.workingDirectory.trans same.workingDirectory
  saved := saved.saved
  others other different := (saved.others other different).trans (same.file? other)

theorem GrownAlong.refl (path : FilePath) (tree : FileTree) : GrownAlong path tree tree :=
  ⟨rfl, fun _ => .inl rfl⟩

theorem SameNodes.grownAlong (same : SameNodes before after) (path : FilePath) :
    GrownAlong path before after :=
  ⟨same.workingDirectory, fun place => .inl (same.node? place)⟩

theorem GrownAlong.goal (grown : GrownAlong path before after) (other : FilePath) :
    after.goal other = before.goal other :=
  goal_congr grown.workingDirectory other

theorem GrownAlong.trans (first : GrownAlong path before between)
    (second : GrownAlong path between after) : GrownAlong path before after := by
  refine ⟨second.workingDirectory.trans first.workingDirectory, fun place => ?_⟩
  rcases second.node? place with same | ⟨nothing, isDirectory, passed, sameRoot, isPrefix, isHere⟩
  · rw [same]
    exact first.node? place
  · rcases first.node? place with same | ⟨-, there, -⟩
    · rw [first.goal] at isHere
      exact .inr ⟨same ▸ nothing, isDirectory, passed, sameRoot, isPrefix, isHere⟩
    · rw [nothing] at there
      cases there

/-- What grows along the first part of a path grows along the path. -/
theorem GrownAlong.ofParent (grown : GrownAlong path.parent before after) :
    GrownAlong path before after := by
  refine ⟨grown.workingDirectory, fun place => (grown.node? place).imp_right ?_⟩
  rintro ⟨nothing, isDirectory, passed, sameRoot, isPrefix, isHere⟩
  exact ⟨nothing, isDirectory, passed, sameRoot, isPrefix.trans (List.dropLast_prefix _), isHere⟩

section Places

theorem file?_eq_some : tree.file? place = some bytes ↔ tree.node? place = some (.file bytes) := by
  unfold file?
  split <;> simp_all

theorem ne_nil_of_node?_file (isFile : tree.node? place = some (.file bytes)) : place ≠ [] := by
  rintro rfl
  simp [node?] at isFile

theorem file?_congr (same : after.node? place = before.node? place) :
    after.file? place = before.file? place := by
  rw [file?, file?, same]

/-- Directories are no files. -/
theorem GrownAlong.sameFiles (grown : GrownAlong path before after) : SameFiles before after := by
  refine ⟨grown.workingDirectory, fun place => ?_⟩
  rcases grown.node? place with same | ⟨nothing, isDirectory, -⟩
  · exact file?_congr same
  · rw [file?, file?, nothing, isDirectory]

theorem lookup_filter_bne (nodes : List (Place × FileNode)) {other : Place}
    (different : other ≠ place) :
    (nodes.filter (·.1 != place)).lookup other = nodes.lookup other := by
  induction nodes with
  | nil => rfl
  | cons entry rest inductionHypothesis =>
      obtain ⟨key, node⟩ := entry
      by_cases isPlace : key = place
      · subst isPlace
        have unequal : (other == key) = false := by simpa using different
        simp [inductionHypothesis, List.lookup_cons, unequal]
      · simp [isPlace, inductionHypothesis, List.lookup_cons]

theorem lookup_filter_bne_self (nodes : List (Place × FileNode)) :
    (nodes.filter (·.1 != place)).lookup place = none := by
  rw [List.lookup_eq_none_iff]
  rintro ⟨other, node⟩ member
  have different : other ≠ place := by simpa using (List.mem_filter.1 member).2
  exact bne_iff_ne.2 different.symm

theorem node?_without_of_ne {other : Place} (different : other ≠ place) :
    (tree.without place).node? other = tree.node? other := by
  simp only [node?, without, lookup_filter_bne _ different]

theorem node?_without (nonempty : place ≠ []) : (tree.without place).node? place = none := by
  simp [node?, without, nonempty, lookup_filter_bne_self]

theorem node?_put_of_ne {other : Place} (different : other ≠ place) :
    (tree.put place node).node? other = tree.node? other := by
  have unequal : (other == place) = false := by simpa using different
  simp only [node?, put, List.lookup_cons, unequal]
  simp only [without, lookup_filter_bne _ different]

theorem node?_put (nonempty : place ≠ []) : (tree.put place node).node? place = some node := by
  simp [node?, put, nonempty]

/-- A path that leads somewhere leads to the place that its names spell. -/
theorem spell_of_follow {names : List String} (led : tree.follow start names = .ok place) :
    spell start names = place := by
  induction names generalizing start with
  | nil => exact Except.ok.inj led
  | cons name rest inductionHypothesis =>
      rw [follow] at led
      split at led
      · cases led
      · cases led
      · split at led
        · cases led
        · exact inductionHypothesis led

theorem goal_of_place (led : tree.place path = .ok place) : tree.goal path = place := by
  unfold FileTree.place at led
  split at led
  · cases led
  · split at led
    · cases led
    · split at led
      · rename_i isRelative
        simpa [goal, isRelative] using spell_of_follow led
      · rename_i notRelative
        rw [goal, if_neg notRelative]
        exact spell_of_follow led

/-- A path still leads where it led as long as there are the directories that there were. -/
theorem follow_of_directories {names : List String}
    (kept : ∀ here, tree.node? here = some .directory → after.node? here = some .directory)
    (led : tree.follow start names = .ok place) : after.follow start names = .ok place := by
  induction names generalizing start with
  | nil => exact led
  | cons name rest inductionHypothesis =>
      rw [follow] at led ⊢
      split at led
      · cases led
      · cases led
      · rename_i isDirectory
        rw [kept start isDirectory]
        dsimp only
        split at led
        · cases led
        · rename_i short
          rw [if_neg short]
          exact inductionHypothesis led

theorem place_of_directories (led : tree.place path = .ok place)
    (sameDirectory : after.workingDirectory = tree.workingDirectory)
    (kept : ∀ here, tree.node? here = some .directory → after.node? here = some .directory) :
    after.place path = .ok place := by
  unfold FileTree.place at led ⊢
  split at led
  · cases led
  · rename_i noZero
    rw [if_neg noZero]
    split at led
    · cases led
    · rename_i short
      rw [if_neg short, sameDirectory]
      split at led
      · exact follow_of_directories kept led
      · exact follow_of_directories kept led

theorem node?_put_directory {here : Place} (notDirectory : tree.node? place ≠ some .directory)
    (isDirectory : tree.node? here = some .directory) :
    (tree.put place node).node? here = some .directory := by
  have different : here ≠ place := by
    rintro rfl
    exact notDirectory isDirectory
  rw [node?_put_of_ne different, isDirectory]

/-- Which bytes a file has makes no difference to where there are files and directories. -/
theorem sameKinds_put_file (here : Place) (bytes bytes' : List UInt8) :
    SameKinds (tree.put here (.file bytes)) (tree.put here (.file bytes')) := by
  refine ⟨rfl, fun place => ?_⟩
  by_cases isHere : place = here
  · subst isHere
    by_cases isRoot : place = []
    · simp [node?, isRoot]
    · rw [node?_put isRoot, node?_put isRoot]
      rfl
  · rw [node?_put_of_ne isHere, node?_put_of_ne isHere]

/-- What is at a place in two trees that have files and directories at the same places. -/
theorem SameKinds.node?_cases (same : SameKinds before after) (place : Place) :
    (before.node? place = none ∧ after.node? place = none) ∨
    (∃ bytes bytes', before.node? place = some (.file bytes) ∧
      after.node? place = some (.file bytes')) ∨
    (before.node? place = some .directory ∧ after.node? place = some .directory) := by
  have sameKind := same.kind place
  revert sameKind
  rcases before.node? place with _ | _ | _ <;> rcases after.node? place with _ | _ | _ <;>
    intro sameKind <;> first
    | exact .inl ⟨rfl, rfl⟩
    | exact .inr (.inl ⟨_, _, rfl, rfl⟩)
    | exact .inr (.inr ⟨rfl, rfl⟩)
    | cases sameKind

theorem SameKinds.follow_eq (same : SameKinds before after) (start : Place)
    (names : List String) : after.follow start names = before.follow start names := by
  induction names generalizing start with
  | nil => rfl
  | cons name rest inductionHypothesis =>
      rw [follow, follow]
      rcases same.node?_cases start with
        ⟨there, here⟩ | ⟨bytes, bytes', there, here⟩ | ⟨there, here⟩ <;> rw [there, here]
      simp only [inductionHypothesis]

theorem SameKinds.place_eq (same : SameKinds before after) (path : FilePath) :
    after.place path = before.place path := by
  simp only [FileTree.place, same.workingDirectory, same.follow_eq]

end Places

section Operations

/-- A written file is saved, and its path leads to it. -/
theorem saved_of_write (written : tree.write path bytes = .ok after) :
    Saved (tree.goal path) bytes tree after ∧ after.place path = .ok (after.goal path) := by
  obtain ⟨place, led, rest⟩ := bind_eq_ok.1 written
  obtain rfl := goal_of_place led
  split at rest
  · cases rest
  · rename_i notDirectory
    obtain rfl := Except.ok.inj rest
    have nonempty : tree.goal path ≠ [] := by
      intro isRoot
      exact notDirectory (by simp [isRoot, node?])
    exact ⟨⟨rfl, file?_eq_some.2 (node?_put nonempty),
      fun other different => file?_congr (node?_put_of_ne different)⟩,
      place_of_directories led rfl fun _ => node?_put_directory notDirectory⟩

/-- A file that is written under a path is written where nothing but a file was. -/
theorem node?_of_write (written : tree.write path bytes = .ok after) :
    after.workingDirectory = tree.workingDirectory ∧
      (∀ other, other ≠ tree.goal path → after.node? other = tree.node? other) ∧
      (tree.file? (tree.goal path) = none → tree.node? (tree.goal path) = none) := by
  obtain ⟨place, led, rest⟩ := bind_eq_ok.1 written
  obtain rfl := goal_of_place led
  split at rest
  · cases rest
  · rename_i notDirectory
    obtain rfl := Except.ok.inj rest
    refine ⟨rfl, fun other => node?_put_of_ne, fun noFile => ?_⟩
    rw [file?] at noFile
    split at noFile
    · cases noFile
    · rename_i notFile
      rcases isNode : tree.node? (tree.goal path) with _ | _ | _
      · rfl
      · exact absurd isNode (notFile _)
      · exact absurd isNode notDirectory

/-- A directory is made where nothing was. -/
theorem grownAlong_of_makeDirectory (made : tree.makeDirectory path = .ok after) :
    GrownAlong path tree after := by
  obtain ⟨place, led, rest⟩ := bind_eq_ok.1 made
  split at rest
  · cases rest
  · rename_i nothing
    obtain rfl := Except.ok.inj rest
    have nonempty : place ≠ [] := by
      rintro rfl
      simp [node?] at nothing
    refine ⟨rfl, fun other => ?_⟩
    by_cases isPlace : other = place
    · subst isPlace
      exact .inr ⟨nothing, node?_put nonempty, path, rfl, List.prefix_refl _, goal_of_place led⟩
    · exact .inl (node?_put_of_ne isPlace)

/-- A file that is renamed leaves its place and is found under the other path. -/
theorem moved_of_rename {source target : FilePath}
    (renamed : tree.rename source target = .ok after)
    (isFile : tree.file? (tree.goal source) = some bytes) :
    after.workingDirectory = tree.workingDirectory ∧
      after.place target = .ok (tree.goal target) ∧
      after.node? (tree.goal target) = some (.file bytes) ∧
      ∀ other, other ≠ tree.goal target →
        after.node? other = if other = tree.goal source then none else tree.node? other := by
  obtain ⟨sourcePlace, ledSource, rest⟩ := bind_eq_ok.1 renamed
  obtain ⟨targetPlace, ledTarget, rest⟩ := bind_eq_ok.1 rest
  obtain rfl := goal_of_place ledSource
  obtain rfl := goal_of_place ledTarget
  have isNode := file?_eq_some.1 isFile
  rw [isNode] at rest
  split at rest
  · cases rest
  · cases rest
  · cases rest
  · rename_i node _ isSource notDirectory
    obtain rfl := Option.some.inj isSource
    obtain rfl := Except.ok.inj rest
    have nonempty : tree.goal target ≠ [] := by
      intro isRoot
      exact notDirectory (by simp [isRoot, node?])
    have gone : (tree.without (tree.goal source)).node? (tree.goal source) = none :=
      node?_without (ne_nil_of_node?_file isNode)
    have keptDirectory {here : Place} (isDirectory : tree.node? here = some .directory) :
        (tree.without (tree.goal source)).node? here = some .directory := by
      rw [node?_without_of_ne, isDirectory]
      rintro rfl
      rw [isNode] at isDirectory
      cases isDirectory
    have stillNotDirectory :
        (tree.without (tree.goal source)).node? (tree.goal target) ≠ some .directory := by
      by_cases same : tree.goal target = tree.goal source
      · rw [same, gone]
        exact (Option.some_ne_none _).symm
      · rw [node?_without_of_ne same]
        exact notDirectory
    refine ⟨rfl, place_of_directories ledTarget rfl fun _ isDirectory =>
      node?_put_directory stillNotDirectory (keptDirectory isDirectory), node?_put nonempty,
      fun other different => ?_⟩
    rw [node?_put_of_ne different]
    split
    · rename_i isSource
      rw [isSource, gone]
    · rename_i notSource
      exact node?_without_of_ne notSource

/-- A file that can be written can be written with other bytes. -/
theorem exists_write_of_write (written : tree.write path bytes = .ok after)
    (bytes' : List UInt8) :
    ∃ after', tree.write path bytes' = .ok after' ∧ SameKinds after after' := by
  obtain ⟨place, led, rest⟩ := bind_eq_ok.1 written
  split at rest
  · cases rest
  · rename_i notDirectory
    obtain rfl := Except.ok.inj rest
    refine ⟨tree.put place (.file bytes'), bind_eq_ok.2 ⟨place, led, ?_⟩,
      sameKinds_put_file place bytes bytes'⟩
    split
    · rename_i isDirectory
      exact absurd isDirectory notDirectory
    · rfl

/-- A file that can be renamed can be renamed in a tree with files and directories at the same
places. -/
theorem SameKinds.exists_rename {source target : FilePath} (same : SameKinds before between)
    (renamed : before.rename source target = .ok after) :
    ∃ after', between.rename source target = .ok after' := by
  obtain ⟨sourcePlace, ledSource, rest⟩ := bind_eq_ok.1 renamed
  obtain ⟨targetPlace, ledTarget, rest⟩ := bind_eq_ok.1 rest
  rw [← same.place_eq] at ledSource ledTarget
  rcases same.node?_cases sourcePlace with
    ⟨there, here⟩ | ⟨bytes, bytes', there, here⟩ | ⟨there, here⟩
  · rw [there] at rest
    cases rest
  · refine ⟨(between.without sourcePlace).put targetPlace (.file bytes'),
      bind_eq_ok.2 ⟨sourcePlace, ledSource, bind_eq_ok.2 ⟨targetPlace, ledTarget, ?_⟩⟩⟩
    rw [there] at rest
    rw [here]
    rcases same.node?_cases targetPlace with
      ⟨before, after⟩ | ⟨bytes, bytes', before, after⟩ | ⟨before, after⟩
    · rw [after]
      rfl
    · rw [after]
      rfl
    · rw [before] at rest
      cases rest
  · rw [there] at rest
    cases rest

/-- Only a file can be removed, and then there is nothing in its place. -/
theorem removed_of_remove (removed : tree.remove path = .ok after) :
    (∃ bytes, tree.file? (tree.goal path) = some bytes) ∧
      after.workingDirectory = tree.workingDirectory ∧ after.node? (tree.goal path) = none ∧
      ∀ other, other ≠ tree.goal path → after.node? other = tree.node? other := by
  obtain ⟨place, led, rest⟩ := bind_eq_ok.1 removed
  obtain rfl := goal_of_place led
  split at rest
  · cases rest
  · cases rest
  · rename_i bytes isFile
    obtain rfl := Except.ok.inj rest
    exact ⟨⟨bytes, file?_eq_some.2 isFile⟩, rfl, node?_without (ne_nil_of_node?_file isFile),
      fun other => node?_without_of_ne⟩

/-- A file that is renamed right after it was written takes the place of what was there. -/
theorem replaced_of_rename {written : FileTree}
    (writes : tree.write temporary bytes = .ok written)
    (renames : written.rename temporary path = .ok after) :
    Replaced path temporary bytes tree after := by
  obtain ⟨saved, -⟩ := saved_of_write writes
  obtain ⟨sameDirectory, untouched, -⟩ := node?_of_write writes
  have isFile := saved.saved
  rw [← saved.goal temporary] at isFile
  obtain ⟨sameDirectory', leads, isSaved, others⟩ := moved_of_rename renames isFile
  simp only [saved.goal] at leads isSaved others
  refine ⟨sameDirectory'.trans sameDirectory, leads, isSaved, fun different => ?_,
    fun other notPath notTemporary => ?_⟩
  · rw [others _ different, if_pos rfl]
  · rw [others other notPath, if_neg notTemporary, untouched other notTemporary]

theorem Replaced.savedFile (replaced : Replaced path temporary bytes tree after)
    (free : tree.file? (tree.goal temporary) = none) : Saved (tree.goal path) bytes tree after := by
  refine ⟨replaced.workingDirectory, file?_eq_some.2 replaced.saved, fun other different => ?_⟩
  by_cases isTemporary : other = tree.goal temporary
  · subst isTemporary
    rw [free, file?, replaced.cleared different]
  · exact file?_congr (replaced.others other different isTemporary)

end Operations

end FileTree
end ModMerge
