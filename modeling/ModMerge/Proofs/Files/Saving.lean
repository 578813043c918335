import ModMerge.Proofs.Files.TreeStores

/-!
# Saving files in a tree

What `writeAtomic` does to a tree when it succeeds: the file is saved, and no other one is touched.
Whether it succeeds does not depend on the bytes.
-/

namespace ModMerge

namespace FileTree

variable {tree after : FileTree} {path temporary : FilePath} {bytes : List UInt8}

/-- A file that has been written was written under its temporary name and then renamed. -/
theorem exists_rename_of_writeAtomic
    (ran : tree.run (FileStore.writeAtomic path bytes) = (.ok (), after)) :
    ∃ temporary between written, FileStore.temporaryPath? path = some temporary ∧
      tree.run (FileStore.ensureDirectories path.parent) = (.ok (), between) ∧
      between.write temporary bytes = .ok written ∧
      written.rename temporary path = .ok after :=
  TreeStore.exists_rename_of_writeAtomic ran

/-- A file that has been written has taken the place of what was there. -/
theorem exists_replaced_of_writeAtomic
    (ran : tree.run (FileStore.writeAtomic path bytes) = (.ok (), after)) :
    ∃ temporary between, FileStore.temporaryPath? path = some temporary ∧
      GrownAlong path.parent tree between ∧ Replaced path temporary bytes between after :=
  TreeStore.exists_replaced_of_writeAtomic ran

/-- A file that has been written is there, and no other one has been touched but what was under
its temporary name. -/
theorem saved_of_writeAtomic
    (ran : tree.run (FileStore.writeAtomic path bytes) = (.ok (), after)) :
    (∀ other, after.goal other = tree.goal other) ∧ after.file? (tree.goal path) = some bytes ∧
      ∀ place, place ≠ tree.goal path →
        (∀ temporary, FileStore.temporaryPath? path = some temporary →
          place ≠ tree.goal temporary) →
        after.file? place = tree.file? place := by
  obtain ⟨temporary, between, isTemporary, grown, replaced⟩ := exists_replaced_of_writeAtomic ran
  have goals : ∀ other, after.goal other = tree.goal other := fun other =>
    (goal_congr replaced.workingDirectory other).trans (grown.goal other)
  refine ⟨goals, ?_, fun place notPath notTemporary => ?_⟩
  · rw [← grown.goal]
    exact file?_eq_some.2 replaced.saved
  · have elsewhere := notTemporary temporary isTemporary
    rw [← grown.goal] at notPath elsewhere
    rw [file?_congr (replaced.others place notPath elsewhere), grown.sameFiles.file?]

/-- A file can be saved under a path. -/
def CanSave (tree : FileTree) (path : FilePath) : Prop :=
  ∃ after, tree.run (FileStore.writeAtomic path []) = (.ok (), after)

/-- Whether a file can be saved does not depend on its bytes. -/
theorem CanSave.exists_run (canSave : tree.CanSave path) (bytes : List UInt8) :
    ∃ after, tree.run (FileStore.writeAtomic path bytes) = (.ok (), after) := by
  obtain ⟨empty, ran⟩ := canSave
  obtain ⟨temporary, between, written, isTemporary, made, writes, renames⟩ :=
    exists_rename_of_writeAtomic ran
  obtain ⟨written', writes', same⟩ := exists_write_of_write writes bytes
  obtain ⟨after, renames'⟩ := same.exists_rename renames
  refine ⟨after, ?_⟩
  have wrote : between.run (FileStore.write temporary bytes) = (.ok (), written') := by
    change between.run (change temporary none (·.write temporary bytes)) = _
    simp [run, change, writes']
  have moved : written'.run (FileStore.rename temporary path) = (.ok (), after) := by
    change written'.run (change temporary (some path) (·.rename temporary path)) = _
    simp [run, change, renames']
  rw [FileStore.writeAtomic, run_bind, run_adapt, made, isTemporary]
  simp only [Except.mapError, run_adapt, FileStore.writeAndRename, run_tryCatch, run_bind, wrote,
    moved]

end FileTree
end ModMerge
