import ModMerge.Proofs.Files.Runs

/-!
# Stores with a tree in them

What a store holds may be told by a tree (`TreeStore`): to look something up in the store is to
look it up in the tree, and a change is made on the tree as a whole, or it is refused and the tree
is as it was. When a change is refused is not said; any may be, at any time. This is enough for
`writeAtomic` to write a file as a whole, or else to leave nothing behind but directories, unless
it is the removal of what has been written that is refused.
-/

namespace ModMerge

/-- A change is made on the tree in a store as a whole, or it is refused and the tree is as it
was. It is because of the tree if it is refused for the character zero. -/
def ChangesBy {Store : Type} (treeOf : Store → FileTree)
    (update : FileTree → Except FileFault FileTree)
    (action : ExceptT FileError (StateM Store) Unit) : Prop :=
  ∀ store : Store,
    (∃ after, update (treeOf store) = .ok (treeOf after) ∧
      runOn store action = (.ok (), after)) ∨
    ∃ error after, treeOf after = treeOf store ∧
      (error.fault = .zeroCharacter → update (treeOf store) = .error .zeroCharacter) ∧
      runOn store action = (.error error, after)

/-- A store of files with a tree in it that tells what the store holds. -/
class TreeStore (Store : Type) [FileStore (StateM Store)] where
  treeOf : Store → FileTree
  runOn_kind (store : Store) (path : FilePath) :
    runOn store (FileStore.kind path) = (((treeOf store).run (FileStore.kind path)).1, store)
  changesBy_write (path : FilePath) (bytes : List UInt8) :
    ChangesBy treeOf (·.write path bytes) (FileStore.write path bytes)
  changesBy_makeDirectory (path : FilePath) :
    ChangesBy treeOf (·.makeDirectory path) (FileStore.makeDirectory path)
  changesBy_rename (source target : FilePath) :
    ChangesBy treeOf (·.rename source target) (FileStore.rename source target)
  changesBy_remove (path : FilePath) :
    ChangesBy treeOf (·.remove path) (FileStore.remove path)

namespace FileTree

theorem changesBy_change (path : FilePath) (target : Option FilePath)
    (update : FileTree → Except FileFault FileTree) :
    ChangesBy id update (change path target update) := by
  intro tree
  cases updated : update tree with
  | ok changed => exact .inl ⟨changed, updated, by simp [runOn, change, updated]⟩
  | error fault =>
      exact .inr ⟨{ fault, path, target }, tree, rfl, fun isZero => isZero ▸ updated,
        by simp [runOn, change, updated]⟩

/-- A tree is itself the tree in it. -/
instance : TreeStore FileTree where
  treeOf := id
  runOn_kind _ _ := rfl
  changesBy_write path bytes := changesBy_change path none (·.write path bytes)
  changesBy_makeDirectory path := changesBy_change path none (·.makeDirectory path)
  changesBy_rename source target := changesBy_change source (some target) (·.rename source target)
  changesBy_remove path := changesBy_change path none (·.remove path)

end FileTree

namespace TreeStore

variable {Store : Type} [FileStore (StateM Store)] [TreeStore Store]

/-- To do the first thing on a store is to look up in its tree what the second one finds there. -/
structure LooksUp {Error Result : Type} (action : ExceptT Error (StateM Store) Result)
    (inTree : ExceptT Error (StateM FileTree) Result) : Prop where
  looksOnly : FileTree.LooksOnly inTree
  runOn_eq (store : Store) : runOn store action = (((treeOf store).run inTree).1, store)

namespace LooksUp

variable {Error Fault First Result : Type}

theorem mk_pure (result : Except Error Result) :
    LooksUp (ExceptT.mk (Pure.pure result) : ExceptT Error (StateM Store) Result)
      (ExceptT.mk (Pure.pure result)) :=
  ⟨.mk_pure result, fun _ => rfl⟩

theorem pure (value : Result) :
    LooksUp (Pure.pure value : ExceptT Error (StateM Store) Result)
      (Pure.pure value) :=
  ⟨.pure value, fun _ => rfl⟩

theorem throw (error : Error) :
    LooksUp (MonadExcept.throw error : ExceptT Error (StateM Store) Result)
      (MonadExcept.throw error) :=
  ⟨.throw error, fun _ => rfl⟩

theorem bind {first : ExceptT Error (StateM Store) First}
    {firstInTree : ExceptT Error (StateM FileTree) First}
    {next : First → ExceptT Error (StateM Store) Result}
    {nextInTree : First → ExceptT Error (StateM FileTree) Result}
    (looksUpFirst : LooksUp first firstInTree)
    (looksUpNext : ∀ value, LooksUp (next value) (nextInTree value)) :
    LooksUp (first >>= next) (firstInTree >>= nextInTree) := by
  refine ⟨.bind looksUpFirst.looksOnly fun value => (looksUpNext value).looksOnly,
    fun store => ?_⟩
  rw [runOn_bind, FileTree.run_bind, looksUpFirst.runOn_eq, looksUpFirst.looksOnly.run_eq]
  rcases ((treeOf store).run firstInTree).1 with error | value
  · rfl
  · exact (looksUpNext value).runOn_eq store

theorem adapt (change : Error → Fault) {action : ExceptT Error (StateM Store) Result}
    {inTree : ExceptT Error (StateM FileTree) Result} (looksUp : LooksUp action inTree) :
    LooksUp (ExceptT.adapt change action) (ExceptT.adapt change inTree) := by
  refine ⟨looksUp.looksOnly.adapt change, fun store => ?_⟩
  rw [runOn_adapt, looksUp.runOn_eq]
  rfl

theorem tryCatch {action : ExceptT Error (StateM Store) Result}
    {inTree : ExceptT Error (StateM FileTree) Result}
    {handler : Error → ExceptT Error (StateM Store) Result}
    {handlerInTree : Error → ExceptT Error (StateM FileTree) Result}
    (looksUpAction : LooksUp action inTree)
    (looksUpHandler : ∀ error, LooksUp (handler error) (handlerInTree error)) :
    LooksUp (MonadExcept.tryCatch action handler)
      (MonadExcept.tryCatch inTree handlerInTree) := by
  refine ⟨.tryCatch looksUpAction.looksOnly fun error => (looksUpHandler error).looksOnly,
    fun store => ?_⟩
  rw [runOn_tryCatch, FileTree.run_tryCatch, looksUpAction.runOn_eq,
    looksUpAction.looksOnly.run_eq]
  rcases ((treeOf store).run inTree).1 with error | value
  · exact (looksUpHandler error).runOn_eq store
  · rfl

theorem kind? (path : FilePath) :
    LooksUp (FileStore.kind? path : ExceptT FileError (StateM Store) _)
      (FileStore.kind? path) := by
  refine .tryCatch (.bind ⟨.query path _, (runOn_kind · path)⟩ fun _ => .pure _) fun error => ?_
  split
  · exact .pure none
  · exact .throw error

theorem isPresent (path : FilePath) :
    LooksUp (FileStore.isPresent path : ExceptT FileError (StateM Store) Bool)
      (FileStore.isPresent path) :=
  .bind (.kind? path) fun _ => .pure _

theorem isDirectory (path : FilePath) :
    LooksUp (FileStore.isDirectory path : ExceptT FileError (StateM Store) Bool)
      (FileStore.isDirectory path) :=
  .bind (.kind? path) fun _ => .pure _

end LooksUp

/-- An action that at most makes directories along a path, however it ends. -/
def GrowsAlong {Error Result : Type} (path : FilePath)
    (action : ExceptT Error (StateM Store) Result) : Prop :=
  ∀ store : Store, FileTree.GrownAlong path (treeOf store) (treeOf (runOn store action).2)

namespace GrowsAlong

variable {Error First Result : Type} {path : FilePath}

theorem throw (error : Error) :
    GrowsAlong path (MonadExcept.throw error : ExceptT Error (StateM Store) Result) :=
  fun store => .refl path (treeOf store)

theorem of_looksUp {action : ExceptT Error (StateM Store) Result}
    {inTree : ExceptT Error (StateM FileTree) Result} (looksUp : LooksUp action inTree) :
    GrowsAlong path action := by
  intro store
  rw [looksUp.runOn_eq]
  exact .refl path (treeOf store)

theorem bind {first : ExceptT Error (StateM Store) First}
    {next : First → ExceptT Error (StateM Store) Result} (growsFirst : GrowsAlong path first)
    (growsNext : ∀ value, GrowsAlong path (next value)) : GrowsAlong path (first >>= next) := by
  intro store
  have here := growsFirst store
  revert here
  rw [runOn_bind]
  rcases runOn store first with ⟨error | value, after⟩ <;> intro here
  · exact here
  · exact here.trans (growsNext value after)

theorem tryCatch {action : ExceptT Error (StateM Store) Result}
    {handler : Error → ExceptT Error (StateM Store) Result}
    (growsAction : GrowsAlong path action)
    (growsHandler : ∀ error, GrowsAlong path (handler error)) :
    GrowsAlong path (MonadExcept.tryCatch action handler) := by
  intro store
  have here := growsAction store
  revert here
  rw [runOn_tryCatch]
  rcases runOn store action with ⟨error | value, after⟩ <;> intro here
  · exact here.trans (growsHandler error after)
  · exact here

theorem makeDirectory (path : FilePath) :
    GrowsAlong path (FileStore.makeDirectory path : ExceptT FileError (StateM Store) Unit) := by
  intro store
  rcases changesBy_makeDirectory path store with ⟨after, made, ran⟩ | ⟨error, after, same, -, ran⟩
  · rw [ran]
    exact FileTree.grownAlong_of_makeDirectory made
  · rw [ran, same]
    exact .refl path _

theorem ensureDirectory (path : FilePath) :
    GrowsAlong path (FileStore.ensureDirectory path : ExceptT FileError (StateM Store) Unit) := by
  refine .tryCatch (.makeDirectory path) fun error => ?_
  have looks : GrowsAlong path (do
      unless ← FileStore.isDirectory path do MonadExcept.throw error :
      ExceptT FileError (StateM Store) Unit) := by
    refine .bind (.of_looksUp (.isDirectory path)) fun present => ?_
    split
    · exact .of_looksUp (.pure ())
    · exact .throw error
  dsimp only
  split
  · exact .bind (.throw error) fun _ => looks
  · exact looks

theorem ensureDirectories (path : FilePath) :
    GrowsAlong path
      (FileStore.ensureDirectories path : ExceptT FileError (StateM Store) Unit) := by
  induction path using FileStore.ensureDirectories.induct with
  | case1 path inductionHypothesis =>
      rw [FileStore.ensureDirectories]
      refine .tryCatch (.ensureDirectory path) fun error => ?_
      split
      · rename_i nested
        exact .bind (fun store => (inductionHypothesis error nested store).ofParent)
          fun _ => .ensureDirectory path
      · exact .throw error

end GrowsAlong

section Atomic

open FileTree

variable {store after : Store} {path temporary : FilePath} {bytes : List UInt8}

/-- What is done about a file that could not be written or renamed. -/
def abandon (temporary : FilePath) (error : FileError) : ExceptT FileError (StateM Store) Unit := do
  if ← FileStore.isPresent temporary then FileStore.remove temporary
  throw error

omit [TreeStore Store] in
theorem writeAndRename_eq (temporary path : FilePath) (bytes : List UInt8) :
    (FileStore.writeAndRename temporary path bytes : ExceptT FileError (StateM Store) Unit) =
      tryCatch (do FileStore.write temporary bytes; FileStore.rename temporary path)
        (abandon temporary) :=
  rfl

/-- The store is what was left when the removal of a file was refused with an error. -/
def RemovalRefused (path : FilePath) (error : FileError) (after : Store) : Prop :=
  ∃ before, runOn before (FileStore.remove path) = (.error error, after)

/-- Taking away what is under a temporary name changes nothing if no file is there. -/
theorem exists_runOn_abandon (error : FileError)
    (free : (treeOf store).file? ((treeOf store).goal temporary) = none) :
    ∃ refusal after, treeOf after = treeOf store ∧
      runOn store (abandon temporary error) = (.error refusal, after) := by
  rw [abandon, runOn_bind, (LooksUp.isPresent temporary).runOn_eq]
  rcases ((treeOf store).run (FileStore.isPresent temporary)).1 with refusal | present
  · exact ⟨refusal, store, rfl, rfl⟩
  · cases present with
    | false => exact ⟨error, store, rfl, rfl⟩
    | true =>
        simp only [if_true]
        rw [runOn_bind]
        rcases changesBy_remove temporary store with
          ⟨after, removed, -⟩ | ⟨refusal, after, same, -, ran⟩
        · obtain ⟨⟨bytes, isFile⟩, -⟩ := removed_of_remove removed
          rw [free] at isFile
          cases isFile
        · rw [ran]
          exact ⟨refusal, after, same, rfl⟩

/-- Taking away what has just been written under a temporary name brings back what there was,
unless the removal is refused. -/
theorem exists_runOn_abandon_of_write {tree : FileTree} (error : FileError)
    (free : tree.file? (tree.goal temporary) = none)
    (writes : tree.write temporary bytes = .ok (treeOf store)) :
    ∃ refusal after, runOn store (abandon temporary error) = (.error refusal, after) ∧
      (SameNodes tree (treeOf after) ∨
        treeOf after = treeOf store ∧ RemovalRefused temporary refusal after) := by
  obtain ⟨saved, led⟩ := saved_of_write writes
  obtain ⟨sameDirectory, untouched, nothing⟩ := node?_of_write writes
  have isFile := saved.saved
  rw [← saved.goal temporary] at isFile
  rw [abandon, runOn_bind, (LooksUp.isPresent temporary).runOn_eq,
    run_isPresent_of_file led isFile]
  simp only [if_true]
  rw [runOn_bind]
  rcases changesBy_remove temporary store with
    ⟨after, removed, ran⟩ | ⟨refusal, after, same, -, ran⟩
  · obtain ⟨-, sameDirectory', gone, others⟩ := removed_of_remove removed
    rw [saved.goal] at gone others
    rw [ran]
    refine ⟨error, after, rfl, .inl ⟨sameDirectory'.trans sameDirectory, fun place => ?_⟩⟩
    by_cases isTemporary : place = tree.goal temporary
    · rw [isTemporary, gone, nothing free]
    · rw [others place isTemporary, untouched place isTemporary]
  · rw [ran]
    exact ⟨refusal, after, rfl, .inr ⟨same, store, ran⟩⟩

/-- A file that was refused has left nothing behind, neither under its own name nor under the one
that it had while it was being written, unless it is its removal that was refused. -/
theorem sameNodes_or_left_of_writeAndRename {error : FileError}
    (free : (treeOf store).file? ((treeOf store).goal temporary) = none)
    (refused : runOn store (FileStore.writeAndRename temporary path bytes) =
      (.error error, after)) :
    SameNodes (treeOf store) (treeOf after) ∨
      (treeOf store).write temporary bytes = .ok (treeOf after) ∧
        RemovalRefused temporary error after := by
  rw [writeAndRename_eq, runOn_tryCatch, runOn_bind] at refused
  rcases changesBy_write temporary bytes store with
    ⟨written, writes, ran⟩ | ⟨fault, left, same, -, ran⟩
  · rw [ran] at refused
    dsimp only at refused
    rcases changesBy_rename temporary path written with
      ⟨renamed, -, moved⟩ | ⟨fault, left, same, -, unmoved⟩
    · rw [moved] at refused
      cases refused
    · rw [← same] at writes
      obtain ⟨refusal, cleared, abandoned, restored⟩ :=
        exists_runOn_abandon_of_write fault free writes
      rw [unmoved] at refused
      dsimp only at refused
      rw [abandoned] at refused
      cases refused
      exact restored.imp_right fun ⟨sameTree, isRefused⟩ => ⟨sameTree ▸ writes, isRefused⟩
  · rw [← same] at free
    obtain ⟨refusal, cleared, sameTree, abandoned⟩ := exists_runOn_abandon fault free
    rw [ran] at refused
    dsimp only at refused
    rw [abandoned] at refused
    cases refused
    rw [sameTree, same]
    exact .inl ⟨rfl, fun _ => rfl⟩

/-- A file that was refused has left behind at most directories on the way to it, unless it is the
removal of what was written that was refused. -/
theorem grownAlong_or_left_of_writeAtomic {error : FileStore.WriteError}
    (free : (treeOf store).FreeToSave path)
    (refused : runOn store (FileStore.writeAtomic path bytes) = (.error error, after)) :
    GrownAlong path.parent (treeOf store) (treeOf after) ∨
      ∃ temporary refusal between, FileStore.temporaryPath? path = some temporary ∧
        error = .refused refusal ∧ GrownAlong path.parent (treeOf store) between ∧
        between.write temporary bytes = .ok (treeOf after) ∧
        RemovalRefused temporary refusal after := by
  have grown := GrowsAlong.ensureDirectories path.parent store
  rw [FileStore.writeAtomic, runOn_bind, runOn_adapt] at refused
  rcases made : runOn store (FileStore.ensureDirectories path.parent) with
    ⟨fault | done, between⟩ <;> rw [made] at grown refused
  · cases refused
    exact .inl grown
  · simp only [Except.mapError] at refused
    cases isTemporary : FileStore.temporaryPath? path with
    | none =>
        rw [isTemporary] at refused
        cases refused
        exact .inl grown
    | some temporary =>
        have stillFree : (treeOf between).file? ((treeOf between).goal temporary) = none := by
          rw [grown.goal, grown.sameFiles.file?]
          exact free temporary isTemporary
        rw [isTemporary] at refused
        simp only [runOn_adapt] at refused
        rcases ran : runOn between (FileStore.writeAndRename temporary path bytes) with
          ⟨fault | done, left⟩
        · rw [ran] at refused
          cases refused
          rcases sameNodes_or_left_of_writeAndRename stillFree ran with same | ⟨writes, isRefused⟩
          · exact .inl (grown.trans (same.grownAlong _))
          · exact .inr ⟨temporary, fault, treeOf between, rfl, rfl, grown, writes, isRefused⟩
        · rw [ran] at refused
          cases refused

/-- A file that has been written was written under its temporary name and then renamed. -/
theorem exists_rename_of_writeAtomic
    (ran : runOn store (FileStore.writeAtomic path bytes) = (.ok (), after)) :
    ∃ temporary between written, FileStore.temporaryPath? path = some temporary ∧
      runOn store (FileStore.ensureDirectories path.parent) = (.ok (), between) ∧
      (treeOf between).write temporary bytes = .ok written ∧
      written.rename temporary path = .ok (treeOf after) := by
  obtain ⟨_, between, made, ran⟩ := runOn_bind_eq_ok.1 ran
  cases isTemporary : FileStore.temporaryPath? path with
  | none =>
      rw [isTemporary] at ran
      cases ran
  | some temporary =>
      rw [isTemporary] at ran
      rcases runOn_tryCatch_eq_ok.1 (runOn_adapt_eq_ok.1 ran) with ran | ⟨error, failed, -, ran⟩
      · obtain ⟨_, written, isWritten, moved⟩ := runOn_bind_eq_ok.1 ran
        rcases changesBy_write temporary bytes between with
          ⟨changed, writes, wrote⟩ | ⟨error, left, -, -, refused⟩
        · rw [wrote] at isWritten
          cases isWritten
          rcases changesBy_rename temporary path written with
            ⟨renamed, renames, rename⟩ | ⟨error, left, -, -, refused⟩
          · rw [rename] at moved
            cases moved
            exact ⟨temporary, between, treeOf written, rfl, runOn_adapt_eq_ok.1 made, writes,
              renames⟩
          · rw [refused] at moved
            cases moved
        · rw [refused] at isWritten
          cases isWritten
      · -- after clearing up, the refusal is passed on
        obtain ⟨present, looked, -, ran⟩ := runOn_bind_eq_ok.1 ran
        cases present with
        | false => cases ran
        | true =>
            obtain ⟨_, removed, -, ran⟩ := runOn_bind_eq_ok.1 ran
            cases ran

/-- Once the directories that it lies in are there, a file that has been written has taken the
place of what was there. -/
theorem exists_replaced_of_writeAtomic
    (ran : runOn store (FileStore.writeAtomic path bytes) = (.ok (), after)) :
    ∃ temporary between, FileStore.temporaryPath? path = some temporary ∧
      GrownAlong path.parent (treeOf store) between ∧
      Replaced path temporary bytes between (treeOf after) := by
  obtain ⟨temporary, between, written, isTemporary, made, writes, renames⟩ :=
    exists_rename_of_writeAtomic ran
  have grown := GrowsAlong.ensureDirectories path.parent store
  rw [made] at grown
  exact ⟨temporary, treeOf between, isTemporary, grown, replaced_of_rename writes renames⟩

end Atomic

end TreeStore
end ModMerge
