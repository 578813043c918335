import ModMerge.Proofs.Files.Trees

/-!
# Running actions on stores

Doing something on a store gives a result and the store afterwards. An action on a tree that only
looks at it (`LooksOnly`) leaves it as it was.
-/

namespace ModMerge

/-- Do something on a store: what comes of it, and the store afterwards. -/
def runOn {Store Error Result : Type} (store : Store)
    (action : ExceptT Error (StateM Store) Result) : Except Error Result × Store :=
  action store

section Stores

variable {Store Error Fault First Result : Type} {store after : Store}

@[simp]
theorem runOn_mk_pure (result : Except Error Result) :
    runOn store (ExceptT.mk (pure result)) = (result, store) :=
  rfl

theorem runOn_bind (first : ExceptT Error (StateM Store) First)
    (next : First → ExceptT Error (StateM Store) Result) :
    runOn store (first >>= next) =
      match runOn store first with
      | (.ok value, after) => runOn after (next value)
      | (.error error, after) => (.error error, after) := by
  change (match first store with | (result, after) => ExceptT.bindCont next result after) = _
  rw [runOn]
  rcases first store with ⟨error | value, after⟩ <;> rfl

theorem runOn_tryCatch (action : ExceptT Error (StateM Store) Result)
    (handler : Error → ExceptT Error (StateM Store) Result) :
    runOn store (tryCatch action handler) =
      match runOn store action with
      | (.ok value, after) => (.ok value, after)
      | (.error error, after) => runOn after (handler error) := by
  simp only [runOn, tryCatch, MonadExcept.tryCatch, MonadExceptOf.tryCatch, tryCatchThe,
    ExceptT.tryCatch, ExceptT.mk, bind, StateT.bind]
  rcases action store with ⟨error | value, after⟩ <;> rfl

theorem runOn_adapt (change : Error → Fault) (action : ExceptT Error (StateM Store) Result) :
    runOn store (ExceptT.adapt change action) =
      ((runOn store action).1.mapError change, (runOn store action).2) :=
  rfl

theorem runOn_bind_eq_ok {first : ExceptT Error (StateM Store) First}
    {next : First → ExceptT Error (StateM Store) Result} {value : Result} :
    runOn store (first >>= next) = (.ok value, after) ↔
      ∃ found between, runOn store first = (.ok found, between) ∧
        runOn between (next found) = (.ok value, after) := by
  rw [runOn_bind]
  rcases runOn store first with ⟨error | found, between⟩ <;> simp

theorem runOn_tryCatch_eq_ok {action : ExceptT Error (StateM Store) Result}
    {handler : Error → ExceptT Error (StateM Store) Result} {value : Result} :
    runOn store (tryCatch action handler) = (.ok value, after) ↔
      runOn store action = (.ok value, after) ∨
      ∃ error between, runOn store action = (.error error, between) ∧
        runOn between (handler error) = (.ok value, after) := by
  rw [runOn_tryCatch]
  rcases runOn store action with ⟨error | found, between⟩ <;> simp

theorem runOn_adapt_eq_ok {change : Error → Fault}
    {action : ExceptT Error (StateM Store) Result} {value : Result} :
    runOn store (ExceptT.adapt change action) = (.ok value, after) ↔
      runOn store action = (.ok value, after) := by
  rw [runOn_adapt, Prod.ext_iff, Prod.ext_iff, mapError_eq_ok]

end Stores

namespace FileTree

/-- Do something with a tree: what comes of it, and the tree afterwards. -/
def run {Error Result : Type} (tree : FileTree)
    (action : ExceptT Error (StateM FileTree) Result) : Except Error Result × FileTree :=
  action tree

section Runs

variable {Error Fault First Result : Type} {tree after : FileTree}

@[simp]
theorem run_mk_pure (result : Except Error Result) :
    tree.run (ExceptT.mk (pure result)) = (result, tree) :=
  rfl

theorem run_bind (first : ExceptT Error (StateM FileTree) First)
    (next : First → ExceptT Error (StateM FileTree) Result) :
    tree.run (first >>= next) =
      match tree.run first with
      | (.ok value, after) => after.run (next value)
      | (.error error, after) => (.error error, after) := by
  change runOn tree (first >>= next) = _
  rw [runOn_bind, runOn, run]
  rcases first tree with ⟨error | value, after⟩ <;> rfl

theorem run_tryCatch (action : ExceptT Error (StateM FileTree) Result)
    (handler : Error → ExceptT Error (StateM FileTree) Result) :
    tree.run (tryCatch action handler) =
      match tree.run action with
      | (.ok value, after) => (.ok value, after)
      | (.error error, after) => after.run (handler error) := by
  change runOn tree (tryCatch action handler) = _
  rw [runOn_tryCatch, runOn, run]
  rcases action tree with ⟨error | value, after⟩ <;> rfl

theorem run_bind_eq_ok {first : ExceptT Error (StateM FileTree) First}
    {next : First → ExceptT Error (StateM FileTree) Result} {value : Result} :
    tree.run (first >>= next) = (.ok value, after) ↔
      ∃ found between, tree.run first = (.ok found, between) ∧
        between.run (next found) = (.ok value, after) :=
  runOn_bind_eq_ok

theorem run_adapt (change : Error → Fault) (action : ExceptT Error (StateM FileTree) Result) :
    tree.run (ExceptT.adapt change action) =
      ((tree.run action).1.mapError change, (tree.run action).2) :=
  rfl

theorem run_adapt_eq_ok {change : Error → Fault}
    {action : ExceptT Error (StateM FileTree) Result} {value : Result} :
    tree.run (ExceptT.adapt change action) = (.ok value, after) ↔
      tree.run action = (.ok value, after) :=
  runOn_adapt_eq_ok

theorem run_lift_run (action : ExceptT Error (StateM FileTree) Result) :
    tree.run (ExceptT.lift action.run : ExceptT Fault (StateM FileTree) _) =
      (.ok (tree.run action).1, (tree.run action).2) :=
  rfl

end Runs

/-- An action that leaves every tree as it was, however it ends. -/
def LooksOnly {Error Result : Type} (action : ExceptT Error (StateM FileTree) Result) : Prop :=
  ∀ tree : FileTree, (tree.run action).2 = tree

namespace LooksOnly

variable {Error Fault First Result : Type}

theorem pure (value : Result) :
    LooksOnly (Pure.pure value : ExceptT Error (StateM FileTree) Result) :=
  fun _ => rfl

theorem throw (error : Error) :
    LooksOnly (MonadExcept.throw error : ExceptT Error (StateM FileTree) Result) :=
  fun _ => rfl

theorem mk_pure (result : Except Error Result) :
    LooksOnly (ExceptT.mk (Pure.pure result) : ExceptT Error (StateM FileTree) Result) :=
  fun _ => rfl

theorem query (path : FilePath) (look : FileTree → Except FileFault Result) :
    LooksOnly (FileTree.query path look) :=
  fun _ => rfl

theorem bind {first : ExceptT Error (StateM FileTree) First}
    {next : First → ExceptT Error (StateM FileTree) Result} (looksFirst : LooksOnly first)
    (looksNext : ∀ value, LooksOnly (next value)) : LooksOnly (first >>= next) := by
  intro tree
  have here := looksFirst tree
  revert here
  rw [run_bind]
  rcases tree.run first with ⟨error | value, after⟩ <;> intro here
  · exact here
  · exact (looksNext value after).trans here

theorem tryCatch {action : ExceptT Error (StateM FileTree) Result}
    {handler : Error → ExceptT Error (StateM FileTree) Result} (looksAction : LooksOnly action)
    (looksHandler : ∀ error, LooksOnly (handler error)) :
    LooksOnly (MonadExcept.tryCatch action handler) := by
  intro tree
  have here := looksAction tree
  revert here
  rw [run_tryCatch]
  rcases tree.run action with ⟨error | value, after⟩ <;> intro here
  · exact (looksHandler error after).trans here
  · exact here

theorem adapt (change : Error → Fault) {action : ExceptT Error (StateM FileTree) Result}
    (looks : LooksOnly action) : LooksOnly (ExceptT.adapt change action) :=
  looks

theorem mapM {action : First → ExceptT Error (StateM FileTree) Result}
    (looks : ∀ value, LooksOnly (action value)) (values : List First) :
    LooksOnly (values.mapM action) := by
  induction values with
  | nil => exact .pure []
  | cons value values inductionHypothesis =>
      rw [List.mapM_cons]
      exact .bind (looks value) fun _ => .bind inductionHypothesis fun _ => .pure _

theorem kind? (path : FilePath) :
    LooksOnly (FileStore.kind? path : ExceptT FileError (StateM FileTree) _) := by
  refine .tryCatch (.bind (.query path _) fun kind => .pure _) fun error => ?_
  split
  · exact .pure none
  · exact .throw error

theorem isPresent (path : FilePath) :
    LooksOnly (FileStore.isPresent path : ExceptT FileError (StateM FileTree) Bool) :=
  .bind (.kind? path) fun _ => .pure _

theorem isDirectory (path : FilePath) :
    LooksOnly (FileStore.isDirectory path : ExceptT FileError (StateM FileTree) Bool) :=
  .bind (.kind? path) fun _ => .pure _

theorem run_eq {action : ExceptT Error (StateM FileTree) Result} (looks : LooksOnly action)
    (tree : FileTree) : tree.run action = ((tree.run action).1, tree) :=
  Prod.ext rfl (looks tree)

end LooksOnly

theorem run_query {Result : Type} (tree : FileTree) (path : FilePath)
    (look : FileTree → Except FileFault Result) :
    tree.run (query path look) = ((look tree).mapError fun fault => { fault, path }, tree) :=
  rfl

/-- What is under a path that leads to a file is present. -/
theorem run_isPresent_of_file {tree : FileTree} {path : FilePath} {bytes : List UInt8}
    (led : tree.place path = .ok (tree.goal path))
    (isFile : tree.file? (tree.goal path) = some bytes) :
    tree.run (FileStore.isPresent path) = (.ok true, tree) := by
  have found : tree.find path = .ok (.file bytes) := by
    rw [find, led]
    simp [bind, Except.bind, file?_eq_some.1 isFile]
    rfl
  have isKind : tree.run (FileStore.kind path) = (.ok .file, tree) := by
    change tree.run (query path fun tree => (tree.find path).map FileNode.kind) = _
    rw [run_query, found]
    rfl
  have isKind? : tree.run (FileStore.kind? path) = (.ok (some .file), tree) := by
    rw [FileStore.kind?, run_tryCatch, map_eq_pure_bind, run_bind, isKind]
    rfl
  rw [FileStore.isPresent, run_bind, isKind?]
  rfl

end FileTree
end ModMerge
