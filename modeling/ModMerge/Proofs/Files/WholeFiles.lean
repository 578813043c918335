import ModMerge.Proofs.Files.PathNames
import ModMerge.Proofs.Files.TreeStores

/-!
# Files are written whole

A text that is written to a file is there as a whole (`Written`), or its writing was refused and
everything is as it was, but for directories that were made on the way (`Unwritten`). Refusals may
come at any time, since this is told of every store with a tree in it; there is one that leaves
something else behind, the refusal to remove what was written. A path is refused before anything
is asked of a file system if it contains the character zero (`HasZero`). A text without an encoding
is refused by no file system: the empty file that was opened for it stays under its temporary name.
-/

namespace ModMerge

theorem mem_of_mem_intercalate {Element : Type} {separator : List Element}
    {parts : List (List Element)} {element : Element}
    (member : element ∈ separator.intercalate parts) :
    element ∈ separator ∨ ∃ part ∈ parts, element ∈ part := by
  induction parts with
  | nil => simp [List.intercalate] at member
  | cons first rest inductionHypothesis =>
      cases rest with
      | nil => exact .inr ⟨first, List.mem_cons_self, by simpa [List.intercalate] using member⟩
      | cons second rest =>
          rw [List.intercalate_cons_cons, List.append_assoc] at member
          rcases List.mem_append.1 member with inFirst | inRest
          · exact .inr ⟨first, List.mem_cons_self, inFirst⟩
          · rcases List.mem_append.1 inRest with inSeparator | inOthers
            · exact .inl inSeparator
            · refine (inductionHypothesis inOthers).imp_right ?_
              rintro ⟨part, isPart, inPart⟩
              exact ⟨part, List.mem_cons_of_mem first isPart, inPart⟩

/-! ### Refusals because of the character zero -/

namespace FilePath

/-- A path that contains the character zero. -/
def HasZero (path : FilePath) : Prop :=
  ∃ name ∈ path.names, Char.ofNat 0 ∈ name.toList

variable {path temporary : FilePath}

theorem hasZero_of_mem_text (contains : Char.ofNat 0 ∈ path.text.toList) : path.HasZero := by
  rw [text] at contains
  split at contains
  · exact absurd contains (by decide)
  · rw [String.toList_append] at contains
    rcases List.mem_append.1 contains with inRoot | inNames
    · rcases root : path.root <;> rw [root] at inRoot <;> exact absurd inRoot (by decide)
    · rw [String.toList_intercalate] at inNames
      rcases mem_of_mem_intercalate inNames with inSeparator | ⟨part, isPart, inPart⟩
      · exact absurd inSeparator (by decide)
      · obtain ⟨name, isName, rfl⟩ := List.mem_map.1 isPart
        exact ⟨name, isName, inPart⟩

theorem HasZero.of_parent (hasZero : path.parent.HasZero) : path.HasZero := by
  obtain ⟨name, isName, inName⟩ := hasZero
  exact ⟨name, List.dropLast_subset _ isName, inName⟩

theorem HasZero.of_temporaryPath? (hasZero : temporary.HasZero)
    (isTemporary : FileStore.temporaryPath? path = some temporary) : path.HasZero := by
  obtain ⟨name, names, -, temporaryNames⟩ := names_of_temporaryPath? isTemporary
  obtain ⟨part, isPart, inPart⟩ := hasZero
  rw [temporaryNames] at isPart
  rw [HasZero, names]
  rcases List.mem_append.1 isPart with inFront | isLast
  · exact ⟨part, List.mem_append_left _ inFront, inPart⟩
  · obtain rfl := List.mem_singleton.1 isLast
    refine ⟨name, List.mem_concat_self, ?_⟩
    rw [String.toList_append] at inPart
    exact (List.mem_append.1 inPart).resolve_right (by decide)

end FilePath

namespace FileTree

section Zero

variable {tree : FileTree} {path source target : FilePath} {start : Place} {bytes : List UInt8}

theorem follow_ne_zero {names : List String} :
    tree.follow start names ≠ .error .zeroCharacter := by
  induction names generalizing start with
  | nil => exact fun refused => by cases refused
  | cons name rest inductionHypothesis =>
      rw [follow]
      split
      · exact fun refused => by cases refused
      · exact fun refused => by cases refused
      · split
        · exact fun refused => by cases refused
        · exact inductionHypothesis

theorem hasZero_of_place (refused : tree.place path = .error .zeroCharacter) : path.HasZero := by
  unfold FileTree.place at refused
  split at refused
  · rename_i contains
    exact FilePath.hasZero_of_mem_text (List.contains_iff_mem.1 contains)
  · split at refused
    · cases refused
    · split at refused
      · exact absurd refused follow_ne_zero
      · exact absurd refused follow_ne_zero

/-- An operation at the place of a path that is itself never refused because of the character
zero is so only because of the path. -/
theorem hasZero_of_bind {Result : Type} {next : Place → Except FileFault Result}
    (refused : (tree.place path >>= next) = .error .zeroCharacter)
    (nextNot : ∀ place, next place ≠ .error .zeroCharacter) : path.HasZero := by
  cases led : tree.place path with
  | error fault =>
      rw [led] at refused
      cases refused
      exact hasZero_of_place led
  | ok place =>
      rw [led] at refused
      exact absurd refused (nextNot place)

theorem hasZero_of_write (refused : tree.write path bytes = .error .zeroCharacter) :
    path.HasZero := by
  refine hasZero_of_bind refused fun place => ?_
  split <;> exact fun refused => by cases refused

theorem hasZero_of_makeDirectory (refused : tree.makeDirectory path = .error .zeroCharacter) :
    path.HasZero := by
  refine hasZero_of_bind refused fun place => ?_
  split <;> exact fun refused => by cases refused

theorem hasZero_of_remove (refused : tree.remove path = .error .zeroCharacter) :
    path.HasZero := by
  refine hasZero_of_bind refused fun place => ?_
  split <;> exact fun refused => by cases refused

theorem hasZero_of_rename (refused : tree.rename source target = .error .zeroCharacter) :
    source.HasZero ∨ target.HasZero := by
  cases led : tree.place source with
  | error fault =>
      rw [rename, led] at refused
      cases refused
      exact .inl (hasZero_of_place led)
  | ok place =>
      rw [rename, led] at refused
      refine .inr (hasZero_of_bind refused fun place => ?_)
      split <;> exact fun refused => by cases refused

end Zero

end FileTree

namespace TreeStore

variable {Store : Type}

/-- An action is refused because of the character zero only under a condition. -/
def ZeroOnlyIf {Result : Type} (condition : Prop)
    (action : ExceptT FileError (StateM Store) Result) : Prop :=
  ∀ (store : Store) (error : FileError) (after : Store),
    runOn store action = (.error error, after) → error.fault = .zeroCharacter → condition

namespace ZeroOnlyIf

variable {First Result : Type} {first condition : Prop} {path temporary : FilePath}

theorem pure (value : Result) :
    ZeroOnlyIf condition (Pure.pure value : ExceptT FileError (StateM Store) Result) :=
  fun _ _ _ refused => by cases refused

theorem throw {error : FileError} (only : error.fault = .zeroCharacter → condition) :
    ZeroOnlyIf condition (MonadExcept.throw error : ExceptT FileError (StateM Store) Result) := by
  rintro store error after ⟨⟩
  exact only

theorem bind {first : ExceptT FileError (StateM Store) First}
    {next : First → ExceptT FileError (StateM Store) Result}
    (onlyFirst : ZeroOnlyIf condition first)
    (onlyNext : ∀ value, ZeroOnlyIf condition (next value)) :
    ZeroOnlyIf condition (first >>= next) := by
  intro store error after refused
  rw [runOn_bind] at refused
  rcases ran : runOn store first with ⟨fault | value, between⟩ <;> rw [ran] at refused
  · cases refused
    exact onlyFirst store error after ran
  · exact onlyNext value between error after refused

theorem mono {action : ExceptT FileError (StateM Store) Result}
    (only : ZeroOnlyIf first action) (enough : first → condition) :
    ZeroOnlyIf condition action :=
  fun store error after refused isZero => enough (only store error after refused isZero)

/-- A handler may pass on the error that it handles. -/
theorem tryCatch {action : ExceptT FileError (StateM Store) Result}
    {handler : FileError → ExceptT FileError (StateM Store) Result}
    (onlyAction : ZeroOnlyIf first action)
    (onlyHandler : ∀ error : FileError, (error.fault = .zeroCharacter → first) →
      ZeroOnlyIf condition (handler error)) :
    ZeroOnlyIf condition (MonadExcept.tryCatch action handler) := by
  intro store error after refused
  rw [runOn_tryCatch] at refused
  rcases ran : runOn store action with ⟨fault | value, between⟩ <;> rw [ran] at refused
  · exact onlyHandler fault (onlyAction store fault between ran) between error after refused
  · cases refused

variable [FileStore (StateM Store)]

/-- A path that contains the character zero is a path under which there is nothing. -/
theorem kind? (path : FilePath) :
    ZeroOnlyIf condition (FileStore.kind? path : ExceptT FileError (StateM Store) _) := by
  have unconditional : ZeroOnlyIf True (some <$> FileStore.kind path :
      ExceptT FileError (StateM Store) (Option FileKind)) :=
    fun _ _ _ _ _ => trivial
  refine .tryCatch unconditional fun error _ => ?_
  split
  · exact .pure none
  · rename_i present
    refine .throw fun isZero => ?_
    rw [isZero] at present
    exact absurd rfl present

theorem isPresent (path : FilePath) :
    ZeroOnlyIf condition (FileStore.isPresent path : ExceptT FileError (StateM Store) Bool) :=
  .bind (.kind? path) fun _ => .pure _

theorem isDirectory (path : FilePath) :
    ZeroOnlyIf condition (FileStore.isDirectory path : ExceptT FileError (StateM Store) Bool) :=
  .bind (.kind? path) fun _ => .pure _

variable [TreeStore Store]

theorem of_changesBy {update : FileTree → Except FileFault FileTree}
    {action : ExceptT FileError (StateM Store) Unit} (changes : ChangesBy treeOf update action)
    (only : ∀ tree : FileTree, update tree = .error .zeroCharacter → condition) :
    ZeroOnlyIf condition action := by
  intro store error after refused isZero
  rcases changes store with ⟨changed, -, ran⟩ | ⟨fault, left, -, ofTree, ran⟩
  · cases ran.symm.trans refused
  · cases ran.symm.trans refused
    exact only (treeOf store) (ofTree isZero)

theorem ensureDirectory (path : FilePath) :
    ZeroOnlyIf path.HasZero
      (FileStore.ensureDirectory path : ExceptT FileError (StateM Store) Unit) := by
  refine .tryCatch (.of_changesBy (changesBy_makeDirectory path) fun _ =>
    FileTree.hasZero_of_makeDirectory) fun error only => ?_
  have directory : ZeroOnlyIf path.HasZero (do
      unless ← FileStore.isDirectory path do MonadExcept.throw error :
      ExceptT FileError (StateM Store) Unit) := by
    refine .bind (.isDirectory path) fun present => ?_
    split
    · exact .pure ()
    · exact .throw only
  dsimp only
  split
  · exact .bind (.throw only) fun _ => directory
  · exact directory

theorem ensureDirectories (path : FilePath) :
    ZeroOnlyIf path.HasZero
      (FileStore.ensureDirectories path : ExceptT FileError (StateM Store) Unit) := by
  induction path using FileStore.ensureDirectories.induct with
  | case1 path inductionHypothesis =>
      rw [FileStore.ensureDirectories]
      refine .tryCatch (.ensureDirectory path) fun error only => ?_
      split
      · rename_i nested
        refine .bind ?_ fun _ => .ensureDirectory path
        exact (inductionHypothesis error nested).mono FilePath.HasZero.of_parent
      · exact .throw only

theorem write (isTemporary : FileStore.temporaryPath? path = some temporary)
    (bytes : List UInt8) :
    ZeroOnlyIf path.HasZero
      (FileStore.write temporary bytes : ExceptT FileError (StateM Store) Unit) :=
  .of_changesBy (changesBy_write temporary bytes) fun _ refused =>
    (FileTree.hasZero_of_write refused).of_temporaryPath? isTemporary

theorem abandon (isTemporary : FileStore.temporaryPath? path = some temporary) {error : FileError}
    (only : error.fault = .zeroCharacter → path.HasZero) :
    ZeroOnlyIf path.HasZero
      (TreeStore.abandon temporary error : ExceptT FileError (StateM Store) Unit) := by
  have removes : ZeroOnlyIf path.HasZero
      (FileStore.remove temporary : ExceptT FileError (StateM Store) Unit) :=
    .of_changesBy (changesBy_remove temporary) fun _ refused =>
      (FileTree.hasZero_of_remove refused).of_temporaryPath? isTemporary
  refine .bind (.isPresent temporary) fun present => ?_
  split
  · exact .bind removes fun _ => .throw only
  · exact .throw only

theorem writeAndRename (isTemporary : FileStore.temporaryPath? path = some temporary)
    (bytes : List UInt8) :
    ZeroOnlyIf path.HasZero
      (FileStore.writeAndRename temporary path bytes :
        ExceptT FileError (StateM Store) Unit) := by
  have renames : ZeroOnlyIf path.HasZero
      (FileStore.rename temporary path : ExceptT FileError (StateM Store) Unit) :=
    .of_changesBy (changesBy_rename temporary path) fun _ refused =>
      (FileTree.hasZero_of_rename refused).elim (·.of_temporaryPath? isTemporary) id
  exact .tryCatch (.bind (.write isTemporary bytes) fun _ => renames) fun _ only =>
    .abandon isTemporary only

end ZeroOnlyIf

end TreeStore

/-! ### Files are written whole -/

namespace FileTree

/-- The second tree has what the first one has, but for a file with the given bytes that took the
place of what was there; nothing is under its temporary name. -/
structure Written (path temporary : FilePath) (bytes : List UInt8) (before after : FileTree) :
    Prop where
  read : after.read path = .ok bytes
  saved : Saved (before.goal path) bytes before after
  cleared : after.node? (before.goal temporary) = none

/-- The second tree has the files of the first one, and nothing else where there was nothing but
directories on the way to a file. These are neither in its place nor under its temporary name,
unless the way goes back. -/
structure Unwritten (path temporary : FilePath) (before after : FileTree) : Prop where
  sameFiles : SameFiles before after
  grownAlong : GrownAlong path.parent before after
  kept : ".." ∉ path.names → after.node? (before.goal path) = before.node? (before.goal path)
  cleared : ".." ∉ path.names → after.node? (before.goal temporary) = none

variable {before between after : FileTree} {path temporary : FilePath} {bytes : List UInt8}

theorem GrownAlong.unwritten (grown : GrownAlong path.parent before after)
    (isTemporary : FileStore.temporaryPath? path = some temporary)
    (free : before.node? (before.goal temporary) = none) :
    Unwritten path temporary before after where
  sameFiles := grown.sameFiles
  grownAlong := grown
  kept forward := by
    rcases grown.node? (before.goal path) with same | ⟨-, -, passes⟩
    · exact same
    · exact absurd passes (FilePath.not_passes_of_forward isTemporary forward).1
  cleared forward := by
    rcases grown.node? (before.goal temporary) with same | ⟨-, -, passes⟩
    · rw [same, free]
    · exact absurd passes (FilePath.not_passes_of_forward isTemporary forward).2

theorem Replaced.written (replaced : Replaced path temporary bytes between after)
    (grown : GrownAlong path.parent before between)
    (isTemporary : FileStore.temporaryPath? path = some temporary)
    (free : before.file? (before.goal temporary) = none) :
    Written path temporary bytes before after := by
  have stillFree : between.file? (between.goal temporary) = none := by
    rw [grown.goal, grown.sameFiles.file?, free]
  have saved := replaced.savedFile stillFree
  rw [grown.goal] at saved
  refine ⟨?_, .ofSameFiles grown.sameFiles saved, ?_⟩
  · rw [FileTree.read, find, replaced.place]
    simp [bind, Except.bind, replaced.saved]
    rfl
  · rw [← grown.goal temporary]
    exact replaced.cleared (FilePath.goal_ne_of_temporaryPath? between isTemporary)

end FileTree

namespace TreeStore

variable {Store : Type} [FileStore (StateM Store)] [TreeStore Store] {store : Store}
  {path temporary : FilePath}

/-- A file that has a temporary name can only be refused by an operation on it. -/
theorem exists_refusal_of_writeAtomic {after : Store} {bytes : List UInt8}
    {error : FileStore.WriteError}
    (isTemporary : FileStore.temporaryPath? path = some temporary)
    (refused : runOn store (FileStore.writeAtomic path bytes) = (.error error, after)) :
    ∃ refusal, error = .refused refusal ∧ (refusal.fault = .zeroCharacter → path.HasZero) := by
  rw [FileStore.writeAtomic, runOn_bind, runOn_adapt] at refused
  rcases made : runOn store (FileStore.ensureDirectories path.parent) with
    ⟨fault | done, between⟩ <;> rw [made] at refused
  · cases refused
    exact ⟨fault, rfl, fun isZero =>
      .of_parent (ZeroOnlyIf.ensureDirectories path.parent store fault between made isZero)⟩
  · simp only [Except.mapError, isTemporary, runOn_adapt] at refused
    rcases ran : runOn between (FileStore.writeAndRename temporary path bytes) with
      ⟨fault | done, left⟩ <;> rw [ran] at refused
    · cases refused
      exact ⟨fault, rfl, ZeroOnlyIf.writeAndRename isTemporary bytes between fault left ran⟩
    · cases refused

/-- A file is written as a whole, or its writing is refused, because of the character zero at most
if the path contains it. Then nothing but directories has been made, unless it is the removal of
what was written under the temporary name that was refused. -/
theorem written_or_refused_of_writeAtomic (bytes : List UInt8)
    (isTemporary : FileStore.temporaryPath? path = some temporary)
    (free : (treeOf store).node? ((treeOf store).goal temporary) = none) :
    (∃ after, runOn store (FileStore.writeAtomic path bytes) = (.ok (), after) ∧
      FileTree.Written path temporary bytes (treeOf store) (treeOf after)) ∨
    ∃ error after, runOn store (FileStore.writeAtomic path bytes) =
        (.error (.refused error), after) ∧
      (error.fault = .zeroCharacter → path.HasZero) ∧
      (FileTree.Unwritten path temporary (treeOf store) (treeOf after) ∨
        RemovalRefused temporary error after ∧
          ∃ between, FileTree.Unwritten path temporary (treeOf store) between ∧
            between.write temporary bytes = .ok (treeOf after)) := by
  have noFile : (treeOf store).file? ((treeOf store).goal temporary) = none := by
    rw [FileTree.file?, free]
  rcases ran : runOn store (FileStore.writeAtomic path bytes) with ⟨error | ⟨⟨⟩⟩, after⟩
  · obtain ⟨refusal, rfl, onlyZero⟩ := exists_refusal_of_writeAtomic isTemporary ran
    refine .inr ⟨refusal, after, rfl, onlyZero, ?_⟩
    have freeToSave : (treeOf store).FreeToSave path := by
      intro other isOther
      obtain rfl := Option.some.inj (isTemporary.symm.trans isOther)
      exact noFile
    rcases grownAlong_or_left_of_writeAtomic freeToSave ran with
      grown | ⟨other, refusal, between, isOther, isRefusal, grown, writes, isRefused⟩
    · exact .inl (grown.unwritten isTemporary free)
    · obtain rfl := Option.some.inj (isTemporary.symm.trans isOther)
      cases isRefusal
      exact .inr ⟨isRefused, between, grown.unwritten isTemporary free, writes⟩
  · obtain ⟨other, between, isOther, grown, replaced⟩ := exists_replaced_of_writeAtomic ran
    obtain rfl := Option.some.inj (isTemporary.symm.trans isOther)
    exact .inl ⟨after, rfl, replaced.written grown isTemporary noFile⟩

/-! ### Texts -/

omit [TreeStore Store] in
/-- A text that has an encoding is written as its bytes are. -/
theorem runOn_writeTextAtomic_of_encoded {text : List Text.CodePoint} {bytes : List UInt8}
    (encoded : Text.utf8Encoded text = .ok bytes) :
    runOn store (FileStore.writeTextAtomic path text) =
      ((runOn store (FileStore.writeAtomic path bytes)).1.mapError FileStore.WriteError.toTextError,
        (runOn store (FileStore.writeAtomic path bytes)).2) := by
  have sameFile (temporary : FilePath) (store : Store) :
      runOn store (FileStore.writeTextAndRename temporary path text) =
        ((runOn store (FileStore.writeAndRename temporary path bytes)).1.mapError
          FileStore.TextError.refused,
          (runOn store (FileStore.writeAndRename temporary path bytes)).2) := by
    simp only [FileStore.writeTextAndRename, FileStore.writeText, encoded, writeAndRename_eq,
      runOn_tryCatch, runOn_bind, runOn_adapt]
    rcases runOn store (FileStore.write temporary bytes) with ⟨refusal | ⟨⟨⟩⟩, written⟩
    · rfl
    · simp only [Except.mapError]
      rcases runOn written (FileStore.rename temporary path) with ⟨refusal | ⟨⟨⟩⟩, renamed⟩ <;> rfl
  rw [FileStore.writeTextAtomic, FileStore.writeAtomic]
  simp only [runOn_bind, runOn_adapt]
  rcases runOn store (FileStore.ensureDirectories path.parent) with ⟨refusal | ⟨⟨⟩⟩, between⟩
  · rfl
  · simp only [Except.mapError]
    cases FileStore.temporaryPath? path with
    | none => rfl
    | some temporary =>
        dsimp only
        rw [sameFile, runOn_adapt]
        rcases runOn between (FileStore.writeAndRename temporary path bytes) with
          ⟨refusal | ⟨⟨⟩⟩, after⟩ <;> rfl

/-- A text without an encoding is never written. If nothing else is in the way, it leaves an empty
file under the temporary name. -/
theorem refused_of_writeTextAtomic_of_unencodable {text : List Text.CodePoint}
    {failure : Text.EncodingError} (unencodable : Text.utf8Encoded text = .error failure)
    (isTemporary : FileStore.temporaryPath? path = some temporary)
    (free : (treeOf store).node? ((treeOf store).goal temporary) = none) :
    (∃ error after, runOn store (FileStore.writeTextAtomic path text) =
        (.error (.refused error), after) ∧
      (error.fault = .zeroCharacter → path.HasZero) ∧
      FileTree.Unwritten path temporary (treeOf store) (treeOf after)) ∨
    ∃ after between, runOn store (FileStore.writeTextAtomic path text) =
        (.error (.unencodable failure), after) ∧
      FileTree.Unwritten path temporary (treeOf store) between ∧
      between.write temporary [] = .ok (treeOf after) := by
  have grown := GrowsAlong.ensureDirectories path.parent store
  rw [FileStore.writeTextAtomic, runOn_bind, runOn_adapt]
  rcases made : runOn store (FileStore.ensureDirectories path.parent) with
    ⟨refusal | ⟨⟨⟩⟩, between⟩ <;> rw [made] at grown
  · refine .inl ⟨refusal, between, rfl, fun isZero => ?_, grown.unwritten isTemporary free⟩
    exact .of_parent (ZeroOnlyIf.ensureDirectories path.parent store refusal between made isZero)
  simp only [Except.mapError, isTemporary, FileStore.writeTextAndRename, FileStore.writeText,
    unencodable, runOn_tryCatch, runOn_bind, runOn_adapt]
  rcases changesBy_write temporary [] between with
    ⟨opened, writes, ran⟩ | ⟨refusal, left, same, zeroOfTree, ran⟩
  · rw [ran]
    exact .inr ⟨opened, treeOf between, rfl, grown.unwritten isTemporary free, writes⟩
  · have stillFree : (treeOf left).file? ((treeOf left).goal temporary) = none := by
      rw [same, grown.goal, grown.sameFiles.file?, FileTree.file?, free]
    obtain ⟨error, after, sameTree, abandoned⟩ := exists_runOn_abandon refusal stillFree
    have onlyZero := ZeroOnlyIf.abandon isTemporary
      (ZeroOnlyIf.write isTemporary [] between refusal left ran) left error after abandoned
    have handled : runOn left (ExceptT.adapt FileStore.TextError.refused
        (abandon temporary refusal)) = (.error (.refused error), after) := by
      rw [runOn_adapt, abandoned]
      rfl
    rw [ran]
    refine .inl ⟨error, after, handled, onlyZero, ?_⟩
    rw [sameTree, same]
    exact grown.unwritten isTemporary free

/-- A text is written to a file as a whole, or its writing is refused by the file system, or it has
no encoding. It is refused because of the character zero at most if the path contains it, and then
nothing but directories has been made, unless it is the removal of what was written under the
temporary name that was refused. Without an encoding, what is left is an empty file under the
temporary name. -/
theorem written_or_refused_of_writeTextAtomic (text : List Text.CodePoint)
    (isTemporary : FileStore.temporaryPath? path = some temporary)
    (free : (treeOf store).node? ((treeOf store).goal temporary) = none) :
    (∃ bytes after, Text.utf8Encoded text = .ok bytes ∧
      runOn store (FileStore.writeTextAtomic path text) = (.ok (), after) ∧
      FileTree.Written path temporary bytes (treeOf store) (treeOf after)) ∨
    (∃ error after, runOn store (FileStore.writeTextAtomic path text) =
        (.error (.refused error), after) ∧
      (error.fault = .zeroCharacter → path.HasZero) ∧
      (FileTree.Unwritten path temporary (treeOf store) (treeOf after) ∨
        RemovalRefused temporary error after ∧
          ∃ bytes between, Text.utf8Encoded text = .ok bytes ∧
            FileTree.Unwritten path temporary (treeOf store) between ∧
            between.write temporary bytes = .ok (treeOf after))) ∨
    ∃ failure after between, Text.utf8Encoded text = .error failure ∧
      runOn store (FileStore.writeTextAtomic path text) = (.error (.unencodable failure), after) ∧
      FileTree.Unwritten path temporary (treeOf store) between ∧
      between.write temporary [] = .ok (treeOf after) := by
  cases encoded : Text.utf8Encoded text with
  | ok bytes =>
      rw [runOn_writeTextAtomic_of_encoded encoded]
      rcases written_or_refused_of_writeAtomic bytes isTemporary free with
        ⟨after, ran, written⟩ | ⟨error, after, ran, onlyZero, left⟩ <;> rw [ran]
      · exact .inl ⟨bytes, after, rfl, rfl, written⟩
      · refine .inr (.inl ⟨error, after, rfl, onlyZero, left.imp_right ?_⟩)
        rintro ⟨isRefused, between, unwritten, writes⟩
        exact ⟨isRefused, bytes, between, rfl, unwritten, writes⟩
  | error failure =>
      rcases refused_of_writeTextAtomic_of_unencodable encoded isTemporary free with
        ⟨error, after, ran, onlyZero, unwritten⟩ | ⟨after, between, ran, unwritten, writes⟩
      · exact .inr (.inl ⟨error, after, ran, onlyZero, .inl unwritten⟩)
      · exact .inr (.inr ⟨failure, after, between, rfl, ran, unwritten, writes⟩)

end TreeStore

/-! ### Trees that refuse more than they have to -/

/-- A tree of which each of the next changes may be refused, for whatever reason there is. -/
structure UnreliableTree where
  tree : FileTree
  /-- Why each of the next changes is refused, if it is. -/
  refusals : List (Option { fault : FileFault // fault ≠ .zeroCharacter })

namespace UnreliableTree

/-- Change the tree, unless that is to be refused. -/
def change (path : FilePath) (target : Option FilePath)
    (update : FileTree → Except FileFault FileTree) :
    ExceptT FileError (StateM UnreliableTree) Unit := fun store =>
  let refusals := store.refusals.tail
  match store.refusals.head?.join with
  | some fault => (.error { fault := fault.1, path, target }, { store with refusals })
  | none =>
      let (result, tree) := FileTree.change path target update store.tree
      (result, { tree, refusals })

/-- Look something up in the tree. -/
def query {Result : Type} (path : FilePath) (look : FileTree → Except FileFault Result) :
    ExceptT FileError (StateM UnreliableTree) Result := fun store =>
  ((FileTree.query path look store.tree).1, store)

instance : FileStore (StateM UnreliableTree) where
  kind path := query path fun tree => (tree.find path).map FileNode.kind
  read path := query path (·.read path)
  write path bytes := change path none (·.write path bytes)
  makeDirectory path := change path none (·.makeDirectory path)
  rename source target := change source (some target) (·.rename source target)
  remove path := change path none (·.remove path)
  list path := query path (·.list path)

theorem changesBy_change (path : FilePath) (target : Option FilePath)
    (update : FileTree → Except FileFault FileTree) :
    ChangesBy tree update (change path target update) := by
  intro store
  cases next : store.refusals.head?.join with
  | some fault =>
      exact .inr ⟨{ fault := fault.1, path, target },
        { store with refusals := store.refusals.tail }, rfl,
        fun isZero => absurd isZero fault.2, by simp [runOn, change, next]⟩
  | none =>
      cases updated : update store.tree with
      | ok changed =>
          exact .inl ⟨{ tree := changed, refusals := store.refusals.tail }, rfl,
            by simp [runOn, change, next, FileTree.change, updated]⟩
      | error fault =>
          exact .inr ⟨{ fault, path, target }, { store with refusals := store.refusals.tail },
            rfl, fun isZero => congrArg Except.error isZero,
            by simp [runOn, change, next, FileTree.change, updated]⟩

instance : TreeStore UnreliableTree where
  treeOf := tree
  runOn_kind _ _ := rfl
  changesBy_write path bytes := changesBy_change path none (·.write path bytes)
  changesBy_makeDirectory path := changesBy_change path none (·.makeDirectory path)
  changesBy_rename source target := changesBy_change source (some target) (·.rename source target)
  changesBy_remove path := changesBy_change path none (·.remove path)

/-- An empty working directory where the third change is refused, and the fourth as well if
nothing can be removed either. -/
def fullDisk (removes : Bool) : UnreliableTree where
  tree := .empty ["work"]
  refusals := [none, none, some ⟨.other 28 "No space left on device", by decide⟩,
    if removes then none else some ⟨.other 1 "Operation not permitted", by decide⟩]

end UnreliableTree

namespace TreeStore

open UnreliableTree

/-- A refusal can be looked for, and what is then checked of it holds. -/
theorem exists_refused {Store : Type} (outcome : Except FileStore.TextError Unit × Store)
    (holds : FileError → Store → Bool)
    (checked : (match outcome with
      | (.error (.refused error), after) => holds error after
      | (.error _, _) => false
      | (.ok _, _) => false) = true) :
    ∃ error after, outcome = (.error (.refused error), after) ∧ holds error after = true := by
  split at checked
  · exact ⟨_, _, rfl, checked⟩
  · cases checked
  · cases checked

theorem written_or_refused_of_writeTextAtomic_fullDisk :
    FileStore.temporaryPath? (.ofText "out/Mod.dm") = some (.ofText "out/Mod.dm.tmp") ∧
    (treeOf (fullDisk true)).node? ((treeOf (fullDisk true)).goal (.ofText "out/Mod.dm.tmp")) =
      none ∧
    ∃ error after, runOn (fullDisk true)
        (FileStore.writeTextAtomic (.ofText "out/Mod.dm") [0x78]) =
        (.error (.refused error), after) ∧
      FileTree.Unwritten (.ofText "out/Mod.dm") (.ofText "out/Mod.dm.tmp")
        (treeOf (fullDisk true)) (treeOf after) := by
  have isTemporary : FileStore.temporaryPath? (.ofText "out/Mod.dm") =
      some (.ofText "out/Mod.dm.tmp") := by
    decide +kernel
  have free : (treeOf (fullDisk true)).node?
      ((treeOf (fullDisk true)).goal (.ofText "out/Mod.dm.tmp")) = none := by
    decide +kernel
  obtain ⟨error, after, refused, cleared⟩ := exists_refused
    (runOn (fullDisk true) (FileStore.writeTextAtomic (.ofText "out/Mod.dm") [0x78]))
    (fun _ after => (after.tree.file? ["work", "out", "Mod.dm.tmp"]).isNone) (by decide +kernel)
  refine ⟨isTemporary, free, error, after, refused, ?_⟩
  rcases written_or_refused_of_writeTextAtomic [0x78] isTemporary free with
    ⟨_, _, -, ran, -⟩ |
      ⟨_, _, ran, -, unwritten | ⟨-, bytes, between, -, unwritten, writes⟩⟩ | ⟨_, _, _, -, ran, -⟩
  · cases refused.symm.trans ran
  · cases refused.symm.trans ran
    exact unwritten
  · cases refused.symm.trans ran
    have isFile := (FileTree.saved_of_write writes).1.saved
    rw [unwritten.grownAlong.goal] at isFile
    have isNothing : (treeOf after).file? ["work", "out", "Mod.dm.tmp"] = none :=
      Option.isNone_iff_eq_none.1 cleared
    have goal : (treeOf (fullDisk true)).goal (.ofText "out/Mod.dm.tmp") =
        ["work", "out", "Mod.dm.tmp"] := by
      decide +kernel
    rw [goal, isNothing] at isFile
    cases isFile
  · cases refused.symm.trans ran

example :
    (runOn (FileTree.empty ["work"])
      (FileStore.writeTextAtomic (.ofText "a/b/Mod.dm") [0xe9, 0xa])).2.files =
      [(["work", "a", "b", "Mod.dm"], [0xc3, 0xa9, 0xa])] := by
  decide +kernel

/-- What is under the temporary name of a path in a tree, if the path has one. -/
def underTemporary? (tree : FileTree) (path : FilePath) : Option (Option FileNode) :=
  (FileStore.temporaryPath? path).map fun temporary => tree.node? (tree.goal temporary)

/-- A text with a surrogate leaves an empty file under the temporary name. A path may be refused
without the file system, a refused path may have become a directory, and what was written may be
left under the temporary name. In all four cases nothing was there before. -/
theorem exists_refused_leaving_more :
    (∃ after, underTemporary? (.empty ["work"]) (.ofText "out.txt") = some none ∧
      runOn (FileTree.empty ["work"]) (FileStore.writeTextAtomic (.ofText "out.txt") [0xd800]) =
        (.error (.unencodable ⟨[0xd800], 0⟩), after) ∧
      underTemporary? after (.ofText "out.txt") = some (some (.file []))) ∧
    (∃ error after, underTemporary? (.empty ["work"])
        (.ofText (.ofList ['a', Char.ofNat 0, 'b'])) = some none ∧
      runOn (FileTree.empty ["work"])
        (FileStore.writeTextAtomic (.ofText (.ofList ['a', Char.ofNat 0, 'b'])) [0x78]) =
        (.error (.refused error), after) ∧
      error.fault = .zeroCharacter) ∧
    (∃ error after, underTemporary? (.empty ["work"]) (.ofText "f/../f") = some none ∧
      runOn (FileTree.empty ["work"])
        (FileStore.writeTextAtomic (.ofText "f/../f") [0x78]) =
        (.error (.refused error), after) ∧
      (FileTree.empty ["work"]).goal (.ofText "f/../f") = ["work", "f"] ∧
      (FileTree.empty ["work"]).node? ["work", "f"] = none ∧
      after.node? ["work", "f"] = some .directory) ∧
    ∃ error after, underTemporary? (fullDisk false).tree (.ofText "out/Mod.dm") = some none ∧
      runOn (fullDisk false)
        (FileStore.writeTextAtomic (.ofText "out/Mod.dm") [0x78]) =
        (.error (.refused error), after) ∧
      underTemporary? after.tree (.ofText "out/Mod.dm") = some (some (.file [0x78])) := by
  refine ⟨⟨_, by decide +kernel, Prod.ext (by decide +kernel) rfl, by decide +kernel⟩, ?_, ?_, ?_⟩
  · obtain ⟨error, after, refused, isZero⟩ := exists_refused
      (runOn (FileTree.empty ["work"])
        (FileStore.writeTextAtomic (.ofText (.ofList ['a', Char.ofNat 0, 'b'])) [0x78]))
      (fun error _ => error.fault = .zeroCharacter) (by decide +kernel)
    exact ⟨error, after, by decide +kernel, refused, of_decide_eq_true isZero⟩
  · obtain ⟨error, after, refused, isDirectory⟩ := exists_refused
      (runOn (FileTree.empty ["work"]) (FileStore.writeTextAtomic (.ofText "f/../f") [0x78]))
      (fun _ after => after.node? ["work", "f"] = some .directory) (by decide +kernel)
    exact ⟨error, after, by decide +kernel, refused, by decide +kernel, by decide +kernel,
      of_decide_eq_true isDirectory⟩
  · obtain ⟨error, after, refused, isFile⟩ := exists_refused
      (runOn (fullDisk false) (FileStore.writeTextAtomic (.ofText "out/Mod.dm") [0x78]))
      (fun _ after => underTemporary? after.tree (.ofText "out/Mod.dm") =
        some (some (.file [0x78]))) (by decide +kernel)
    exact ⟨error, after, by decide +kernel, refused, of_decide_eq_true isFile⟩

end TreeStore

end ModMerge
