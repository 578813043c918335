import ModMerge.Files.Path
import ModMerge.Text.Numeral
import ModMerge.Text.Utf8

/-!
# Stores of files

A `FileStore` is whatever keeps files: a real file system or a value. On its operations
this module builds making a directory with all its parents, and `writeAtomic`, which lets
a file appear under its name only once it is complete. `writeTextAtomic` does this for a text that
is given by code points, which may turn out to have no encoding once its file is open.
-/

namespace ModMerge

/-- Why a file operation was refused. -/
inductive FileFault where
  | notFound
  | exists
  | notDirectory
  | isDirectory
  | nameTooLong
  /-- The path contains the character zero, which no name can hold. -/
  | zeroCharacter
  | other (code : Nat) (text : String)
deriving DecidableEq, Repr

namespace FileFault

/-- The number that operating systems give to a fault. -/
def code : FileFault → Nat
  | notFound => 2
  | .exists => 17
  | notDirectory => 20
  | isDirectory => 21
  | zeroCharacter => 22
  | nameTooLong => 36
  | other code _ => code

/-- The wording of a fault. -/
def text : FileFault → String
  | notFound => "No such file or directory"
  | .exists => "File exists"
  | notDirectory => "Not a directory"
  | isDirectory => "Is a directory"
  | nameTooLong => "File name too long"
  | zeroCharacter => "embedded null byte"
  | other _ text => text

/-- Whether a fault says that there is nothing under a path. -/
def meansAbsent : FileFault → Bool
  | notFound | notDirectory | zeroCharacter => true
  | _ => false

end FileFault

/-- A refused file operation. -/
structure FileError where
  fault : FileFault
  path : FilePath
  /-- The second path of an operation that has two. -/
  target : Option FilePath := none
deriving DecidableEq

namespace FileError

/-- The wording of a refusal by the file system. -/
def message (error : FileError) : String :=
  match error.fault with
  | .zeroCharacter => error.fault.text
  | fault =>
    "[Errno " ++ Text.decimalString fault.code ++ "] " ++ fault.text ++ ": " ++
      Text.quotedString error.path.text ++
      match error.target with
      | some target => " -> " ++ Text.quotedString target.text
      | none => ""

end FileError

/-- What can be under a path. -/
inductive FileKind where
  | file
  | directory
deriving DecidableEq, Repr

/-- A place that keeps files. Each operation is done as a whole or refused. -/
class FileStore (m : Type → Type) where
  /-- What is under a path. -/
  kind : FilePath → ExceptT FileError m FileKind
  /-- The bytes of a file. -/
  read : FilePath → ExceptT FileError m (List UInt8)
  /-- Give a file new bytes; it need not exist yet. -/
  write : FilePath → List UInt8 → ExceptT FileError m Unit
  /-- Make a directory in one that exists. -/
  makeDirectory : FilePath → ExceptT FileError m Unit
  /-- Put a file under another path, in place of the file that may be there. -/
  rename : FilePath → FilePath → ExceptT FileError m Unit
  /-- Remove a file. -/
  remove : FilePath → ExceptT FileError m Unit
  /-- The names in a directory, in no particular order. -/
  list : FilePath → ExceptT FileError m (List String)

namespace FileStore

variable {m : Type → Type} [Monad m] [FileStore m]

/-- What is under a path, if anything is. -/
def kind? (path : FilePath) : ExceptT FileError m (Option FileKind) :=
  tryCatch (some <$> kind path) fun error =>
    if error.fault.meansAbsent then return none else throw error

/-- Whether there is something under a path. -/
def isPresent (path : FilePath) : ExceptT FileError m Bool := do
  return (← kind? path).isSome

/-- Whether there is a directory under a path. -/
def isDirectory (path : FilePath) : ExceptT FileError m Bool := do
  return (← kind? path) = some .directory

/-- Make a directory in one that exists, unless it is there already. -/
def ensureDirectory (path : FilePath) : ExceptT FileError m Unit :=
  tryCatch (makeDirectory path) fun error => do
    if error.fault = .notFound then throw error
    unless ← isDirectory path do throw error

/-- Make a directory, and those that it lies in, unless they are there already. -/
def ensureDirectories (path : FilePath) : ExceptT FileError m Unit :=
  tryCatch (ensureDirectory path) fun error =>
    if nested : error.fault = .notFound ∧ path.names ≠ [] then do
      have := path.length_parent_lt nested.2
      ensureDirectories path.parent
      ensureDirectory path
    else throw error
termination_by path.names.length

/-- Why a file could not be written. -/
inductive WriteError where
  /-- The path has no last name that the file could have. -/
  | noName (path : FilePath)
  | refused (error : FileError)
deriving DecidableEq

/-- The wording for a file that could not be written. -/
def WriteError.message : WriteError → String
  | noName path => "PosixPath(" ++ Text.quotedString path.text ++ ") has an empty name"
  | refused error => error.message

/-- The path under which a file is written before it gets its name. -/
def temporaryPath? (path : FilePath) : Option FilePath :=
  path.extendName? ".tmp"

/-- Write a file under a temporary name and then rename it. -/
def writeAndRename (temporary path : FilePath) (bytes : List UInt8) :
    ExceptT FileError m Unit :=
  tryCatch (do write temporary bytes; rename temporary path) fun error => do
    if ← isPresent temporary then remove temporary
    throw error

/-- Give a file new bytes, so that at no time a part of them is under its path. The
directories that it lies in are made. -/
def writeAtomic (path : FilePath) (bytes : List UInt8) : ExceptT WriteError m Unit := do
  ExceptT.adapt .refused (ensureDirectories path.parent)
  match temporaryPath? path with
  | none => throw (.noName path)
  | some temporary => ExceptT.adapt .refused (writeAndRename temporary path bytes)

/-- Why a text could not be written. -/
inductive TextError where
  | noName (path : FilePath)
  | refused (error : FileError)
  | unencodable (error : Text.EncodingError)
deriving DecidableEq

/-- What bytes that could not be written mean for a text. -/
def WriteError.toTextError : WriteError → TextError
  | noName path => .noName path
  | refused error => .refused error

/-- Give a file a new text. It is opened first, and so it is empty if the text has no encoding. -/
def writeText (path : FilePath) (text : List Text.CodePoint) : ExceptT TextError m Unit :=
  match Text.utf8Encoded text with
  | .ok bytes => ExceptT.adapt .refused (write path bytes)
  | .error error => do
      ExceptT.adapt .refused (write path [])
      throw (.unencodable error)

/-- Write a text under a temporary name and then rename it. What is under the temporary name is
taken away if the file system refuses something, and only then. -/
def writeTextAndRename (temporary path : FilePath) (text : List Text.CodePoint) :
    ExceptT TextError m Unit :=
  tryCatch
    (do writeText temporary text; ExceptT.adapt .refused (rename temporary path)) fun error => do
      match error with
      | .refused refusal => ExceptT.adapt .refused do
          if ← isPresent temporary then remove temporary
          throw refusal
      | _ => throw error

/-- Give a file a new text, so that at no time a part of it is under its path. The directories
that it lies in are made. -/
def writeTextAtomic (path : FilePath) (text : List Text.CodePoint) :
    ExceptT TextError m Unit := do
  ExceptT.adapt .refused (ensureDirectories path.parent)
  match temporaryPath? path with
  | none => throw (.noName path)
  | some temporary => writeTextAndRename temporary path text

end FileStore
end ModMerge
