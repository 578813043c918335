import ModMerge.Text.Quoted

/-!
# File paths

A path is a root and the names that lead on from it. Repeated separators and the name `.`
mean nothing and are left out when a path is read; the name `..` stays, because what it
leads to depends on the files. The path without root and names is written `.`.
-/

namespace ModMerge

/-- Where a path begins. -/
inductive PathRoot where
  /-- The working directory. -/
  | relative
  /-- The root directory. -/
  | absolute
  /-- The root directory, written with two separators. -/
  | doubled
deriving DecidableEq, Repr

/-- How a root is written. -/
def PathRoot.text : PathRoot → String
  | relative => ""
  | absolute => "/"
  | doubled => "//"

/-- Whether a text can be one of the names of a path. -/
def isPathName (text : String) : Bool :=
  text != "" && text != "." && !text.toList.contains '/'

/-- A path to a file or a directory. -/
structure FilePath where
  root : PathRoot
  /-- The names that lead on from the root. -/
  names : List String
  isPathName_of_mem : ∀ name ∈ names, isPathName name = true
deriving DecidableEq, Repr

namespace FilePath

/-- The root of a written path. Exactly two separators are kept apart from one; more than
two mean one. -/
def rootOf : List Char → PathRoot
  | ['/', '/'] => .doubled
  | '/' :: '/' :: next :: _ => if next = '/' then .absolute else .doubled
  | '/' :: _ => .absolute
  | _ => .relative

/-- The path that is written as a text. -/
def ofText (text : String) : FilePath where
  root := rootOf text.toList
  names := ((text.toList.splitOn '/').map String.ofList).filter isPathName
  isPathName_of_mem := by simp

/-- A path as text. -/
def text (path : FilePath) : String :=
  match path.root, path.names with
  | .relative, [] => "."
  | root, names => root.text ++ "/".intercalate names

/-- The last name of a path; a path without names has none. -/
def name? (path : FilePath) : Option String :=
  path.names.getLast?

/-- The last name of a path, or nothing. -/
def name (path : FilePath) : String :=
  path.name?.getD ""

/-- A file name in two parts: its stem, and its suffix from the last dot on. A dot that
begins or ends the name starts no suffix. -/
def splitName (fileName : List Char) : List Char × List Char :=
  let ending := (fileName.reverse.takeWhile (· != '.')).reverse
  if ending.isEmpty || fileName.length ≤ ending.length + 1 then (fileName, [])
  else fileName.splitAt (fileName.length - (ending.length + 1))

/-- The last name of a path without its suffix. -/
def stem (path : FilePath) : String :=
  String.ofList (splitName path.name.toList).1

/-- The suffix of the last name of a path, with its dot. -/
def suffix (path : FilePath) : String :=
  String.ofList (splitName path.name.toList).2

/-- The path without its last name; a path without names is its own parent. -/
def parent (path : FilePath) : FilePath where
  root := path.root
  names := path.names.dropLast
  isPathName_of_mem name member :=
    path.isPathName_of_mem name (List.dropLast_subset _ member)

/-- The path to what a second path leads to from the first one; a second path with a root
does not depend on the first one. -/
def join (first second : FilePath) : FilePath :=
  if second.root = .relative then
    { root := first.root
      names := first.names ++ second.names
      isPathName_of_mem := by
        intro name member
        rcases List.mem_append.1 member with inFirst | inSecond
        · exact first.isPathName_of_mem name inFirst
        · exact second.isPathName_of_mem name inSecond }
  else second

instance : Div FilePath where
  div := join

/-- The path with a text appended to its last name. -/
def extendName? (path : FilePath) (ending : String) : Option FilePath :=
  path.name?.map fun name => path.parent.join (ofText (name ++ ending))

/-- A path that begins with the name `~` leads on from the home directory, one that begins
with `~` and the name of a user from that user's home. A user without a known home is the
error. -/
def expandHome (home : FilePath) (homes : List (String × FilePath)) (path : FilePath) :
    Except String FilePath :=
  match path.root, path.names with
  | .relative, first :: _ =>
      match first.toList with
      | '~' :: user =>
          let onward : FilePath :=
            { root := .relative
              names := path.names.tail
              isPathName_of_mem := fun name member =>
                path.isPathName_of_mem name (List.mem_of_mem_tail member) }
          if user.isEmpty then .ok (home / onward)
          else
            match homes.lookup (String.ofList user) with
            | some directory => .ok (directory / onward)
            | none => .error (String.ofList user)
      | _ => .ok path
  | _, _ => .ok path

/-- Every path but one without names is longer than its parent. -/
theorem length_parent_lt (path : FilePath) (hasName : path.names ≠ []) :
    path.parent.names.length < path.names.length := by
  have positive := List.length_pos_iff.2 hasName
  simp only [parent, List.length_dropLast]
  omega

end FilePath
end ModMerge
