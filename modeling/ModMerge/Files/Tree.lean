import ModMerge.Files.Store

/-!
# File trees

A `FileTree` is a store of files that is a value. It knows each file and directory by the
names that lead to it from the root directory. A path is followed name by name: each name
on the way has to lead to a directory, `..` goes back to the directory before, and a name
must not be too long.
-/

namespace ModMerge

/-- What can stand in a file tree. -/
inductive FileNode where
  | file (bytes : List UInt8)
  | directory
deriving DecidableEq, Repr

/-- What kind of thing a node is. -/
def FileNode.kind : FileNode → FileKind
  | file _ => .file
  | directory => .directory

/-- The names that lead from the root directory to a file or a directory. -/
abbrev Place := List String

/-- Files and directories. The root directory is always there and is not listed. -/
structure FileTree where
  /-- Where paths without a root begin. -/
  workingDirectory : Place
  nodes : List (Place × FileNode)

namespace FileTree

/-- The most bytes that a name may have. -/
def nameLimit : Nat := 255

/-- The number of bytes that no path may reach. -/
def pathLimit : Nat := 4096

/-- What is at a place. -/
def node? (tree : FileTree) (place : Place) : Option FileNode :=
  if place.isEmpty then some .directory else tree.nodes.lookup place

/-- The tree with nothing at a place. -/
def without (tree : FileTree) (place : Place) : FileTree :=
  { tree with nodes := tree.nodes.filter (·.1 != place) }

/-- The tree with a node put at a place. -/
def put (tree : FileTree) (place : Place) (node : FileNode) : FileTree :=
  { tree with nodes := (place, node) :: (tree.without place).nodes }

/-- The tree with a directory at each of the places that lead to a place. -/
def withParents (tree : FileTree) (place : Place) : FileTree :=
  (List.range place.length).foldl (fun tree depth =>
    let parent := place.take depth
    if (tree.node? parent).isSome then tree else tree.put parent .directory) tree

/-- A tree with nothing in its working directory. -/
def empty (workingDirectory : Place) : FileTree :=
  let tree := withParents { workingDirectory, nodes := [] } workingDirectory
  tree.put workingDirectory .directory

/-- The place that names lead to from a place. The last name may lead to nothing. -/
def follow (tree : FileTree) (place : Place) : List String → Except FileFault Place
  | [] => .ok place
  | name :: rest =>
      match tree.node? place with
      | none => .error .notFound
      | some (.file _) => .error .notDirectory
      | some .directory =>
          if name.utf8ByteSize > nameLimit then .error .nameTooLong
          else follow tree (if name = ".." then place.dropLast else place ++ [name]) rest

/-- The place that a path leads to. -/
def place (tree : FileTree) (path : FilePath) : Except FileFault Place :=
  if path.text.toList.contains (Char.ofNat 0) then .error .zeroCharacter
  else if path.text.utf8ByteSize ≥ pathLimit then .error .nameTooLong
  else
    match path.root with
    | .relative => tree.follow tree.workingDirectory path.names
    | _ => tree.follow [] path.names

/-- The node that a path leads to. -/
def find (tree : FileTree) (path : FilePath) : Except FileFault FileNode := do
  match tree.node? (← tree.place path) with
  | some node => return node
  | none => throw .notFound

/-- The bytes of a file. -/
def read (tree : FileTree) (path : FilePath) : Except FileFault (List UInt8) := do
  match ← tree.find path with
  | .file bytes => return bytes
  | .directory => throw .isDirectory

/-- The tree with other bytes in a file. -/
def write (tree : FileTree) (path : FilePath) (bytes : List UInt8) :
    Except FileFault FileTree := do
  let place ← tree.place path
  match tree.node? place with
  | some .directory => throw .isDirectory
  | _ => return tree.put place (.file bytes)

/-- The tree with another directory. -/
def makeDirectory (tree : FileTree) (path : FilePath) : Except FileFault FileTree := do
  let place ← tree.place path
  match tree.node? place with
  | some _ => throw .exists
  | none => return tree.put place .directory

/-- The tree with a file put under another path. Directories stay where they are. -/
def rename (tree : FileTree) (source target : FilePath) : Except FileFault FileTree := do
  let sourcePlace ← tree.place source
  let targetPlace ← tree.place target
  match tree.node? sourcePlace, tree.node? targetPlace with
  | none, _ => throw .notFound
  | some .directory, _ => throw .isDirectory
  | _, some .directory => throw .isDirectory
  | some node, _ => return (tree.without sourcePlace).put targetPlace node

/-- The tree without a file. -/
def remove (tree : FileTree) (path : FilePath) : Except FileFault FileTree := do
  let place ← tree.place path
  match tree.node? place with
  | none => throw .notFound
  | some .directory => throw .isDirectory
  | some (.file _) => return tree.without place

/-- The names in a directory. -/
def list (tree : FileTree) (path : FilePath) : Except FileFault (List String) := do
  let place ← tree.place path
  match tree.node? place with
  | none => throw .notFound
  | some (.file _) => throw .notDirectory
  | some .directory =>
      return tree.nodes.filterMap fun (nested, _) =>
        if nested.dropLast = place then nested.getLast? else none

/-- The regular files of a tree, with their bytes. -/
def files (tree : FileTree) : List (Place × List UInt8) :=
  tree.nodes.filterMap fun (place, node) =>
    match node with
    | .file bytes => some (place, bytes)
    | .directory => none

/-- Look something up without changing the tree. -/
def query {α : Type} (path : FilePath) (look : FileTree → Except FileFault α) :
    ExceptT FileError (StateM FileTree) α := fun tree =>
  ((look tree).mapError fun fault => { fault, path }, tree)

/-- Change the tree; a refused change leaves it as it is. -/
def change (path : FilePath) (target : Option FilePath)
    (update : FileTree → Except FileFault FileTree) :
    ExceptT FileError (StateM FileTree) Unit := fun tree =>
  match update tree with
  | .ok changed => (.ok (), changed)
  | .error fault => (.error { fault, path, target }, tree)

instance : FileStore (StateM FileTree) where
  kind path := query path fun tree => (tree.find path).map FileNode.kind
  read path := query path (·.read path)
  write path bytes := change path none (·.write path bytes)
  makeDirectory path := change path none (·.makeDirectory path)
  rename source target := change source (some target) (·.rename source target)
  remove path := change path none (·.remove path)
  list path := query path (·.list path)

end FileTree
end ModMerge
