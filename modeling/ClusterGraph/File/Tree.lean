import ClusterGraph.Dict
import ClusterGraph.File.Path

/-!
Files and directories.

A file tree says what stands at each place: a file with its text, or a directory. A place is the path
of names from the root that leads to it without detours; the root is the empty place. Following a path
fails where a name is missing or where a file is used like a directory. A file that was written can be
read back, and all other places are as before.
-/

namespace ClusterGraph

/-- What stands at a place. -/
inductive FileEntry where
  | file (text : String)
  | directory
  deriving DecidableEq, Repr, Inhabited

/-- A tree of files, with the place of the working directory. -/
structure FileTree where
  entries : Dict FileEntry
  workingPlace : String := ""

namespace FileTree

/-- What stands at a place; the root is a directory. -/
def entry? (tree : FileTree) (place : String) : Option FileEntry :=
  if place.isEmpty then some .directory else tree.entries.get? place

/-- The place of the directory around a place. -/
def around (place : String) : String :=
  String.ofList ((place.toList.reverse.dropWhile (· != '/')).drop 1).reverse

/-- The place to which one name leads from another place. -/
def step (place name : String) : String :=
  if name == "." then place
  else if name == ".." then around place
  else place ++ "/" ++ name

/-- The place to which names lead from a place. All places on the way must exist. -/
def follow (tree : FileTree) (place : String) : List String → Except FileError String
  | [] => if (tree.entry? place).isSome then .ok place else .error .notFound
  | name :: rest =>
    match tree.entry? place with
    | none => .error .notFound
    | some (.file _) => .error .notDirectory
    | some .directory => follow tree (step place name) rest

/-- The place at which a path starts. -/
def origin (tree : FileTree) (path : String) : String :=
  if FilePath.isAbsolute path then "" else tree.workingPlace

/-- The place to which a path leads. The empty path leads nowhere. -/
def locate (tree : FileTree) (path : String) : Except FileError String :=
  if path.isEmpty then .error .notFound
  else tree.follow (tree.origin path) (FilePath.steps path)

/-- Whether a path leads to anything. -/
def contains (tree : FileTree) (path : String) : Bool :=
  (tree.locate path).isOk

/-- The text of the file to which a path leads. -/
def read (tree : FileTree) (path : String) : Except FileError String := do
  match tree.entry? (← tree.locate path) with
  | some (.file text) => .ok text
  | some .directory => .error .isDirectory
  | none => .error .notFound

/-- The tree with an entry at a place. -/
def put (tree : FileTree) (place : String) (entry : FileEntry) : FileTree :=
  { tree with entries := tree.entries.insert place entry }

/-- The tree with a file at a place, which must not be that of a directory. -/
def putFile (tree : FileTree) (place text : String) : Except FileError FileTree :=
  match tree.entry? place with
  | some .directory => .error .isDirectory
  | _ => .ok (tree.put place (.file text))

/-- Writes a file. The directory around it must exist, and a slash at the end of the path is refused. -/
def write (tree : FileTree) (path text : String) : Except FileError FileTree := do
  if path.isEmpty then throw .notFound
  match (FilePath.names path).reverse with
  | [] => throw .isDirectory
  | name :: before =>
    let directory ← tree.follow (tree.origin path) before.reverse
    match tree.entry? directory with
    | some .directory =>
      if Text.endsWith "/" path then throw .isDirectory
      tree.putFile (step directory name) text
    | _ => throw .notDirectory

/-- Makes the directories that are missing on the way along names. -/
def makeDirectories (tree : FileTree) (place : String) : List String → Except FileError FileTree
  | [] => .ok tree
  | name :: rest =>
    let next := step place name
    match tree.entry? next with
    | some .directory => makeDirectories tree next rest
    | some (.file _) => .error (if rest.isEmpty then .alreadyExists else .notDirectory)
    | none => makeDirectories (tree.put next .directory) next rest

/-- Makes sure that a path leads to something, by making directories where it does not. -/
def ensure (tree : FileTree) (path : String) : Except FileError FileTree :=
  if tree.contains path then .ok tree
  else tree.makeDirectories (tree.origin path) (FilePath.steps path)

/-- Writes a file and makes the directories around it that are missing. -/
def writeWithin (tree : FileTree) (path text : String) : Except FileError FileTree := do
  let tree ← match FilePath.parent? path with
    | some directory => tree.ensure directory
    | none => pure tree
  tree.write path text

end FileTree

end ClusterGraph
