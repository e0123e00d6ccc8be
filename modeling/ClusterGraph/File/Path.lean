import ClusterGraph.Text.Pieces

/-!
Paths of files, and what can be wrong where they lead.

A path is a text of names between slashes. It is taken as it is given, so that it can be shown again;
only when it is used is it looked at name by name. A file may not be there, or be something else than a
file, or its text may not be what is due.
-/

namespace ClusterGraph

/-- Why a file or a directory could not be used. -/
inductive FileError where
  | notFound
  | isDirectory
  | notDirectory
  | alreadyExists
  deriving DecidableEq, Repr, Inhabited

namespace FileError

/-- The wording of the file system. -/
def message : FileError → String
  | notFound => "No such file or directory (os error 2)"
  | isDirectory => "Is a directory (os error 21)"
  | notDirectory => "Not a directory (os error 20)"
  | alreadyExists => "File exists (os error 17)"

end FileError

/-- The wording for a text that is no YAML document of the form that is due. -/
def yamlFault : String := "<yaml>"

namespace FilePath

/-- Whether a path starts at the root. -/
def isAbsolute (path : String) : Bool :=
  Text.startsWith "/" path

/-- The path of a name in a directory; an absolute name stands for itself. -/
def join (directory name : String) : String :=
  if isAbsolute name then name
  else if directory.isEmpty || Text.endsWith "/" directory then directory ++ name
  else directory ++ "/" ++ name

/-- Drops names from the end, the first one apart, that lead nowhere. -/
def trimEnd (names : List String) : List String :=
  match names with
  | [] => []
  | first :: rest =>
    first :: (rest.reverse.dropWhile fun name => name.isEmpty || name == ".").reverse

/-- The path without its last name, if it has one. -/
def parent? (path : String) : Option String :=
  match (trimEnd (Text.piecesAt '/' path)).reverse with
  | [] => none
  | [name] => if name.isEmpty then none else some ""
  | _ :: before =>
    let directory := "/".intercalate (trimEnd before.reverse)
    some (if directory.isEmpty && isAbsolute path then "/" else directory)

/-- The names in a path. -/
def names (path : String) : List String :=
  (Text.piecesAt '/' path).filter (!·.isEmpty)

/-- The names to follow from the root or from the working directory. A slash at the end asks for a
directory, as a final point does. -/
def steps (path : String) : List String :=
  if Text.endsWith "/" path then names path ++ ["."] else names path

end FilePath

end ClusterGraph
